import FortranBindings.Procedure

/-!
# The declaration section of a generated procedure

The driver declares every parameter with `declare()` and `declare_tmp()` and imports
the names `use()` lists. Fortran resolves a name up to case, so the section compiles
only when the entities it declares resolve apart from each other and from every
imported name: `DeclarationsLegal`, over any resolution `rn`. In terms of the
parameters (`declarationsLegal_iff`): names resolve apart, no temporary resolves to a
name or to another temporary, and nothing declared resolves to an imported name. A
parameter `funloc` beside a callback parameter fails the last: its temporary is the
imported `c_funloc`.
-/

namespace FortranBindings

open FortranType

/-- The entities the declaration section of a procedure declares, read back from the
code: each parameter's `declare()`, then its `declare_tmp()` when it has one. -/
def declaredEntities (ps : List (Kind × FortranType)) : List String :=
  ps.flatMap fun p =>
    ([p.1.cls.declare p.2, p.1.cls.declareTmp p.2].filterMap readDecl).map Prod.fst

/-- The names the `use` statements of a procedure import. -/
def importedNames (ps : List (Kind × FortranType)) : List String :=
  ps.flatMap fun p => (p.1.cls.use p.2).map Prod.snd

/-- The declaration section compiles: the entities it declares resolve apart from each
other and from every imported name. -/
def DeclarationsLegal (rn : String → String) (ps : List (Kind × FortranType)) : Prop :=
  ((declaredEntities ps).map rn).Nodup ∧
    ∀ a ∈ declaredEntities ps, ∀ u ∈ importedNames ps, rn a ≠ rn u

instance (rn : String → String) (ps : List (Kind × FortranType)) :
    Decidable (DeclarationsLegal rn ps) :=
  inferInstanceAs (Decidable (_ ∧ _))

/-- What one parameter declares: its dummy argument, then its temporary if its class
has one. -/
def paramEntities (k : Kind) (t : FortranType) : List String :=
  t.name :: if k.tmpType.isSome then [t.tmpName] else []

lemma entities_eq (k : Kind) {t : FortranType} (ht : WellNamed t) :
    ([k.cls.declare t, k.cls.declareTmp t].filterMap readDecl).map Prod.fst =
      paramEntities k t := by
  simp only [List.filterMap, readDecl_declare k ht, readDecl_declareTmp k ht, paramEntities]
  cases k.tmpType <;> rfl

lemma mem_paramEntities {k : Kind} {t : FortranType} {a : String} :
    a ∈ paramEntities k t ↔ a = t.name ∨ k.tmpType.isSome ∧ a = t.tmpName := by
  unfold paramEntities
  split <;> simp [*]

lemma nodup_map_paramEntities (rn : String → String) (k : Kind) (t : FortranType) :
    ((paramEntities k t).map rn).Nodup ↔ (k.tmpType.isSome → rn t.name ≠ rn t.tmpName) := by
  unfold paramEntities
  split <;> simp [*]

section Legal

variable {ι : Type} (rn : String → String) (ks : ι → Kind) (ds : ι → FortranType)

lemma declaredEntities_eq (hw : ∀ i, WellNamed (ds i)) (o : List ι) :
    declaredEntities (o.map fun i => (ks i, ds i)) =
      o.flatMap fun i => paramEntities (ks i) (ds i) := by
  simp only [declaredEntities, List.flatMap_map, entities_eq _ (hw _)]

lemma importedNames_eq (o : List ι) :
    importedNames (o.map fun i => (ks i, ds i)) =
      o.flatMap fun i => ((ks i).cls.use (ds i)).map Prod.snd := by
  simp only [importedNames, List.flatMap_map]

variable {rn ks ds} {o : List ι}

/-- The declared entities, resolved, are the parameters' blocks one after another. -/
lemma DeclarationsLegal.nodup (hw : ∀ i, WellNamed (ds i))
    (h : DeclarationsLegal rn (o.map fun i => (ks i, ds i))) :
    (o.flatMap fun i => (paramEntities (ks i) (ds i)).map rn).Nodup := by
  simpa only [declaredEntities_eq ks ds hw, List.map_flatMap] using h.1

/-- Entities two distinct parameters declare resolve apart. -/
lemma DeclarationsLegal.apart (hw : ∀ i, WellNamed (ds i))
    (h : DeclarationsLegal rn (o.map fun i => (ks i, ds i))) {i j : ι} (hi : i ∈ o)
    (hj : j ∈ o) (hij : i ≠ j) {a b : String} (ha : a ∈ paramEntities (ks i) (ds i))
    (hb : b ∈ paramEntities (ks j) (ds j)) : rn a ≠ rn b := fun hab =>
  (List.nodup_flatMap.mp (h.nodup hw)).2.forall (fun _ _ h => h.symm) hi hj hij
    (List.mem_map_of_mem rn ha) (hab ▸ List.mem_map_of_mem rn hb)

lemma DeclarationsLegal.name_ne_name (hw : ∀ i, WellNamed (ds i))
    (h : DeclarationsLegal rn (o.map fun i => (ks i, ds i))) {i j : ι} (hi : i ∈ o)
    (hj : j ∈ o) (hij : i ≠ j) : rn (ds i).name ≠ rn (ds j).name :=
  h.apart hw hi hj hij (mem_paramEntities.mpr (.inl rfl)) (mem_paramEntities.mpr (.inl rfl))

lemma DeclarationsLegal.tmpName_ne_name (hw : ∀ i, WellNamed (ds i))
    (h : DeclarationsLegal rn (o.map fun i => (ks i, ds i))) {i j : ι} (hi : i ∈ o)
    (hj : j ∈ o) (hs : (ks i).tmpType.isSome) : rn (ds i).tmpName ≠ rn (ds j).name := by
  rcases eq_or_ne i j with rfl | hij
  · exact Ne.symm (((nodup_map_paramEntities rn _ _).mp
      ((List.nodup_flatMap.mp (h.nodup hw)).1 i hi)) hs)
  · exact h.apart hw hi hj hij (mem_paramEntities.mpr (.inr ⟨hs, rfl⟩))
      (mem_paramEntities.mpr (.inl rfl))

lemma DeclarationsLegal.tmpName_ne_tmpName (hw : ∀ i, WellNamed (ds i))
    (h : DeclarationsLegal rn (o.map fun i => (ks i, ds i))) {i j : ι} (hi : i ∈ o)
    (hj : j ∈ o) (hij : i ≠ j) (hs : (ks i).tmpType.isSome) (hs' : (ks j).tmpType.isSome) :
    rn (ds i).tmpName ≠ rn (ds j).tmpName :=
  h.apart hw hi hj hij (mem_paramEntities.mpr (.inr ⟨hs, rfl⟩))
    (mem_paramEntities.mpr (.inr ⟨hs', rfl⟩))

/-- A declared entity resolving to an imported name is refused. -/
lemma DeclarationsLegal.ne_imported (hw : ∀ i, WellNamed (ds i))
    (h : DeclarationsLegal rn (o.map fun i => (ks i, ds i))) {i j : ι} (hi : i ∈ o)
    (hj : j ∈ o) {a : String} (ha : a ∈ paramEntities (ks i) (ds i))
    {u : String × String} (hu : u ∈ (ks j).cls.use (ds j)) : rn a ≠ rn u.2 :=
  h.2 a (by rw [declaredEntities_eq ks ds hw]; exact List.mem_flatMap.mpr ⟨i, hi, ha⟩) u.2
    (by rw [importedNames_eq]; exact List.mem_flatMap.mpr ⟨j, hj, List.mem_map_of_mem _ hu⟩)

/-- Conversely, the section compiles when each parameter's own entities resolve apart,
two parameters' entities resolve apart, and none resolves to an imported name. -/
lemma declarationsLegal_of_apart (hw : ∀ i, WellNamed (ds i)) (ho : o.Nodup)
    (hself : ∀ i ∈ o, ((paramEntities (ks i) (ds i)).map rn).Nodup)
    (hapart : ∀ i ∈ o, ∀ j ∈ o, i ≠ j → ∀ a ∈ paramEntities (ks i) (ds i),
      ∀ b ∈ paramEntities (ks j) (ds j), rn a ≠ rn b)
    (himp : ∀ i ∈ o, ∀ j ∈ o, ∀ a ∈ paramEntities (ks i) (ds i),
      ∀ u ∈ (ks j).cls.use (ds j), rn a ≠ rn u.2) :
    DeclarationsLegal rn (o.map fun i => (ks i, ds i)) := by
  refine ⟨?_, fun a ha n hn => ?_⟩
  · rw [declaredEntities_eq ks ds hw, List.map_flatMap]
    refine List.nodup_flatMap.mpr ⟨hself, ho.pairwise_of_forall_ne fun i hi j hj hij x hx hx' => ?_⟩
    obtain ⟨a, ha, rfl⟩ := List.mem_map.mp hx
    obtain ⟨b, hb, hab⟩ := List.mem_map.mp hx'
    exact hapart i hi j hj hij a ha b hb hab.symm
  · rw [declaredEntities_eq ks ds hw] at ha
    rw [importedNames_eq] at hn
    obtain ⟨i, hi, ha⟩ := List.mem_flatMap.mp ha
    obtain ⟨j, hj, hn⟩ := List.mem_flatMap.mp hn
    obtain ⟨u, hu, rfl⟩ := List.mem_map.mp hn
    exact himp i hi j hj a ha u hu

end Legal

/-- The declaration section of a procedure whose parameters appear once each compiles
exactly when the parameters' names resolve apart, no temporary resolves to a name or
to another parameter's temporary, and nothing a parameter declares resolves to a name
a `use` statement imports. -/
theorem declarationsLegal_iff {ι : Type} (rn : String → String) (ks : ι → Kind)
    (ds : ι → FortranType) (hw : ∀ i, WellNamed (ds i)) {o : List ι} (ho : o.Nodup) :
    DeclarationsLegal rn (o.map fun i => (ks i, ds i)) ↔
      (∀ i ∈ o, ∀ j ∈ o, i ≠ j → rn (ds i).name ≠ rn (ds j).name) ∧
      (∀ i ∈ o, ∀ j ∈ o, (ks i).tmpType.isSome → rn (ds i).tmpName ≠ rn (ds j).name) ∧
      (∀ i ∈ o, ∀ j ∈ o, i ≠ j → (ks i).tmpType.isSome → (ks j).tmpType.isSome →
        rn (ds i).tmpName ≠ rn (ds j).tmpName) ∧
      (∀ i ∈ o, ∀ j ∈ o, ∀ u ∈ (ks j).cls.use (ds j), rn (ds i).name ≠ rn u.2 ∧
        ((ks i).tmpType.isSome → rn (ds i).tmpName ≠ rn u.2)) := by
  constructor
  · intro h
    exact ⟨fun i hi j hj => h.name_ne_name hw hi hj, fun i hi j hj => h.tmpName_ne_name hw hi hj,
      fun i hi j hj => h.tmpName_ne_tmpName hw hi hj, fun i hi j hj u hu =>
        ⟨h.ne_imported hw hi hj (mem_paramEntities.mpr (.inl rfl)) hu,
          fun hs => h.ne_imported hw hi hj (mem_paramEntities.mpr (.inr ⟨hs, rfl⟩)) hu⟩⟩
  rintro ⟨hnames, htn, htt, himp⟩
  refine declarationsLegal_of_apart hw ho (fun i hi => (nodup_map_paramEntities rn _ _).mpr
    fun hs => (htn i hi i hi hs).symm) (fun i hi j hj hij a ha b hb => ?_)
    fun i hi j hj a ha u hu => ?_
  · rcases mem_paramEntities.mp ha with rfl | ⟨hs, rfl⟩ <;>
      rcases mem_paramEntities.mp hb with rfl | ⟨hs', rfl⟩
    · exact hnames i hi j hj hij
    · exact (htn j hj i hi hs').symm
    · exact htn i hi j hj hs
    · exact htt i hi j hj hij hs hs'
  · rcases mem_paramEntities.mp ha with rfl | ⟨hs, rfl⟩
    · exact (himp i hi j hj u hu).1
    · exact (himp i hi j hj u hu).2 hs

/-- The parameters of `MPI_Comm_create_keyval`, with their classes. -/
def keyvalParams : Fin 4 → Kind × Params
  | 0 => (.commCopyAttrFnType, { name := "comm_copy_attr_fn", fnName := "comm_create_keyval" })
  | 1 => (.commDeleteAttrFnType,
      { name := "comm_delete_attr_fn", fnName := "comm_create_keyval" })
  | 2 => (.intOutType, { name := "comm_keyval", fnName := "comm_create_keyval" })
  | 3 => (.aint, { name := "extra_state", fnName := "comm_create_keyval" })

theorem keyvalParams_declarationsLegal :
    DeclarationsLegal caseFold
      ([0, 1, 2, 3].map fun i => ((keyvalParams i).1, init (keyvalParams i).2)) :=
  (declarationsLegal_iff caseFold (fun i => (keyvalParams i).1) (fun i => init (keyvalParams i).2)
    (by decide) (by decide)).mpr ⟨by decide, by decide, by decide, by decide⟩

/-- A parameter `FUNLOC` beside a callback: its temporary is the imported `c_funloc`. -/
example : ¬ DeclarationsLegal caseFold [(Kind.logicalType, init { name := "FUNLOC", fnName := "f" }),
    (Kind.commCopyAttrFnType, init { name := "copy_fn", fnName := "f" })] := by
  decide

end FortranBindings
