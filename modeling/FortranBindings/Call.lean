import FortranBindings.Declarations

/-!
# Typing the call

The generated procedure calls the shim with `argument()` of every parameter, and the
shim's interface declares the matching dummy with `declare_cbinding_fortran()`. An
argument is typed in the scope of the whole procedure: its variable resolves to the first
parameter that declares it. In a procedure whose declarations compile, that is the
parameter's own declaration, so the call agrees with the interface exactly when no
parameter is of a class whose argument its dummy refuses.
-/

namespace FortranBindings

open FortranType

/-- What one parameter's declarations say of a name, up to resolution. -/
def paramScope (rn : String → String) (k : Kind) (t : FortranType) (n : String) :
    Option (FType × Bool) :=
  [k.cls.declare t, k.cls.declareTmp t].findSome? fun d =>
    (readDecl d).bind fun e => if rn e.1 = rn n then some e.2 else none

/-- What the declaration section of a procedure says of a name: the first parameter
that declares an entity the name resolves to. -/
def procScope (rn : String → String) (ps : List (Kind × FortranType)) (n : String) :
    Option (FType × Bool) :=
  ps.findSome? fun p => paramScope rn p.1 p.2 n

/-- The call passes every parameter an argument, typed in the procedure's scope, that
its shim-interface dummy accepts. -/
def CallAgrees (rn : String → String) (ps : List (Kind × FortranType)) : Prop :=
  ∀ p ∈ ps, ∃ a d, argType (procScope rn ps) (p.1.cls.argument p.2) = some a ∧
    (readDecl (p.1.cls.declareCbindingFortran p.2)).map (·.2) = some d ∧ Agrees a d = true

/-- The first hit of a search in which only `x` can hit is `x`'s. -/
lemma findSome?_eq_of_unique {α β : Type} {f : α → Option β} {l : List α} {x : α}
    (hx : x ∈ l) (h : ∀ y ∈ l, y ≠ x → f y = none) : l.findSome? f = f x := by
  induction l with
  | nil => cases hx
  | cons y l ih =>
    rw [List.findSome?_cons]
    by_cases hy : y = x
    · subst hy
      cases hfy : f y with
      | none =>
        refine List.findSome?_eq_none_iff.mpr fun z hz => ?_
        by_cases hzy : z = y
        · rw [hzy, hfy]
        · exact h z (.tail y hz) hzy
      | some b => rfl
    · rw [h y (List.mem_cons_self y l) hy]
      exact ih ((List.mem_cons.mp hx).resolve_left (Ne.symm hy)) fun z hz => h z (.tail y hz)

section Scope

variable {rn : String → String} {k : Kind} {t : FortranType}

lemma paramScope_eq (ht : WellNamed t) (n : String) :
    paramScope rn k t n = if rn t.name = rn n then some (k.declType t.genF90 t.bigcount)
      else (k.tmpType.bind fun d => if rn t.tmpName = rn n then some d else none) := by
  simp only [paramScope, List.findSome?, readDecl_declare k ht, readDecl_declareTmp k ht,
    Option.some_bind]
  cases k.tmpType <;> split_ifs <;> simp [*]

lemma paramScope_eq_none (ht : WellNamed t) {n : String} (h : rn t.name ≠ rn n)
    (h' : k.tmpType.isSome → rn t.tmpName ≠ rn n) : paramScope rn k t n = none := by
  rw [paramScope_eq ht, if_neg h]
  cases hk : k.tmpType with
  | none => rfl
  | some d => exact if_neg (h' (by rw [hk]; rfl))

end Scope

section Procedure

variable {ι : Type} {rn : String → String} {ks : ι → Kind} {ds : ι → FortranType} {o : List ι}

/-- In a procedure whose declarations compile, a dummy argument has the type its own
declaration gives it. -/
lemma DeclarationsLegal.procScope_name (hw : ∀ i, WellNamed (ds i))
    (h : DeclarationsLegal rn (o.map fun i => (ks i, ds i))) {i : ι} (hi : i ∈ o) :
    procScope rn (o.map fun i => (ks i, ds i)) (ds i).name =
      some ((ks i).declType (ds i).genF90 (ds i).bigcount) := by
  rw [procScope, List.findSome?_map]
  refine (findSome?_eq_of_unique hi fun j hj hji => paramScope_eq_none (hw j)
    (h.name_ne_name hw hj hi hji) fun hs => h.tmpName_ne_name hw hj hi hs).trans ?_
  exact (paramScope_eq (hw i) _).trans (if_pos rfl)

/-- In a procedure whose declarations compile, a temporary has the type its own
declaration gives it. -/
lemma DeclarationsLegal.procScope_tmpName (hw : ∀ i, WellNamed (ds i))
    (h : DeclarationsLegal rn (o.map fun i => (ks i, ds i))) {i : ι} (hi : i ∈ o)
    (hs : (ks i).tmpType.isSome) :
    procScope rn (o.map fun i => (ks i, ds i)) (ds i).tmpName = (ks i).tmpType := by
  rw [procScope, List.findSome?_map]
  refine (findSome?_eq_of_unique hi fun j hj hji => paramScope_eq_none (hw j)
    (h.tmpName_ne_name hw hi hj hs).symm fun hs' => h.tmpName_ne_tmpName hw hj hi hji hs' hs).trans ?_
  simp only [Function.comp, paramScope_eq (hw i), if_neg (h.tmpName_ne_name hw hi hi hs).symm]
  cases (ks i).tmpType <;> simp

lemma tmpType_isSome_of_argForm {k : Kind} {g : Bool} (h : k.argForm g = .tmp) :
    k.tmpType.isSome := by
  cases k <;> cases g <;> first | rfl | exact absurd h (by decide)

/-- In a procedure whose declarations compile, each argument has the type of the table. -/
lemma DeclarationsLegal.argType (hw : ∀ i, WellNamed (ds i))
    (h : DeclarationsLegal rn (o.map fun i => (ks i, ds i))) {i : ι} (hi : i ∈ o) :
    argType (procScope rn (o.map fun i => (ks i, ds i))) ((ks i).cls.argument (ds i)) =
      (ks i).argType (ds i).genF90 (ds i).bigcount := by
  rw [argument_eq_render, argType_render _ _ (hw i).1, Kind.argType]
  cases hf : (ks i).argForm (ds i).genF90 <;>
    simp only [h.procScope_name hw hi, Option.some_bind]
  exact h.procScope_tmpName hw hi (tmpType_isSome_of_argForm hf)

end Procedure

/-- In a procedure whose declarations compile, the call passes every parameter an
argument its shim-interface dummy accepts exactly when no parameter is of a class
whose argument the dummy refuses: a communicator, group or session handle,
`REQUEST_INOUT` or `REQUEST_ARRAY_INOUT` under `gen_f90`, `FILE_OUT` in the `mpi_f08`
interface, or the shadowed first `COMM_ERRHANDLER_FN` class. -/
theorem callAgrees_iff {ι : Type} (rn : String → String) (ks : ι → Kind)
    (ds : ι → FortranType) (hw : ∀ i, WellNamed (ds i)) {o : List ι}
    (hlegal : DeclarationsLegal rn (o.map fun i => (ks i, ds i))) :
    CallAgrees rn (o.map fun i => (ks i, ds i)) ↔
      ∀ i ∈ o, ¬ (ks i = Kind.commErrhandlerFnTypeFirst ∨
        (ds i).genF90 = true ∧ ks i ∈ [Kind.commType, Kind.commOutType, Kind.commInOutType,
          Kind.groupType, Kind.groupOutType, Kind.groupInOutType, Kind.sessionType,
          Kind.sessionOutType, Kind.sessionInOutType, Kind.requestTypeInOut,
          Kind.requestArrayTypeInOut] ∨
        (ds i).genF90 = false ∧ ks i = Kind.fileOut) := by
  rw [CallAgrees, List.forall_mem_map]
  refine forall₂_congr fun i hi => ?_
  rw [← argumentAgrees_eq_true_iff _ _ (ds i).bigcount, hlegal.argType hw hi,
    readDecl_declareCbindingFortran _ (hw i), Kind.argumentAgrees]
  cases (ks i).argType (ds i).genF90 (ds i).bigcount <;> simp

theorem keyvalParams_callAgrees :
    CallAgrees caseFold ([0, 1, 2, 3].map fun i => ((keyvalParams i).1, init (keyvalParams i).2)) :=
  (callAgrees_iff caseFold (fun i => (keyvalParams i).1) (fun i => init (keyvalParams i).2)
    (by decide) keyvalParams_declarationsLegal).mpr (by decide)

end FortranBindings
