import FortranBindings.Typing
import FortranBindings.Collisions

/-!
# The pre-call section of a generated procedure

The driver, outside `fortran_type.py`, emits the `pre_c_call()` of every parameter
in the order of the parameter list. Each is one assignment, `c_x = merge(1,0,x)` or
`c_x = c_funloc(x)`, or nothing; `Kind.preConv` is its conversion, checked against
the code by `execFragment_preCCall`. The statements run over a store of entities,
reached through the resolution `rn` of names (`caseFold` in Fortran). When no
temporary resolves to a dummy argument and distinct parameters' temporaries resolve
apart, the section is order-independent, is one simultaneous assignment, and is
type-safe from every entry state exactly when no parameter is `LOGICAL_ARRAY_OUT`.
-/

namespace FortranBindings

open FortranType

/-- The conversion each class's `pre_c_call()` applies to its dummy argument to fill
its temporary: `merge(1,0,x)` in three of the logical classes, `c_funloc(x)` in the
callback classes; the other classes have no pre-call. -/
def Kind.preConv : Kind → Option (Val → Option Val)
  | .logicalType | .logicalArrayType | .logicalArrayOutType => some encode
  | .commErrhandlerFnTypeFirst | .commCopyAttrFnType | .typeCopyAttrFnType
  | .winCopyAttrFnType | .commDeleteAttrFnType | .typeDeleteAttrFnType
  | .winDeleteAttrFnType | .commErrhandlerFnType | .fileErrhandlerFnType
  | .sessionErrhandlerFnType | .winErrhandlerFnType | .dataRepConversionFnType
  | .dataRepExtentFnType => some funptrOf
  | _ => none

/-- The pre-call of a class as the assignment of its conversion, from the dummy
argument read in the state `r` to the temporary written in the state `w`. -/
def preAssign (rn : String → String) (k : Kind) (t : FortranType) (r w : String → Option Val) :
    Option (String → Option Val) :=
  convAssign rn k.preConv t.name t.tmpName r w

lemma execFragment_preCCall_of_render {rn : String → String} {k : Kind} {f : Val → Option Val}
    {t : FortranType} (rhs : String → Rhs)
    (hpre : ∀ t, k.cls.preCCall t = (Assign.mk t.tmpName (rhs t.name)).render)
    (heval : ∀ env s, (rhs s).eval rn env = (env (rn s)).bind f) (hk : k.preConv = some f)
    (hb : ' ' ∉ t.name.data) :
    execFragment rn (k.cls.preCCall t) = fun env => preAssign rn k t env env :=
  funext fun env => by
  rw [hpre, execFragment_render rn (blank_not_mem_tmpName hb), Assign.exec, heval, preAssign, hk]
  rfl

/-- Each class's `pre_c_call()`, run, is the assignment of the table. -/
lemma execFragment_preCCall (rn : String → String) (k : Kind) {t : FortranType}
    (hb : ' ' ∉ t.name.data) :
    execFragment rn (k.cls.preCCall t) = fun env => preAssign rn k t env env := by
  cases k
  case logicalType | logicalArrayType | logicalArrayOutType =>
    exact execFragment_preCCall_of_render Rhs.merge mergePre_eq (fun _ _ => rfl) rfl hb
  case commErrhandlerFnTypeFirst | commCopyAttrFnType | typeCopyAttrFnType | winCopyAttrFnType
    | commDeleteAttrFnType | typeDeleteAttrFnType | winDeleteAttrFnType | commErrhandlerFnType
    | fileErrhandlerFnType | sessionErrhandlerFnType | winErrhandlerFnType
    | dataRepConversionFnType | dataRepExtentFnType =>
    exact execFragment_preCCall_of_render Rhs.funloc funlocPre_eq (fun _ _ => rfl) rfl hb
  all_goals exact funext fun _ => if_pos rfl

/-- A pre-call run after another whose temporary it does not read reads the state
the first one started from. -/
lemma bind_preAssign_read (rn : String → String) (k k' : Kind) {t t' : FortranType}
    (h : rn t.tmpName ≠ rn t'.name) (r w : String → Option Val) :
    (preAssign rn k t r w).bind (fun e => preAssign rn k' t' e e) =
      (preAssign rn k t r w).bind (preAssign rn k' t' w) := by
  cases he : preAssign rn k t r w with
  | none => rfl
  | some e => exact convAssign_read rn _ _ _ (fun _ => convAssign_frame he fun _ => Ne.symm h) e

/-- Assignments to distinct temporaries, reading one state, commute. -/
lemma preAssign_bind_comm (rn : String → String) (k k' : Kind) {t t' : FortranType}
    (h : rn t.tmpName ≠ rn t'.tmpName) (r w : String → Option Val) :
    (preAssign rn k t r w).bind (preAssign rn k' t' r) =
      (preAssign rn k' t' r w).bind (preAssign rn k t r) := by
  unfold preAssign
  rcases k.preConv with _ | f <;> rcases k'.preConv with _ | g <;>
    simp only [convAssign_none, convAssign_some, Option.some_bind, Option.bind_some]
  cases (r (rn t.name)).bind f <;> cases (r (rn t'.name)).bind g <;>
    simp only [Option.map_none', Option.map_some', Option.none_bind, Option.some_bind,
      Function.update_comm h]

/-- The pre-call section of a procedure: the `pre_c_call()` of each parameter in
turn, stopping at the first that fails. -/
def preCalls (rn : String → String) (ps : List (Kind × FortranType))
    (env : String → Option Val) : Option (String → Option Val) :=
  ps.foldl (fun o p => o.bind (execFragment rn (p.1.cls.preCCall p.2))) (some env)

/-- The pre-call section as one simultaneous assignment: every conversion reads the
state on entry. -/
def simultaneousPreCalls (rn : String → String) (ps : List (Kind × FortranType))
    (env : String → Option Val) : Option (String → Option Val) :=
  ps.foldl (fun o p => o.bind (preAssign rn p.1 p.2 env)) (some env)

/-- The pre-calls of two parameters whose variables are apart commute. -/
lemma preCCall_comm {rn : String → String} {k k' : Kind} {t t' : FortranType}
    (hb : ' ' ∉ t.name.data) (hb' : ' ' ∉ t'.name.data) (h : rn t.tmpName ≠ rn t'.name)
    (h' : rn t'.tmpName ≠ rn t.name) (htmp : rn t.tmpName ≠ rn t'.tmpName)
    (env : String → Option Val) :
    (execFragment rn (k.cls.preCCall t) env).bind (execFragment rn (k'.cls.preCCall t')) =
      (execFragment rn (k'.cls.preCCall t') env).bind (execFragment rn (k.cls.preCCall t)) := by
  simp only [execFragment_preCCall rn _ hb, execFragment_preCCall rn _ hb']
  rw [bind_preAssign_read rn _ _ h, bind_preAssign_read rn _ _ h',
    preAssign_bind_comm rn _ _ htmp]

/-- The pre-call section of a procedure whose temporaries resolve neither to dummy
arguments nor to each other ends in the same state, or fails, in every order of its
parameters. -/
theorem preCalls_perm {ι : Type} (rn : String → String) (ks : ι → Kind) (ds : ι → FortranType)
    (hb : ∀ i, ' ' ∉ (ds i).name.data) (hd : ∀ i j, rn (ds i).tmpName ≠ rn (ds j).name)
    (htmp : ∀ i j, i ≠ j → rn (ds i).tmpName ≠ rn (ds j).tmpName) {o o' : List ι}
    (ho : o.Perm o') (env : String → Option Val) :
    preCalls rn (o.map fun i => (ks i, ds i)) env =
      preCalls rn (o'.map fun i => (ks i, ds i)) env := by
  refine (ho.map _).foldl_eq' (fun x hx y hy z => ?_) _
  obtain ⟨i, -, rfl⟩ := List.mem_map.mp hx
  obtain ⟨j, -, rfl⟩ := List.mem_map.mp hy
  rcases eq_or_ne i j with rfl | hij
  · rfl
  cases z with
  | none => rfl
  | some env => exact preCCall_comm (hb i) (hb j) (hd i j) (hd j i) (htmp i j hij) env

/-- The entry state of the examples: the logical dummy arguments `comm` and `count`
hold true and false. -/
def plainEntry : String → Option Val :=
  fun n => if n = "comm" then some (.logical true)
    else if n = "count" then some (.logical false) else none

theorem plainParams_preCalls_perm :
    preCalls caseFold ([0, 1].map fun i => (Kind.logicalType, init (Collisions.plainParams i)))
        plainEntry =
      preCalls caseFold ([1, 0].map fun i => (Kind.logicalType, init (Collisions.plainParams i)))
        plainEntry :=
  preCalls_perm caseFold (fun _ => Kind.logicalType) (fun i => init (Collisions.plainParams i))
    (by decide) (by decide) (by decide) (List.Perm.swap 1 0 []) _

/-- Two parameters of one function, the second named as the first's temporary up to
case. -/
def caseShadowingParams : Fin 2 → Params
  | 0 => { name := "x", fnName := "send" }
  | 1 => { name := "C_X", fnName := "send" }

/-- Fortran reads `C_X` as `c_x`: `c_x = merge(1,0,x)` first makes `C_X` an integer,
which `c_C_X = merge(1,0,C_X)` then cannot convert. -/
example :
    (preCalls caseFold ([0, 1].map fun i => (Kind.logicalType, init (caseShadowingParams i)))
        fun _ => some (.logical true)).isSome = false ∧
      (preCalls caseFold ([1, 0].map fun i => (Kind.logicalType, init (caseShadowingParams i)))
        fun _ => some (.logical true)).isSome = true := by
  decide

/-- The pre-call section, run, is the table's assignments one after another. -/
lemma preCalls_eq_foldl {ι : Type} (rn : String → String) (ks : ι → Kind)
    (ds : ι → FortranType) (hb : ∀ i, ' ' ∉ (ds i).name.data) (o : List ι)
    (env : String → Option Val) :
    preCalls rn (o.map fun i => (ks i, ds i)) env =
      o.foldl (fun e i => e.bind fun x => convAssign rn (ks i).preConv (ds i).name (ds i).tmpName x x)
        (some env) := by
  rw [preCalls, List.foldl_map]
  congr
  funext e i
  rw [execFragment_preCCall rn _ (hb i)]
  rfl

lemma simultaneousPreCalls_eq_foldl {ι : Type} (rn : String → String) (ks : ι → Kind)
    (ds : ι → FortranType) (o : List ι) (env : String → Option Val) :
    simultaneousPreCalls rn (o.map fun i => (ks i, ds i)) env =
      o.foldl (fun e i => e.bind (convAssign rn (ks i).preConv (ds i).name (ds i).tmpName env))
        (some env) := by
  rw [simultaneousPreCalls, List.foldl_map]
  rfl

/-- When no temporary resolves to a dummy argument, every pre-call reads the state on
entry. -/
lemma preCalls_eq_foldl_entry {ι : Type} (rn : String → String) (ks : ι → Kind)
    (ds : ι → FortranType) (hb : ∀ i, ' ' ∉ (ds i).name.data)
    (hd : ∀ i j, rn (ds i).tmpName ≠ rn (ds j).name) (o : List ι) (env : String → Option Val) :
    preCalls rn (o.map fun i => (ks i, ds i)) env =
      o.foldl (fun e i => e.bind (convAssign rn (ks i).preConv (ds i).name (ds i).tmpName env))
        (some env) := by
  rw [preCalls_eq_foldl rn ks ds hb]
  exact foldl_convAssign_eq rn _ _ _ env o (fun i _ j _ _ _ => hd i j) env fun _ _ _ => rfl

/-- When no temporary resolves to a dummy argument, each parameter's pre-call reads
the dummy argument as it was on entry: the section is a simultaneous assignment. -/
theorem preCalls_eq_simultaneous {ι : Type} (rn : String → String) (ks : ι → Kind)
    (ds : ι → FortranType) (hb : ∀ i, ' ' ∉ (ds i).name.data)
    (hd : ∀ i j, rn (ds i).tmpName ≠ rn (ds j).name) (o : List ι) (env : String → Option Val) :
    preCalls rn (o.map fun i => (ks i, ds i)) env =
      simultaneousPreCalls rn (o.map fun i => (ks i, ds i)) env := by
  rw [preCalls_eq_foldl_entry rn ks ds hb hd, simultaneousPreCalls_eq_foldl]

theorem plainParams_preCalls_simultaneous :
    preCalls caseFold ([0, 1].map fun i => (Kind.logicalType, init (Collisions.plainParams i)))
        plainEntry =
      simultaneousPreCalls caseFold
        ([0, 1].map fun i => (Kind.logicalType, init (Collisions.plainParams i))) plainEntry :=
  preCalls_eq_simultaneous caseFold (fun _ => Kind.logicalType)
    (fun i => init (Collisions.plainParams i)) (by decide) (by decide) [0, 1] _

/-- The pre-call section of a procedure whose parameters appear once each and whose
temporaries resolve neither to dummy arguments nor to each other ends in `env'` exactly
when every parameter with a conversion converts its dummy argument's value on entry and
`env'` holds the result in its temporary, every other entity keeping its value. -/
theorem preCalls_eq_some_iff {ι : Type} (rn : String → String) (ks : ι → Kind)
    (ds : ι → FortranType) (hb : ∀ i, ' ' ∉ (ds i).name.data)
    (hd : ∀ i j, rn (ds i).tmpName ≠ rn (ds j).name)
    (htmp : ∀ i j, i ≠ j → rn (ds i).tmpName ≠ rn (ds j).tmpName) {o : List ι} (ho : o.Nodup)
    (env env' : String → Option Val) :
    preCalls rn (o.map fun i => (ks i, ds i)) env = some env' ↔
      (∀ i ∈ o, ∀ f, (ks i).preConv = some f →
        ∃ v, (env (rn (ds i).name)).bind f = some v ∧ env' (rn (ds i).tmpName) = some v) ∧
      ∀ n, (∀ i ∈ o, (ks i).preConv ≠ none → n ≠ rn (ds i).tmpName) → env' n = env n := by
  rw [preCalls_eq_foldl_entry rn ks ds hb hd, foldl_convAssign_eq_some_iff rn (fun i => (ks i).preConv) (fun i => (ds i).name)
      (fun i => (ds i).tmpName) env ho (fun i _ j _ hij _ => htmp i j hij)]

/-- The state the pre-call section of the examples ends in: `c_comm` holds `1` and
`c_count` holds `0`. -/
def plainConverted : String → Option Val :=
  fun n => if n = "c_comm" then some (.integer 1)
    else if n = "c_count" then some (.integer 0) else plainEntry n

theorem plainParams_preCalls_eq_some :
    preCalls caseFold ([0, 1].map fun i => (Kind.logicalType, init (Collisions.plainParams i)))
      plainEntry = some plainConverted :=
  (preCalls_eq_some_iff caseFold (fun _ => Kind.logicalType)
    (fun i => init (Collisions.plainParams i)) (by decide) (by decide) (by decide)
    (by decide) plainEntry plainConverted).mpr
    ⟨fun i _ f hf => by cases hf; fin_cases i <;> exact ⟨_, rfl, rfl⟩, fun n hn => by
      have h0 : n ≠ "c_comm" := hn 0 (by simp) (Option.some_ne_none _)
      have h1 : n ≠ "c_count" := hn 1 (by simp) (Option.some_ne_none _)
      simp only [plainConverted, if_neg h0, if_neg h1]⟩

lemma scope_eq_none (k : Kind) {t : FortranType} (ht : WellNamed t) {n : String}
    (h : n ≠ t.name) (h' : n ≠ t.tmpName) : k.cls.scope t n = none := by
  simp only [FortranClass.scope, List.findSome?, readDecl_declare k ht,
    readDecl_declareTmp k ht, Option.some_bind, if_neg (Ne.symm h)]
  cases k.tmpType <;> simp [Ne.symm h']

/-- A state is typed for a class's declarations when its dummy argument and its
temporary are. -/
lemma storeTyped_scope (rn : String → String) (k : Kind) {t : FortranType} (ht : WellNamed t)
    {env : String → Option Val}
    (hname : ∀ v, env (rn t.name) = some v → v.hasType (k.declType t.genF90 t.bigcount) = true)
    (htmp : ∀ v, env (rn t.tmpName) = some v → ∀ d ∈ k.tmpType, v.hasType d = true) :
    StoreTyped rn (k.cls.scope t) env := fun n d v hd hv => by
  by_cases h : n = t.name
  · subst h
    rw [scope_name k ht, Option.some_inj] at hd
    exact hd ▸ hname v hv
  by_cases h' : n = t.tmpName
  · subst h'
    exact htmp v hv d (scope_tmpName k ht ▸ hd)
  · exact Option.noConfusion ((scope_eq_none k ht h h').symm.trans hd)

/-- Each conversion takes a value of the dummy argument's type to one of the
temporary's. -/
lemma preConv_hasType {k : Kind} {f : Val → Option Val} (hf : k.preConv = some f)
    {g b : Bool} {v : Val} (hv : v.hasType (k.declType g b) = true) :
    ∃ w, f v = some w ∧ ∀ d ∈ k.tmpType, w.hasType d = true := by
  cases k <;> cases hf
  case logicalType | logicalArrayType | logicalArrayOutType => exact encode_hasType hv
  all_goals exact funptrOf_hasType hv

lemma intent_ne_out_of_preConv {k : Kind} {f : Val → Option Val} (hf : k.preConv = some f)
    (hk : k ≠ Kind.logicalArrayOutType) : k.intent ≠ some "OUT" := by
  cases k <;> cases hf
  case logicalArrayOutType => exact absurd rfl hk
  all_goals decide

/-- From an entry state, every class with a conversion but `LOGICAL_ARRAY_OUT` converts
its dummy argument to a value of its temporary's type. -/
lemma converts_of_entryState {rn : String → String} {k : Kind} {f : Val → Option Val}
    (hf : k.preConv = some f) (hk : k ≠ Kind.logicalArrayOutType) {t : FortranType}
    (ht : WellNamed t) {env : String → Option Val} (he : k.cls.EntryState rn t env) :
    ∃ w, (env (rn t.name)).bind f = some w ∧ ∀ d ∈ k.tmpType, w.hasType d = true := by
  obtain ⟨hst, hdef⟩ := he
  rw [declaredIntent_declare k ht.2] at hdef
  obtain ⟨v, hv⟩ := Option.isSome_iff_exists.mp (hdef.mpr (intent_ne_out_of_preConv hf hk))
  obtain ⟨w, hvw, hwt⟩ := preConv_hasType hf (hst _ _ v (scope_name k ht) hv)
  exact ⟨w, by rw [hv, Option.some_bind, hvw], hwt⟩

/-- In an entry state the `INTENT(OUT)` dummy of `LOGICAL_ARRAY_OUT` is undefined. -/
lemma logicalArrayOut_undefined {rn : String → String} {t : FortranType} (ht : PlainNames t)
    {env : String → Option Val} (he : Kind.logicalArrayOutType.cls.EntryState rn t env) :
    env (rn t.name) = none := by
  have hdef := he.2
  rw [declaredIntent_declare _ ht] at hdef
  exact Option.not_isSome_iff_eq_none.mp fun hs => hdef.mp hs rfl

/-- From every entry state, the pre-call section of a procedure whose parameters appear
once each and whose temporaries resolve neither to dummy arguments nor to each other
runs without error and leaves the variables of every parameter with a conversion
holding values of their declared types, exactly when no parameter is
`LOGICAL_ARRAY_OUT`. -/
theorem preCalls_typed_iff {ι : Type} (rn : String → String) (ks : ι → Kind)
    (ds : ι → FortranType) (hw : ∀ i, WellNamed (ds i))
    (hd : ∀ i j, rn (ds i).tmpName ≠ rn (ds j).name)
    (htmp : ∀ i j, i ≠ j → rn (ds i).tmpName ≠ rn (ds j).tmpName) {o : List ι} (ho : o.Nodup)
    (env : String → Option Val)
    (he : ∀ i ∈ o, (ks i).preConv.isSome → (ks i).cls.EntryState rn (ds i) env) :
    (∃ env', preCalls rn (o.map fun i => (ks i, ds i)) env = some env' ∧
      ∀ i ∈ o, (ks i).preConv.isSome → StoreTyped rn ((ks i).cls.scope (ds i)) env') ↔
      ∀ i ∈ o, ks i ≠ Kind.logicalArrayOutType := by
  have hiff := foldl_convAssign_eq_some_iff rn (fun i => (ks i).preConv) (fun i => (ds i).name)
    (fun i => (ds i).tmpName) env ho (fun i _ j _ hij _ => htmp i j hij) env
  rw [preCalls_eq_foldl_entry rn ks ds (fun i => (hw i).1.blank_not_mem) hd]
  constructor
  · rintro ⟨env', h, -⟩ i hi hk
    obtain ⟨v, hv, -⟩ := ((hiff env').mp h).1 i hi encode (by rw [hk]; rfl)
    have he' : Kind.logicalArrayOutType.cls.EntryState rn (ds i) env :=
      hk ▸ he i hi (by rw [hk]; rfl)
    rw [logicalArrayOut_undefined (hw i).2 he'] at hv
    exact Option.noConfusion hv
  intro hk
  have hconv : ∀ i ∈ o, ∀ f, (ks i).preConv = some f →
      ∃ w, (env (rn (ds i).name)).bind f = some w ∧ ∀ d ∈ (ks i).tmpType, w.hasType d = true :=
    fun i hi f hf => converts_of_entryState hf (hk i hi) (hw i) (he i hi (by rw [hf]; rfl))
  obtain ⟨env', h⟩ := Option.isSome_iff_exists.mp (foldl_convAssign_isSome rn _ _ _ env o
    (fun i hi f hf => by obtain ⟨w, hw', -⟩ := hconv i hi f hf; rw [hw']; rfl) env)
  obtain ⟨hval, hframe⟩ := (hiff env').mp h
  refine ⟨env', h, fun i hi hs => storeTyped_scope rn _ (hw i) (fun v hv => ?_) fun v hv => ?_⟩
  · rw [hframe _ fun j _ _ => (hd j i).symm] at hv
    exact (he i hi hs).1 _ _ v (scope_name _ (hw i)) hv
  · obtain ⟨f, hf⟩ := Option.isSome_iff_exists.mp hs
    obtain ⟨w, hw', hwt⟩ := hconv i hi f hf
    obtain ⟨v', hv', htv⟩ := hval i hi f hf
    exact Option.some_inj.mp ((hv.symm.trans htv).trans (hv'.symm.trans hw')) ▸ hwt

/-- `LOGICAL_ARRAY_OUT` converts its `INTENT(OUT)` dummy before anything defines it. -/
example : (preCalls caseFold [(Kind.logicalArrayOutType, init (Collisions.plainParams 0))]
    fun _ => none).isSome = false := by
  decide

theorem plainParams_preCalls_typed :
    ∃ env', preCalls caseFold
        ([0, 1].map fun i => (Kind.logicalType, init (Collisions.plainParams i))) plainEntry =
          some env' ∧
      ∀ i ∈ ([0, 1] : List (Fin 2)), Kind.logicalType.preConv.isSome →
        StoreTyped caseFold (Kind.logicalType.cls.scope (init (Collisions.plainParams i))) env' :=
  (preCalls_typed_iff caseFold (fun _ => Kind.logicalType)
    (fun i => init (Collisions.plainParams i)) (by decide) (by decide) (by decide) (by decide)
    plainEntry fun i _ _ => ⟨storeTyped_scope caseFold _ (by fin_cases i <;> decide)
      (fun v hv => by fin_cases i <;> cases hv <;> rfl) (fun v hv => by fin_cases i <;> cases hv),
      by fin_cases i <;> decide⟩).mpr (by decide)

end FortranBindings
