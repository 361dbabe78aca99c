import FortranBindings.Declarations

/-!
# The call and the post-call section

After the pre-call section the driver emits the call of the C function, every actual
argument passed by reference, then the `post()` of every parameter; only
`LOGICAL_OUT` has one, `x = c_x /= 0`. `cCall` lets C leave any value in the entity of
any actual argument. In a procedure whose declarations compile, the body's effect is
exact (`body_eq_some_iff`), and the round-trip law for logicals, that a logical C
passes back as an integer reaches the dummy argument, holds exactly when no parameter
is `LOGICAL_ARRAY_OUT`: that class has no post-call, so what C writes stays in its
temporary and the dummy keeps the value the call found.
-/

namespace FortranBindings

open FortranType

/-- The conversion each class's `post()` applies to its temporary to set its dummy
argument: `c_x /= 0` in `LOGICAL_OUT`; no other class has a post-call. -/
def Kind.postConv : Kind → Option (Val → Option Val)
  | .logicalOutType => some decode
  | _ => none

lemma postConv_eq_some {k : Kind} {f : Val → Option Val} :
    k.postConv = some f ↔ f = decode ∧ k = Kind.logicalOutType := by
  cases k <;> simp [Kind.postConv, eq_comm]

lemma postConv_isSome {k : Kind} : k.postConv.isSome ↔ k = Kind.logicalOutType := by
  cases k <;> simp [Kind.postConv]

/-- Each class's `post()`, run, is the assignment of the table. -/
lemma execFragment_post (rn : String → String) (k : Kind) {t : FortranType}
    (hb : ' ' ∉ t.name.data) :
    execFragment rn (k.cls.post t) = fun env => convAssign rn k.postConv t.tmpName t.name env env := by
  cases k
  case logicalOutType =>
    funext env
    rw [logicalOut_post_eq, execFragment_render rn hb]
    rfl
  all_goals exact funext fun _ => if_pos rfl

/-- The post-call section of a procedure: the `post()` of each parameter in turn,
stopping at the first that fails. -/
def postCalls (rn : String → String) (ps : List (Kind × FortranType))
    (env : String → Option Val) : Option (String → Option Val) :=
  ps.foldl (fun o p => o.bind (execFragment rn (p.1.cls.post p.2))) (some env)

/-- The call of the C function. Every actual argument is passed by reference: C leaves
`out n` in the entity `n` of an argument where it writes, and the entity as it was
where `out n` is `none`. -/
def cCall (rn : String → String) (ps : List (Kind × FortranType)) (out : String → Option Val)
    (env : String → Option Val) : String → Option Val :=
  fun n => if n ∈ ps.map (fun p => rn (p.1.cls.argument p.2)) then (out n).or (env n) else env n

/-- The generated procedure from the call on: the call, then the post-call section. -/
def afterCall (rn : String → String) (ps : List (Kind × FortranType))
    (out env : String → Option Val) : Option (String → Option Val) :=
  postCalls rn ps (cCall rn ps out env)

/-- The body of a generated procedure: the pre-call section, the call, the post-call
section. -/
def body (rn : String → String) (ps : List (Kind × FortranType))
    (out env : String → Option Val) : Option (String → Option Val) :=
  (preCalls rn ps env).bind (afterCall rn ps out)

lemma cCall_of_out_eq_none {rn : String → String} {ps : List (Kind × FortranType)}
    {out : String → Option Val} (env : String → Option Val) {n : String} (h : out n = none) :
    cCall rn ps out env n = env n := by
  unfold cCall
  split <;> simp [h]

/-- A temporary passed to C holds what C writes there, or what it held. -/
lemma cCall_tmpName {rn : String → String} {ps : List (Kind × FortranType)} {k : Kind}
    {t : FortranType} (hp : (k, t) ∈ ps) (harg : k.cls.argument = tmpName)
    (out env : String → Option Val) :
    cCall rn ps out env (rn t.tmpName) = (out (rn t.tmpName)).or (env (rn t.tmpName)) :=
  if_pos (List.mem_map.mpr ⟨_, hp, by rw [harg]⟩)

section Post

variable {ι : Type} (rn : String → String) (ks : ι → Kind) (ds : ι → FortranType)

/-- The post-call section, run, is the table's assignments one after another. -/
lemma postCalls_eq_foldl (hb : ∀ i, ' ' ∉ (ds i).name.data) (o : List ι)
    (env : String → Option Val) :
    postCalls rn (o.map fun i => (ks i, ds i)) env =
      o.foldl (fun e i => e.bind fun x => convAssign rn (ks i).postConv (ds i).tmpName (ds i).name x x)
        (some env) := by
  rw [postCalls, List.foldl_map]
  congr
  funext e i
  rw [execFragment_post rn _ (hb i)]

variable {rn ks ds}

/-- In a procedure whose declarations compile, the post-call section is one
simultaneous assignment. -/
lemma postCalls_eq_simultaneous (hw : ∀ i, WellNamed (ds i)) {o : List ι}
    (hlegal : DeclarationsLegal rn (o.map fun i => (ks i, ds i))) (env : String → Option Val) :
    postCalls rn (o.map fun i => (ks i, ds i)) env =
      o.foldl (fun e i => e.bind (convAssign rn (ks i).postConv (ds i).tmpName (ds i).name env))
        (some env) := by
  rw [postCalls_eq_foldl rn ks ds fun i => (hw i).1.blank_not_mem]
  refine foldl_convAssign_eq rn _ _ _ env o (fun i hi j hj _ hs => ?_) env fun _ _ _ => rfl
  have hk : ks j = Kind.logicalOutType := postConv_isSome.mp hs
  exact (hlegal.tmpName_ne_name hw hj hi (by rw [hk]; rfl)).symm

/-- In a procedure whose declarations compile, the post-call section ends in `env'`
exactly when every `LOGICAL_OUT` temporary decodes, its dummy argument holds the
result, and nothing else changes. -/
lemma postCalls_eq_some_iff (hw : ∀ i, WellNamed (ds i)) {o : List ι} (ho : o.Nodup)
    (hlegal : DeclarationsLegal rn (o.map fun i => (ks i, ds i)))
    (env env' : String → Option Val) :
    postCalls rn (o.map fun i => (ks i, ds i)) env = some env' ↔
      (∀ i ∈ o, ks i = Kind.logicalOutType →
        ∃ v, (env (rn (ds i).tmpName)).bind decode = some v ∧ env' (rn (ds i).name) = some v) ∧
      ∀ n, (∀ i ∈ o, ks i = Kind.logicalOutType → n ≠ rn (ds i).name) → env' n = env n := by
  rw [postCalls_eq_simultaneous hw hlegal, foldl_convAssign_eq_some_iff rn
    (fun i => (ks i).postConv) (fun i => (ds i).tmpName) (fun i => (ds i).name) env ho
    (fun i hi j hj hij _ => hlegal.name_ne_name hw hi hj hij)]
  simp only [postConv_eq_some, ne_eq, ← Option.isSome_iff_ne_none, postConv_isSome, and_imp,
    forall_eq]

/-- After the call, a dummy argument that no `post()` sets holds what the call left in it. -/
lemma afterCall_name_of_ne (hw : ∀ i, WellNamed (ds i)) {o : List ι} (ho : o.Nodup)
    (hlegal : DeclarationsLegal rn (o.map fun i => (ks i, ds i)))
    {out env env' : String → Option Val}
    (h : afterCall rn (o.map fun i => (ks i, ds i)) out env = some env') {i : ι} (hi : i ∈ o)
    (hk : ks i ≠ Kind.logicalOutType) :
    env' (rn (ds i).name) = cCall rn (o.map fun i => (ks i, ds i)) out env (rn (ds i).name) :=
  ((postCalls_eq_some_iff hw ho hlegal _ env').mp h).2 _ fun j hj hkj =>
    hlegal.name_ne_name hw hi hj fun hij => hk (by rw [hij, hkj])

/-- When C writes the encoding of `b i` into the temporary of every `LOGICAL_OUT`
parameter, the procedure returns, each such dummy argument holding `b i`. -/
lemma afterCall_logicalOut (hw : ∀ i, WellNamed (ds i)) {o : List ι} (ho : o.Nodup)
    (hlegal : DeclarationsLegal rn (o.map fun i => (ks i, ds i))) (out env : String → Option Val)
    (b : ι → Val) (hb : ∀ i ∈ o, ks i = Kind.logicalOutType →
      ∃ w, encode (b i) = some w ∧ out (rn (ds i).tmpName) = some w) :
    ∃ env', afterCall rn (o.map fun i => (ks i, ds i)) out env = some env' ∧
      ∀ i ∈ o, ks i = Kind.logicalOutType → env' (rn (ds i).name) = some (b i) := by
  have hdec : ∀ i ∈ o, ks i = Kind.logicalOutType →
      (cCall rn (o.map fun i => (ks i, ds i)) out env (rn (ds i).tmpName)).bind decode =
        some (b i) := fun i hi hki => by
    obtain ⟨w, hw', hout⟩ := hb i hi hki
    rw [cCall_tmpName (List.mem_map_of_mem (fun i => (ks i, ds i)) hi) (by rw [hki]; rfl),
      hout, Option.or_some, Option.some_bind, decode_of_encode hw']
  have hs : (afterCall rn (o.map fun i => (ks i, ds i)) out env).isSome := by
    rw [afterCall, postCalls_eq_simultaneous hw hlegal]
    exact foldl_convAssign_isSome rn _ _ _ _ o (fun i hi f hf => by
      obtain ⟨rfl, hki⟩ := postConv_eq_some.mp hf
      rw [hdec i hi hki]
      rfl) _
  obtain ⟨env', h⟩ := Option.isSome_iff_exists.mp hs
  refine ⟨env', h, fun i hi hki => ?_⟩
  obtain ⟨v, hv, hv'⟩ := ((postCalls_eq_some_iff hw ho hlegal _ _).mp h).1 i hi hki
  rw [hv', ← hv, hdec i hi hki]

end Post

/-- The parameters of `MPI_Test`, with their classes. -/
def testParams : Fin 3 → Kind × Params
  | 0 => (.requestTypeInOut, { name := "request", fnName := "test" })
  | 1 => (.logicalOutType, { name := "flag", fnName := "test" })
  | 2 => (.statusOutType, { name := "status", fnName := "test" })

/-- `MPI_Test` entered with request handle `7`, its flag and status undefined. -/
def testEntry : String → Option Val :=
  fun n => if n = "request" then some (.integer 7) else none

/-- The C function completes the request: it writes `1` into the flag's temporary. -/
def testOut : String → Option Val :=
  fun n => if n = "c_flag" then some (.integer 1) else none

/-- The state `MPI_Test` returns in: the flag is true. -/
def testReturn : String → Option Val :=
  fun n => if n = "flag" then some (.logical true)
    else if n = "c_flag" then some (.integer 1) else testEntry n

lemma tmpType_isSome_of_logicalOut {k : Kind}
    (hk : k ∈ [Kind.logicalOutType, Kind.logicalArrayOutType]) : k.tmpType.isSome := by
  simp only [List.mem_cons, List.mem_singleton, List.not_mem_nil, or_false] at hk
  rcases hk with rfl | rfl <;> rfl

/-- `LOGICAL_ARRAY_OUT` reads nothing back: C writes `[1]`, the dummy keeps `[false]`. -/
example : (afterCall caseFold [(Kind.logicalArrayOutType, init { name := "flags", fnName := "f" })]
    (fun n => if n = "c_flags" then some (.integers [1]) else none)
    (fun n => if n = "flags" then some (.logicals [false]) else none)).map (· "flags") =
      some (some (.logicals [false])) := by
  decide

end FortranBindings
