import FortranBindings.Registry

/-!
# What the conversion fragments do

The classes that pass a temporary to C fill it in `pre_c_call` or read it back in
`post`, each with one Fortran assignment: `c_x = merge(1,0,x)` encodes a logical as
`1` or `0`, `x = c_x /= 0` decodes it, and `c_x = c_funloc(x)` takes the C pointer
to a procedure. This module reads an assignment back from the text the catalogue
emits, evaluates it over a store of entities, and proves once, for any family of
such assignments, when running them one after another is one simultaneous
assignment and what state it ends in.
-/

namespace FortranBindings

open FortranType

/-- The right-hand sides of the assignments the catalogue emits. -/
inductive Rhs
  /-- `merge(1,0,src)` -/
  | merge (src : String)
  /-- `src /= 0` -/
  | ne0 (src : String)
  /-- `c_funloc(src)` -/
  | funloc (src : String)
  deriving DecidableEq, Repr

/-- A Fortran assignment `dst = rhs`. -/
structure Assign where
  dst : String
  rhs : Rhs
  deriving DecidableEq, Repr

/-- A right-hand side as the catalogue's f-strings print it. -/
def Rhs.render : Rhs → String
  | .merge s => "merge(1,0," ++ s ++ ")"
  | .ne0 s => s ++ " /= 0"
  | .funloc s => "c_funloc(" ++ s ++ ")"

/-- An assignment as the catalogue's f-strings print it. -/
def Assign.render (a : Assign) : String := a.dst ++ " = " ++ a.rhs.render

/-- Reads a right-hand side back: a call closes with `)`, a comparison ends in ` /= 0`. -/
def parseRhs (r : List Char) : Option Rhs :=
  if r.getLast? = some ')' then
    if "merge(1,0,".data.isPrefixOf r then some (.merge ⟨(r.drop 10).dropLast⟩)
    else if "c_funloc(".data.isPrefixOf r then some (.funloc ⟨(r.drop 9).dropLast⟩)
    else none
  else if " /= 0".data.isSuffixOf r then some (.ne0 ⟨r.take (r.length - 5)⟩)
  else none

/-- Reads an assignment back: the target runs up to the first blank, then ` = `. -/
def parseAssign (s : String) : Option Assign :=
  let dst := s.data.takeWhile (· != ' ')
  match s.data.drop dst.length with
  | ' ' :: '=' :: ' ' :: r => (parseRhs r).map (Assign.mk ⟨dst⟩)
  | _ => none

theorem parseRhs_render (r : Rhs) : parseRhs r.render.data = some r := by
  cases r <;> simp [parseRhs, Rhs.render, List.getLast?_cons]

/-- The printed assignment reads back as itself when its target has no blank. -/
theorem parseAssign_render (a : Assign) (h : ' ' ∉ a.dst.data) :
    parseAssign a.render = some a := by
  have hd : a.render.data = a.dst.data ++ ' ' :: '=' :: ' ' :: a.rhs.render.data := by
    simp [Assign.render]
  simp only [parseAssign, hd, takeWhile_append_cons_of_not_mem _ h, List.drop_left,
    parseRhs_render, Option.map_some']

/-- The values of the variables the conversions touch: logicals and default
integers, scalar or array, and procedures with the C pointers taken from them. -/
inductive Val
  | logical (b : Bool)
  | integer (n : Int)
  | logicals (bs : List Bool)
  | integers (ns : List Int)
  | procedure (p : String)
  | funptr (p : String)
  deriving DecidableEq, Repr

/-- `merge(1,0,x)`: true is `1` and false `0`, elementwise on an array. -/
def encode : Val → Option Val
  | .logical b => some (.integer (if b then 1 else 0))
  | .logicals bs => some (.integers (bs.map fun b => if b then 1 else 0))
  | _ => none

/-- `x /= 0`: a nonzero integer is true, elementwise on an array. -/
def decode : Val → Option Val
  | .integer n => some (.logical (n != 0))
  | .integers ns => some (.logicals (ns.map (· != 0)))
  | _ => none

/-- `c_funloc(x)`: the C pointer to a procedure. -/
def funptrOf : Val → Option Val
  | .procedure p => some (.funptr p)
  | _ => none

/-- Fortran does not tell upper from lower case in a name: a name denotes the
entity of its lower-case spelling. -/
def caseFold (s : String) : String := ⟨s.data.map Char.toLower⟩

/-- The value of a right-hand side over the procedure's variables: the store maps
an entity to its value, and `rn` resolves a name of the code to the entity it
denotes (`caseFold` in Fortran). -/
def Rhs.eval (rn : String → String) (env : String → Option Val) : Rhs → Option Val
  | .merge s => (env (rn s)).bind encode
  | .ne0 s => (env (rn s)).bind decode
  | .funloc s => (env (rn s)).bind funptrOf

/-- An assignment sets its target, or fails on a value of the wrong type. -/
def Assign.exec (rn : String → String) (a : Assign) (env : String → Option Val) :
    Option (String → Option Val) :=
  (a.rhs.eval rn env).map fun v => Function.update env (rn a.dst) (some v)

/-- A fragment of a procedure body: nothing when empty, else the assignment it reads as. -/
def execFragment (rn : String → String) (s : String) (env : String → Option Val) :
    Option (String → Option Val) :=
  if s = "" then some env else (parseAssign s).bind fun a => a.exec rn env

lemma decode_of_encode {v w : Val} (h : encode v = some w) : decode w = some v := by
  cases v <;> simp only [encode, Option.some.injEq, reduceCtorEq] at h <;> subst h
  · rename_i b; cases b <;> rfl
  · rename_i bs
    simp only [decode, List.map_map, Option.some.injEq, Val.logicals.injEq]
    conv_rhs => rw [← List.map_id bs]
    exact List.map_congr_left fun b _ => by cases b <;> rfl

lemma Assign.render_ne_empty (a : Assign) : a.render ≠ "" := fun h => by
  have := congrArg String.length h
  simp only [Assign.render, String.length_append] at this
  have : " = ".length = 3 := rfl
  have : "".length = 0 := rfl
  omega

lemma execFragment_render (rn : String → String) {a : Assign} (h : ' ' ∉ a.dst.data)
    (env : String → Option Val) : execFragment rn a.render env = a.exec rn env := by
  rw [execFragment, if_neg a.render_ne_empty, parseAssign_render a h, Option.some_bind]

lemma blank_not_mem_tmpName {t : FortranType} (h : ' ' ∉ t.name.data) :
    ' ' ∉ t.tmpName.data := by
  simpa [FortranType.tmpName] using h

/-- The catalogue's `merge` fragment is the printed encoding assignment. -/
lemma mergePre_eq (t : FortranType) :
    mergePre t = (Assign.mk t.tmpName (.merge t.name)).render := by
  rw [mergePre, Assign.render, Rhs.render, show " = merge(1,0," = " = " ++ "merge(1,0," by decide]
  simp only [String.append_assoc]

/-- The catalogue's `c_funloc` fragment is the printed pointer assignment. -/
lemma funlocPre_eq (t : FortranType) :
    funlocPre t = (Assign.mk t.tmpName (.funloc t.name)).render := by
  rw [funlocPre, Assign.render, Rhs.render, show " = c_funloc(" = " = " ++ "c_funloc(" by decide]
  simp only [String.append_assoc]

lemma logicalOut_post_eq (t : FortranType) :
    Kind.logicalOutType.cls.post t = (Assign.mk t.name (.ne0 t.tmpName)).render := by
  show t.name ++ " = " ++ t.tmpName ++ " /= 0" = _
  simp only [Assign.render, Rhs.render, String.append_assoc]

/-- The assignment `dst = f(src)` of a conversion `f`, reading the state `r` and
writing the state `w`; no conversion is no statement. -/
def convAssign (rn : String → String) (conv : Option (Val → Option Val)) (src dst : String)
    (r w : String → Option Val) : Option (String → Option Val) :=
  match conv with
  | none => some w
  | some f => ((r (rn src)).bind f).map fun v => Function.update w (rn dst) (some v)

section Assignments

variable (rn : String → String)

@[simp] lemma convAssign_none (src dst : String) (r w : String → Option Val) :
    convAssign rn none src dst r w = some w := rfl

@[simp] lemma convAssign_some (f : Val → Option Val) (src dst : String)
    (r w : String → Option Val) :
    convAssign rn (some f) src dst r w =
      ((r (rn src)).bind f).map fun v => Function.update w (rn dst) (some v) := rfl

/-- An assignment reads only its source, and no conversion reads nothing. -/
lemma convAssign_read (conv : Option (Val → Option Val)) (src dst : String)
    {r r' : String → Option Val} (h : conv.isSome → r (rn src) = r' (rn src))
    (w : String → Option Val) :
    convAssign rn conv src dst r w = convAssign rn conv src dst r' w := by
  cases conv
  · rfl
  · simp only [convAssign_some, h rfl]

variable {rn}

/-- An assignment writes only its target. -/
lemma convAssign_frame {conv : Option (Val → Option Val)} {src dst : String}
    {r w w' : String → Option Val} (h : convAssign rn conv src dst r w = some w') {n : String}
    (hn : conv.isSome → n ≠ rn dst) : w' n = w n := by
  cases conv with
  | none => exact congrFun (Option.some.inj h).symm n
  | some f =>
    obtain ⟨v, -, rfl⟩ := Option.map_eq_some'.mp h
    exact Function.update_noteq (hn rfl) _ _

lemma foldl_bind_none {α β : Type} (f : α → β → Option β) (l : List α) :
    l.foldl (fun o a => o.bind (f a)) none = none := by
  induction l <;> simp [*]

variable (rn) {ι : Type} (conv : ι → Option (Val → Option Val)) (src dst : ι → String)

/-- Assignments of which none writes a later one's source run as one simultaneous
assignment, from any state that agrees with `r` on the sources still to be read. -/
lemma foldl_convAssign_eq (r : String → Option Val) (o : List ι)
    (hd : ∀ i ∈ o, ∀ j ∈ o, (conv i).isSome → (conv j).isSome → rn (dst i) ≠ rn (src j))
    (w : String → Option Val)
    (hw : ∀ i ∈ o, (conv i).isSome → w (rn (src i)) = r (rn (src i))) :
    o.foldl (fun e i => e.bind fun x => convAssign rn (conv i) (src i) (dst i) x x) (some w) =
      o.foldl (fun e i => e.bind (convAssign rn (conv i) (src i) (dst i) r)) (some w) := by
  induction o generalizing w with
  | nil => rfl
  | cons i o ih =>
    have hi := List.mem_cons_self i o
    simp only [List.foldl_cons, Option.some_bind, convAssign_read rn _ _ _ (hw i hi)]
    cases he : convAssign rn (conv i) (src i) (dst i) r w with
    | none => simp only [foldl_bind_none]
    | some w' =>
      refine ih (fun j hj k hk => hd j (.tail i hj) k (.tail i hk)) w' fun j hj hs => ?_
      rw [convAssign_frame he fun h => (hd i hi j (.tail i hj) h hs).symm, hw j (.tail i hj) hs]

/-- The simultaneous assignment of distinct targets ends in `env'` exactly when every
conversion succeeds, its target holds the result, and nothing else changes. -/
lemma foldl_convAssign_eq_some_iff (r : String → Option Val) {o : List ι} (ho : o.Nodup)
    (hdst : ∀ i ∈ o, ∀ j ∈ o, i ≠ j → (conv i).isSome → rn (dst i) ≠ rn (dst j))
    (w env' : String → Option Val) :
    o.foldl (fun e i => e.bind (convAssign rn (conv i) (src i) (dst i) r)) (some w) = some env' ↔
      (∀ i ∈ o, ∀ f, conv i = some f →
        ∃ v, (r (rn (src i))).bind f = some v ∧ env' (rn (dst i)) = some v) ∧
      ∀ n, (∀ i ∈ o, conv i ≠ none → n ≠ rn (dst i)) → env' n = w n := by
  induction o generalizing w with
  | nil =>
    simp only [List.foldl_nil, Option.some.injEq, List.not_mem_nil, false_implies,
      implies_true, true_and, forall_const]
    exact ⟨fun h => h ▸ fun _ => rfl, fun h => funext fun n => (h n).symm⟩
  | cons i o ih =>
    obtain ⟨hi, ho⟩ := List.nodup_cons.mp ho
    have hdst' := fun j hj k hk => hdst j (.tail i hj) k (.tail i hk)
    simp only [List.foldl_cons, Option.some_bind, List.forall_mem_cons]
    rcases hk : conv i with _ | f
    · simp only [convAssign_none, ih ho hdst', reduceCtorEq, false_implies, implies_true,
        true_and, ne_eq, not_true_eq_false]
    rcases hv : (r (rn (src i))).bind f with _ | v
    · simp only [convAssign_some, hv, Option.map_none', foldl_bind_none, reduceCtorEq,
        false_iff, not_and]
      exact fun h _ => by simpa [hv] using h.1 f rfl
    have hsep : ∀ j ∈ o, rn (dst i) ≠ rn (dst j) := fun j hj =>
      hdst i (List.mem_cons_self i o) j (.tail i hj) (ne_of_mem_of_not_mem hj hi).symm
        (by rw [hk]; rfl)
    simp only [convAssign_some, hv, Option.map_some', ih ho hdst']
    constructor
    · rintro ⟨hq, hn⟩
      have hiv : env' (rn (dst i)) = some v := by
        rw [hn _ fun j hj _ => hsep j hj, Function.update_same]
      exact ⟨⟨fun g hg => ⟨v, Option.some.inj hg ▸ hv, hiv⟩, hq⟩,
        fun n ⟨hni, hnq⟩ => by rw [hn n hnq, Function.update_noteq (hni (by simp))]⟩
    · rintro ⟨⟨hif, hq⟩, hn⟩
      refine ⟨hq, fun n hnq => ?_⟩
      by_cases h : n = rn (dst i)
      · obtain ⟨v', hv', hiv'⟩ := hif f rfl
        rw [h, Function.update_same, hiv', ← hv', hv]
      · rw [hn n ⟨fun _ => h, hnq⟩, Function.update_noteq h]

/-- The simultaneous assignment succeeds when every conversion of a value of `r` does. -/
lemma foldl_convAssign_isSome (r : String → Option Val) (o : List ι)
    (h : ∀ i ∈ o, ∀ f, conv i = some f → ((r (rn (src i))).bind f).isSome)
    (w : String → Option Val) :
    (o.foldl (fun e i => e.bind (convAssign rn (conv i) (src i) (dst i) r)) (some w)).isSome := by
  induction o generalizing w with
  | nil => rfl
  | cons i o ih =>
    obtain ⟨w', hw'⟩ : ∃ w', convAssign rn (conv i) (src i) (dst i) r w = some w' := by
      rcases hk : conv i with _ | f
      · exact ⟨w, rfl⟩
      · obtain ⟨v, hv⟩ := Option.isSome_iff_exists.mp (h i (List.mem_cons_self i o) f hk)
        exact ⟨_, by rw [convAssign_some, hv]; rfl⟩
    rw [List.foldl_cons, Option.some_bind, hw']
    exact ih (fun j hj => h j (.tail i hj)) w'

end Assignments

end FortranBindings
