import FortranBindings.DeclaredTypes
import FortranBindings.Conversions

/-!
# Typing the generated code

`argument()` is the actual argument of the call to the shim, whose interface declares the
matching dummy with `declare_cbinding_fortran()`. This module types an argument expression
in a scope of declarations, with Fortran's rule for passing it: the dummy's type, kind and
shape, but that a character scalar may be passed to a character array by sequence
association, and a dummy that ignores type, kind and rank takes anything. It also types
the values of `Conversions` and states the entry state of a generated procedure, in which
an `INTENT(OUT)` dummy is undefined.
-/

namespace FortranBindings

open FortranType

/-- The derived types of `mpi_f08` that hold a handle in an `INTEGER :: MPI_VAL`
component. -/
def mpiHandleTypes : List String :=
  ["MPI_Comm", "MPI_Datatype", "MPI_Errhandler", "MPI_File", "MPI_Group", "MPI_Info",
    "MPI_Message", "MPI_Op", "MPI_Request", "MPI_Session", "MPI_Win"]

def FType.hasMpiVal : FType → Bool
  | .derived h => mpiHandleTypes.contains h
  | _ => false

/-- What the declarations of the generated procedure say of a name: the first of
`declare()` and `declare_tmp()` that declares it. -/
def FortranClass.scope (c : FortranClass) (t : FortranType) (n : String) :
    Option (FType × Bool) :=
  [c.declare t, c.declareTmp t].findSome? fun d =>
    (readDecl d).bind fun e => if e.1 = n then some e.2 else none

/-- The type a suffix gives to the variable it follows: none, the `MPI_VAL`
component of a handle or of every handle of an array, or a string with its
terminator appended. -/
def suffixType (rest : List Char) (d : FType × Bool) : Option (FType × Bool) :=
  if rest = [] then some d
  else if rest = "%MPI_VAL".data ∧ d.1.hasMpiVal ∧ d.2 = false then some (.integer none, false)
  else if rest = "(:)%MPI_VAL".data ∧ d.1.hasMpiVal ∧ d.2 = true then some (.integer none, true)
  else if rest = "//c_null_char".data ∧ d = (.character, false) then some (.character, false)
  else none

/-- The type of an argument expression: a variable, then a suffix. -/
def argType (Γ : String → Option (FType × Bool)) (e : String) : Option (FType × Bool) :=
  let name := e.data.takeWhile identChar
  (Γ ⟨name⟩).bind (suffixType (e.data.drop name.length))

/-- Whether an actual argument may be passed to a dummy. -/
def Agrees (a d : FType × Bool) : Bool :=
  d.1 == .ignoreTKR || (a.1 == d.1 && (a.2 == d.2 || (a.1 == .character && d.2)))

/-- The expressions `argument()` returns. -/
inductive ArgForm
  | name
  | tmp
  | mpiVal
  | arrayMpiVal
  | nullTerminated
  deriving DecidableEq, Repr

def ArgForm.render : ArgForm → FortranType → String
  | .name, t => t.name
  | .tmp, t => t.tmpName
  | .mpiVal, t => FortranBindings.mpiVal t
  | .arrayMpiVal, t => t.name ++ "(:)%MPI_VAL"
  | .nullTerminated, t => t.name ++ "//c_null_char"

def ArgForm.suffix : ArgForm → List Char
  | .mpiVal => "%MPI_VAL".data
  | .arrayMpiVal => "(:)%MPI_VAL".data
  | .nullTerminated => "//c_null_char".data
  | _ => []

/-- The expression each class passes, by interface. -/
def Kind.argForm (k : Kind) (genF90 : Bool) : ArgForm :=
  let handle := if genF90 = false then ArgForm.mpiVal else .name
  match k with
  | .logicalType | .logicalArrayType | .logicalOutType | .logicalArrayOutType
  | .commCopyAttrFnType | .typeCopyAttrFnType | .winCopyAttrFnType | .commDeleteAttrFnType
  | .typeDeleteAttrFnType | .winDeleteAttrFnType | .commErrhandlerFnType
  | .fileErrhandlerFnType | .sessionErrhandlerFnType | .winErrhandlerFnType
  | .dataRepConversionFnType | .dataRepExtentFnType => .tmp
  | .commType | .commOutType | .commInOutType | .groupType | .groupOutType | .groupInOutType
  | .sessionType | .sessionOutType | .sessionInOutType => .mpiVal
  | .datatypeType | .datatypeTypeOut | .datatypeTypeInOut | .requestType | .requestTypeOut
  | .requestTypeInOut | .op | .opInOut | .win | .winOut | .winInOut | .errhandlerType
  | .errhandlerOutType | .errhandlerInOutType | .commErrhandlerFnTypeFirst => handle
  | .requestArrayType | .requestArrayTypeInOut =>
    if genF90 = false then .arrayMpiVal else .name
  | .charArray => .nullTerminated
  | _ => .name

lemma argument_eq_render (k : Kind) (t : FortranType) :
    k.cls.argument t = (k.argForm t.genF90).render t := by
  obtain ⟨name, fnName, bigcount, countParam, genF90, used⟩ := t
  cases k <;> cases genF90 <;> rfl

/-- The type of the argument each class passes, read from its declarations. -/
def Kind.argType (k : Kind) (genF90 bigcount : Bool) : Option (FType × Bool) :=
  match k.argForm genF90 with
  | .tmp => k.tmpType
  | f => suffixType f.suffix (k.declType genF90 bigcount)

/-- Whether the argument each class passes agrees with its shim dummy. -/
def Kind.argumentAgrees (k : Kind) (genF90 bigcount : Bool) : Bool :=
  (k.argType genF90 bigcount).any fun a => Agrees a (k.dummyType genF90 bigcount)

/-- The argument of every class agrees with its shim dummy, in both interfaces and at
both widths, except in the classes named. -/
lemma argumentAgrees_eq_true_iff (k : Kind) (genF90 bigcount : Bool) :
    k.argumentAgrees genF90 bigcount = true ↔
      ¬ (k = Kind.commErrhandlerFnTypeFirst ∨
        genF90 = true ∧ k ∈ [Kind.commType, Kind.commOutType, Kind.commInOutType,
          Kind.groupType, Kind.groupOutType, Kind.groupInOutType, Kind.sessionType,
          Kind.sessionOutType, Kind.sessionInOutType, Kind.requestTypeInOut,
          Kind.requestArrayTypeInOut] ∨
        genF90 = false ∧ k = Kind.fileOut) := by
  revert genF90 bigcount
  cases k <;> decide

lemma argType_append (Γ : String → Option (FType × Bool)) {n : String}
    (hn : ∀ c ∈ n.data, identChar c = true) {r : List Char}
    (hr : ∀ c ∈ r.head?, identChar c = false) :
    argType Γ ⟨n.data ++ r⟩ = (Γ n).bind (suffixType r) := by
  simp only [argType, takeWhile_identChar_append hn hr, List.drop_left]

lemma argType_name (Γ : String → Option (FType × Bool)) {n : String}
    (hn : ∀ c ∈ n.data, identChar c = true) : argType Γ n = Γ n := by
  have h := argType_append Γ hn (r := []) (by simp)
  simp only [List.append_nil, suffixType, if_true] at h
  exact h.trans (Option.bind_some _)

lemma argType_render (Γ : String → Option (FType × Bool)) (f : ArgForm) {t : FortranType}
    (hn : FortranName t.name) :
    argType Γ (f.render t) = match f with
      | .tmp => Γ t.tmpName
      | f => (Γ t.name).bind (suffixType f.suffix) := by
  cases f
  case tmp => exact argType_name Γ hn.tmpName.2
  case name => simpa [ArgForm.suffix, suffixType] using argType_name Γ hn.2
  all_goals exact argType_append Γ hn.2 (by decide)

lemma scope_name (k : Kind) {t : FortranType} (ht : WellNamed t) :
    k.cls.scope t t.name = some (k.declType t.genF90 t.bigcount) := by
  simp [FortranClass.scope, readDecl_declare k ht]

lemma scope_tmpName (k : Kind) {t : FortranType} (ht : WellNamed t) :
    k.cls.scope t t.tmpName = k.tmpType := by
  simp only [FortranClass.scope, List.findSome?, readDecl_declare k ht,
    readDecl_declareTmp k ht, Option.some_bind, if_neg (name_ne_tmpName t)]
  cases k.tmpType <;> simp

/-- Whether a value is one of a declared type and shape. -/
def Val.hasType : Val → FType × Bool → Bool
  | .logical _, (.logical, false) => true
  | .logicals _, (.logical, true) => true
  | .integer _, (.integer _, false) => true
  | .integers _, (.integer _, true) => true
  | .procedure _, (.procedure, false) => true
  | .funptr _, (.derived "c_funptr", false) => true
  | _, _ => false

/-- Every defined variable holds a value of its declared type and shape. -/
def StoreTyped (rn : String → String) (Γ : String → Option (FType × Bool))
    (env : String → Option Val) : Prop :=
  ∀ n d v, Γ n = some d → env (rn n) = some v → v.hasType d = true

/-- A state on entry to the generated procedure: every defined variable holds a value
of its type, and the dummy argument is defined unless it is `INTENT(OUT)`. -/
def FortranClass.EntryState (rn : String → String) (c : FortranClass) (t : FortranType)
    (env : String → Option Val) : Prop :=
  StoreTyped rn (c.scope t) env ∧
    ((env (rn t.name)).isSome = true ↔ declaredIntent (c.declare t) ≠ some "OUT")

lemma encode_hasType {v : Val} {a : Bool} (h : v.hasType (.logical, a) = true) :
    ∃ w, encode v = some w ∧ ∀ d ∈ some (FType.integer none, a), w.hasType d = true := by
  cases v <;> cases a <;>
    first | exact absurd h Bool.false_ne_true | exact ⟨_, rfl, fun _ hd => by cases hd; rfl⟩

lemma funptrOf_hasType {v : Val} (h : v.hasType (.procedure, false) = true) :
    ∃ w, funptrOf v = some w ∧ ∀ d ∈ some (FType.derived "c_funptr", false),
      w.hasType d = true := by
  cases v <;>
    first | exact absurd h Bool.false_ne_true | exact ⟨_, rfl, fun _ hd => by cases hd; rfl⟩

end FortranBindings
