import FortranBindings.Registry

/-!
# Declared intents

The classes state the intent of their parameter as an `INTENT(...)` attribute of the
declaration `declare()` prints. This module reads that attribute back, the argument of
the first `INTENT(` among the attributes before ` :: `, and tabulates it per class. The
reading is ours; a name with a `(` or a `:` in it could fake or hide an attribute, so the
results are for descriptors of plain names.
-/

namespace FortranBindings

open FortranType

/-- The attributes of a declaration: its text before the first `::`. -/
def attributes : List Char → List Char
  | [] => []
  | c :: rest => if c = ':' ∧ rest.head? = some ':' then [] else c :: attributes rest

/-- The argument of the first `INTENT(...)` in a text. -/
def findIntent : List Char → Option (List Char)
  | [] => none
  | c :: rest =>
    if c = 'I' ∧ rest.take 6 = ['N', 'T', 'E', 'N', 'T', '('] then
      some ((rest.drop 6).takeWhile (· != ')'))
    else findIntent rest

/-- The intent a declaration states, if it states one. -/
def declaredIntent (decl : String) : Option String :=
  (findIntent (attributes decl.data)).map String.mk

/-- A descriptor whose names cannot be read as part of an attribute: no `(` in
the parameter name, and neither `(` nor `:` in the count parameter. -/
def PlainNames (t : FortranType) : Prop :=
  '(' ∉ t.name.data ∧ ∀ c ∈ t.countParam, '(' ∉ c.data ∧ ':' ∉ c.data

instance (t : FortranType) : Decidable (PlainNames t) := inferInstanceAs (Decidable (_ ∧ _))

lemma attributes_cons_of_ne {c : Char} (s : List Char) (h : c ≠ ':') :
    attributes (c :: s) = c :: attributes s :=
  if_neg fun hp => h hp.1

lemma attributes_colons (r : List Char) : attributes (':' :: ':' :: r) = [] := rfl

lemma attributes_append {l : List Char} (r : List Char) (h : ':' ∉ l) :
    attributes (l ++ r) = l ++ attributes r := by
  induction l with
  | nil => rfl
  | cons c l ih =>
    rw [List.cons_append, attributes_cons_of_ne _ fun hc => h (hc ▸ List.mem_cons_self _ _),
      ih fun h' => h (List.mem_cons_of_mem _ h'), List.cons_append]

lemma mem_of_mem_attributes {l : List Char} {c : Char} (h : c ∈ attributes l) : c ∈ l := by
  induction l with
  | nil => exact h
  | cons x rest ih =>
    rw [attributes] at h
    split at h
    · exact absurd h (List.not_mem_nil c)
    · exact (List.mem_cons.mp h).elim (fun h => h ▸ List.mem_cons_self _ _)
        fun h => List.mem_cons_of_mem _ (ih h)

lemma findIntent_nil : findIntent [] = none := rfl

lemma findIntent_cons_of_ne {c : Char} (s : List Char) (h : c ≠ 'I') :
    findIntent (c :: s) = findIntent s :=
  if_neg fun hp => h hp.1

lemma findIntent_intent (r : List Char) :
    findIntent ('I' :: 'N' :: 'T' :: 'E' :: 'N' :: 'T' :: '(' :: r) =
      some (r.takeWhile (· != ')')) := rfl

/-- The type keyword `INTEGER` is not an intent. -/
lemma findIntent_integer (r : List Char) :
    findIntent ('I' :: 'N' :: 'T' :: 'E' :: 'G' :: r) = findIntent ('G' :: r) := rfl

lemma findIntent_eq_none {l : List Char} (h : '(' ∉ l) : findIntent l = none := by
  induction l with
  | nil => rfl
  | cons c rest ih =>
    have hp : ¬(c = 'I' ∧ rest.take 6 = ['N', 'T', 'E', 'N', 'T', '(']) := fun hp =>
      h (List.mem_cons_of_mem _ (List.mem_of_mem_take (hp.2 ▸ by decide : '(' ∈ rest.take 6)))
    rw [findIntent, if_neg hp, ih fun h' => h (List.mem_cons_of_mem _ h')]

lemma findIntent_attributes_eq_none {l : List Char} (h : '(' ∉ l) :
    findIntent (attributes l) = none :=
  findIntent_eq_none fun h' => h (mem_of_mem_attributes h')

/-- No intent starts in a text without an `I`. -/
lemma findIntent_append_of_not_mem {l : List Char} (r : List Char) (h : 'I' ∉ l) :
    findIntent (l ++ r) = findIntent r := by
  induction l with
  | nil => rfl
  | cons c l ih =>
    rw [List.cons_append, findIntent_cons_of_ne _ fun hc => h (hc ▸ List.mem_cons_self _ _),
      ih fun h' => h (List.mem_cons_of_mem _ h')]

/-- No intent starts in a text without a `(` that a `)` ends. -/
lemma findIntent_append_rparen {l : List Char} (r : List Char) (h : '(' ∉ l) :
    findIntent (l ++ ')' :: r) = findIntent (')' :: r) := by
  induction l with
  | nil => rfl
  | cons c l ih =>
    have hl : '(' ∉ l := fun h' => h (List.mem_cons_of_mem _ h')
    have hp : ¬(c = 'I' ∧ (l ++ ')' :: r).take 6 = ['N', 'T', 'E', 'N', 'T', '(']) :=
      fun hp => by
        obtain ⟨rest, he⟩ := hp.2 ▸ List.take_prefix 6 (l ++ ')' :: r)
        exact absurd (append_cons_eq_append_cons (y := ['N', 'T', 'E', 'N', 'T']) (by decide) hl
          he.symm).2.1 (by decide)
    rw [List.cons_append, findIntent, if_neg hp, ih hl]

section Templates

variable {h i iface c : String} (t : FortranType)

/-- A handle declaration states its intent in both interfaces, whatever the handle type. -/
lemma declaredIntent_handleDeclare (hh : '(' ∉ h.data ∧ ':' ∉ h.data)
    (hi : ')' ∉ i.data ∧ ':' ∉ i.data) : declaredIntent (handleDeclare h i t) = some i := by
  obtain ⟨hh₁, hh₂⟩ := hh
  obtain ⟨hi₁, hi₂⟩ := hi
  unfold handleDeclare
  split <;>
    simp (disch := first | decide | assumption) only [declaredIntent, declaration,
      String.data_append, List.append_assoc, List.cons_append, List.nil_append,
      attributes_cons_of_ne, attributes_append, attributes_colons, findIntent_cons_of_ne,
      findIntent_intent, findIntent_integer, findIntent_append_of_not_mem,
      findIntent_append_rparen, takeWhile_append_cons_of_not_mem, Option.map_some']

/-- A callback states no intent: a procedure of its interface, or `EXTERNAL`. -/
lemma declaredIntent_callbackDeclare (hi : '(' ∉ iface.data ∧ ':' ∉ iface.data)
    (hname : '(' ∉ t.name.data) : declaredIntent (callbackDeclare iface t) = none := by
  obtain ⟨hi₁, hi₂⟩ := hi
  unfold callbackDeclare
  split <;>
    simp (disch := first | decide | assumption) only [declaredIntent, declaration,
      String.data_append, List.append_assoc, List.cons_append, List.nil_append,
      attributes_cons_of_ne, attributes_append, attributes_colons, findIntent_cons_of_ne,
      findIntent_nil, findIntent_append_of_not_mem, findIntent_append_rparen,
      findIntent_attributes_eq_none, Option.map_none']

/-- The intent of a declaration is read from its specification alone. -/
lemma declaredIntent_declaration {s : String} (hs : ':' ∉ s.data) :
    declaredIntent (declaration s t) = (findIntent (s.data ++ [' '])).map String.mk := by
  simp (disch := first | decide | assumption) only [declaredIntent, declaration,
    String.data_append, List.append_assoc, List.cons_append, List.nil_append,
    attributes_cons_of_ne, attributes_append, attributes_colons]

lemma declaredIntent_arrayDeclaration {s : String} (size : String) (hs : ':' ∉ s.data) :
    declaredIntent (arrayDeclaration s size t) = (findIntent (s.data ++ [' '])).map String.mk := by
  simp (disch := first | decide | assumption) only [declaredIntent, arrayDeclaration,
    String.data_append, List.append_assoc, List.cons_append, List.nil_append,
    attributes_cons_of_ne, attributes_append, attributes_colons]

/-- The length of `CHAR_ARRAY_OUT` comes before its intent. -/
lemma declaredIntent_charLength (hc : '(' ∉ c.data ∧ ':' ∉ c.data) :
    declaredIntent (declaration ("CHARACTER(LEN=" ++ c ++ "), INTENT(OUT)") t) = some "OUT" := by
  obtain ⟨hc₁, hc₂⟩ := hc
  simp (disch := first | decide | assumption) only [declaredIntent, declaration,
    String.data_append, List.append_assoc, List.cons_append, List.nil_append,
    attributes_cons_of_ne, attributes_append, attributes_colons, findIntent_cons_of_ne,
    findIntent_append_rparen, findIntent_intent]
  rfl

end Templates

/-- The intent each class's declaration states, `none` where it states none. -/
def Kind.intent : Kind → Option String
  | .bufferType | .bufferAsyncType | .vBufferType | .wBufferType => some "IN"
  | .bufferOutType | .bufferAsyncOutType | .vBufferOutType | .wBufferOutType => none
  | .cptrType => some "OUT"
  | .countType => some "IN" | .countTypeInOut => some "INOUT" | .countTypeOut => some "OUT"
  | .partitionedCountType => some "IN"
  | .datatypeType => some "IN" | .datatypeTypeOut => some "OUT"
  | .datatypeTypeInOut => some "INOUT" | .datatypeArrayType => some "IN"
  | .intType => some "IN" | .intOutType => some "OUT" | .intInOutType => some "INOUT"
  | .rankType => some "IN" | .rankOutType => some "INOUT" | .tagType => some "IN"
  | .indexOutType => some "OUT"
  | .logicalType | .logicalArrayType => some "IN"
  | .logicalOutType | .logicalArrayOutType => some "OUT"
  | .commType | .groupType | .sessionType => some "IN"
  | .commOutType | .groupOutType | .sessionOutType => some "OUT"
  | .commInOutType | .groupInOutType | .sessionInOutType => some "INOUT"
  | .statusType => none | .statusOutType => some "OUT" | .statusInOutType => some "INOUT"
  | .requestType => some "IN" | .requestTypeOut => some "OUT"
  | .requestTypeInOut => some "INOUT"
  | .requestArrayType => some "IN" | .requestArrayTypeInOut => some "INOUT"
  | .statusArrayType => some "OUT"
  | .intArray => some "IN" | .intArrayOut => some "OUT" | .intArrayInOut => some "INOUT"
  | .countArray | .aintCountArray | .aint => some "IN" | .aintOut => some "OUT"
  | .aintCountTypeIn => some "IN" | .aintCountTypeInOut => some "INOUT"
  | .aintCountTypeOut => some "OUT" | .aintArrayType => some "IN"
  | .disp => some "IN" | .dispOut => some "OUT" | .dispArray => some "IN"
  | .op => some "IN" | .opInOut => some "INOUT"
  | .win => some "IN" | .winOut => some "OUT" | .winInOut => some "INOUT"
  | .file => some "IN" | .fileOut => some "OUT"
  | .info => some "IN" | .infoOut => some "OUT" | .infoInOut => some "INOUT"
  | .offset => some "IN" | .offsetOut => some "OUT"
  | .charArray => some "IN" | .charArrayOut => some "OUT"
  | .messageOut => some "OUT" | .messageInOut => some "INOUT"
  | .errhandlerType => some "IN" | .errhandlerOutType => some "OUT"
  | .errhandlerInOutType => some "INOUT"
  | .commErrhandlerFnTypeFirst | .commCopyAttrFnType | .typeCopyAttrFnType
  | .winCopyAttrFnType | .commDeleteAttrFnType | .typeDeleteAttrFnType | .winDeleteAttrFnType
  | .commErrhandlerFnType | .fileErrhandlerFnType | .sessionErrhandlerFnType
  | .winErrhandlerFnType | .dataRepConversionFnType | .dataRepExtentFnType => none

/-- Each class states one intent in its declaration, whatever the interface, the
width and the names. -/
theorem declaredIntent_declare (k : Kind) {t : FortranType} (ht : PlainNames t) :
    declaredIntent (k.cls.declare t) = k.intent := by
  obtain ⟨name, fnName, bigcount, countParam, genF90, used⟩ := t
  obtain ⟨hname, hcount⟩ := ht
  cases k
  case datatypeType | datatypeTypeOut | datatypeTypeInOut | commType | commOutType
    | commInOutType | groupType | groupOutType | groupInOutType | sessionType | sessionOutType
    | sessionInOutType | requestType | requestTypeOut | op | opInOut | win | winOut | winInOut
    | file | fileOut | info | infoOut | infoInOut | messageOut | messageInOut | errhandlerType
    | errhandlerOutType | errhandlerInOutType =>
    exact declaredIntent_handleDeclare _ ⟨by decide, by decide⟩ ⟨by decide, by decide⟩
  case commErrhandlerFnTypeFirst | commCopyAttrFnType | typeCopyAttrFnType | winCopyAttrFnType
    | commDeleteAttrFnType | typeDeleteAttrFnType | winDeleteAttrFnType | commErrhandlerFnType
    | fileErrhandlerFnType | sessionErrhandlerFnType | winErrhandlerFnType
    | dataRepConversionFnType | dataRepExtentFnType =>
    exact declaredIntent_callbackDeclare _ ⟨by decide, by decide⟩ hname
  case charArrayOut =>
    cases countParam with
    | none => rfl
    | some c => exact declaredIntent_charLength _ (hcount c rfl)
  case logicalArrayType | logicalArrayOutType | intArray | intArrayOut | intArrayInOut
    | aintArrayType =>
    exact (declaredIntent_arrayDeclaration _ _ (by decide)).trans rfl
  case countArray | aintCountArray | dispArray =>
    cases bigcount <;>
      exact (declaredIntent_arrayDeclaration _ _ (by exact of_decide_eq_true rfl)).trans rfl
  case countType | countTypeInOut | countTypeOut | aintCountTypeIn | aintCountTypeInOut
    | aintCountTypeOut | disp | dispOut =>
    cases bigcount <;>
      exact (declaredIntent_declaration _ (by exact of_decide_eq_true rfl)).trans rfl
  case datatypeArrayType | requestArrayType | requestArrayTypeInOut | statusArrayType =>
    cases genF90 <;> exact (declaredIntent_arrayDeclaration _ _ (by decide)).trans rfl
  case statusType | statusOutType | statusInOutType =>
    cases genF90
    · exact (declaredIntent_declaration _ (by decide)).trans rfl
    · exact (declaredIntent_arrayDeclaration _ _ (by decide)).trans rfl
  all_goals exact (declaredIntent_declaration _ (by decide)).trans rfl

end FortranBindings
