import FortranBindings.Intents

/-!
# The types the declarations declare

`declare()`, `declare_tmp()` and `declare_cbinding_fortran()` print a Fortran declaration:
a specification, `::`, the entity and, for an array, its bounds; or `EXTERNAL` and a name.
This module reads such a line back into its entity, type and shape, and proves that every
class's declarations read back as three tables, one per method. The reading is ours and
keeps what a call compares: an integer's kind, a derived type's name, and whether the
entity is an array.
-/

namespace FortranBindings

open FortranType

/-- The types the catalogue declares, told apart as a call compares them. -/
inductive FType
  | integer (kind : Option String)
  | logical
  | character
  | derived (name : String)
  | procedure
  /-- `OMPI_F08_IGNORE_TKR_TYPE`: a dummy that accepts any type, kind and rank. -/
  | ignoreTKR
  deriving DecidableEq, Repr

/-- A character of a Fortran name. -/
def identChar (c : Char) : Bool := c.isAlphanum || c == '_'

/-- A Fortran name: a letter, then letters, digits and underscores. -/
def FortranName (s : String) : Prop :=
  s.data.head?.any Char.isAlpha = true ∧ ∀ c ∈ s.data, identChar c = true

instance (s : String) : Decidable (FortranName s) := inferInstanceAs (Decidable (_ ∧ _))

/-- The type a specification starts with: its first word, up to a `,` or a blank. -/
def specType (spec : List Char) : Option FType :=
  let word := spec.takeWhile fun c => c != ',' && c != ' '
  if word = "INTEGER".data then some (.integer none)
  else if "INTEGER(KIND=".data.isPrefixOf word then
    some (.integer (some ⟨(word.drop 13).takeWhile (· != ')')⟩))
  else if "INTEGER(".data.isPrefixOf word then
    some (.integer (some ⟨(word.drop 8).takeWhile (· != ')')⟩))
  else if word = "LOGICAL".data then some .logical
  else if "CHARACTER(".data.isPrefixOf word then some .character
  else if "TYPE(".data.isPrefixOf word || "type(".data.isPrefixOf word then
    some (.derived ⟨(word.drop 5).takeWhile (· != ')')⟩)
  else if "PROCEDURE(".data.isPrefixOf word then some .procedure
  else if word = "OMPI_F08_IGNORE_TKR_TYPE".data then some .ignoreTKR
  else none

/-- The text before and after the first `::`. -/
def splitColons : List Char → Option (List Char × List Char)
  | [] => none
  | c :: rest =>
    if c = ':' ∧ rest.head? = some ':' then some ([], rest.drop 1)
    else (splitColons rest).map fun p => (c :: p.1, p.2)

/-- The entity after the `::`: its name, and whether a bound follows it. -/
def entity (r : List Char) : String × Bool :=
  let e := r.dropWhile (· == ' ')
  let name := e.takeWhile identChar
  (⟨name⟩, (e.drop name.length).head? == some '(')

/-- Reads a declaration line, `<spec> :: <name>[(<bounds>)][ = <value>]` or
`EXTERNAL <name>`, into the entity, its type and whether it is an array. -/
def readDecl (decl : String) : Option (String × FType × Bool) :=
  match splitColons decl.data with
  | some (spec, r) => (specType spec).map fun ty => ((entity r).1, ty, (entity r).2)
  | none =>
    if "EXTERNAL ".data.isPrefixOf decl.data then
      some ((entity (decl.data.drop 9)).1, .procedure, false)
    else none

example : readDecl "INTEGER(KIND=MPI_COUNT_KIND), INTENT(IN) :: count" =
    some ("count", .integer (some "MPI_COUNT_KIND"), false) := rfl

example : readDecl "INTEGER, INTENT(OUT) :: status(MPI_STATUS_SIZE,*)" =
    some ("status", .integer none, true) := rfl

lemma splitColons_append_colons {l : List Char} (r : List Char) (h : ':' ∉ l) :
    splitColons (l ++ ':' :: ':' :: r) = some (l, r) := by
  induction l with
  | nil => rfl
  | cons c l ih =>
    have hc : c ≠ ':' := fun hc => h (hc ▸ List.mem_cons_self _ _)
    rw [List.cons_append, splitColons, if_neg fun hp => hc hp.1,
      ih fun h' => h (List.mem_cons_of_mem _ h')]
    rfl

lemma splitColons_eq_none {l : List Char} (h : ':' ∉ l) : splitColons l = none := by
  induction l with
  | nil => rfl
  | cons c l ih =>
    have hc : c ≠ ':' := fun hc => h (hc ▸ List.mem_cons_self _ _)
    rw [splitColons, if_neg fun hp => hc hp.1, ih fun h' => h (List.mem_cons_of_mem _ h')]
    rfl

/-- A name stops at the first character that cannot continue it. -/
lemma takeWhile_identChar_append {l r : List Char} (hl : ∀ c ∈ l, identChar c = true)
    (hr : ∀ c ∈ r.head?, identChar c = false) : (l ++ r).takeWhile identChar = l := by
  rw [List.takeWhile_append_of_pos hl]
  cases r with
  | nil => exact List.append_nil _
  | cons b r => rw [List.takeWhile_cons_of_neg (by simpa using hr b rfl), List.append_nil]

lemma entity_append {l r : List Char} (hl : l ≠ []) (hident : ∀ c ∈ l, identChar c = true)
    (hr : ∀ c ∈ r.head?, identChar c = false) :
    entity (l ++ r) = (⟨l⟩, r.head? == some '(') := by
  obtain ⟨a, l', rfl⟩ := List.exists_cons_of_ne_nil hl
  have ha : ¬ (a == ' ') = true := fun h =>
    absurd (beq_iff_eq.mp h ▸ hident a (List.mem_cons_self _ _)) (by decide)
  have hdrop : (a :: l' ++ r).dropWhile (· == ' ') = a :: l' ++ r :=
    List.dropWhile_cons_of_neg ha
  simp only [entity, hdrop, takeWhile_identChar_append hident hr, List.drop_left]

lemma entity_blanks {pre : List Char} (l : List Char) (h : ∀ c ∈ pre, c = ' ') :
    entity (pre ++ l) = entity l := by
  induction pre with
  | nil => rfl
  | cons c pre ih =>
    rw [h c (List.mem_cons_self _ _), List.cons_append,
      show entity (' ' :: (pre ++ l)) = entity (pre ++ l) from rfl,
      ih fun c hc => h c (List.mem_cons_of_mem _ hc)]

lemma paren_not_identChar (l : List Char) : ∀ c ∈ ('(' :: l).head?, identChar c = false :=
  fun _ hc => Option.some_inj.mp hc ▸ rfl

lemma identChar_ne {c : Char} (h : identChar c = true) :
    c ≠ ',' ∧ c ≠ ' ' ∧ c ≠ ')' ∧ c ≠ ':' :=
  ⟨fun hc => absurd (hc ▸ h) (by decide), fun hc => absurd (hc ▸ h) (by decide),
    fun hc => absurd (hc ▸ h) (by decide), fun hc => absurd (hc ▸ h) (by decide)⟩

lemma colon_not_mem {s : String} (h : ∀ c ∈ s.data, identChar c = true) : ':' ∉ s.data :=
  fun hc => (identChar_ne (h _ hc)).2.2.2 rfl

lemma FortranName.ne_nil {n : String} (hn : FortranName n) : n.data ≠ [] := fun h => by
  simp [FortranName, h] at hn

lemma FortranName.blank_not_mem {n : String} (hn : FortranName n) : ' ' ∉ n.data :=
  fun h => (identChar_ne (hn.2 _ h)).2.1 rfl

lemma FortranName.tmpName {t : FortranType} (hn : FortranName t.name) :
    FortranName t.tmpName :=
  ⟨rfl, fun c hc => by
    simp only [FortranType.tmpName, String.data_append, List.mem_append] at hc
    rcases hc with hc | hc
    · rcases List.mem_pair.mp hc with rfl | rfl <;> rfl
    · exact hn.2 c hc⟩

/-- A declaration of a Fortran name, read back. -/
lemma readDecl_eq {d n : String} {s p r : List Char}
    (hd : d.data = s ++ ':' :: ':' :: (p ++ n.data ++ r)) (hs : ':' ∉ s)
    (hp : ∀ c ∈ p, c = ' ') (hn : FortranName n)
    (hr : ∀ c ∈ r.head?, identChar c = false) :
    readDecl d = (specType s).map fun ty => (n, ty, r.head? == some '(') := by
  rw [readDecl, hd, splitColons_append_colons _ hs]
  simp only [List.append_assoc, entity_blanks _ hp, entity_append hn.ne_nil hn.2 hr]

lemma specWord_append {l : List Char} (r : List Char) (h : ∀ c ∈ l, c ≠ ',' ∧ c ≠ ' ') :
    (l ++ r).takeWhile (fun c => c != ',' && c != ' ') =
      l ++ r.takeWhile (fun c => c != ',' && c != ' ') :=
  List.takeWhile_append_of_pos fun c hc => by simp [h c hc]

lemma specType_integer (r : List Char) :
    specType ("INTEGER".data ++ ',' :: r) = some (.integer none) := by
  simp [specType, specWord_append]

lemma specType_character (r : List Char) :
    specType ("CHARACTER(".data ++ r) = some .character := by
  simp [specType, specWord_append]

lemma specType_procedure (r : List Char) :
    specType ("PROCEDURE(".data ++ r) = some .procedure := by
  simp [specType, specWord_append]

lemma specType_type {h : String} (r : List Char)
    (hh : ∀ c ∈ h.data, c ≠ ',' ∧ c ≠ ' ' ∧ c ≠ ')') :
    specType ("TYPE(".data ++ h.data ++ ')' :: r) = some (.derived h) := by
  have hw := specWord_append (l := h.data) (')' :: r) fun c hc => ⟨(hh c hc).1, (hh c hc).2.1⟩
  have hr : ')' ∉ h.data := fun hc => (hh _ hc).2.2 rfl
  simp [specType, specWord_append, hw, takeWhile_append_cons_of_not_mem _ hr]

section Templates

variable (t : FortranType) (hn : FortranName t.name)
include hn

lemma readDecl_declaration {s : String} (hs : ':' ∉ s.data) :
    readDecl (declaration s t) = (specType (s.data ++ [' '])).map fun ty => (t.name, ty, false) :=
  readDecl_eq (p := [' ']) (r := []) (by simp [declaration]) (by simpa using hs) (by simp) hn
    (by simp)

lemma readDecl_arrayDeclaration {s : String} (size : String) (hs : ':' ∉ s.data) :
    readDecl (arrayDeclaration s size t) =
      (specType (s.data ++ [' '])).map fun ty => (t.name, ty, true) :=
  readDecl_eq (p := [' ']) (r := '(' :: (size.data ++ [')'])) (by simp [arrayDeclaration])
    (by simpa using hs) (by simp) hn (paren_not_identChar _)

lemma readDecl_external : readDecl ("EXTERNAL " ++ t.name) = some (t.name, .procedure, false) := by
  have hc : ':' ∉ ("EXTERNAL " ++ t.name).data := fun h => by
    simp only [String.data_append, List.mem_append] at h
    exact h.elim (by decide) fun h => absurd (hn.2 _ h) (by decide)
  have he := entity_append (r := []) hn.ne_nil hn.2 (by simp)
  simp only [List.append_nil] at he
  have hp : "EXTERNAL ".data.isPrefixOf ("EXTERNAL " ++ t.name).data = true :=
    List.isPrefixOf_iff_prefix.mpr (List.prefix_append _ _)
  rw [readDecl, splitColons_eq_none hc]
  dsimp only
  rw [if_pos hp, String.data_append, show 9 = "EXTERNAL ".data.length from rfl, List.drop_left,
    he]

/-- A handle is declared with its `mpi_f08` type, or as an `INTEGER` under `gen_f90`. -/
lemma readDecl_handleDeclare {h i : String} (hh : ∀ c ∈ h.data, identChar c = true)
    (hi : ∀ c ∈ i.data, identChar c = true) :
    readDecl (handleDeclare h i t) =
      some (t.name, if t.genF90 = false then .derived h else .integer none, false) := by
  have hh' := fun c hc => identChar_ne (hh c hc)
  unfold handleDeclare
  split
  · have hd : ("TYPE(" ++ h ++ "), INTENT(" ++ i ++ ")").data ++ [' '] =
        "TYPE(".data ++ h.data ++ ')' :: (", INTENT(".data ++ i.data ++ [')', ' ']) := by simp
    rw [readDecl_declaration t hn (by simp [colon_not_mem hh, colon_not_mem hi]), hd,
      specType_type _ fun c hc => ⟨(hh' c hc).1, (hh' c hc).2.1, (hh' c hc).2.2.1⟩]
    rfl
  · have hd : ("INTEGER, INTENT(" ++ i ++ ")").data ++ [' '] =
        "INTEGER".data ++ ',' :: (" INTENT(".data ++ i.data ++ [')', ' ']) := by simp
    rw [readDecl_declaration t hn (by simp [colon_not_mem hi]), hd, specType_integer]
    rfl

lemma readDecl_handleCbinding {i : String} (hi : ∀ c ∈ i.data, identChar c = true) :
    readDecl (handleCbinding i t) = some (t.name, .integer none, false) := by
  have hd : ("INTEGER, INTENT(" ++ i ++ ")").data ++ [' '] =
      "INTEGER".data ++ ',' :: (" INTENT(".data ++ i.data ++ [')', ' ']) := by simp
  rw [handleCbinding, readDecl_declaration t hn (by simp [colon_not_mem hi]), hd,
    specType_integer]
  rfl

/-- A callback is declared as a procedure in both interfaces. -/
lemma readDecl_callbackDeclare {iface : String} (hi : ':' ∉ iface.data) :
    readDecl (callbackDeclare iface t) = some (t.name, .procedure, false) := by
  unfold callbackDeclare
  split
  · have hd : ("PROCEDURE(" ++ iface ++ ")").data ++ [' '] =
        "PROCEDURE(".data ++ (iface.data ++ [')', ' ']) := by simp
    rw [readDecl_declaration t hn (by simp [hi]), hd, specType_procedure]
    rfl
  · exact readDecl_external t hn

/-- The length of the output string is part of its type, not of its name. -/
lemma readDecl_charLength {c : String} (hc : ':' ∉ c.data) :
    readDecl (declaration ("CHARACTER(LEN=" ++ c ++ "), INTENT(OUT)") t) =
      some (t.name, .character, false) := by
  have hd : ("CHARACTER(LEN=" ++ c ++ "), INTENT(OUT)").data ++ [' '] =
      "CHARACTER(".data ++ ("LEN=".data ++ c.data ++ "), INTENT(OUT) ".data) := by simp
  rw [readDecl_declaration t hn (by simp [hc]), hd, specType_character]
  rfl

end Templates

section Temporaries

variable (t : FortranType) (hn : FortranName t.tmpName)
include hn

lemma readDecl_integerTmp :
    readDecl ("INTEGER :: " ++ t.tmpName ++ " = 0") = some (t.tmpName, .integer none, false) :=
  readDecl_eq (s := "INTEGER ".data) (p := [' ']) (r := " = 0".data) (by simp) (by decide)
    (by simp) hn (by decide)

lemma readDecl_integerArrayTmp (size : String) :
    readDecl ("INTEGER :: " ++ t.tmpName ++ "(" ++ size ++ ")") =
      some (t.tmpName, .integer none, true) :=
  readDecl_eq (s := "INTEGER ".data) (p := [' ']) (r := '(' :: (size.data ++ [')']))
    (by simp) (by decide) (by simp) hn (paren_not_identChar _)

lemma readDecl_funptrTmp :
    readDecl ("type(c_funptr) :: " ++ t.tmpName) = some (t.tmpName, .derived "c_funptr", false) :=
  readDecl_eq (s := "type(c_funptr) ".data) (p := [' ']) (r := []) (by simp) (by decide)
    (by simp) hn (by simp)

/-- The copy-attribute callbacks write their temporary's declaration without blanks. -/
lemma readDecl_funptrTmpUnspaced :
    readDecl ("type(c_funptr)::" ++ t.tmpName) = some (t.tmpName, .derived "c_funptr", false) :=
  readDecl_eq (s := "type(c_funptr)".data) (p := []) (r := []) (by simp) (by decide)
    (by simp) hn (by simp)

end Temporaries

/-- A descriptor as a driver builds one: its parameter is a Fortran name and its
count parameter holds no `(` or `:`. -/
def WellNamed (t : FortranType) : Prop := FortranName t.name ∧ PlainNames t

instance (t : FortranType) : Decidable (WellNamed t) := inferInstanceAs (Decidable (_ ∧ _))

lemma arraySize_colon {t : FortranType} (ht : PlainNames t) : ':' ∉ (arraySize t).data := by
  unfold arraySize
  cases h : t.countParam with
  | none => decide
  | some c => exact (ht.2 c h).2

/-- The type and shape of each class's dummy argument, by interface and width. -/
def Kind.declType (k : Kind) (genF90 bigcount : Bool) : FType × Bool :=
  let handle (h : String) : FType := if genF90 = false then .derived h else .integer none
  let wide (w n : Option String) : FType := .integer (if bigcount then w else n)
  match k with
  | .bufferType | .bufferAsyncType | .bufferOutType | .bufferAsyncOutType | .vBufferType
  | .vBufferOutType | .wBufferType | .wBufferOutType => (.ignoreTKR, false)
  | .cptrType => (.derived "C_PTR", false)
  | .countType | .countTypeInOut | .countTypeOut => (wide (some "MPI_COUNT_KIND") none, false)
  | .partitionedCountType => (.integer (some "MPI_COUNT_KIND"), false)
  | .datatypeType | .datatypeTypeOut | .datatypeTypeInOut => (handle "MPI_Datatype", false)
  | .datatypeArrayType => (handle "MPI_Datatype", true)
  | .intType | .intOutType | .intInOutType | .rankType | .rankOutType | .tagType
  | .indexOutType => (.integer none, false)
  | .logicalType | .logicalOutType => (.logical, false)
  | .logicalArrayType | .logicalArrayOutType => (.logical, true)
  | .commType | .commOutType | .commInOutType => (handle "MPI_Comm", false)
  | .groupType | .groupOutType | .groupInOutType => (handle "MPI_Group", false)
  | .sessionType | .sessionOutType | .sessionInOutType => (handle "MPI_Session", false)
  | .statusType | .statusOutType | .statusInOutType =>
    if genF90 = false then (.derived "MPI_Status", false) else (.integer none, true)
  | .requestType | .requestTypeOut => (handle "MPI_Request", false)
  | .requestTypeInOut => (.derived "MPI_Request", false)
  | .requestArrayType => (handle "MPI_Request", true)
  | .requestArrayTypeInOut => (.derived "MPI_Request", true)
  | .statusArrayType => (handle "MPI_Status", true)
  | .intArray | .intArrayOut | .intArrayInOut => (.integer none, true)
  | .countArray => (wide (some "MPI_COUNT_KIND") none, true)
  | .aintCountArray => (wide (some "MPI_COUNT_KIND") (some "MPI_ADDRESS_KIND"), true)
  | .aint | .aintOut => (.integer (some "MPI_ADDRESS_KIND"), false)
  | .aintCountTypeIn | .aintCountTypeInOut | .aintCountTypeOut =>
    (wide (some "MPI_COUNT_KIND") (some "MPI_ADDRESS_KIND"), false)
  | .aintArrayType => (.integer (some "MPI_ADDRESS_KIND"), true)
  | .disp | .dispOut => (wide (some "MPI_ADDRESS_KIND") none, false)
  | .dispArray => (wide (some "MPI_ADDRESS_KIND") none, true)
  | .op | .opInOut => (handle "MPI_Op", false)
  | .win | .winOut | .winInOut => (handle "MPI_Win", false)
  | .file | .fileOut => (handle "MPI_File", false)
  | .info | .infoOut | .infoInOut => (handle "MPI_Info", false)
  | .offset | .offsetOut => (.integer (some "MPI_OFFSET_KIND"), false)
  | .charArray | .charArrayOut => (.character, false)
  | .messageOut | .messageInOut => (handle "MPI_Message", false)
  | .errhandlerType | .errhandlerOutType | .errhandlerInOutType =>
    (handle "MPI_Errhandler", false)
  | .commErrhandlerFnTypeFirst | .commCopyAttrFnType | .typeCopyAttrFnType
  | .winCopyAttrFnType | .commDeleteAttrFnType | .typeDeleteAttrFnType | .winDeleteAttrFnType
  | .commErrhandlerFnType | .fileErrhandlerFnType | .sessionErrhandlerFnType
  | .winErrhandlerFnType | .dataRepConversionFnType | .dataRepExtentFnType => (.procedure, false)

/-- Each class's declaration declares its parameter, with the type and shape of the table. -/
theorem readDecl_declare (k : Kind) {t : FortranType} (ht : WellNamed t) :
    readDecl (k.cls.declare t) = some (t.name, k.declType t.genF90 t.bigcount) := by
  obtain ⟨hn, hpl⟩ := ht
  obtain ⟨name, fnName, bigcount, countParam, genF90, used⟩ := t
  cases k
  case datatypeType | datatypeTypeOut | datatypeTypeInOut | commType | commOutType
    | commInOutType | groupType | groupOutType | groupInOutType | sessionType | sessionOutType
    | sessionInOutType | requestType | requestTypeOut | op | opInOut | win | winOut | winInOut
    | file | fileOut | info | infoOut | infoInOut | messageOut | messageInOut | errhandlerType
    | errhandlerOutType | errhandlerInOutType =>
    exact readDecl_handleDeclare _ hn (by decide) (by decide)
  case commErrhandlerFnTypeFirst | commCopyAttrFnType | typeCopyAttrFnType | winCopyAttrFnType
    | commDeleteAttrFnType | typeDeleteAttrFnType | winDeleteAttrFnType | commErrhandlerFnType
    | fileErrhandlerFnType | sessionErrhandlerFnType | winErrhandlerFnType
    | dataRepConversionFnType | dataRepExtentFnType =>
    exact readDecl_callbackDeclare _ hn (by decide)
  case charArrayOut => exact readDecl_charLength _ hn (arraySize_colon hpl)
  case logicalArrayType | logicalArrayOutType | intArray | intArrayOut | intArrayInOut
    | aintArrayType =>
    exact (readDecl_arrayDeclaration _ hn _ (by decide)).trans rfl
  case datatypeArrayType | requestArrayType | requestArrayTypeInOut | statusArrayType =>
    cases genF90 <;> exact (readDecl_arrayDeclaration _ hn _ (by decide)).trans rfl
  case countArray | aintCountArray | dispArray =>
    cases bigcount <;>
      exact (readDecl_arrayDeclaration _ hn _ (by exact of_decide_eq_true rfl)).trans rfl
  case statusType | statusOutType | statusInOutType =>
    cases genF90
    · exact (readDecl_declaration _ hn (by decide)).trans rfl
    · exact (readDecl_arrayDeclaration _ hn _ (by decide)).trans rfl
  case countType | countTypeInOut | countTypeOut | aintCountTypeIn | aintCountTypeInOut
    | aintCountTypeOut | disp | dispOut =>
    cases bigcount <;>
      exact (readDecl_declaration _ hn (by exact of_decide_eq_true rfl)).trans rfl
  all_goals exact (readDecl_declaration _ hn (by decide)).trans rfl

/-- The type and shape of each class's dummy argument in the shim interface. -/
def Kind.dummyType (k : Kind) (genF90 bigcount : Bool) : FType × Bool :=
  match k with
  | .datatypeType | .datatypeTypeOut | .datatypeTypeInOut | .commType | .commOutType
  | .commInOutType | .groupType | .groupOutType | .groupInOutType | .sessionType
  | .sessionOutType | .sessionInOutType | .requestType | .requestTypeOut | .requestTypeInOut
  | .op | .opInOut | .win | .winOut | .winInOut | .fileOut | .errhandlerType
  | .errhandlerOutType | .errhandlerInOutType | .commErrhandlerFnTypeFirst
  | .logicalType | .logicalOutType => (.integer none, false)
  | .logicalArrayType | .logicalArrayOutType | .requestArrayType | .requestArrayTypeInOut =>
    (.integer none, true)
  | .charArray | .charArrayOut => (.character, true)
  | .commCopyAttrFnType | .typeCopyAttrFnType | .winCopyAttrFnType | .commDeleteAttrFnType
  | .typeDeleteAttrFnType | .winDeleteAttrFnType | .commErrhandlerFnType
  | .fileErrhandlerFnType | .sessionErrhandlerFnType | .winErrhandlerFnType
  | .dataRepConversionFnType | .dataRepExtentFnType => (.derived "c_funptr", false)
  | _ => k.declType genF90 bigcount

/-- Each class's shim-interface declaration declares its parameter, with the type and
shape of the table. -/
theorem readDecl_declareCbindingFortran (k : Kind) {t : FortranType} (ht : WellNamed t) :
    readDecl (k.cls.declareCbindingFortran t) =
      some (t.name, k.dummyType t.genF90 t.bigcount) := by
  have hn := ht.1
  obtain ⟨name, fnName, bigcount, countParam, genF90, used⟩ := t
  cases k
  case datatypeType | datatypeTypeOut | datatypeTypeInOut | commType | commOutType
    | commInOutType | groupType | groupOutType | groupInOutType | sessionType | sessionOutType
    | sessionInOutType | requestType | requestTypeOut | requestTypeInOut | op | opInOut | win
    | winOut | winInOut | fileOut | errhandlerType | errhandlerOutType | errhandlerInOutType
    | commErrhandlerFnTypeFirst =>
    exact readDecl_handleCbinding _ hn (by decide)
  case logicalType | logicalOutType | commCopyAttrFnType | typeCopyAttrFnType
    | winCopyAttrFnType | commDeleteAttrFnType | typeDeleteAttrFnType | winDeleteAttrFnType
    | commErrhandlerFnType | fileErrhandlerFnType | sessionErrhandlerFnType
    | winErrhandlerFnType | dataRepConversionFnType | dataRepExtentFnType =>
    exact (readDecl_declaration _ hn (by decide)).trans rfl
  case logicalArrayType | logicalArrayOutType | charArray | charArrayOut =>
    exact (readDecl_arrayDeclaration _ hn _ (by decide)).trans rfl
  case requestArrayType | requestArrayTypeInOut =>
    cases genF90 <;> exact (readDecl_arrayDeclaration _ hn _ (by decide)).trans rfl
  all_goals exact readDecl_declare _ ht

/-- The type and shape of each class's temporary, if it declares one. -/
def Kind.tmpType : Kind → Option (FType × Bool)
  | .logicalType | .logicalOutType => some (.integer none, false)
  | .logicalArrayType | .logicalArrayOutType => some (.integer none, true)
  | .commErrhandlerFnTypeFirst | .commCopyAttrFnType | .typeCopyAttrFnType
  | .winCopyAttrFnType | .commDeleteAttrFnType | .typeDeleteAttrFnType | .winDeleteAttrFnType
  | .commErrhandlerFnType | .fileErrhandlerFnType | .sessionErrhandlerFnType
  | .winErrhandlerFnType | .dataRepConversionFnType | .dataRepExtentFnType =>
    some (.derived "c_funptr", false)
  | _ => none

/-- Each class's temporary, when it has one, is declared under `tmp_name`. -/
theorem readDecl_declareTmp (k : Kind) {t : FortranType} (ht : WellNamed t) :
    readDecl (k.cls.declareTmp t) = k.tmpType.map (t.tmpName, ·) := by
  have hn := ht.1.tmpName
  cases k
  case logicalType | logicalOutType => exact readDecl_integerTmp t hn
  case logicalArrayType | logicalArrayOutType => exact readDecl_integerArrayTmp t hn _
  case commCopyAttrFnType | typeCopyAttrFnType | winCopyAttrFnType =>
    exact readDecl_funptrTmpUnspaced t hn
  case commErrhandlerFnTypeFirst | commDeleteAttrFnType | typeDeleteAttrFnType
    | winDeleteAttrFnType | commErrhandlerFnType | fileErrhandlerFnType
    | sessionErrhandlerFnType | winErrhandlerFnType | dataRepConversionFnType
    | dataRepExtentFnType => exact readDecl_funptrTmp t hn
  all_goals rfl

end FortranBindings
