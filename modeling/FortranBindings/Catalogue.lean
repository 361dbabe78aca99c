import FortranBindings.Contract

/-!
# The catalogue of Fortran types

Every class of `fortran_type.py` that `FortranType.add` registers, in source
order, as the table of its methods. A subclass is written as its parent's table
with the methods it overrides. Classes whose Python name is rebound by a later
class of the same name keep a Lean name of their own, taken from the tag they
are registered under.
-/

namespace FortranBindings.Catalogue

open FortranType

def bufferType : FortranClass where
  interfacePredeclare t := "!OMPI_F08_IGNORE_TKR_PREDECL " ++ t.name
  declare := declaration "OMPI_F08_IGNORE_TKR_TYPE, INTENT(IN)"
  cParameter := pointerParameter "OMPI_CFI_BUFFER"

def bufferAsyncType : FortranClass :=
  { bufferType with
    declare := declaration "OMPI_F08_IGNORE_TKR_TYPE, INTENT(IN) OMPI_ASYNCHRONOUS" }

def bufferOutType : FortranClass :=
  { bufferType with declare := declaration "OMPI_F08_IGNORE_TKR_TYPE" }

def bufferAsyncOutType : FortranClass :=
  { bufferType with declare := declaration "OMPI_F08_IGNORE_TKR_TYPE OMPI_ASYNCHRONOUS" }

/-- `VBufferType` of `VBUFFER`. -/
def vBufferType : FortranClass where
  declare := declaration "OMPI_F08_IGNORE_TKR_TYPE, INTENT(IN)"
  cParameter := pointerParameter "OMPI_CFI_BUFFER"

/-- `VBufferType` of `VBUFFER_OUT`. -/
def vBufferOutType : FortranClass where
  declare := declaration "OMPI_F08_IGNORE_TKR_TYPE"
  cParameter := pointerParameter "OMPI_CFI_BUFFER"

/-- `WBufferType` of `WBUFFER`. -/
def wBufferType : FortranClass where
  declare := declaration "OMPI_F08_IGNORE_TKR_TYPE, INTENT(IN)"
  cParameter := pointerParameter "OMPI_CFI_BUFFER"

/-- `WBufferType` of `WBUFFER_OUT`. -/
def wBufferOutType : FortranClass where
  declare := declaration "OMPI_F08_IGNORE_TKR_TYPE"
  cParameter := pointerParameter "OMPI_CFI_BUFFER"

def cptrType : FortranClass where
  declare := declaration "TYPE(C_PTR), INTENT(OUT)"
  use _ := [("ISO_C_BINDING", "C_PTR")]
  cParameter := pointerParameter "char"

def countType : FortranClass where
  declare := kindDeclare "(KIND=MPI_COUNT_KIND)" "" "IN"
  use := typesUse "MPI_COUNT_KIND"
  «include» := configInclude
  cParameter := widthParameter "MPI_Count" "MPI_Fint"

/-- `CountTypeInOut` of `COUNT_INOUT`. -/
def countTypeInOut : FortranClass :=
  { countType with declare := kindDeclare "(KIND=MPI_COUNT_KIND)" "" "INOUT" }

/-- `CountTypeInOut` of `COUNT_OUT`. -/
def countTypeOut : FortranClass :=
  { countType with declare := kindDeclare "(KIND=MPI_COUNT_KIND)" "" "OUT" }

def partitionedCountType : FortranClass where
  declare := declaration "INTEGER(KIND=MPI_COUNT_KIND), INTENT(IN)"
  use := typesUse "MPI_COUNT_KIND"
  cParameter := pointerParameter "MPI_Count"

def datatypeType : FortranClass where
  declare := handleDeclare "MPI_Datatype" "IN"
  cbindingOverride := some (handleCbinding "IN")
  argument := handleArgument
  use := typesUse "MPI_Datatype"
  cParameter := pointerParameter "MPI_Fint"

def datatypeTypeOut : FortranClass :=
  { datatypeType with
    declare := handleDeclare "MPI_Datatype" "OUT"
    cbindingOverride := some (handleCbinding "OUT") }

def datatypeTypeInOut : FortranClass :=
  { datatypeType with
    declare := handleDeclare "MPI_Datatype" "INOUT"
    cbindingOverride := some (handleCbinding "INOUT") }

def datatypeArrayType : FortranClass where
  declare t := if t.genF90 = false then arrayDeclaration "TYPE(MPI_Datatype), INTENT(IN)" "*" t
    else arrayDeclaration "INTEGER, INTENT(IN)" "*" t
  use := typesUse "MPI_Datatype"
  cParameter := pointerParameter "MPI_Fint"

def intType : FortranClass where
  declare := declaration "INTEGER, INTENT(IN)"
  cParameter := pointerParameter "MPI_Fint"

/-- `IntOutType` of `INT_OUT`. -/
def intOutType : FortranClass where
  declare := declaration "INTEGER, INTENT(OUT)"
  cParameter := pointerParameter "MPI_Fint"

/-- `IntOutType` of `INT_INOUT`, which rebinds the name `IntOutType`. -/
def intInOutType : FortranClass where
  declare := declaration "INTEGER, INTENT(INOUT)"
  cParameter := pointerParameter "MPI_Fint"

/-- `RankType` of `RANK`. -/
def rankType : FortranClass := intType

/-- `RankType` of `RANK_OUT`. Its base `IntOutType` is, at that line of the
module, the class of `INT_INOUT`. -/
def rankOutType : FortranClass := intInOutType

def tagType : FortranClass := intType

def indexOutType : FortranClass :=
  { intType with declare := declaration "INTEGER, INTENT(OUT)" }

def logicalType : FortranClass :=
  { intType with
    declare := declaration "LOGICAL, INTENT(IN)"
    declareTmp := fun t => "INTEGER :: " ++ t.tmpName ++ " = 0"
    cbindingOverride := some (declaration "INTEGER, INTENT(IN)")
    argument := tmpName
    preCCall := mergePre
    cParameter := pointerParameter "MPI_Fint" }

/-- `LogicalArrayType` of `LOGICAL_ARRAY`. -/
def logicalArrayType : FortranClass :=
  { intType with
    declare := fun t => arrayDeclaration "LOGICAL, INTENT(IN)" (countParamText t) t
    declareTmp := fun t => "INTEGER :: " ++ t.tmpName ++ "(" ++ countParamText t ++ ")"
    cbindingOverride := some fun t => arrayDeclaration "INTEGER, INTENT(IN)" (countParamText t) t
    argument := tmpName
    preCCall := mergePre
    cParameter := pointerParameter "MPI_Fint" }

def logicalOutType : FortranClass :=
  { intType with
    declare := declaration "LOGICAL, INTENT(OUT)"
    declareTmp := fun t => "INTEGER :: " ++ t.tmpName ++ " = 0"
    cbindingOverride := some (declaration "INTEGER, INTENT(OUT)")
    argument := tmpName
    post := fun t => t.name ++ " = " ++ t.tmpName ++ " /= 0"
    cParameter := pointerParameter "MPI_Fint" }

/-- `LogicalArrayType` of `LOGICAL_ARRAY_OUT`. -/
def logicalArrayOutType : FortranClass :=
  { intType with
    declare := fun t => arrayDeclaration "LOGICAL, INTENT(OUT)" (countParamText t) t
    declareTmp := fun t => "INTEGER :: " ++ t.tmpName ++ "(" ++ countParamText t ++ ")"
    cbindingOverride := some fun t => arrayDeclaration "INTEGER, INTENT(OUT)" (countParamText t) t
    argument := tmpName
    preCCall := mergePre
    cParameter := pointerParameter "MPI_Fint" }

def commType : FortranClass where
  declare := handleDeclare "MPI_Comm" "IN"
  cbindingOverride := some (handleCbinding "IN")
  argument := mpiVal
  use := typesUse "MPI_Comm"
  cParameter := pointerParameter "MPI_Fint"

def commOutType : FortranClass :=
  { commType with
    declare := handleDeclare "MPI_Comm" "OUT"
    cbindingOverride := some (handleCbinding "OUT") }

def commInOutType : FortranClass :=
  { commType with
    declare := handleDeclare "MPI_Comm" "INOUT"
    cbindingOverride := some (handleCbinding "INOUT") }

def groupType : FortranClass where
  declare := handleDeclare "MPI_Group" "IN"
  cbindingOverride := some (handleCbinding "IN")
  argument := mpiVal
  use := typesUse "MPI_Group"
  cParameter := pointerParameter "MPI_Fint"

def groupOutType : FortranClass :=
  { groupType with
    declare := handleDeclare "MPI_Group" "OUT"
    cbindingOverride := some (handleCbinding "OUT") }

def groupInOutType : FortranClass :=
  { groupType with
    declare := handleDeclare "MPI_Group" "INOUT"
    cbindingOverride := some (handleCbinding "INOUT") }

def sessionType : FortranClass where
  declare := handleDeclare "MPI_Session" "IN"
  cbindingOverride := some (handleCbinding "IN")
  argument := mpiVal
  use := typesUse "MPI_Session"
  cParameter := pointerParameter "MPI_Fint"

def sessionOutType : FortranClass :=
  { sessionType with
    declare := handleDeclare "MPI_Session" "OUT"
    cbindingOverride := some (handleCbinding "OUT") }

def sessionInOutType : FortranClass :=
  { sessionType with
    declare := handleDeclare "MPI_Session" "INOUT"
    cbindingOverride := some (handleCbinding "INOUT") }

/-- The `declare` of the status classes; `intent` is empty or `, INTENT(...)`. -/
def statusDeclare (intent : String) (t : FortranType) : String :=
  if t.genF90 = false then declaration ("TYPE(MPI_Status)" ++ intent) t
  else arrayDeclaration ("INTEGER" ++ intent) "MPI_STATUS_SIZE" t

def statusType : FortranClass where
  declare := statusDeclare ""
  use := typesUse "MPI_Status"
  «include» := configInclude
  cParameter := pointerParameter "MPI_Fint"

def statusOutType : FortranClass :=
  { statusType with
    declare := statusDeclare ", INTENT(OUT)"
    cParameter := pointerParameter "MPI_Fint" }

def statusInOutType : FortranClass :=
  { statusType with
    declare := statusDeclare ", INTENT(INOUT)"
    cParameter := pointerParameter "MPI_Fint" }

def requestType : FortranClass where
  declare := handleDeclare "MPI_Request" "IN"
  cbindingOverride := some (handleCbinding "IN")
  argument := handleArgument
  use := typesUse "MPI_Request"
  cParameter := pointerParameter "MPI_Fint"

def requestTypeOut : FortranClass :=
  { requestType with
    declare := handleDeclare "MPI_Request" "OUT"
    cbindingOverride := some (handleCbinding "OUT") }

def requestTypeInOut : FortranClass :=
  { requestType with
    declare := declaration "TYPE(MPI_Request), INTENT(INOUT)"
    cbindingOverride := some (handleCbinding "INOUT") }

def requestArrayType : FortranClass where
  declare t := if t.genF90 = false
    then arrayDeclaration "TYPE(MPI_Request), INTENT(IN)" (countParamText t) t
    else arrayDeclaration "INTEGER, INTENT(IN)" "*" t
  cbindingOverride := some fun t => if t.genF90 = false
    then arrayDeclaration "INTEGER, INTENT(IN)" (countParamText t) t
    else arrayDeclaration "INTEGER, INTENT(IN)" "*" t
  argument t := if t.genF90 = false then t.name ++ "(:)%MPI_VAL" else t.name
  use := typesUse "MPI_Request"
  cParameter := pointerParameter "MPI_Fint"

def requestArrayTypeInOut : FortranClass :=
  { requestArrayType with
    declare := fun t => if t.genF90 = false
      then arrayDeclaration "TYPE(MPI_Request), INTENT(INOUT)" (countParamText t) t
      else arrayDeclaration "TYPE(MPI_Request), INTENT(INOUT)" "*" t
    cbindingOverride := some fun t => if t.genF90 = false
      then arrayDeclaration "INTEGER, INTENT(INOUT)" (countParamText t) t
      else arrayDeclaration "INTEGER, INTENT(INOUT)" "*" t }

def statusArrayType : FortranClass where
  declare t := if t.genF90 = false then arrayDeclaration "TYPE(MPI_Status), INTENT(OUT)" "*" t
    else arrayDeclaration "INTEGER, INTENT(OUT)" "MPI_STATUS_SIZE,*" t
  use := typesUse "MPI_Status"
  «include» := configInclude
  cParameter := pointerParameter "MPI_Fint"

def intArray : FortranClass where
  declare t := arrayDeclaration "INTEGER, INTENT(IN)" (arraySize t) t
  use t := if t.countParam = some "MPI_STATUS_SIZE" then [("mpi_f08_types", "MPI_STATUS_SIZE")]
    else []
  cParameter := pointerParameter "MPI_Fint"

def intArrayOut : FortranClass :=
  { intArray with
    declare := fun t => arrayDeclaration "INTEGER, INTENT(OUT)" (arraySize t) t
    cParameter := pointerParameter "MPI_Fint" }

def intArrayInOut : FortranClass :=
  { intArray with declare := fun t => arrayDeclaration "INTEGER, INTENT(INOUT)" (arraySize t) t }

/-- `CountArray` of `COUNT_ARRAY`. -/
def countArray : FortranClass :=
  { intArray with
    declare := kindArrayDeclare "(KIND=MPI_COUNT_KIND)" ""
    use := widthUse "MPI_COUNT_KIND" fun _ => []
    cParameter := widthParameter "MPI_Count" "MPI_Fint" }

/-- `CountArray` of `AINT_COUNT_ARRAY`. -/
def aintCountArray : FortranClass :=
  { intArray with
    declare := kindArrayDeclare "(KIND=MPI_COUNT_KIND)" "(KIND=MPI_ADDRESS_KIND)"
    use := widthUse "MPI_COUNT_KIND" fun _ => [("mpi_f08_types", "MPI_ADDRESS_KIND")]
    «include» := configInclude
    cParameter := widthParameter "MPI_Count" "MPI_Aint" }

def aint : FortranClass where
  declare := declaration "INTEGER(MPI_ADDRESS_KIND), INTENT(IN)"
  use := typesUse "MPI_ADDRESS_KIND"
  «include» := configInclude
  cParameter := pointerParameter "MPI_Aint"

def aintOut : FortranClass :=
  { aint with declare := declaration "INTEGER(MPI_ADDRESS_KIND), INTENT(OUT)" }

def aintCountTypeIn : FortranClass where
  declare := kindDeclare "(KIND=MPI_COUNT_KIND)" "(KIND=MPI_ADDRESS_KIND)" "IN"
  use := widthUse "MPI_COUNT_KIND" (typesUse "MPI_ADDRESS_KIND")
  «include» := configInclude
  cParameter := widthParameter "MPI_Count" "MPI_Aint"

def aintCountTypeInOut : FortranClass where
  declare := kindDeclare "(KIND=MPI_COUNT_KIND)" "(KIND=MPI_ADDRESS_KIND)" "INOUT"
  use := widthUse "MPI_COUNT_KIND" fun _ => [("mpi_f08_types", "MPI_ADDRESS_KIND")]
  cParameter := widthParameter "MPI_Count" "MPI_Aint"

def aintCountTypeOut : FortranClass where
  declare := kindDeclare "(KIND=MPI_COUNT_KIND)" "(KIND=MPI_ADDRESS_KIND)" "OUT"
  use := widthUse "MPI_COUNT_KIND" fun _ => [("mpi_f08_types", "MPI_ADDRESS_KIND")]
  cParameter := widthParameter "MPI_Count" "MPI_Aint"

def aintArrayType : FortranClass where
  declare t :=
    arrayDeclaration "INTEGER(KIND=MPI_ADDRESS_KIND), INTENT(IN) OMPI_ASYNCHRONOUS" (arraySize t) t
  use _ := [("mpi_f08_types", "MPI_ADDRESS_KIND")]
  cParameter := pointerParameter "MPI_Aint"

def disp : FortranClass where
  declare := kindDeclare "(KIND=MPI_ADDRESS_KIND)" "" "IN"
  use := widthUse "MPI_ADDRESS_KIND" fun _ => []
  cParameter := widthParameter "MPI_Aint" "MPI_Fint"

def dispOut : FortranClass where
  declare := kindDeclare "(KIND=MPI_ADDRESS_KIND)" "" "OUT"
  use := widthUse "MPI_ADDRESS_KIND" fun _ => []
  cParameter := widthParameter "MPI_Aint" "MPI_Fint"

def dispArray : FortranClass :=
  { intArray with
    declare := kindArrayDeclare "(KIND=MPI_ADDRESS_KIND)" ""
    use := widthUse "MPI_ADDRESS_KIND" fun _ => []
    cParameter := widthParameter "MPI_Aint" "MPI_Fint" }

def op : FortranClass where
  declare := handleDeclare "MPI_Op" "IN"
  cbindingOverride := some (handleCbinding "IN")
  use := typesUse "MPI_Op"
  argument := handleArgument
  cParameter := pointerParameter "MPI_Fint"

def opInOut : FortranClass :=
  { op with declare := handleDeclare "MPI_Op" "INOUT" }

def win : FortranClass where
  declare := handleDeclare "MPI_Win" "IN"
  cbindingOverride := some (handleCbinding "IN")
  use := typesUse "MPI_Win"
  argument := handleArgument
  cParameter := pointerParameter "MPI_Fint"

def winOut : FortranClass :=
  { win with
    declare := handleDeclare "MPI_Win" "OUT"
    cbindingOverride := some (handleCbinding "OUT") }

def winInOut : FortranClass :=
  { win with
    declare := handleDeclare "MPI_Win" "INOUT"
    cbindingOverride := some (handleCbinding "INOUT") }

def file : FortranClass where
  declare := handleDeclare "MPI_File" "IN"
  use := typesUse "MPI_File"
  cParameter := pointerParameter "MPI_Fint"

def fileOut : FortranClass :=
  { file with
    declare := handleDeclare "MPI_File" "OUT"
    cbindingOverride := some (handleCbinding "OUT") }

def info : FortranClass where
  declare := handleDeclare "MPI_Info" "IN"
  use := typesUse "MPI_Info"
  cParameter := pointerParameter "MPI_Fint"

def infoOut : FortranClass :=
  { info with declare := handleDeclare "MPI_Info" "OUT" }

def infoInOut : FortranClass :=
  { info with declare := handleDeclare "MPI_Info" "INOUT" }

def offset : FortranClass where
  declare := declaration "INTEGER(MPI_OFFSET_KIND), INTENT(IN)"
  use := typesUse "MPI_OFFSET_KIND"
  «include» := configInclude
  cParameter := pointerParameter "MPI_Offset"

def offsetOut : FortranClass :=
  { offset with declare := declaration "INTEGER(MPI_OFFSET_KIND), INTENT(OUT)" }

def charArray : FortranClass where
  declare := declaration "CHARACTER(LEN=*), INTENT(IN)"
  use _ := [("iso_c_binding", "c_char"), ("iso_c_binding", "c_null_char")]
  cbindingOverride := some (arrayDeclaration "CHARACTER(KIND=C_CHAR), INTENT(IN)" "*")
  argument t := t.name ++ "//c_null_char"
  cParameter := pointerParameter "char"

/-- The length constants that `CharArrayOut.use` imports, one `elif` each. -/
def charLengthConstants : List String :=
  ["MPI_MAX_OBJECT_NAME", "MPI_MAX_PORT_NAME", "MPI_MAX_ERROR_STRING", "MPI_MAX_PROCESSOR_NAME",
    "MPI_MAX_LIBRARY_VERSION_STRING", "MPI_STATUS_SIZE"]

def charArrayOut : FortranClass where
  declare t := declaration ("CHARACTER(LEN=" ++ arraySize t ++ "), INTENT(OUT)") t
  use t := match t.countParam with
    | some c => if c ∈ charLengthConstants
      then [("iso_c_binding", "c_char"), ("mpi_f08_types", c)] else [("iso_c_binding", "c_char")]
    | none => [("iso_c_binding", "c_char")]
  cbindingOverride := some (arrayDeclaration "CHARACTER(KIND=C_CHAR), INTENT(OUT)" "*")
  cParameter := pointerParameter "char"

def messageOut : FortranClass where
  declare := handleDeclare "MPI_Message" "OUT"
  use := typesUse "MPI_Message"
  cParameter := pointerParameter "MPI_Fint"

def messageInOut : FortranClass :=
  { messageOut with declare := handleDeclare "MPI_Message" "INOUT" }

def errhandlerType : FortranClass where
  declare := handleDeclare "MPI_Errhandler" "IN"
  cbindingOverride := some (handleCbinding "IN")
  argument := handleArgument
  use := typesUse "MPI_Errhandler"
  cParameter := pointerParameter "MPI_Fint"

/-- `ErrhandlerOutType` of `ERRHANDLER_OUT`. -/
def errhandlerOutType : FortranClass :=
  { errhandlerType with
    declare := handleDeclare "MPI_Errhandler" "OUT"
    cbindingOverride := some (handleCbinding "OUT") }

/-- `ErrhandlerOutType` of `ERRHANDLER_INOUT`, a subclass of the one of `ERRHANDLER_OUT`. -/
def errhandlerInOutType : FortranClass :=
  { errhandlerOutType with
    declare := handleDeclare "MPI_Errhandler" "INOUT"
    cbindingOverride := some (handleCbinding "INOUT") }

/-- The first `CommErrhandlerFnType`. A later class registers the same tag
`COMM_ERRHANDLER_FN` and replaces this one in `TYPES`. -/
def commErrhandlerFnTypeFirst : FortranClass where
  declare := callbackDeclare "MPI_Comm_copy_errhandler_function"
  cbindingOverride := some (handleCbinding "IN")
  argument := handleArgument
  use := callbackUse "MPI_Comm_errhandler_function"
  declareTmp t := "type(c_funptr) :: " ++ t.tmpName
  cParameter t := "type(c_funptr) :: " ++ t.tmpName
  preCCall := funlocPre

def commCopyAttrFnType : FortranClass where
  declare := callbackDeclare "MPI_Comm_copy_attr_function"
  cbindingOverride := some (declaration "type(c_funptr)")
  argument := tmpName
  declareTmp t := "type(c_funptr)::" ++ t.tmpName
  use := callbackUse "MPI_Comm_copy_attr_function"
  cParameter t := "ompi_aint_copy_attr_function " ++ t.name
  preCCall := funlocPre

def typeCopyAttrFnType : FortranClass :=
  { commCopyAttrFnType with
    declare := callbackDeclare "MPI_Type_copy_attr_function"
    use := callbackUse "MPI_Type_copy_attr_function" }

def winCopyAttrFnType : FortranClass :=
  { commCopyAttrFnType with
    declare := callbackDeclare "MPI_Win_copy_attr_function"
    use := callbackUse "MPI_Win_copy_attr_function" }

def commDeleteAttrFnType : FortranClass where
  declare := callbackDeclare "MPI_Comm_delete_attr_function"
  cbindingOverride := some (declaration "type(c_funptr)")
  argument := tmpName
  declareTmp t := "type(c_funptr) :: " ++ t.tmpName
  use := callbackUse "MPI_Comm_delete_attr_function"
  cParameter t := "ompi_aint_delete_attr_function " ++ t.name
  preCCall := funlocPre

def typeDeleteAttrFnType : FortranClass :=
  { commDeleteAttrFnType with
    declare := callbackDeclare "MPI_Type_delete_attr_function"
    use := callbackUse "MPI_Type_delete_attr_function" }

def winDeleteAttrFnType : FortranClass :=
  { commDeleteAttrFnType with
    declare := callbackDeclare "MPI_Win_delete_attr_function"
    use := callbackUse "MPI_Win_delete_attr_function" }

/-- The second `CommErrhandlerFnType`, the one `TYPES` keeps for `COMM_ERRHANDLER_FN`. -/
def commErrhandlerFnType : FortranClass where
  declare := callbackDeclare "MPI_Comm_errhandler_function"
  cbindingOverride := some (declaration "type(c_funptr)")
  argument := tmpName
  declareTmp t := "type(c_funptr) :: " ++ t.tmpName
  use := callbackUse "MPI_Comm_errhandler_function"
  cParameter t := "ompi_errhandler_fortran_handler_fn_t " ++ t.name
  preCCall := funlocPre

def fileErrhandlerFnType : FortranClass :=
  { commErrhandlerFnType with
    declare := callbackDeclare "MPI_File_errhandler_function"
    use := callbackUse "MPI_File_errhandler_function" }

def sessionErrhandlerFnType : FortranClass :=
  { commErrhandlerFnType with
    declare := callbackDeclare "MPI_Session_errhandler_function"
    use := fun _ => [("mpi_f08_interfaces_callbacks", "MPI_Session_errhandler_function"),
      ("iso_c_binding", "c_funloc"), ("iso_c_binding", "c_funptr")] }

def winErrhandlerFnType : FortranClass :=
  { commErrhandlerFnType with
    declare := callbackDeclare "MPI_Win_errhandler_function"
    use := callbackUse "MPI_Win_errhandler_function" }

def dataRepConversionFnType : FortranClass where
  declare := callbackDeclare "MPI_Datarep_conversion_function"
  cbindingOverride := some (declaration "type(c_funptr)")
  argument := tmpName
  declareTmp t := "type(c_funptr) :: " ++ t.tmpName
  use := callbackUse "MPI_Datarep_conversion_function"
  cParameter t := "ompi_mpi2_fortran_datarep_conversion_fn_t  " ++ t.name
  preCCall := funlocPre

def dataRepExtentFnType : FortranClass :=
  { dataRepConversionFnType with
    declare := callbackDeclare "MPI_Datarep_extent_function"
    use := callbackUse "MPI_Datarep_extent_function"
    cParameter := fun t => "ompi_mpi2_fortran_datarep_extent_fn_t  " ++ t.name }

end FortranBindings.Catalogue
