import FortranBindings.Catalogue

/-!
# The registry of Fortran types

`FortranType.TYPES` maps a tag to a class. The `FortranType.add` decorators of
the module fill it in source order; a tag added twice keeps its last class, as
an assignment to a Python `dict` does. `Kind` names the classes of the
catalogue, so that the registry's values can be compared.
-/

namespace FortranBindings

/-- The classes of the catalogue, in source order. -/
inductive Kind
  | bufferType | bufferAsyncType | bufferOutType | bufferAsyncOutType | vBufferType
  | vBufferOutType | wBufferType | wBufferOutType | cptrType | countType | countTypeInOut
  | countTypeOut | partitionedCountType | datatypeType | datatypeTypeOut | datatypeTypeInOut
  | datatypeArrayType | intType | intOutType | intInOutType | rankType | rankOutType | tagType
  | indexOutType | logicalType | logicalArrayType | logicalOutType | logicalArrayOutType
  | commType | commOutType | commInOutType | groupType | groupOutType | groupInOutType
  | sessionType | sessionOutType | sessionInOutType | statusType | statusOutType
  | statusInOutType | requestType | requestTypeOut | requestTypeInOut | requestArrayType
  | requestArrayTypeInOut | statusArrayType | intArray | intArrayOut | intArrayInOut
  | countArray | aintCountArray | aint | aintOut | aintCountTypeIn | aintCountTypeInOut
  | aintCountTypeOut | aintArrayType | disp | dispOut | dispArray | op | opInOut | win | winOut
  | winInOut | file | fileOut | info | infoOut | infoInOut | offset | offsetOut | charArray
  | charArrayOut | messageOut | messageInOut | errhandlerType | errhandlerOutType
  | errhandlerInOutType | commErrhandlerFnTypeFirst | commCopyAttrFnType | typeCopyAttrFnType
  | winCopyAttrFnType | commDeleteAttrFnType | typeDeleteAttrFnType | winDeleteAttrFnType
  | commErrhandlerFnType | fileErrhandlerFnType | sessionErrhandlerFnType | winErrhandlerFnType
  | dataRepConversionFnType | dataRepExtentFnType
  deriving DecidableEq, Repr

/-- The method table of a class. -/
def Kind.cls : Kind → FortranClass
  | .bufferType => Catalogue.bufferType
  | .bufferAsyncType => Catalogue.bufferAsyncType
  | .bufferOutType => Catalogue.bufferOutType
  | .bufferAsyncOutType => Catalogue.bufferAsyncOutType
  | .vBufferType => Catalogue.vBufferType
  | .vBufferOutType => Catalogue.vBufferOutType
  | .wBufferType => Catalogue.wBufferType
  | .wBufferOutType => Catalogue.wBufferOutType
  | .cptrType => Catalogue.cptrType
  | .countType => Catalogue.countType
  | .countTypeInOut => Catalogue.countTypeInOut
  | .countTypeOut => Catalogue.countTypeOut
  | .partitionedCountType => Catalogue.partitionedCountType
  | .datatypeType => Catalogue.datatypeType
  | .datatypeTypeOut => Catalogue.datatypeTypeOut
  | .datatypeTypeInOut => Catalogue.datatypeTypeInOut
  | .datatypeArrayType => Catalogue.datatypeArrayType
  | .intType => Catalogue.intType
  | .intOutType => Catalogue.intOutType
  | .intInOutType => Catalogue.intInOutType
  | .rankType => Catalogue.rankType
  | .rankOutType => Catalogue.rankOutType
  | .tagType => Catalogue.tagType
  | .indexOutType => Catalogue.indexOutType
  | .logicalType => Catalogue.logicalType
  | .logicalArrayType => Catalogue.logicalArrayType
  | .logicalOutType => Catalogue.logicalOutType
  | .logicalArrayOutType => Catalogue.logicalArrayOutType
  | .commType => Catalogue.commType
  | .commOutType => Catalogue.commOutType
  | .commInOutType => Catalogue.commInOutType
  | .groupType => Catalogue.groupType
  | .groupOutType => Catalogue.groupOutType
  | .groupInOutType => Catalogue.groupInOutType
  | .sessionType => Catalogue.sessionType
  | .sessionOutType => Catalogue.sessionOutType
  | .sessionInOutType => Catalogue.sessionInOutType
  | .statusType => Catalogue.statusType
  | .statusOutType => Catalogue.statusOutType
  | .statusInOutType => Catalogue.statusInOutType
  | .requestType => Catalogue.requestType
  | .requestTypeOut => Catalogue.requestTypeOut
  | .requestTypeInOut => Catalogue.requestTypeInOut
  | .requestArrayType => Catalogue.requestArrayType
  | .requestArrayTypeInOut => Catalogue.requestArrayTypeInOut
  | .statusArrayType => Catalogue.statusArrayType
  | .intArray => Catalogue.intArray
  | .intArrayOut => Catalogue.intArrayOut
  | .intArrayInOut => Catalogue.intArrayInOut
  | .countArray => Catalogue.countArray
  | .aintCountArray => Catalogue.aintCountArray
  | .aint => Catalogue.aint
  | .aintOut => Catalogue.aintOut
  | .aintCountTypeIn => Catalogue.aintCountTypeIn
  | .aintCountTypeInOut => Catalogue.aintCountTypeInOut
  | .aintCountTypeOut => Catalogue.aintCountTypeOut
  | .aintArrayType => Catalogue.aintArrayType
  | .disp => Catalogue.disp
  | .dispOut => Catalogue.dispOut
  | .dispArray => Catalogue.dispArray
  | .op => Catalogue.op
  | .opInOut => Catalogue.opInOut
  | .win => Catalogue.win
  | .winOut => Catalogue.winOut
  | .winInOut => Catalogue.winInOut
  | .file => Catalogue.file
  | .fileOut => Catalogue.fileOut
  | .info => Catalogue.info
  | .infoOut => Catalogue.infoOut
  | .infoInOut => Catalogue.infoInOut
  | .offset => Catalogue.offset
  | .offsetOut => Catalogue.offsetOut
  | .charArray => Catalogue.charArray
  | .charArrayOut => Catalogue.charArrayOut
  | .messageOut => Catalogue.messageOut
  | .messageInOut => Catalogue.messageInOut
  | .errhandlerType => Catalogue.errhandlerType
  | .errhandlerOutType => Catalogue.errhandlerOutType
  | .errhandlerInOutType => Catalogue.errhandlerInOutType
  | .commErrhandlerFnTypeFirst => Catalogue.commErrhandlerFnTypeFirst
  | .commCopyAttrFnType => Catalogue.commCopyAttrFnType
  | .typeCopyAttrFnType => Catalogue.typeCopyAttrFnType
  | .winCopyAttrFnType => Catalogue.winCopyAttrFnType
  | .commDeleteAttrFnType => Catalogue.commDeleteAttrFnType
  | .typeDeleteAttrFnType => Catalogue.typeDeleteAttrFnType
  | .winDeleteAttrFnType => Catalogue.winDeleteAttrFnType
  | .commErrhandlerFnType => Catalogue.commErrhandlerFnType
  | .fileErrhandlerFnType => Catalogue.fileErrhandlerFnType
  | .sessionErrhandlerFnType => Catalogue.sessionErrhandlerFnType
  | .winErrhandlerFnType => Catalogue.winErrhandlerFnType
  | .dataRepConversionFnType => Catalogue.dataRepConversionFnType
  | .dataRepExtentFnType => Catalogue.dataRepExtentFnType

/-- Python's `KeyError`, with the missing key. -/
structure KeyError where
  key : String
  deriving DecidableEq, Repr

/-- `FortranType.add(type_name)` applied to a class: `cls.TYPES[type_name] = class_`. -/
def add (types : String → Option Kind) (typeName : String) (k : Kind) : String → Option Kind :=
  Function.update types typeName (some k)

/-- The registry after a sequence of `add` calls. -/
def addAll (types : String → Option Kind) (as : List (String × Kind)) : String → Option Kind :=
  as.foldl (fun ty a => add ty a.1 a.2) types

/-- The `FortranType.add` decorators of `fortran_type.py`, in source order. -/
def additions : List (String × Kind) :=
  [("BUFFER", Kind.bufferType),
    ("BUFFER_ASYNC", Kind.bufferAsyncType),
    ("BUFFER_OUT", Kind.bufferOutType),
    ("BUFFER_ASYNC_OUT", Kind.bufferAsyncOutType),
    ("VBUFFER", Kind.vBufferType),
    ("VBUFFER_OUT", Kind.vBufferOutType),
    ("WBUFFER", Kind.wBufferType),
    ("WBUFFER_OUT", Kind.wBufferOutType),
    ("C_PTR_OUT", Kind.cptrType),
    ("COUNT", Kind.countType),
    ("COUNT_INOUT", Kind.countTypeInOut),
    ("COUNT_OUT", Kind.countTypeOut),
    ("PARTITIONED_COUNT", Kind.partitionedCountType),
    ("DATATYPE", Kind.datatypeType),
    ("DATATYPE_OUT", Kind.datatypeTypeOut),
    ("DATATYPE_INOUT", Kind.datatypeTypeInOut),
    ("DATATYPE_ARRAY", Kind.datatypeArrayType),
    ("INT", Kind.intType),
    ("INT_OUT", Kind.intOutType),
    ("INT_INOUT", Kind.intInOutType),
    ("RANK", Kind.rankType),
    ("RANK_OUT", Kind.rankOutType),
    ("TAG", Kind.tagType),
    ("INDEX_OUT", Kind.indexOutType),
    ("LOGICAL", Kind.logicalType),
    ("LOGICAL_ARRAY", Kind.logicalArrayType),
    ("LOGICAL_OUT", Kind.logicalOutType),
    ("LOGICAL_ARRAY_OUT", Kind.logicalArrayOutType),
    ("COMM", Kind.commType),
    ("COMM_OUT", Kind.commOutType),
    ("COMM_INOUT", Kind.commInOutType),
    ("GROUP", Kind.groupType),
    ("GROUP_OUT", Kind.groupOutType),
    ("GROUP_INOUT", Kind.groupInOutType),
    ("SESSION", Kind.sessionType),
    ("SESSION_OUT", Kind.sessionOutType),
    ("SESSION_INOUT", Kind.sessionInOutType),
    ("STATUS", Kind.statusType),
    ("STATUS_OUT", Kind.statusOutType),
    ("STATUS_INOUT", Kind.statusInOutType),
    ("REQUEST", Kind.requestType),
    ("REQUEST_OUT", Kind.requestTypeOut),
    ("REQUEST_INOUT", Kind.requestTypeInOut),
    ("REQUEST_ARRAY", Kind.requestArrayType),
    ("REQUEST_ARRAY_INOUT", Kind.requestArrayTypeInOut),
    ("STATUS_ARRAY", Kind.statusArrayType),
    ("INT_ARRAY", Kind.intArray),
    ("INT_ARRAY_OUT", Kind.intArrayOut),
    ("INT_ARRAY_INOUT", Kind.intArrayInOut),
    ("COUNT_ARRAY", Kind.countArray),
    ("AINT_COUNT_ARRAY", Kind.aintCountArray),
    ("AINT", Kind.aint),
    ("AINT_OUT", Kind.aintOut),
    ("AINT_COUNT", Kind.aintCountTypeIn),
    ("AINT_COUNT_INOUT", Kind.aintCountTypeInOut),
    ("AINT_COUNT_OUT", Kind.aintCountTypeOut),
    ("AINT_ARRAY", Kind.aintArrayType),
    ("DISP", Kind.disp),
    ("DISP_OUT", Kind.dispOut),
    ("DISP_ARRAY", Kind.dispArray),
    ("OP", Kind.op),
    ("OP_INOUT", Kind.opInOut),
    ("WIN", Kind.win),
    ("WIN_OUT", Kind.winOut),
    ("WIN_INOUT", Kind.winInOut),
    ("FILE", Kind.file),
    ("FILE_OUT", Kind.fileOut),
    ("INFO", Kind.info),
    ("INFO_OUT", Kind.infoOut),
    ("INFO_INOUT", Kind.infoInOut),
    ("OFFSET", Kind.offset),
    ("OFFSET_OUT", Kind.offsetOut),
    ("CHAR_ARRAY", Kind.charArray),
    ("CHAR_ARRAY_OUT", Kind.charArrayOut),
    ("MESSAGE_OUT", Kind.messageOut),
    ("MESSAGE_INOUT", Kind.messageInOut),
    ("ERRHANDLER", Kind.errhandlerType),
    ("ERRHANDLER_OUT", Kind.errhandlerOutType),
    ("ERRHANDLER_INOUT", Kind.errhandlerInOutType),
    ("COMM_ERRHANDLER_FN", Kind.commErrhandlerFnTypeFirst),
    ("COMM_COPY_ATTR_FN", Kind.commCopyAttrFnType),
    ("TYPE_COPY_ATTR_FN", Kind.typeCopyAttrFnType),
    ("WIN_COPY_ATTR_FN", Kind.winCopyAttrFnType),
    ("COMM_DELETE_ATTR_FN", Kind.commDeleteAttrFnType),
    ("TYPE_DELETE_ATTR_FN", Kind.typeDeleteAttrFnType),
    ("WIN_DELETE_ATTR_FN", Kind.winDeleteAttrFnType),
    ("COMM_ERRHANDLER_FN", Kind.commErrhandlerFnType),
    ("FILE_ERRHANDLER_FN", Kind.fileErrhandlerFnType),
    ("SESSION_ERRHANDLER_FN", Kind.sessionErrhandlerFnType),
    ("WIN_ERRHANDLER_FN", Kind.winErrhandlerFnType),
    ("DATAREP_CONVERSION_FN", Kind.dataRepConversionFnType),
    ("DATAREP_EXTENT_FN", Kind.dataRepExtentFnType)]

/-- `FortranType.TYPES` once the module is loaded. -/
def TYPES : String → Option Kind := addAll (fun _ => none) additions

/-- `FortranType.get`: `cls.TYPES[type_name]`. -/
def get (typeName : String) : Except KeyError Kind :=
  match TYPES typeName with
  | some k => .ok k
  | none => .error ⟨typeName⟩

/-- `FortranType.construct(type_name, **kwargs)`: the class looked up, and a
descriptor built from the keyword arguments. -/
def construct (typeName : String) (kwargs : Params) : Except KeyError (Kind × FortranType) :=
  (get typeName).map fun k => (k, FortranType.init kwargs)

end FortranBindings
