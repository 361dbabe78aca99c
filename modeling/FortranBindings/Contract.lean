import FortranBindings.Descriptor

/-!
# The descriptor contract

The methods every class of `fortran_type.py` defines or inherits from `FortranType`, as a
record of functions of the descriptor. A field's default is the base class's method, and a
subclass is its parent's record with the overridden fields replaced. The one base method
that calls back into an overridable one is `declare_cbinding_fortran`, which returns
`self.declare()`: its field holds a class's override, or `none` for the base method. The
templates at the end are the f-strings the classes share, each applied to a member's words.
-/

namespace FortranBindings

/-- A class of the catalogue, as the table of its methods. -/
structure FortranClass where
  interfacePredeclare : FortranType → String := fun _ => ""
  declare : FortranType → String
  declareTmp : FortranType → String := fun _ => ""
  cbindingOverride : Option (FortranType → String) := none
  argument : FortranType → String := FortranType.name
  use : FortranType → List (String × String) := fun _ => []
  «include» : FortranType → String := fun _ => ""
  post : FortranType → String := fun _ => ""
  preCCall : FortranType → String := fun _ => ""
  cParameter : FortranType → String

/-- `declare_cbinding_fortran`, with the base class's `return self.declare()`. -/
def FortranClass.declareCbindingFortran (c : FortranClass) (t : FortranType) : String :=
  match c.cbindingOverride with
  | some f => f t
  | none => c.declare t

/-- `f'<spec> :: {self.name}'`. -/
def declaration (spec : String) (t : FortranType) : String := spec ++ " :: " ++ t.name

/-- `f'<spec> :: {self.name}(<size>)'`. -/
def arrayDeclaration (spec size : String) (t : FortranType) : String :=
  spec ++ " :: " ++ t.name ++ "(" ++ size ++ ")"

/-- `f'<ctype> *{self.name}'`. -/
def pointerParameter (ctype : String) (t : FortranType) : String := ctype ++ " *" ++ t.name

/-- `'*' if self.count_param == None else self.count_param`. -/
def arraySize (t : FortranType) : String := t.countParam.getD "*"

/-- `f'{self.count_param}'`: Python formats a missing count as `None`. -/
def countParamText (t : FortranType) : String := t.countParam.getD "None"

/-- `[('mpi_f08_types', sym)]` for the `mpi_f08` interface, nothing under `gen_f90`. -/
def typesUse (sym : String) (t : FortranType) : List (String × String) :=
  if t.genF90 = false then [("mpi_f08_types", sym)] else []

/-- `mpif-config.h` is included under `gen_f90` only. -/
def configInclude (t : FortranType) : String :=
  if t.genF90 = false then "" else "mpif-config.h"

/-- `f'{self.name}%MPI_VAL'`: the raw handle inside an `mpi_f08` handle type. -/
def mpiVal (t : FortranType) : String := t.name ++ "%MPI_VAL"

/-- The `declare` of a handle class: its `mpi_f08` type, or `INTEGER` under `gen_f90`. -/
def handleDeclare (handle intent : String) (t : FortranType) : String :=
  if t.genF90 = false then declaration ("TYPE(" ++ handle ++ "), INTENT(" ++ intent ++ ")") t
  else declaration ("INTEGER, INTENT(" ++ intent ++ ")") t

/-- The `declare_cbinding_fortran` of a handle class. -/
def handleCbinding (intent : String) : FortranType → String :=
  declaration ("INTEGER, INTENT(" ++ intent ++ ")")

/-- The `argument` of the handle classes that test `gen_f90`. -/
def handleArgument (t : FortranType) : String :=
  if t.genF90 = false then mpiVal t else t.name

/-- The `declare` of the classes with a wide and a narrow integer kind, chosen
by `bigcount`: `f'INTEGER{kind}, INTENT(<intent>) :: {self.name}'`. -/
def kindDeclare (wide narrow intent : String) (t : FortranType) : String :=
  declaration ("INTEGER" ++ (if t.bigcount then wide else narrow) ++ ", INTENT(" ++ intent ++ ")") t

/-- The array form of `kindDeclare`, always `INTENT(IN)`. -/
def kindArrayDeclare (wide narrow : String) (t : FortranType) : String :=
  arrayDeclaration ("INTEGER" ++ (if t.bigcount then wide else narrow) ++ ", INTENT(IN)")
    (arraySize t) t

/-- The `use` of the classes with a wide and a narrow kind: the wide kind's
module constant under `bigcount`. -/
def widthUse (wide : String) (narrow : FortranType → List (String × String))
    (t : FortranType) : List (String × String) :=
  if t.bigcount then [("mpi_f08_types", wide)] else narrow t

/-- The C parameter of a class with a wide and a narrow integer type. -/
def widthParameter (wide narrow : String) (t : FortranType) : String :=
  pointerParameter (if t.bigcount then wide else narrow) t

/-- The `declare` of a callback class: a procedure of the named interface, or
`EXTERNAL` under `gen_f90`. -/
def callbackDeclare (iface : String) (t : FortranType) : String :=
  if t.genF90 = false then declaration ("PROCEDURE(" ++ iface ++ ")") t
  else "EXTERNAL " ++ t.name

/-- The `use` of a callback class. -/
def callbackUse (iface : String) (t : FortranType) : List (String × String) :=
  if t.genF90 = false then
    [("mpi_f08_interfaces_callbacks", iface), ("iso_c_binding", "c_funloc"),
      ("iso_c_binding", "c_funptr")]
  else []

/-- `f'{self.tmp_name} = c_funloc({self.name})'`. -/
def funlocPre (t : FortranType) : String := t.tmpName ++ " = c_funloc(" ++ t.name ++ ")"

/-- `f'{self.tmp_name} = merge(1,0,{self.name})'`. -/
def mergePre (t : FortranType) : String := t.tmpName ++ " = merge(1,0," ++ t.name ++ ")"

end FortranBindings
