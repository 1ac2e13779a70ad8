import OptionBindings.Catalog.Basic
import OptionBindings.Identifier
import OptionBindings.Text.Basic

/-!
# Declarations

Each option of a scope becomes one constant, with the option's description as documentation.
-/

namespace OptionBindings

open Text

structure Declaration where
  identifier : List Char
  value : List Char
  docLines : List (List Char)
  deprecated : Bool
  deriving DecidableEq, Repr

/-- The type that is shown for a parameter: a string of bytes is data. -/
def Parameter.displayType (parameter : Parameter) : String :=
  if lower parameter.type.toList = "bytes".toList then "Data" else parameter.type

namespace Declaration

/-- The lines of a description, without blank ones and without white space at their ends. A text
that only marks deprecation has none. -/
def descriptionLines : Option String → List (List Char)
  | none => []
  | some text =>
    if marksDeprecation text then []
    else ((lines text.toList).filter fun line => !line.all isBlank).map trimRight

def parameterLine (parameter : Parameter) : List Char :=
  let detail :=
    match parameter.description with
    | some text =>
      if text = "" then [] else "; ".toList ++ List.intercalate [' '] (words text.toList)
    | none => []
  "Parameter type: ".toList ++ parameter.displayType.toList ++ detail

/-- The value of a constant: the scope's type, made from the option's C symbol. -/
def valueOf (scope : Scope) (name : List Char) : List Char :=
  scope.typeName.toList ++ "(rawValue: ".toList ++ scope.symbol name ++ [')']

def ofOption (scope : Scope) (option : ClientOption) : Declaration where
  identifier := Identifier.ofName option.name.toList
  value := valueOf scope option.name.toList
  docLines := descriptionLines option.description ++ option.parameter.toList.map parameterLine
  deprecated := option.isDeprecated

def ofTable (scope : Scope) (table : OptionTable) : List Declaration :=
  table.sorted.map (ofOption scope)

end Declaration
end OptionBindings
