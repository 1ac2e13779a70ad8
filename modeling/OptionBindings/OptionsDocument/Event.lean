import OptionBindings.Notice
import OptionBindings.Xml.Document

/-!
# Events of an options document

Of a document's elements only scopes and options matter, wherever they stand. An option needs a
name and a code; of one without them only the end is told.
-/

namespace OptionBindings

structure OptionTag where
  name : String
  code : String
  description : Option String
  parameterType : Option String
  parameterDescription : Option String
  deriving DecidableEq, Repr

inductive Event
  | scopeStart (name : Option String)
  | scopeEnd
  | optionStart (option : OptionTag)
  | optionEnd
  deriving DecidableEq, Repr

namespace OptionTag

def ofAttributes? (attributes : List (String × String)) : Option OptionTag :=
  match attributes.lookup "name", attributes.lookup "code" with
  | some name, some code =>
    some
      { name
        code
        description := attributes.lookup "description"
        parameterType := attributes.lookup "paramType"
        parameterDescription := attributes.lookup "paramDescription" }
  | _, _ => none

end OptionTag

inductive Report
  | event (told : Event)
  | ignored (attributes : List (String × String))
  deriving DecidableEq, Repr

namespace Report

def ofTag? : Xml.Tag → Option Report
  | .start "Scope" attributes => some (.event (.scopeStart (attributes.lookup "name")))
  | .start "Option" attributes =>
    match OptionTag.ofAttributes? attributes with
    | some option => some (.event (.optionStart option))
    | none => some (.ignored attributes)
  | .finish "Scope" => some (.event .scopeEnd)
  | .finish "Option" => some (.event .optionEnd)
  | _ => none

def ofTags (tags : List Xml.Tag) : List Report :=
  tags.filterMap ofTag?

def event? : Report → Option Event
  | event told => some told
  | ignored _ => none

end Report

def countStarts (element : String) (tags : List Xml.Tag) : Nat :=
  tags.countP fun
    | .start name _ => name = element
    | .finish _ => false

end OptionBindings
