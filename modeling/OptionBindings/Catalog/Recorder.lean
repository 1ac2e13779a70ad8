import OptionBindings.Catalog.Basic
import OptionBindings.OptionsDocument.Event

/-!
# Recording a catalog

A recorder takes the events of an options document and files each option under the scope whose
element was opened last. Options outside of a known scope, or without a name or code, are dropped.
-/

namespace OptionBindings

structure Recorder where
  catalog : Catalog := {}
  /-- The scope of the last scope element, while it is open. -/
  current : Option Scope := none
  deriving DecidableEq, Repr

def OptionTag.toOption (tag : OptionTag) : ClientOption where
  name := tag.name
  code := tag.code
  description := tag.description
  parameter := tag.parameterType.map fun type => ⟨type, tag.parameterDescription⟩

def OptionTag.isComplete (tag : OptionTag) : Bool :=
  tag.name ≠ "" && tag.code ≠ ""

namespace Recorder

def handle (recorder : Recorder) : Event → Recorder
  | .scopeStart name => { recorder with current := Scope.ofMarker? name }
  | .scopeEnd => { recorder with current := none }
  | .optionStart tag =>
    match recorder.current with
    | some scope =>
      if tag.isComplete then
        { recorder with catalog := recorder.catalog.insert scope tag.toOption }
      else recorder
    | none => recorder
  | .optionEnd => recorder

def notices (recorder : Recorder) : Event → List Notice
  | .scopeStart name => if (Scope.ofMarker? name).isNone then [.unknownScope name] else []
  | .optionStart tag =>
    if recorder.current.isNone then [.optionOutsideScope tag.name]
    else if tag.isComplete then []
    else [.incompleteOption tag.name tag.code]
  | _ => []

def handleAll (recorder : Recorder) (events : List Event) : Recorder :=
  events.foldl handle recorder

theorem handleAll_append (recorder : Recorder) (first second : List Event) :
    recorder.handleAll (first ++ second) = (recorder.handleAll first).handleAll second :=
  List.foldl_append

def noticesOf (recorder : Recorder) : List Report → List Notice
  | [] => []
  | .ignored attributes :: reports => .ignoredOption attributes :: noticesOf recorder reports
  | .event event :: reports =>
    recorder.notices event ++ noticesOf (recorder.handle event) reports

end Recorder
end OptionBindings
