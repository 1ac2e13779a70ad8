import OptionBindings.Xml.Prolog.Token

/-!
# Grammar of the prolog

Which tokens may come next, as a state that each token moves on, and what a token says: that an
entity or an attribute is declared, that a parameter is referred to, that the root starts.
-/

namespace OptionBindings.Xml.Prolog

inductive EntityKind
  | general
  | parameter
  deriving DecidableEq, Repr

structure AttributeHead where
  element : String
  name : String
  cdata : Bool
  deriving DecidableEq, Repr

inductive Connector
  | sequence
  | choice
  deriving DecidableEq, Repr

inductive Expect
  /-- Nothing has come yet but a byte order mark. -/
  | start
  | misc
  /-- Behind the document type declaration. -/
  | miscLast
  | doctypeName
  | doctypeBody
  | doctypePublic
  | doctypeSystem
  | doctypeSubset
  | doctypeEnd
  | subset
  | entityName
  | parameterName
  | entityBody (kind : EntityKind)
  | entityPublic (kind : EntityKind)
  | entitySystem (kind : EntityKind)
  | entityTail (kind : EntityKind)
  | entityNotation
  | notationName
  | notationBody
  | notationPublic
  | notationSystem
  | notationTail
  | attributeElement
  | attributeName (element : String)
  | attributeType (head : AttributeHead)
  | attributeValues (head : AttributeHead)
  | attributeValuesNext (head : AttributeHead)
  | attributeNotation (head : AttributeHead)
  | attributeNotations (head : AttributeHead)
  | attributeNotationsNext (head : AttributeHead)
  | attributeDefault (head : AttributeHead)
  | attributeFixed (head : AttributeHead)
  | elementName
  | elementModel
  | modelStart
  | mixedStart
  | mixedName
  | mixedNext
  /-- A part of a content model, with the separators of the open groups, innermost first. -/
  | part (groups : List (Option Connector))
  | partNext (groups : List (Option Connector))
  /-- Nothing but the end of the declaration. -/
  | close
  deriving DecidableEq, Repr

/-- What a token says beyond its place in the grammar. -/
inductive Say
  | nothing
  | root
  /-- The document type refers to declarations outside of the document. -/
  | externalDoctype
  | doctypeEnd
  | publicIdentifier (body : Cells)
  | entity (kind : EntityKind) (name : String)
  | entityValue (kind : EntityKind) (body : Cells)
  | entityExternal (kind : EntityKind)
  | entityUnparsed
  | noDefault (head : AttributeHead)
  | default (head : AttributeHead) (body : Cells)
  | parameter (name : String)
  deriving DecidableEq, Repr

def closesGroup (groups : List (Option Connector)) : Expect :=
  match groups with
  | [] | [_] => .close
  | _ :: outer => .partNext outer

/-- A separator, if the innermost group has no other one. -/
def connect (connector : Connector) (groups : List (Option Connector)) : Option Expect :=
  match groups with
  | [] => none
  | inner :: outer =>
    if inner = none || inner = some connector then some (.part (some connector :: outer)) else none

def typeWords : List String :=
  ["ID", "IDREF", "IDREFS", "ENTITY", "ENTITIES", "NMTOKEN", "NMTOKENS"]

/-- The state behind a token and what the token says, or nothing if it may not come. -/
def Expect.next? : Expect → Token → Option (Expect × Say)
  | .start, .space | .misc, .space => some (.misc, .nothing)
  | .start, .instruction .other | .misc, .instruction .other => some (.misc, .nothing)
  | .start, .comment | .misc, .comment => some (.misc, .nothing)
  | .start, .openDeclaration "DOCTYPE" | .misc, .openDeclaration "DOCTYPE" =>
    some (.doctypeName, .nothing)
  | .start, .root | .misc, .root | .miscLast, .root => some (.miscLast, .root)
  | .miscLast, .instruction .other | .miscLast, .comment => some (.miscLast, .nothing)
  | .subset, .instruction .other | .subset, .comment => some (.subset, .nothing)
  | state, .space => some (state, .nothing)
  | .doctypeName, .name _ none => some (.doctypeBody, .nothing)
  | .doctypeBody, .openBracket | .doctypeSubset, .openBracket => some (.subset, .nothing)
  | .doctypeBody, .close | .doctypeSubset, .close | .doctypeEnd, .close =>
    some (.miscLast, .doctypeEnd)
  | .doctypeBody, .name "SYSTEM" none => some (.doctypeSystem, .nothing)
  | .doctypeBody, .name "PUBLIC" none => some (.doctypePublic, .nothing)
  | .doctypePublic, .literal body => some (.doctypeSystem, .publicIdentifier body)
  | .doctypeSystem, .literal _ => some (.doctypeSubset, .externalDoctype)
  | .subset, .openDeclaration "ENTITY" => some (.entityName, .nothing)
  | .subset, .openDeclaration "ATTLIST" => some (.attributeElement, .nothing)
  | .subset, .openDeclaration "ELEMENT" => some (.elementName, .nothing)
  | .subset, .openDeclaration "NOTATION" => some (.notationName, .nothing)
  | .subset, .parameter name => some (.subset, .parameter name)
  | .subset, .closeBracket => some (.doctypeEnd, .nothing)
  | .entityName, .percent => some (.parameterName, .nothing)
  | .entityName, .name name none => some (.entityBody .general, .entity .general name)
  | .parameterName, .name name none => some (.entityBody .parameter, .entity .parameter name)
  | .entityBody kind, .name "SYSTEM" none => some (.entitySystem kind, .nothing)
  | .entityBody kind, .name "PUBLIC" none => some (.entityPublic kind, .nothing)
  | .entityBody kind, .literal body => some (.close, .entityValue kind body)
  | .entityPublic kind, .literal body => some (.entitySystem kind, .publicIdentifier body)
  | .entitySystem kind, .literal _ => some (.entityTail kind, .nothing)
  | .entityTail kind, .close => some (.subset, .entityExternal kind)
  | .entityTail .general, .name "NDATA" none => some (.entityNotation, .nothing)
  | .entityNotation, .name _ none => some (.close, .entityUnparsed)
  | .notationName, .name _ none => some (.notationBody, .nothing)
  | .notationBody, .name "SYSTEM" none => some (.notationSystem, .nothing)
  | .notationBody, .name "PUBLIC" none => some (.notationPublic, .nothing)
  | .notationPublic, .literal body => some (.notationTail, .publicIdentifier body)
  | .notationSystem, .literal _ | .notationTail, .literal _ => some (.close, .nothing)
  | .notationTail, .close => some (.subset, .nothing)
  | .attributeElement, .name element none => some (.attributeName element, .nothing)
  | .attributeName _, .close => some (.subset, .nothing)
  | .attributeName element, .name name none => some (.attributeType ⟨element, name, false⟩, .nothing)
  | .attributeType head, .name "CDATA" none =>
    some (.attributeDefault { head with cdata := true }, .nothing)
  | .attributeType head, .name "NOTATION" none => some (.attributeNotation head, .nothing)
  | .attributeType head, .name word none =>
    if word ∈ typeWords then some (.attributeDefault head, .nothing) else none
  | .attributeType head, .openParen => some (.attributeValues head, .nothing)
  | .attributeValues head, .name _ none | .attributeValues head, .nameToken =>
    some (.attributeValuesNext head, .nothing)
  | .attributeValuesNext head, .closeParen none => some (.attributeDefault head, .nothing)
  | .attributeValuesNext head, .bar => some (.attributeValues head, .nothing)
  | .attributeNotation head, .openParen => some (.attributeNotations head, .nothing)
  | .attributeNotations head, .name _ none => some (.attributeNotationsNext head, .nothing)
  | .attributeNotationsNext head, .closeParen none => some (.attributeDefault head, .nothing)
  | .attributeNotationsNext head, .bar => some (.attributeNotations head, .nothing)
  | .attributeDefault head, .keyword "IMPLIED" | .attributeDefault head, .keyword "REQUIRED" =>
    some (.attributeName head.element, .noDefault head)
  | .attributeDefault head, .keyword "FIXED" => some (.attributeFixed head, .nothing)
  | .attributeDefault head, .literal body | .attributeFixed head, .literal body =>
    some (.attributeName head.element, .default head body)
  | .elementName, .name _ none => some (.elementModel, .nothing)
  | .elementModel, .name "EMPTY" none | .elementModel, .name "ANY" none => some (.close, .nothing)
  | .elementModel, .openParen => some (.modelStart, .nothing)
  | .modelStart, .keyword "PCDATA" => some (.mixedStart, .nothing)
  | .modelStart, .openParen => some (.part [none, none], .nothing)
  | .modelStart, .name _ _ => some (.partNext [none], .nothing)
  | .mixedStart, .closeParen none | .mixedStart, .closeParen (some '*')
  | .mixedNext, .closeParen (some '*') => some (.close, .nothing)
  | .mixedStart, .bar | .mixedNext, .bar => some (.mixedName, .nothing)
  | .mixedName, .name _ none => some (.mixedNext, .nothing)
  | .part groups, .openParen => some (.part (none :: groups), .nothing)
  | .part groups, .name _ _ => some (.partNext groups, .nothing)
  | .partNext groups, .closeParen _ => some (closesGroup groups, .nothing)
  | .partNext groups, .comma => (connect .sequence groups).map (·, .nothing)
  | .partNext groups, .bar => (connect .choice groups).map (·, .nothing)
  | .close, .close => some (.subset, .nothing)
  | _, _ => none

end OptionBindings.Xml.Prolog
