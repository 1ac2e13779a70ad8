import OptionBindings.Xml.Fault
import OptionBindings.Xml.Markup
import OptionBindings.Xml.Prolog.Grammar

/-!
# Declarations of a document

The entities and attributes that the document type declares, and the values they give: the
replacement text of an entity, the value of an attribute with all references resolved. Of several
declarations of one name the first counts.
-/

namespace OptionBindings.Xml

inductive Entity
  /-- Declared, but its value is still being read. -/
  | pending
  | internal (text : List Char)
  /-- Kept outside of the document, and never read. -/
  | external
  | unparsed
  deriving DecidableEq, Repr

structure AttributeRule where
  name : String
  cdata : Bool
  default : Option String
  deriving DecidableEq, Repr

structure Declarations where
  general : List (String × Entity) := []
  parameter : List (String × Entity) := []
  /-- The rules for the attributes of an element. -/
  attributes : List (String × AttributeRule) := []
  /-- Some declarations may be outside of the document. -/
  mayBeElsewhere : Bool := false
  /-- Declarations still count: nothing that could precede them is missing. -/
  counting : Bool := true
  standalone : Bool := false

def predefined? : String → Option Char
  | "lt" => some '<'
  | "gt" => some '>'
  | "amp" => some '&'
  | "quot" => some '"'
  | "apos" => some '\''
  | _ => none

/-- A fault, with its place if that is not in the replacement text of an entity. -/
structure Flaw where
  fault : Fault
  place : Option Cells := none

namespace Declarations

open Prolog (EntityKind AttributeHead)

/-- Every entity that is referred to has to be declared. -/
def strict (d : Declarations) : Bool :=
  !d.mayBeElsewhere || d.standalone

def entities (d : Declarations) : EntityKind → List (String × Entity)
  | .general => d.general
  | .parameter => d.parameter

def withEntities (d : Declarations) (kind : EntityKind) (entities : List (String × Entity)) :
    Declarations :=
  match kind with
  | .general => { d with general := entities }
  | .parameter => { d with parameter := entities }

/-- Declares an entity whose value is still to come, if the declaration counts. -/
def declare (d : Declarations) (kind : EntityKind) (name : String) : Declarations :=
  if !d.counting || (d.entities kind).any (·.1 = name) ||
      (kind = .general && (predefined? name).isSome) then d
  else d.withEntities kind ((name, .pending) :: d.entities kind)

/-- Gives the entity whose value was to come its value, if there is one. -/
def settle (d : Declarations) (kind : EntityKind) (entity : Entity) : Declarations :=
  match d.entities kind with
  | (name, .pending) :: others => d.withEntities kind ((name, entity) :: others)
  | _ => d

def addRule (d : Declarations) (head : AttributeHead) (default : Option String) : Declarations :=
  if d.attributes.any fun (element, rule) => element = head.element && rule.name = head.name then d
  else { d with attributes := d.attributes ++ [(head.element, ⟨head.name, head.cdata, default⟩)] }

def rulesOf (d : Declarations) (element : String) : List AttributeRule :=
  (d.attributes.filter (·.1 = element)).map (·.2)

/-- Declarations that come after unread ones do not count, unless the document says that it depends
on none. -/
def missSome (d : Declarations) : Declarations :=
  { d with counting := d.standalone }

end Declarations

def piecesOf (encoding : Encoding) (cells : Cells) : List Piece :=
  match lexPieces encoding none (cells.length + 1) cells with
  | (pieces, .ok _) => pieces
  | (pieces, .error (.invalid place, _)) => pieces ++ [.malformed place]
  | (pieces, .error (_, start)) => pieces ++ [.malformed start]

def textCells (text : List Char) : Cells :=
  text.map .char

def textUnits (text : List Char) : Nat :=
  text.foldl (fun n c => n + c.utf8Size) 0

/-- Resolves the references of a value's pieces. `depth` bounds the nesting of references, `opened`
are the entities within whose text the value stands, and `budget` is the room left for replacement
texts. The result is in reverse. -/
def resolve (d : Declarations) :
    Nat → List String → List Piece → List Char × Nat → Except Flaw (List Char × Nat)
  | 0, _, _, _ => .error ⟨.recursiveEntity, none⟩
  | depth + 1, opened, pieces, start =>
    pieces.foldlM (fun (value, budget) piece =>
      match piece with
      | .char c => .ok (c :: value, budget)
      | .noCharacter place => .error ⟨.invalidCharacterNumber, place⟩
      | .malformed place => .error ⟨.invalidToken, place⟩
      | .entity name place =>
        match predefined? name with
        | some c => .ok (c :: value, budget)
        | none =>
          match d.general.lookup name with
          | none =>
            if d.strict then .error ⟨.undefinedEntity, none⟩ else .ok (value, budget)
          | some entity =>
            if opened.contains name then .error ⟨.recursiveEntity, none⟩
            else
              match entity with
              | .unparsed => .error ⟨.binaryEntity, place⟩
              | .external | .pending => .error ⟨.externalInAttribute, place⟩
              | .internal text =>
                if budget < textUnits text then .error ⟨.amplification, none⟩
                else
                  match resolve d depth (name :: opened) (piecesOf .utf8 (textCells text))
                      (value, budget - textUnits text) with
                  | .ok result => .ok result
                  | .error flaw => .error ⟨flaw.fault, none⟩) start

/-- A value without the spaces at its ends and with one space for each run of them. -/
def collapse (value : List Char) : List Char :=
  ((value.splitOn ' ').filter (!·.isEmpty)).intersperse [' '] |>.flatten

/-- The value that an attribute has after its pieces, and the budget left. -/
def attributeValue (d : Declarations) (cdata : Bool) (opened : List String) (budget : Nat)
    (pieces : List Piece) : Except Flaw (String × Nat) := do
  let (value, budget) ← resolve d (d.general.length + 1) opened pieces ([], budget)
  let value := value.reverse
  .ok (String.ofList (if cdata then value else collapse value), budget)

inductive ValuePiece
  | char (c : Char)
  | parameter (name : String) (place : Cells)
  | noCharacter (place : Cells)
  | malformed (place : Cells)

/-- The pieces of an entity's value. References to entities are kept as they are, and line ends are
line feeds. -/
def valuePieces (encoding : Encoding) : Nat → Cells → List ValuePiece
  | 0, _ => []
  | fuel + 1, cells =>
    match cells with
    | .char '&' :: rest =>
      match lexReference encoding rest with
      | .ok (.entity name, rest') =>
        ('&' :: name.toList ++ [';']).map .char ++ valuePieces encoding fuel rest'
      | .ok (.character (some c), rest') => .char c :: valuePieces encoding fuel rest'
      | .ok (.character none, _) => [.noCharacter cells]
      | .error (.invalid place) => [.malformed place]
      | .error _ => [.malformed cells]
    | .char '%' :: rest =>
      match lexNameUntil encoding ';' rest with
      | .ok (name, rest') => .parameter name cells :: valuePieces encoding fuel rest'
      | .error (.invalid place) => [.malformed place]
      | .error _ => [.malformed cells]
    | .char '\r' :: .char '\n' :: rest => .char '\n' :: valuePieces encoding fuel rest
    | .char '\r' :: rest => .char '\n' :: valuePieces encoding fuel rest
    | .char c :: rest => .char c :: valuePieces encoding fuel rest
    | _ => []

structure ValueState where
  text : List Char := []
  declarations : Declarations
  budget : Nat

/-- Puts the pieces of an entity's value together, where `inner` does so for the text of a parameter.
Parameters may stand only in a value that is itself `nested` in the text of a parameter; what follows
an undeclared one in its text is dropped. -/
def assembleWith (inner : List String → List ValuePiece → ValueState → Except Flaw ValueState)
    (nested : Bool) (opened : List String) : List ValuePiece → ValueState → Except Flaw ValueState
  | [], s => .ok s
  | .char c :: rest, s => assembleWith inner nested opened rest { s with text := c :: s.text }
  | .noCharacter place :: _, _ => .error ⟨.invalidCharacterNumber, place⟩
  | .malformed place :: _, _ => .error ⟨.invalidToken, place⟩
  | .parameter name place :: rest, s =>
    if !nested then .error ⟨.parameterReference, place⟩
    else
      match s.declarations.parameter.lookup name with
      | none => .ok { s with declarations := s.declarations.missSome }
      | some entity =>
        if opened.contains name then .error ⟨.recursiveEntity, none⟩
        else
          match entity with
          | .internal text =>
            if s.budget < textUnits text then .error ⟨.amplification, none⟩
            else
              match inner (name :: opened) (valuePieces .utf8 (text.length + 1) (textCells text))
                  { s with budget := s.budget - textUnits text } with
              | .ok s' => assembleWith inner nested opened rest s'
              | .error flaw => .error ⟨flaw.fault, none⟩
          | .pending => assembleWith inner nested opened rest s
          | _ =>
            assembleWith inner nested opened rest
              { s with declarations := s.declarations.missSome }

/-- Puts the pieces of an entity's value together. `depth` bounds the nesting of parameters. -/
def assemble (depth : Nat) (nested : Bool) (opened : List String) :
    List ValuePiece → ValueState → Except Flaw ValueState :=
  match depth with
  | 0 => fun _ _ => .error ⟨.recursiveEntity, none⟩
  | depth + 1 => assembleWith (assemble depth true) nested opened

/-- The first character that no public identifier may have, with what comes after it. -/
def publicFlaw : Cells → Option Cells
  | [] => none
  | .char c :: rest =>
    if c.isAlphanum || c ∈ " \r\n-'()+,./:=?;!*#@$_%".toList then publicFlaw rest
    else some (.char c :: rest)
  | place => some place

end OptionBindings.Xml
