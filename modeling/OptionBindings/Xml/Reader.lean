import OptionBindings.Xml.CharsetTable
import OptionBindings.Xml.Entity
import OptionBindings.Xml.Header

/-!
# Reading a document

A reader goes through a document token by token, with the replacement texts of entities in between,
and gives the tags of its elements in order. It stops at the first fault; the tags before it count.
-/

namespace OptionBindings.Xml

inductive Tag
  | start (name : String) (attributes : List (String × String))
  | finish (name : String)
  deriving DecidableEq, Repr

/-- The document, or the replacement text of an entity within it, as far as it is to be read. -/
structure Source where
  /-- The entity's name, and nothing for the document itself. -/
  entity : Option String
  /-- How many elements were open where the text began. -/
  level : Nat
  rest : Cells

inductive Phase
  | prolog (expect : Prolog.Expect)
  | content
  | epilog

structure Reader where
  encoding : Encoding
  declarations : Declarations
  phase : Phase
  current : Source
  /-- The texts around the current one, innermost first. -/
  outer : List Source
  /-- Where the last token of the document itself began. -/
  mark : Cells
  /-- The open elements, innermost first. -/
  opened : List String
  /-- The room left for replacement texts. -/
  budget : Nat
  /-- The tags so far, in reverse. -/
  tags : List Tag

inductive Step
  | next (reader : Reader)
  | done
  | fault (fault : Fault) (place : Cells)

namespace Reader

def inDocument (r : Reader) : Bool :=
  r.current.entity.isNone

/-- Names in replacement texts have the characters that they have in UTF-8. -/
def lexing (r : Reader) : Encoding :=
  if r.inDocument then r.encoding else .utf8

/-- A fault at a place of the current text. Within an entity it stands where the document refers to
the outermost one. -/
def faultAt (r : Reader) (fault : Fault) (place : Cells) : Step :=
  .fault fault (if r.inDocument then place else r.mark)

def faultOf (r : Reader) (flaw : Flaw) : Step :=
  match flaw.place with
  | some place => r.faultAt flaw.fault place
  | none => .fault flaw.fault r.mark

def stopped (r : Reader) : Stop → Step
  | .invalid place => r.faultAt .invalidToken place
  | .ended => .fault .unclosedToken r.mark
  | .cutOff => .fault .partialCharacter r.mark

def goOn (r : Reader) (rest : Cells) : Reader :=
  { r with current := { r.current with rest } }

def give (r : Reader) (tag : Tag) : Reader :=
  { r with tags := tag :: r.tags }

def openEntities (r : Reader) : List String :=
  (r.current :: r.outer).filterMap (·.entity)

/-- Goes into the text of an entity before what comes next. -/
def enter (r : Reader) (name : String) (text : List Char) (rest : Cells) : Step :=
  if r.budget < textUnits text then .fault .amplification r.mark
  else
    .next { r with
      current := ⟨some name, r.opened.length, textCells text⟩
      outer := { r.current with rest } :: r.outer
      budget := r.budget - textUnits text }

def leave (r : Reader) : Step :=
  match r.outer with
  | [] => .done
  | source :: outer => .next { r with current := source, outer }

/-! ## Content -/

/-- The attributes of a start tag as they are written: the values after their references, or the
first of the faults. A later attribute may not have the name of an earlier one. -/
def writtenAttributes (r : Reader) (element : String) :
    List RawAttribute → List (String × String) → Nat →
      Except Flaw (List (String × String) × Nat)
  | [], seen, budget => .ok (seen.reverse, budget)
  | raw :: others, seen, budget =>
    if seen.any (·.1 = raw.name) then .error ⟨.duplicateAttribute, raw.place⟩
    else
      let rule? := (r.declarations.rulesOf element).find? (·.name = raw.name)
      let cdata := (rule?.map (·.cdata)).getD true
      match attributeValue r.declarations cdata r.openEntities budget raw.pieces with
      | .error flaw => .error flaw
      | .ok (value, budget) =>
        writtenAttributes r element others ((raw.name, value) :: seen) budget

def defaultAttributes (d : Declarations) (element : String) (written : List (String × String)) :
    List (String × String) :=
  (d.rulesOf element).filterMap fun rule =>
    if written.any (·.1 = rule.name) then none else rule.default.map (rule.name, ·)

def afterTag (r : Reader) : Reader :=
  if r.opened.isEmpty then { r with phase := .epilog } else r

def startTag (r : Reader) (name : String) (raw : List RawAttribute) (empty : Bool) (rest : Cells) :
    Step :=
  match r.writtenAttributes name raw [] r.budget with
  | .error flaw => r.faultOf flaw
  | .ok (written, budget) =>
    let attributes := written ++ defaultAttributes r.declarations name written
    let r := ({ r with budget }.goOn rest).give (.start name attributes)
    if empty then .next (r.give (.finish name)).afterTag
    else .next { r with opened := name :: r.opened }

def endTag (r : Reader) (name : String) (place rest : Cells) : Step :=
  match r.opened with
  | [] => .fault .asynchronousEntity r.mark
  | element :: opened =>
    if r.opened.length = r.current.level then .fault .asynchronousEntity r.mark
    else if element ≠ name then r.faultAt .mismatchedTag place
    else .next ({ r with opened }.goOn rest |>.give (.finish name)).afterTag

/-- A reference in the content. Nothing of an entity that is not in the document is read. -/
def referTo (r : Reader) (name : String) (rest : Cells) : Step :=
  if (predefined? name).isSome then .next (r.goOn rest)
  else
    match r.declarations.general.lookup name with
    | none =>
      if r.declarations.strict then .fault .undefinedEntity r.mark else .next (r.goOn rest)
    | some entity =>
      if r.openEntities.contains name then .fault .recursiveEntity r.mark
      else
        match entity with
        | .unparsed => .fault .binaryEntity r.mark
        | .internal text => r.enter name text rest
        | .external | .pending => .next (r.goOn rest)

/-- The end of the document itself while an element is open, or of an entity's text. -/
def endOfContent (r : Reader) : Step :=
  if r.inDocument then .fault .noElement r.current.rest
  else if r.opened.length = r.current.level then r.leave
  else .fault .asynchronousEntity r.mark

/-- The last cells of a text, if they could be the start of more than themselves: brackets that
might end character data, or a carriage return. -/
def isLoose : Cells → Bool
  | .char ']' :: .char ']' :: rest => atEnd rest
  | .char c :: rest => (c = ']' || c = '\r') && atEnd rest
  | _ => false

def looseEnd : Cells → Cells
  | [] => []
  | cell :: rest =>
    if atEnd (cell :: rest) || isLoose (cell :: rest) then cell :: rest else looseEnd rest

def readCData (r : Reader) (cells : Cells) : Step :=
  match skipCData cells with
  | .ok rest => .next (r.goOn rest)
  | .error (.invalid place) => r.faultAt .invalidToken place
  | .error .cutOff => r.faultAt .partialCharacter (cells.dropWhile (· ≠ .cut))
  | .error .ended => r.faultAt .unclosedCData (looseEnd cells)

def readMarkup (r : Reader) (fuel : Nat) (cells : Cells) : Step :=
  match lexMarkup r.lexing fuel cells with
  | .error stop => r.stopped stop
  | .ok (markup, rest) =>
    match markup with
    | .startTag name attributes empty => r.startTag name attributes empty rest
    | .endTag name place => r.endTag name place rest
    | .comment | .instruction .other => .next (r.goOn rest)
    | .instruction .declaration => .fault .misplacedDeclaration r.mark
    | .openCData => r.readCData rest

def readContent (r : Reader) (fuel : Nat) : Step :=
  match r.current.rest with
  | [] => r.endOfContent
  | .char '<' :: rest => r.readMarkup fuel rest
  | .char '&' :: rest =>
    match lexReference r.lexing rest with
    | .error stop => r.stopped stop
    | .ok (.character none, _) => .fault .invalidCharacterNumber r.mark
    | .ok (.character (some _), rest) => .next (r.goOn rest)
    | .ok (.entity name, rest) => r.referTo name rest
  | .char ']' :: .char ']' :: .char '>' :: rest => r.faultAt .invalidToken (.char '>' :: rest)
  | .char c :: rest =>
    if r.inDocument && isLoose (.char c :: rest) then
      .fault .noElement (if c = '\r' then r.mark else [])
    else .next (r.goOn rest)
  | place => r.stopped (unexpected place)

/-! ## Prolog -/

/-- The place in a literal that begins at `start`, given by what is left of the literal's body. -/
def placeIn (start body place : Cells) : Cells :=
  start.drop (1 + (body.length - place.length))

def flawIn (start body : Cells) (flaw : Flaw) : Flaw :=
  { flaw with place := flaw.place.map (placeIn start body) }

/-- Does what a token of the prolog says. `start` is where the token begins. -/
def obey (r : Reader) (start : Cells) : Prolog.Say → Step
  | .nothing => .next r
  | .root => .next { r with phase := .content, current := { r.current with rest := start } }
  | .externalDoctype =>
    .next { r with declarations := { r.declarations with mayBeElsewhere := true } }
  | .doctypeEnd => if r.inDocument then .next r else .fault .invalidToken r.mark
  | .publicIdentifier body =>
    match publicFlaw body with
    | none => .next r
    | some place => r.faultAt .publicIdentifier (placeIn start body place)
  | .entity kind name => .next { r with declarations := r.declarations.declare kind name }
  | .entityExternal kind => .next { r with declarations := r.declarations.settle kind .external }
  | .entityUnparsed => .next { r with declarations := r.declarations.settle .general .unparsed }
  | .entityValue kind body =>
    if !r.declarations.counting then .next r
    else
      match assemble (r.declarations.parameter.length + 2) (!r.inDocument) r.openEntities
          (valuePieces r.lexing (body.length + 1) body)
          { text := [], declarations := r.declarations, budget := r.budget } with
      | .error flaw => r.faultOf (flawIn start body flaw)
      | .ok s =>
        let entity := .internal s.text.reverse
        .next { r with declarations := s.declarations.settle kind entity, budget := s.budget }
  | .noDefault head =>
    if r.declarations.counting then
      .next { r with declarations := r.declarations.addRule head none }
    else .next r
  | .default head body =>
    if !r.declarations.counting then .next r
    else
      match attributeValue r.declarations head.cdata [] r.budget (piecesOf r.lexing body) with
      | .error flaw => r.faultOf (flawIn start body flaw)
      | .ok (value, budget) =>
        .next { r with declarations := r.declarations.addRule head (some value), budget }
  | .parameter name =>
    let r := { r with declarations := { r.declarations with mayBeElsewhere := true } }
    if r.declarations.standalone then .next r
    else
      match r.declarations.parameter.lookup name with
      | some (.internal text) =>
        if r.openEntities.contains name then .fault .recursiveEntity r.mark
        else r.enter name text r.current.rest
      | _ => .next { r with declarations := r.declarations.missSome }

def misplaced : Prolog.Token → Fault
  | .parameter _ => .parameterReference
  | .instruction .declaration => .misplacedDeclaration
  | _ => .syntaxError

def readProlog (r : Reader) (expect : Prolog.Expect) : Step :=
  match r.current.rest with
  | [] =>
    if r.inDocument then .fault .noElement []
    else if expect = .subset then r.leave
    else .fault .incompleteParameter r.mark
  | start =>
    match Prolog.lexToken r.lexing start with
    | .error stop => r.stopped stop
    | .ok (token, rest) =>
      match expect.next? token with
      | none => .fault (misplaced token) r.mark
      | some (expect, say) => ({ r with phase := .prolog expect }.goOn rest).obey start say

/-! ## Epilog -/

def readEpilog (r : Reader) : Step :=
  match r.current.rest with
  | [] => .done
  | start =>
    match Prolog.lexToken r.lexing start with
    | .error stop => r.stopped stop
    | .ok (token, rest) =>
      if token = .space || token = .comment || token = .instruction .other then
        .next (r.goOn rest)
      else .fault .junkAfterRoot r.mark

/-! ## The run -/

/-- Reads one token. `fuel` bounds the number of its parts. -/
def step (r : Reader) (fuel : Nat) : Step :=
  let r := if r.inDocument then { r with mark := r.current.rest } else r
  match r.phase with
  | .prolog expect => r.readProlog expect
  | .content => r.readContent fuel
  | .epilog => r.readEpilog

/-- Reads to the end or to the first fault, at most `fuel` tokens. -/
def run : Nat → Reader → List Tag × Option (Fault × Cells)
  | 0, r => (r.tags.reverse, some (.amplification, r.mark))
  | fuel + 1, r =>
    match r.step (fuel + 1) with
    | .next r => run fuel r
    | .done => (r.tags.reverse, none)
    | .fault fault place => (r.tags.reverse, some (fault, place))

end Reader
end OptionBindings.Xml
