import OptionBindings.Xml.Reader

/-!
# Documents

A document is read from its bytes: their encoding is found first, from a byte order mark and the
XML declaration, then the reader runs. A fault is given with its line and column.
-/

namespace OptionBindings.Xml

structure Position where
  line : Nat := 1
  column : Nat := 0
  deriving DecidableEq, Repr

/-- The position behind some cells. A carriage return with a line feed after it is one line end. -/
def Position.after : Position → Cells → Position
  | p, [] => p
  | p, .char '\r' :: .char '\n' :: rest => after ⟨p.line + 1, 0⟩ rest
  | p, .char '\r' :: rest => after ⟨p.line + 1, 0⟩ rest
  | p, .char '\n' :: rest => after ⟨p.line + 1, 0⟩ rest
  | p, .half :: _ => p
  | p, _ :: rest => after ⟨p.line, p.column + 1⟩ rest

inductive EncodingProblem
  | unknown (name : String)
  /-- Some characters take several bytes. -/
  | wide
  /-- The name is that of a conversion that yields no text. -/
  | noText (name : String)
  | refused (why : Refusal)
  deriving DecidableEq, Repr

def EncodingProblem.message : EncodingProblem → String
  | unknown name => "unknown encoding: " ++ name
  | wide => "multi-byte encodings are not supported"
  | noText name =>
    "'" ++ name ++
      "' is not a text encoding; use codecs.decode() to handle arbitrary codecs"
  | refused .idna =>
    "decoding with 'idna' codec failed (UnicodeError: Unsupported error handling replace)"
  | refused .undefined =>
    "decoding with 'undefined' codec failed (UnicodeError: undefined encoding)"
  | refused .punycode =>
    "'ascii' codec can't decode byte 0x80 in position 82: ordinal not in range(128)"

inductive Problem
  | fault (fault : Fault) (position : Position)
  | encoding (problem : EncodingProblem)
  deriving DecidableEq, Repr

/-- The tags of a document up to its end or its first problem. -/
structure Reading where
  tags : List Tag
  problem : Option Problem
  deriving DecidableEq, Repr

inductive Request
  | encoding (encoding : Encoding)
  | fault (fault : Fault)
  | problem (problem : EncodingProblem)

/-- The encoding that a document written in `current` asks for by name. -/
def Encoding.request (current : Encoding) (name : String) : Request :=
  let narrow (encoding : Encoding) : Request :=
    if current.isWide then .fault .incorrectEncoding else .encoding encoding
  let wide (fits : Bool) : Request :=
    if fits then .encoding current else .fault .incorrectEncoding
  match String.ofList (name.toList.map Char.toLower) with
  | "utf-8" => narrow .utf8
  | "iso-8859-1" => narrow .latin
  | "us-ascii" => narrow .ascii
  | "utf-16" => wide current.isWide
  | "utf-16be" => wide (current = .utf16 true)
  | "utf-16le" => wide (current = .utf16 false)
  | _ =>
    match Charset.find? Charset.known name with
    | none => .problem (.unknown name)
    | some (.page missing high) => .encoding (.page missing high.toList)
    | some .latin => .encoding (.page [] ((List.range 0x80).map fun n => Char.ofNat (0x80 + n)))
    | some .otherSet => .fault .unknownEncoding
    | some .wide => .problem .wide
    | some .noText => .problem (.noText name)
    | some (.refusing why) => .problem (.refused why)

namespace Document

/-- A reading without tags that ends in a fault before the last `left` cells. -/
def fails (cells : Cells) (fault : Fault) (left : Nat) : Reading :=
  ⟨[], some (.fault fault (Position.after {} (cells.take (cells.length - left))))⟩

/-- The room for replacement texts: together with the document about eight megabytes, or a hundred
times the document. -/
def allowance (size : Nat) : Nat :=
  max 8388607 (100 * size) - size

def readFrom (encoding : Encoding) (expect : Prolog.Expect) (standalone : Bool)
    (size : Nat) (cells rest : Cells) : Reading :=
  let reader : Reader :=
    { encoding
      declarations := { standalone }
      phase := .prolog expect
      current := ⟨none, 0, rest⟩
      outer := []
      mark := rest
      opened := []
      budget := allowance size
      tags := [] }
  match reader.run (2 * (rest.length + allowance size) + 4) with
  | (tags, none) => ⟨tags, none⟩
  | (tags, some (fault, place)) =>
    ⟨tags, some (.fault fault (Position.after {} (cells.take (cells.length - place.length))))⟩

/-- Reads a document whose declaration lies before `rest`. A new encoding holds for all bytes behind
the declaration, and the bytes before are counted in it too. -/
def readDeclared (bytes : List UInt8) (encoding : Encoding) (bom : Nat) (cells start rest : Cells) :
    Reading :=
  let read := start.length - rest.length
  match Header.parse ((start.drop 5).take (read - 7)) with
  | .error place => fails cells .malformedDeclaration (place.length + 2 + rest.length)
  | .ok header =>
    match header.encoding with
    | none => readFrom encoding .misc header.standalone bytes.length cells rest
    | some (name, place) =>
      match encoding.request name with
      | .fault fault => fails cells fault (place.length + 2 + rest.length)
      | .problem problem => ⟨[], some (.encoding problem)⟩
      | .encoding new =>
        let split := bom + read * (if encoding.isWide then 2 else 1)
        let rest := new.decode (bytes.drop split)
        readFrom new .misc header.standalone bytes.length (new.decode (bytes.take split) ++ rest)
          rest

def read (bytes : List UInt8) : Reading :=
  if Encoding.endsInMark bytes then fails [] .unclosedToken 0
  else
    let (encoding, bom) := Encoding.ofMark bytes
    let cells := encoding.decode bytes
    let start := encoding.decode (bytes.drop bom)
    match Prolog.lexToken encoding start with
    | .ok (.instruction .declaration, rest) =>
      readDeclared bytes encoding bom cells start rest
    | _ => readFrom encoding .start false bytes.length cells start

end Document
end OptionBindings.Xml
