import OptionBindings.Xml.Charset
import OptionBindings.Xml.NameTable

/-!
# Encodings

A document's bytes are read as cells: the characters that a document may hold, and the marks of
bytes that are none. Which characters a name may have depends a little on the encoding too.
-/

namespace OptionBindings.Xml

open Text

inductive Encoding
  | utf8
  | utf16 (bigEndian : Bool)
  | ascii
  | latin
  /-- One byte a character: ASCII without `missing`, and `high` from 0x80 on. -/
  | page (missing : List Char) (high : List Char)
  deriving DecidableEq, Repr

/-- What stands at one place of a document. -/
inductive Cell
  | char (c : Char)
  /-- Bytes that are no character; `lead` if the first of them may start a longer one. -/
  | bad (lead : Bool)
  /-- The start of a character that the input ends in. -/
  | cut
  /-- The first byte of a pair that the input ends in. -/
  | half
  deriving DecidableEq, Repr

def isLegal (c : Char) : Bool :=
  c = '\t' || c = '\n' || c = '\r' || (0x20 ≤ c.toNat && c.toNat ≠ 0xfffe && c.toNat ≠ 0xffff)

def Cell.ofNat (n : Nat) : Cell :=
  if h : n.isValidChar then
    let c := Char.ofNatAux n h
    if isLegal c then .char c else .bad false
  else .bad false

namespace Encoding

def isTrail (b : UInt8) : Bool :=
  0x80 ≤ b && b < 0xc0

/-- A character of several bytes, or the mark that its bytes are no shortest form of one. -/
def longCell (least n : Nat) (trails : List UInt8) : Cell :=
  if trails.all isTrail && least ≤ n then
    match Cell.ofNat n with
    | .char c => .char c
    | _ => .bad true
  else .bad true

def bits (b : UInt8) : Nat :=
  b.toNat % 0x40

def decodeUtf8 : List UInt8 → List Cell
  | [] => []
  | a :: rest =>
    if a < 0x80 then Cell.ofNat a.toNat :: decodeUtf8 rest
    else if a < 0xc0 || 0xf5 ≤ a then .bad false :: decodeUtf8 rest
    else if a < 0xe0 then
      match rest with
      | [] => [.cut]
      | b :: rest' =>
        match longCell 0x80 ((a.toNat - 0xc0) * 0x40 + bits b) [b] with
        | .char c => .char c :: decodeUtf8 rest'
        | cell => cell :: decodeUtf8 (b :: rest')
    else if a < 0xf0 then
      match rest with
      | b :: c :: rest' =>
        match longCell 0x800 (((a.toNat - 0xe0) * 0x40 + bits b) * 0x40 + bits c) [b, c] with
        | .char ch => .char ch :: decodeUtf8 rest'
        | cell => cell :: decodeUtf8 (b :: c :: rest')
      | few => .cut :: decodeUtf8 few
    else
      match rest with
      | b :: c :: d :: rest' =>
        match longCell 0x10000
            ((((a.toNat - 0xf0) * 0x40 + bits b) * 0x40 + bits c) * 0x40 + bits d) [b, c, d] with
        | .char ch => .char ch :: decodeUtf8 rest'
        | cell => cell :: decodeUtf8 (b :: c :: d :: rest')
      | few => .cut :: decodeUtf8 few
termination_by structural bytes => bytes

/-- A high surrogate makes one character with whatever unit follows it. -/
def decodeUtf16 (bigEndian : Bool) : List UInt8 → List Cell
  | [] => []
  | [_] => [.half]
  | a :: b :: rest =>
    let unit := unit16 a b
    if unit < 0xd800 || 0xe000 ≤ unit then Cell.ofNat unit :: decodeUtf16 bigEndian rest
    else if 0xdc00 ≤ unit then .bad false :: decodeUtf16 bigEndian rest
    else
      match rest with
      | c :: d :: rest' =>
        Cell.ofNat (0x10000 + unit % 0x400 * 0x400 + unit16 c d % 0x400) ::
          decodeUtf16 bigEndian rest'
      | few => .cut :: decodeUtf16 bigEndian few
where
  unit16 (a b : UInt8) : Nat :=
    if bigEndian then a.toNat * 0x100 + b.toNat else b.toNat * 0x100 + a.toNat

/-- The cell of a byte where every character has one. -/
def byteCell : Encoding → UInt8 → Cell
  | page missing high, b =>
    if b < 0x80 then
      if missing.contains (Char.ofNat b.toNat) then .bad false else Cell.ofNat b.toNat
    else
      match high[b.toNat - 0x80]? with
      | some c => if c = '\ufffd' then .bad false else Cell.ofNat c.toNat
      | none => .bad false
  | latin, b => Cell.ofNat b.toNat
  | _, b => if b < 0x80 then Cell.ofNat b.toNat else .bad false

def decode : Encoding → List UInt8 → List Cell
  | utf8, bytes => decodeUtf8 bytes
  | utf16 bigEndian, bytes => decodeUtf16 bigEndian bytes
  | encoding, bytes => bytes.map encoding.byteCell

def isWide : Encoding → Bool
  | utf16 _ => true
  | _ => false

/-- The room a cell takes, in the encoding's smallest units. -/
def units : Encoding → Cell → Nat
  | utf8, .char c => c.utf8Size
  | utf16 _, .char c => if c.toNat < 0x10000 then 1 else 2
  | _, .half => 0
  | _, _ => 1

/-- The first 256 code points have classes of their own, in which two ordinal signs and the micro
sign are letters. -/
def hasLatinClasses : Encoding → Bool
  | latin => true
  | utf16 _ => true
  | _ => false

def isNameStart (encoding : Encoding) (c : Char) : Bool :=
  c = ':' || c = '_' || inSpans NameTable.letters c ||
    (encoding.hasLatinClasses && (c = 'ª' || c = 'µ' || c = 'º'))

def isName (encoding : Encoding) (c : Char) : Bool :=
  c = '-' || c = '.' || encoding.isNameStart c || inSpans NameTable.extenders c

/-- The letters of the word that opens a declaration: name letters of one unit, which are ASCII in
UTF-8, and among the first 256 code points in UTF-16. -/
def isKeywordLetter (encoding : Encoding) (c : Char) : Bool :=
  encoding.isNameStart c &&
    match encoding with
    | utf8 => c.toNat < 0x80
    | utf16 _ => c.toNat < 0x100
    | _ => true

/-- A cell that makes the `<` before it the start of an element when the prolog is read. -/
def opensElement (encoding : Encoding) : Cell → Bool
  | .char c =>
    match encoding with
    | utf8 => 0x80 ≤ c.toNat || encoding.isNameStart c
    | utf16 _ => 0x100 ≤ c.toNat || encoding.isNameStart c
    | _ => encoding.isNameStart c
  | .bad lead => lead
  | .cut => true
  | .half => false

/-- How the first bytes of a document tell its encoding, and how many of them are a mark of it. -/
def ofMark : List UInt8 → Encoding × Nat
  | 0xfe :: 0xff :: _ => (utf16 true, 2)
  | 0xff :: 0xfe :: _ => (utf16 false, 2)
  | 0xef :: 0xbb :: 0xbf :: _ => (utf8, 3)
  | 0x00 :: _ :: _ => (utf16 true, 0)
  | _ :: 0x00 :: _ => (utf16 false, 0)
  | _ => (utf8, 0)

/-- The input ends within the first bytes that would tell its encoding. -/
def endsInMark (bytes : List UInt8) : Bool :=
  bytes ∈ [[0xfe], [0xff], [0xef], [0x00], [0x3c], [0xef, 0xbb]]

end Encoding
end OptionBindings.Xml
