import OptionBindings.Text.PrintableTable

/-!
# Quoted text

A text between quotes with escapes for the quote, the backslash and every character that has no
printed form. Single quotes are used unless the text has some and no double quote.
-/

namespace OptionBindings.Text

def isPrintable (c : Char) : Bool :=
  !inSpans unprintable c

def hexDigit (n : Nat) : Char :=
  Char.ofNat (if n < 10 then 48 + n else 87 + n)

/-- The last `width` hexadecimal digits of a number, in lower case. -/
def hexDigits : Nat → Nat → List Char
  | 0, _ => []
  | width + 1, n => hexDigits width (n / 16) ++ [hexDigit (n % 16)]

/-- One character of a text that stands between two of `quote`. -/
def quoteChar (quote c : Char) : List Char :=
  if c = quote || c = '\\' then ['\\', c]
  else if c = '\n' then ['\\', 'n']
  else if c = '\r' then ['\\', 'r']
  else if c = '\t' then ['\\', 't']
  else if isPrintable c then [c]
  else if c.toNat < 0x100 then '\\' :: 'x' :: hexDigits 2 c.toNat
  else if c.toNat < 0x10000 then '\\' :: 'u' :: hexDigits 4 c.toNat
  else '\\' :: 'U' :: hexDigits 8 c.toNat

def quote (text : List Char) : List Char :=
  let mark := if text.contains '\'' && !text.contains '"' then '"' else '\''
  mark :: text.flatMap (quoteChar mark) ++ [mark]

end OptionBindings.Text
