import BoundQuery.Text.Numeral
import BoundQuery.Text.Printable

/-!
# Quoted texts

Messages show a text between quotation marks with everything that is not printable
written as an escape, so that the text can be read off the message. The marks are
single quotes, unless the text holds a single quote and no double quote.
-/

namespace BoundQuery

/-! ## Marks and escapes -/

def singleQuote : CodePoint := .scalar '\''

def doubleQuote : CodePoint := .scalar '"'

def backslash : CodePoint := .scalar '\\'

/-- The mark that encloses a quoted text. -/
def enclosingMark (text : Text) : CodePoint :=
  if singleQuote ∈ text ∧ doubleQuote ∉ text then doubleQuote else singleQuote

/-- The shortest numeric escape of a code point. -/
def numericEscape (number : Nat) : Text :=
  if number < 0x100 then
    backslash :: CodePoint.scalar 'x' :: Numeral.hexadecimal 2 number
  else if number < 0x10000 then
    backslash :: CodePoint.scalar 'u' :: Numeral.hexadecimal 4 number
  else
    backslash :: CodePoint.scalar 'U' :: Numeral.hexadecimal 8 number

/-- The form of one code point between the given marks. -/
def quotedPoint (mark point : CodePoint) : Text :=
  if point = mark ∨ point = backslash then [backslash, point]
  else if point = CodePoint.scalar '\t' then [backslash, CodePoint.scalar 't']
  else if point = CodePoint.scalar '\n' then [backslash, CodePoint.scalar 'n']
  else if point = CodePoint.scalar '\r' then [backslash, CodePoint.scalar 'r']
  else if point.isPrintable then [point]
  else numericEscape point.value

/-! ## Quoted forms -/

def Text.quoted (text : Text) : Text :=
  let mark := enclosingMark text
  mark :: text.flatMap (quotedPoint mark) ++ [mark]

/-- A byte string between quotation marks, with a letter in front. Bytes outside of
printable ASCII are escaped, and so is the given mark. -/
def quotedBytesEscaping (escaped : CodePoint) (content : List UInt8) : Text :=
  let text : Text := content.map fun byte => CodePoint.ofValue byte.toNat
  let mark := enclosingMark text
  let point (byte : CodePoint) : Text :=
    if 0x7F ≤ byte.value then numericEscape byte.value else quotedPoint escaped byte
  CodePoint.scalar 'b' :: mark :: text.flatMap point ++ [mark]

/-- The quoted form of a byte string that cannot be changed. The enclosing mark is
escaped inside of it. -/
def quotedBytes (content : List UInt8) : Text :=
  quotedBytesEscaping
    (enclosingMark (content.map fun byte => CodePoint.ofValue byte.toNat)) content

/-- The quoted form of a byte string that can be changed. The single quote is escaped
inside of it, whether it encloses the form or not. -/
def quotedChangeableBytes (content : List UInt8) : Text :=
  quotedBytesEscaping singleQuote content

end BoundQuery
