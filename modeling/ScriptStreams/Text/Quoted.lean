import ScriptStreams.Text.GraphemeExtend
import ScriptStreams.Text.Nonprinting
import ScriptStreams.Text.Numeral
/-!
# Quoted text

A text between double quotes. Quotes and backslashes are escaped with a backslash, NUL, tab, line
feed and carriage return have short escapes, characters that could not be told apart on a page
(`isUnseen`) are written as their code point, and all others stand for themselves.
-/
namespace ScriptStreams.Text

/-- The Hangul fillers: letters that are drawn as nothing. -/
def isFiller (c : Char) : Bool :=
  c.toNat = 0x115f || c.toNat = 0x1160 || c.toNat = 0x3164 || c.toNat = 0xffa0

/-- The halfwidth sound marks: they extend the character before them, but in a cell of their own. -/
def isHalfwidthMark (c : Char) : Bool := c.toNat = 0xff9e || c.toNat = 0xff9f

/-- The character has no place of its own on a page: it has no printed form, is drawn as nothing, or
combines with the character before it. -/
def isUnseen (c : Char) : Bool :=
  isNonprinting c || isFiller c || (isGraphemeExtend c && !isHalfwidthMark c)

/-- `\u`, and the code point in braces. -/
def codePointEscape (c : Char) : List Char := ['\\', 'u', '\x7b'] ++ hexDigits c.toNat ++ ['\x7d']

def escape (c : Char) : List Char :=
  match c with
  | '\x00' => ['\\', '0']
  | '\t' => ['\\', 't']
  | '\r' => ['\\', 'r']
  | '\n' => ['\\', 'n']
  | '"' => ['\\', '"']
  | '\\' => ['\\', '\\']
  | c => if isUnseen c then codePointEscape c else [c]

/-- How the `Display` of a `Value` and the `Debug` texts show a string. -/
def quoted (text : String) : String :=
  String.ofList ('"' :: (text.toList.flatMap escape ++ ['"']))

end ScriptStreams.Text
