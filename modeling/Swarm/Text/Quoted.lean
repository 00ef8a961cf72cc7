import Swarm.Text.Utf8
import Swarm.Unicode.Printable

/-!
# Quoted text

Foreign text in a message is quoted, so that it can be told from the message around it: the
quote and the backslash are escaped, and a character that would not show is written as its code
point in hexadecimal between braces.

## Main definitions

* `Text.quoted`: a text between double quotes
* `Text.quotedChar`: a character between single quotes
-/

namespace Swarm.Text

/-- The hexadecimal digits of a number, lower case, without leading zeros. -/
def hexDigits (n : Nat) : List Char :=
  Nat.toDigits 16 n

/-- A character inside quotes of the kind `quote`. -/
def escaped (quote : Char) (c : Char) : List Char :=
  if c = '\x00' then ['\\', '0']
  else if c = '\t' then ['\\', 't']
  else if c = '\r' then ['\\', 'r']
  else if c = '\n' then ['\\', 'n']
  else if c = '\\' ∨ c = quote then ['\\', c]
  else if Unicode.isPrintable c && !Unicode.extendsGrapheme c then [c]
  else ['\\', 'u', '\x7b'] ++ hexDigits c.toNat ++ ['\x7d']

/-- A text between double quotes. -/
def quoted (text : String) : String :=
  String.ofList ('"' :: text.toList.flatMap (escaped '"') ++ ['"'])

/-- A character between single quotes. -/
def quotedChar (c : Char) : String :=
  String.ofList ('\'' :: escaped '\'' c ++ ['\''])

end Swarm.Text
