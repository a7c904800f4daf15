import Reckon.Text.Combining
import Reckon.Text.Ignorable
import Reckon.Text.Unprintable

/-!
Contract: texts quoted so that every character can be seen.

Owns: the escape of each character and the quoted form of a text.
-/

set_option autoImplicit false

namespace Reckon.Text

/-- A character that cannot be seen, or not apart from the one before it. -/
def isHidden (char : Char) : Bool :=
  isUnprintable char || isCombining char || isIgnorable char

/-- A character that stands for itself between quotes. The printable part of ASCII
is settled without a look at the tables. -/
def isPlain (char : Char) : Bool :=
  (' ' ≤ char && char ≤ '~') || !isHidden char

/-- The escape by code point, in lower-case hexadecimal without padding. -/
def codePointEscape (char : Char) : List Char :=
  ['\\', 'u', '\x7b'] ++ Nat.toDigits 16 char.toNat ++ ['\x7d']

def escape (char : Char) : List Char :=
  match char with
  | '\x00' => ['\\', '0']
  | '\t' => ['\\', 't']
  | '\r' => ['\\', 'r']
  | '\n' => ['\\', 'n']
  | '\\' => ['\\', '\\']
  | '"' => ['\\', '"']
  | _ => if isPlain char then [char] else codePointEscape char

/-- The text between double quotes, each character escaped where it has to be. -/
def quote (text : String) : String :=
  String.ofList ('"' :: text.toList.flatMap escape ++ ['"'])

end Reckon.Text
