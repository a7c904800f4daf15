/-!
Contract: JSON values.

An integer and a real are different values even when they are equal numbers: a
reader that wants an integer refuses a real. Fields keep the order in which they
are written, and nothing keeps two of them from having one name.

Owns: the values, look-up of a field, fields that leave no choice for a name, and
the compact text of a value.

Does not own: how a real number is spelled, which the writer is told.
-/

set_option autoImplicit false

namespace Reckon

inductive Json where
  | null
  | bool (value : Bool)
  | integer (value : Int)
  | real (value : Float)
  | string (value : String)
  | array (items : List Json)
  | object (fields : List (String × Json))
deriving Repr

namespace Json

/-- The value of the first field with the given name. -/
def field? (name : String) (fields : List (String × Json)) : Option Json :=
  fields.lookup name

/-- None of the names is given to two fields. Fields with other names may repeat
theirs. -/
def unambiguous (names : List String) (fields : List (String × Json)) : Bool :=
  names.all fun name => (fields.map Prod.fst).count name ≤ 1

/-- The escape of a control character without a short form. -/
def controlEscape (char : Char) : List Char :=
  ['\\', 'u'] ++ (Nat.toDigits 16 char.toNat).leftpad 4 '0'

def escape (char : Char) : List Char :=
  match char with
  | '"' => ['\\', '"']
  | '\\' => ['\\', '\\']
  | '\x08' => ['\\', 'b']
  | '\x0c' => ['\\', 'f']
  | '\n' => ['\\', 'n']
  | '\r' => ['\\', 'r']
  | '\t' => ['\\', 't']
  | _ => if char < ' ' then controlEscape char else [char]

def quote (text : String) : String :=
  String.ofList ('"' :: text.toList.flatMap escape ++ ['"'])

mutual
/-- The value without blanks, every real spelled by `spell`. -/
def compact (spell : Float → String) : Json → String
  | null => "null"
  | bool true => "true"
  | bool false => "false"
  | integer value => Int.repr value
  | real value => spell value
  | string value => quote value
  | array items => "[" ++ String.intercalate "," (compactItems spell items) ++ "]"
  | object fields =>
      "\x7b" ++ String.intercalate "," (compactFields spell fields) ++ "\x7d"

def compactItems (spell : Float → String) : List Json → List String
  | [] => []
  | item :: items => compact spell item :: compactItems spell items

def compactFields (spell : Float → String) : List (String × Json) → List String
  | [] => []
  | (name, value) :: fields =>
      (quote name ++ ":" ++ compact spell value) :: compactFields spell fields
end

end Json

end Reckon
