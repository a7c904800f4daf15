import Reckon.Binary64
import Reckon.Json

/-!
Contract: media that keep JSON values.

Owns:
- the values that can be written;
- what is asked of a writer and a reader, whatever they write;
- a value written in its JSON form and read again.

Does not own: what writing makes of a value, and the JSON form of anything.
-/

set_option autoImplicit false

namespace Reckon.Json

/-- An integer is writable if it is smaller than this. -/
def integerBound : Nat := Nat.pow 2 63

mutual
/-- Reals are finite, integers small, and the fields of an object have different
names, at any depth. -/
def Writable : Json → Prop
  | integer value => value.natAbs < integerBound
  | real value => Binary64.finite value = true
  | array items => ItemsWritable items
  | object fields => (fields.map Prod.fst).Nodup ∧ FieldsWritable fields
  | _ => True

def ItemsWritable : List Json → Prop
  | [] => True
  | item :: items => Writable item ∧ ItemsWritable items

def FieldsWritable : List (String × Json) → Prop
  | [] => True
  | (_, value) :: fields => Writable value ∧ FieldsWritable fields
end

/-- A writer, and a reader that takes back what was written. -/
structure Medium (Text : Type) where
  write : Json → Text
  read : Text → Option Json
  read_write : ∀ json, json.Writable → read (write json) = some json

namespace Medium

/-- Values kept as they are. -/
def direct : Medium Json where
  write := id
  read := some
  read_write _ _ := rfl

/-- What is read again after a value has been written. -/
def reload {Text α : Type} (medium : Medium Text) (encode : α → Json)
    (decode : Json → Option α) (value : α) : Option α :=
  (medium.read (medium.write (encode value))).bind decode

end Medium

end Reckon.Json
