import Reckon.Json

/-!
Contract: alternatives written as JSON.

An alternative without content is written as its name. One with content is an
object with a single field, named for the alternative, that holds the content. A
reader also takes a single field that holds null for an alternative without
content, and no alternative takes null for its content.

Owns: taking such a value apart and putting it together.
-/

set_option autoImplicit false

namespace Reckon.Json

def tagged (name : String) (content : Json) : Json :=
  object [(name, content)]

/-- The name of an alternative written without content. -/
def bareName? : Json → Option String
  | string name => some name
  | object [(name, null)] => some name
  | _ => none

/-- The name and the content of an alternative written with content. -/
def tag? : Json → Option (String × Json)
  | object [field] => some field
  | _ => none

end Reckon.Json
