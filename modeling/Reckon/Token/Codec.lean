import Reckon.Json.Variant
import Reckon.Token

/-!
Contract: tokens and operators as JSON.

Owns: the JSON form of a token and the reading of one.

A number that is not finite has no JSON form of its own and is written as null,
which no reader of tokens accepts. An integer is read as the nearest double.
-/

set_option autoImplicit false

namespace Reckon

def Operator.name : Operator → String
  | add => "Add"
  | subtract => "Subtract"
  | multiply => "Multiply"
  | divide => "Divide"

def Operator.toJson (operator : Operator) : Json :=
  .string operator.name

def Operator.ofName? : String → Option Operator
  | "Add" => some add
  | "Subtract" => some subtract
  | "Multiply" => some multiply
  | "Divide" => some divide
  | _ => none

def Operator.ofJson? (json : Json) : Option Operator :=
  json.bareName?.bind ofName?

/-- A finite number as a JSON real, any other as null. -/
def numberToJson (value : Float) : Json :=
  if Binary64.finite value then .real value else .null

def numberOfJson? : Json → Option Float
  | .integer value => some (Binary64.ofInt value)
  | .real value => some value
  | _ => none

namespace Token

def toJson : Token → Json
  | number value => .tagged "Number" (numberToJson value)
  | operator symbol => .tagged "Operator" symbol.toJson
  | openParen => .string "LParen"
  | closeParen => .string "RParen"

def ofBareName? : String → Option Token
  | "LParen" => some openParen
  | "RParen" => some closeParen
  | _ => none

def ofTagged? (name : String) (content : Json) : Option Token :=
  match name with
  | "Number" => (numberOfJson? content).map number
  | "Operator" => (Operator.ofJson? content).map operator
  | _ => none

def ofJson? (json : Json) : Option Token :=
  match json.bareName? with
  | some name => ofBareName? name
  | none => json.tag?.bind fun tag => ofTagged? tag.1 tag.2

end Token

end Reckon
