import Reckon.Token.Codec
import Reckon.Tree

/-!
Contract: trees as JSON.

A tree is an object with its label and, unless it is empty, the list of its
children. A reader refuses a label or children given twice, ignores other fields,
takes absent children for none, and also takes the label and the children by
position.

Owns: the JSON form of a tree of any shape and the reading of one. No shape is
checked: a token may come with children, and a rule with any number of them.
-/

set_option autoImplicit false

namespace Reckon

def Symbol.toJson (symbol : Symbol) : Json :=
  .string symbol.text

def Symbol.ofName? : String → Option Symbol
  | "Expr" => some expression
  | "Term" => some term
  | "Factor" => some factor
  | "Negative" => some negative
  | _ => none

def Symbol.ofJson? (json : Json) : Option Symbol :=
  json.bareName?.bind ofName?

def Label.toJson : Label → Json
  | inner symbol => .tagged "NonTerminal" symbol.toJson
  | leaf token => .tagged "Terminal" token.toJson

def Label.ofTagged? (name : String) (content : Json) : Option Label :=
  match name with
  | "NonTerminal" => (Symbol.ofJson? content).map inner
  | "Terminal" => (Token.ofJson? content).map leaf
  | _ => none

def Label.ofJson? (json : Json) : Option Label :=
  json.tag?.bind fun tag => ofTagged? tag.1 tag.2

namespace Tree

/-- The field that lists the children; there is none for a node without any. -/
def childrenField : List Json → List (String × Json)
  | [] => []
  | first :: others => [("children", .array (first :: others))]

mutual
def toJson : Tree → Json
  | node label children =>
      .object (("label", label.toJson) :: childrenField (forestToJson children))

def forestToJson : List Tree → List Json
  | [] => []
  | tree :: trees => toJson tree :: forestToJson trees
end

mutual
def ofJson? : Json → Option Tree
  | .object fields =>
      if Json.unambiguous ["label", "children"] fields then do
        let label ← (Json.field? "label" fields).bind Label.ofJson?
        let children ← childrenOfFields? fields
        return node label children
      else none
  | .array [label] => do
      return node (← Label.ofJson? label) []
  | .array [label, .array children] => do
      return node (← Label.ofJson? label) (← forestOfJson? children)
  | _ => none

/-- The trees of the first field named for children, or none when there is no such
field. -/
def childrenOfFields? : List (String × Json) → Option (List Tree)
  | [] => some []
  | (name, value) :: fields =>
      if name = "children" then
        match value with
        | .array children => forestOfJson? children
        | _ => none
      else childrenOfFields? fields

def forestOfJson? : List Json → Option (List Tree)
  | [] => some []
  | json :: jsons => do
      return (← ofJson? json) :: (← forestOfJson? jsons)
end

end Tree

end Reckon
