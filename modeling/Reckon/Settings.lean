import Reckon.Json

/-!
Contract: the settings of the parser.

Owns: the nesting limit, its default, and the JSON form of the settings.
-/

set_option autoImplicit false

namespace Reckon

/-- How deep groups and negations may nest when nothing else is said. -/
def defaultNestingLimit : Nat := 256

structure Settings where
  nestingLimit : Nat := defaultNestingLimit
deriving DecidableEq, Repr

namespace Settings

/-- Limits are read from JSON only up to this bound. -/
def limitBound : Nat := Nat.pow 2 64

def limitOfJson? : Json → Option Nat
  | .integer (.ofNat limit) => if limit < limitBound then some limit else none
  | _ => none

def toJson (settings : Settings) : Json :=
  .object [("max_depth", .integer settings.nestingLimit)]

/-- Settings are given by name, other names being ignored, or by position. What is
absent has its default, and what is given twice is refused. -/
def ofJson? : Json → Option Settings
  | .object fields =>
      if Json.unambiguous ["max_depth"] fields then
        match Json.field? "max_depth" fields with
        | none => some {}
        | some limit => (limitOfJson? limit).map fun nestingLimit => ⟨nestingLimit⟩
      else none
  | .array [] => some {}
  | .array [limit] => (limitOfJson? limit).map fun nestingLimit => ⟨nestingLimit⟩
  | _ => none

end Settings

end Reckon
