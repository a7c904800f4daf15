import Reckon.Cursor
import Reckon.Error

/-!
Contract: the state of a parser and its primitive steps.

A parser reads tokens through a cursor, counts how many groups and negations it is
inside of, and keeps its state when it fails.

Owns: the state, looking and stepping, refusal at a position, and the nesting
guard.

Does not own: the grammar.
-/

set_option autoImplicit false

namespace Reckon

structure Parser.State where
  cursor : Cursor
  limit : Nat
  depth : Nat
deriving DecidableEq, Repr

abbrev Parser (α : Type) := EStateM ParseError Parser.State α

namespace Parser

def current? : Parser (Option Token) := do
  return (← get).cursor.current?

def upcoming? : Parser (Option Token) := do
  return (← get).cursor.upcoming?

def advance : Parser Unit :=
  modify fun state => { state with cursor := state.cursor.advance }

/-- Fails at the token so many places after the current one. -/
def refuseAhead {α : Type} (offset : Nat) (fault : SyntaxFault) : Parser α := do
  throw (.malformed ((← get).cursor.position + offset) fault)

/-- Fails at the current token. -/
def refuse {α : Type} (fault : SyntaxFault) : Parser α :=
  refuseAhead 0 fault

/-- Steps over the current token if it is an operator of the given precedence. -/
def accept? (precedence : Precedence) : Parser (Option Token) := do
  match ← current? with
  | some (.operator operator) =>
      if operator.precedence = precedence then
        advance
        return some (.operator operator)
      else return none
  | _ => return none

def State.enter (state : State) : State :=
  { state with depth := state.depth + 1 }

def State.leave (state : State) : State :=
  { state with depth := state.depth - 1 }

/-- Runs a parser one level deeper, unless that exceeds the limit. The level is left
again whether the parser succeeds or fails. -/
def deeper {α : Type} (inner : Parser α) : Parser α := fun state =>
  if state.depth < state.limit then
    match inner state.enter with
    | .ok result final => .ok result final.leave
    | .error error final => .error error final.leave
  else .error (.nestedTooDeep state.limit) state

end Parser

end Reckon
