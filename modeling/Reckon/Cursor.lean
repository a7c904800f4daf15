import Reckon.Token

/-!
Contract: a cursor that moves forward over a list of tokens.

The cursor stands between the tokens it has passed and those still ahead, so each
look ahead is a look at the front of a list.

Owns: the two tokens in sight, the step over the first of them, and the position.
-/

set_option autoImplicit false

namespace Reckon

structure Cursor where
  /-- The tokens passed, the latest one first. -/
  passed : List Token
  ahead : List Token
deriving DecidableEq, Repr

namespace Cursor

def ofTokens (tokens : List Token) : Cursor :=
  ⟨[], tokens⟩

/-- All the tokens, wherever the cursor stands. -/
def tokens (cursor : Cursor) : List Token :=
  cursor.passed.reverse ++ cursor.ahead

/-- The index of the current token among all the tokens. -/
def position (cursor : Cursor) : Nat :=
  cursor.passed.length

def current? (cursor : Cursor) : Option Token :=
  cursor.ahead.head?

/-- The token after the current one. -/
def upcoming? (cursor : Cursor) : Option Token :=
  cursor.ahead.tail.head?

/-- The cursor behind the current token, or the same cursor when there is none. -/
def advance (cursor : Cursor) : Cursor :=
  match cursor.ahead with
  | [] => cursor
  | token :: ahead => ⟨token :: cursor.passed, ahead⟩

def isExhausted (cursor : Cursor) : Bool :=
  cursor.ahead.isEmpty

theorem tokens_advance (cursor : Cursor) : cursor.advance.tokens = cursor.tokens := by
  rcases cursor with ⟨passed, _ | ⟨token, ahead⟩⟩ <;> simp [advance, tokens]

end Cursor

end Reckon
