import Reckon.Parser.Basic
import Reckon.Settings

/-!
Contract: derivation of a tree from tokens by recursive descent.

The grammar, lowest precedence first:

* an expression is a term, and then any number of additive operators, each with a
  term after it;
* a term is a factor, and then any number of multiplicative operators, each with a
  factor after it;
* a factor is a number, an expression between parentheses, or a minus sign before a
  number or a parenthesised expression.

Every operand of a chain becomes a child of one node, and the parentheses of a
group leave no trace but the expression inside a factor.

Recursion goes down a bound on the tokens ahead. Every descent has stepped over a
token first, so a bound that starts at the number of tokens ahead reaches zero only
where no token is left, and what is answered there is the right answer at the end
of the tokens.

Owns: one parser for each rule of the grammar, and the tree of a token list.
-/

set_option autoImplicit false

namespace Reckon

namespace Parser

/-- Operators of one precedence, each with the operand after it. -/
def links (precedence : Precedence) (operand : Parser Tree) :
    Nat → Parser (List (Token × Tree))
  | 0 => return []
  | bound + 1 => do
      match ← accept? precedence with
      | none => return []
      | some operator =>
          let right ← operand
          let others ← links precedence operand bound
          return (operator, right) :: others

def chainWithin (bound : Nat) (symbol : Symbol) (precedence : Precedence)
    (operand : Parser Tree) : Parser Tree := do
  let first ← operand
  let others ← links precedence operand bound
  return Tree.chain symbol first others

def termWithin (bound : Nat) (factor : Parser Tree) : Parser Tree :=
  chainWithin bound .term .multiplicative factor

def expressionWithin (bound : Nat) (factor : Parser Tree) : Parser Tree :=
  chainWithin bound .expression .additive (termWithin bound factor)

/-- An expression between parentheses, with the cursor on the opening one. -/
def groupAround (inside : Parser Tree) : Parser Tree := do
  let tree ← deeper (do advance; inside)
  match ← current? with
  | some .closeParen =>
      advance
      return tree
  | found => refuse (.missingClose found)

/-- A minus sign may stand only before a number or a group. -/
def takesMinus : Option Token → Bool
  | some (.number _) => true
  | some .openParen => true
  | _ => false

def factorWithin : Nat → Parser Tree
  | 0 => refuse .unexpectedEnd
  | bound + 1 => do
      match ← current? with
      | some (.number value) =>
          advance
          return Tree.factor (Tree.terminal (.number value))
      | some .openParen =>
          let group ← groupAround (expressionWithin bound (factorWithin bound))
          return Tree.factor group
      | some (.operator .subtract) =>
          if takesMinus (← upcoming?) then
            let operand ← deeper (do advance; factorWithin bound)
            return Tree.factor (Tree.negative (.operator .subtract) operand)
          else refuseAhead 1 .danglingMinus
      | some token => refuse (.missingOperand token)
      | none => refuse .unexpectedEnd

def tokensAhead : Parser Nat := do
  return (← get).cursor.ahead.length

def factor : Parser Tree := do
  factorWithin (← tokensAhead)

def term : Parser Tree := do
  let bound ← tokensAhead
  termWithin bound (factorWithin bound)

def expression : Parser Tree := do
  let bound ← tokensAhead
  expressionWithin bound (factorWithin bound)

def group : Parser Tree := do
  let bound ← tokensAhead
  groupAround (expressionWithin bound (factorWithin bound))

/-- An expression that takes up all the tokens. -/
def whole : Parser Tree := do
  match ← current? with
  | none => refuse .emptyExpression
  | some _ =>
      let tree ← expression
      match ← current? with
      | some token => refuse (.trailingToken token)
      | none => return tree

def State.initial (settings : Settings) (tokens : List Token) : State :=
  ⟨Cursor.ofTokens tokens, settings.nestingLimit, 0⟩

end Parser

/-- The tree that the grammar derives for the tokens. -/
def Tree.ofTokens (settings : Settings) (tokens : List Token) : Except ParseError Tree :=
  match Parser.whole (Parser.State.initial settings tokens) with
  | .ok tree _ => .ok tree
  | .error error _ => .error error

end Reckon
