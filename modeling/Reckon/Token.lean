import Reckon.Decimal.Shortest
import Reckon.Operator

/-!
Contract: the tokens of an arithmetic expression.

Owns: which lexemes are tokens, the kind of a token as the grammar sees it, and
its displayed text.

Does not own: how a text is cut into lexemes.
-/

set_option autoImplicit false

namespace Reckon

inductive Token where
  | number (value : Float)
  | operator (operator : Operator)
  | openParen
  | closeParen
deriving DecidableEq, Repr

/-- What the grammar asks of a token. -/
inductive Token.Kind where
  | number
  | additive
  | multiplicative
  | openParen
  | closeParen
deriving DecidableEq, Repr

def Token.Kind.text : Token.Kind → String
  | number => "Number"
  | additive => "AddOp"
  | multiplicative => "MulOp"
  | openParen => "LParen"
  | closeParen => "RParen"

namespace Token

/-- A number literal stands for the double nearest to it. -/
def number? (lexeme : List Char) : Option Token :=
  (Decimal.read? lexeme).map fun decimal => number decimal.toFloat

def operator? (lexeme : List Char) : Option Token :=
  (Operator.ofLexeme? lexeme).map operator

def paren? : List Char → Option Token
  | ['('] => some openParen
  | [')'] => some closeParen
  | _ => none

/-- A way to make a token of a lexeme, or to refuse it. -/
abbrev Reader := List Char → Option Token

/-- The first reader that takes the lexeme decides what it is. -/
def firstOf (readers : List Reader) : Reader := fun lexeme =>
  readers.findSome? fun reader => reader lexeme

/-- The readers in the order in which they are tried. -/
def readers : List Reader :=
  [number?, operator?, paren?]

def ofLexeme? : Reader :=
  firstOf readers

def kind : Token → Kind
  | number _ => .number
  | operator symbol =>
      match symbol.precedence with
      | .additive => .additive
      | .multiplicative => .multiplicative
  | openParen => .openParen
  | closeParen => .closeParen

/-- How many of the tokens are of the kind. -/
def count (kind : Kind) (tokens : List Token) : Nat :=
  tokens.countP fun token => token.kind = kind

def value? : Token → Option Float
  | number value => some value
  | _ => none

def text : Token → String
  | number value => "Number(" ++ numeral value ++ ")"
  | operator symbol => (operator symbol).kind.text ++ "(" ++ symbol.text ++ ")"
  | openParen => "LParen"
  | closeParen => "RParen"

/-- Equal up to the comparison of numbers by value: the two zeros are alike, and a
NaN is not like itself. -/
def alike : Token → Token → Bool
  | number left, number right => left == right
  | operator left, operator right => left == right
  | openParen, openParen => true
  | closeParen, closeParen => true
  | _, _ => false

end Token

end Reckon
