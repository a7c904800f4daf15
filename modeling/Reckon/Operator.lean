/-!
Contract: the four arithmetic operators and their precedence.

Owns: the symbol of each operator and the precedence level it belongs to.

Does not own: the arithmetic an operator stands for.
-/

set_option autoImplicit false

namespace Reckon

inductive Operator where
  | add
  | subtract
  | multiply
  | divide
deriving DecidableEq, Repr

/-- Multiplicative operators bind more tightly than additive ones. -/
inductive Precedence where
  | additive
  | multiplicative
deriving DecidableEq, Repr

namespace Operator

def symbol : Operator → Char
  | add => '+'
  | subtract => '-'
  | multiply => '*'
  | divide => '/'

def ofSymbol? : Char → Option Operator
  | '+' => some add
  | '-' => some subtract
  | '*' => some multiply
  | '/' => some divide
  | _ => none

/-- A lexeme is an operator when it is one symbol and nothing else. -/
def ofLexeme? : List Char → Option Operator
  | [only] => ofSymbol? only
  | _ => none

def precedence : Operator → Precedence
  | add | subtract => .additive
  | multiply | divide => .multiplicative

def text (operator : Operator) : String :=
  String.singleton operator.symbol

theorem ofSymbol?_symbol (operator : Operator) :
    ofSymbol? operator.symbol = some operator := by
  cases operator <;> rfl

end Operator

end Reckon
