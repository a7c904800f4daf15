import Reckon.Tree

/-!
Contract: everything that can go wrong with a calculation.

Owns: the causes of failure and the wording of each.

Does not own: when a cause arises.
-/

set_option autoImplicit false

namespace Reckon

/-- Why a token list is not an expression. -/
inductive SyntaxFault where
  | emptyExpression
  /-- A complete expression is followed by more. -/
  | trailingToken (found : Token)
  /-- A minus sign is followed neither by a number nor by a group. -/
  | danglingMinus
  | missingOperand (found : Token)
  | unexpectedEnd
  /-- A group is not closed; nothing is found at the end of the tokens. -/
  | missingClose (found : Option Token)
deriving DecidableEq, Repr

def SyntaxFault.message : SyntaxFault → String
  | emptyExpression => "Empty expression"
  | trailingToken found => "Unexpected token after expression: " ++ found.text
  | danglingMinus => "Expected a number or '(' after unary '-'"
  | missingOperand found => "Expected an operand, found " ++ found.text
  | unexpectedEnd => "Unexpected end of expression"
  | missingClose (some found) => "Expected ')', found " ++ found.text
  | missingClose none => "Expected ')', found end of expression"

inductive ParseError where
  /-- A lexeme that is no token. -/
  | invalidLexeme (lexeme : String)
  /-- A fault at the token with the given index, which is the number of tokens when
  the fault lies at their end. -/
  | malformed (position : Nat) (fault : SyntaxFault)
  | nestedTooDeep (limit : Nat)
deriving DecidableEq, Repr

def ParseError.message : ParseError → String
  | invalidLexeme lexeme => "Invalid character sequence: `" ++ lexeme ++ "`"
  | malformed position fault =>
      "Syntax error at token " ++ Nat.repr position ++ ": " ++ fault.message
  | nestedTooDeep limit => "Expression nested deeper than " ++ Nat.repr limit ++ " levels"

inductive EvalError where
  /-- The items below a node, so many of them, do not fit its fold rule. -/
  | incompleteSubtree (label : Label) (found : Nat)
  | divisionByZero
deriving DecidableEq, Repr

def EvalError.message : EvalError → String
  | incompleteSubtree label found =>
      "Incomplete subtree under " ++ label.text ++ ": found " ++ Nat.repr found ++ " item(s)"
  | divisionByZero => "Division by zero"

/-- A calculation fails because its text is no expression, or has no value. -/
inductive CalculationError where
  | parse (error : ParseError)
  | eval (error : EvalError)
deriving DecidableEq, Repr

def CalculationError.message : CalculationError → String
  | parse error => error.message
  | eval error => error.message

end Reckon
