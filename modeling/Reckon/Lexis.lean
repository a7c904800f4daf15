import Reckon.Split
import Reckon.Text.Blank
import Reckon.Token
import Mathlib.Data.List.Chain

/-!
Contract: the lexemes of a text, said without a scanner.

Owns:
- the two forms of a lexeme, and the language of numerals;
- the token that a lexeme denotes;
- the conditions on a division of a text into gaps and lexemes;
- where two texts meet within a run;
- the characters that mean nothing, and a text without them.

Does not own: how a division is found, and what is answered for a lexeme that denotes
no token.
-/

set_option autoImplicit false

namespace Reckon

/-! ### Lexemes -/

/-- A run of digits and points. -/
def IsRun (lexeme : List Char) : Prop :=
  lexeme ≠ [] ∧ ∀ char ∈ lexeme, isRunChar char = true

/-- A mark stands alone. -/
def IsSingleMark (lexeme : List Char) : Prop :=
  ∃ mark, lexeme = [mark] ∧ isMark mark = true

theorem isRunChar_of_isMark {char : Char} (mark : isMark char = true) :
    isRunChar char = false := by
  simp only [isMark, List.contains_eq_mem, decide_eq_true_eq, List.mem_cons,
    List.not_mem_nil, or_false] at mark
  rcases mark with rfl | rfl | rfl | rfl | rfl | rfl <;> decide

theorem IsSingleMark.not_isRun {lexeme : List Char} (single : IsSingleMark lexeme) :
    ¬ IsRun lexeme := by
  obtain ⟨mark, rfl, isMark⟩ := single
  intro run
  have runChar := run.2 mark (by simp)
  rw [isRunChar_of_isMark isMark] at runChar
  cases runChar

def AllDigits (chars : List Char) : Prop :=
  ∀ char ∈ chars, char.isDigit = true

/-- Digits before a point: a zero alone, or digits that do not start with one. -/
inductive IsWholePart : List Char → Prop where
  | zero : IsWholePart ['0']
  | nonzero {first : Char} {others : List Char} :
      first.isDigit = true → first ≠ '0' → AllDigits others → IsWholePart (first :: others)

/-- The characters write the decimal: whole digits alone, or with a point and at least
one digit after it. -/
inductive Numeral : List Char → Decimal → Prop where
  | whole {digits : List Char} :
      IsWholePart digits → Numeral digits ⟨Nat.ofDigitChars 10 digits 0, 0⟩
  | fraction {digits places : List Char} :
      IsWholePart digits → places ≠ [] → AllDigits places →
        Numeral (digits ++ '.' :: places)
          ⟨Nat.ofDigitChars 10 (digits ++ places) 0, places.length⟩

def IsNumeral (lexeme : List Char) : Prop :=
  ∃ decimal, Numeral lexeme decimal

/-- The lexeme denotes the token. A numeral denotes the double nearest to it. -/
inductive Denotes : List Char → Token → Prop where
  | number {lexeme : List Char} {decimal : Decimal} :
      Numeral lexeme decimal → Denotes lexeme (.number decimal.toFloat)
  | operator (operator : Operator) : Denotes [operator.symbol] (.operator operator)
  | openParen : Denotes ['('] .openParen
  | closeParen : Denotes [')'] .closeParen

/-! ### Divisions -/

/-- No character of a gap belongs to a lexeme. -/
def IsGap (chars : List Char) : Prop :=
  ∀ char ∈ chars, isLexical char = false

instance (chars : List Char) : Decidable (IsGap chars) :=
  List.decidableBAll _ chars

structure Piece.WellFormed (piece : Piece) : Prop where
  gap : IsGap piece.gap
  lexeme : IsRun piece.lexeme ∨ IsSingleMark piece.lexeme

/-- Two runs with nothing between them would be one. -/
def Piece.ApartFrom (left right : Piece) : Prop :=
  IsRun left.lexeme → IsRun right.lexeme → right.gap ≠ []

namespace Split

structure WellFormed (split : Split) : Prop where
  pieces : ∀ piece ∈ split.pieces, piece.WellFormed
  tail : IsGap split.tail
  apart : split.pieces.IsChain Piece.ApartFrom

/-- The gaps and lexemes make up the text, and no run could be longer. -/
structure Divides (split : Split) (text : List Char) : Prop where
  toChars_eq : split.toChars = text
  wellFormed : split.WellFormed

def lexemes (split : Split) : List (List Char) :=
  split.pieces.map Piece.lexeme

end Split

/-! ### Boundaries -/

/-- A run of the joined text has characters of both parts. -/
def CutsRun (front back : List Char) : Prop :=
  front.getLast?.any isRunChar = true ∧ back.head?.any isRunChar = true

instance (front back : List Char) : Decidable (CutsRun front back) :=
  inferInstanceAs (Decidable (_ ∧ _))

/-! ### Gaps -/

/-- Neither part of a lexeme nor blank. -/
def IsUnrecognized (char : Char) : Prop :=
  isLexical char = false ∧ Text.isBlank char = false

instance (char : Char) : Decidable (IsUnrecognized char) :=
  inferInstanceAs (Decidable (_ ∧ _))

def blankUnlessLexical (char : Char) : Char :=
  if isLexical char then char else ' '

/-- The text with a space for every character of a gap. -/
def blanked (text : String) : String :=
  String.ofList (text.toList.map blankUnlessLexical)

end Reckon
