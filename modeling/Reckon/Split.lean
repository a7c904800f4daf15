/-!
Contract: the division of a text into gaps and lexemes.

A lexeme is a longest run of digits and points, or one of the marks `+ - * / ( )`.
What stands before, between and after the lexemes is a gap.

Owns: the characters of lexemes and the division of a text.

Does not own: which lexemes are tokens.
-/

set_option autoImplicit false

namespace Reckon

def isRunChar (char : Char) : Bool :=
  char.isDigit || char == '.'

def isMark (char : Char) : Bool :=
  ['+', '-', '*', '/', '(', ')'].contains char

/-- A character that belongs to a lexeme wherever it stands. -/
def isLexical (char : Char) : Bool :=
  isRunChar char || isMark char

/-- A lexeme with the gap before it. -/
structure Piece where
  gap : List Char
  lexeme : List Char
deriving DecidableEq, Repr

/-- The pieces of a text and the gap that ends it. -/
structure Split where
  pieces : List Piece
  tail : List Char
deriving DecidableEq, Repr

/-- A character of a run that is put in front of the piece joins its lexeme. -/
def Piece.startsWithRun (piece : Piece) : Bool :=
  piece.gap.isEmpty && piece.lexeme.head?.any isRunChar

namespace Split

/-- The text that was divided. -/
def toChars (split : Split) : List Char :=
  split.pieces.flatMap (fun piece => piece.gap ++ piece.lexeme) ++ split.tail

def startLexeme (char : Char) (split : Split) : Split :=
  { split with pieces := ⟨[], [char]⟩ :: split.pieces }

def pushRunChar (char : Char) (split : Split) : Split :=
  match split.pieces with
  | [] => split.startLexeme char
  | piece :: pieces =>
      if piece.startsWithRun then
        { split with pieces := ⟨piece.gap, char :: piece.lexeme⟩ :: pieces }
      else split.startLexeme char

def pushGapChar (char : Char) (split : Split) : Split :=
  match split.pieces with
  | [] => { split with tail := char :: split.tail }
  | piece :: pieces => { split with pieces := ⟨char :: piece.gap, piece.lexeme⟩ :: pieces }

/-- The division of a text that has one more character in front. -/
def push (char : Char) (split : Split) : Split :=
  if isRunChar char then split.pushRunChar char
  else if isMark char then split.startLexeme char
  else split.pushGapChar char

def ofChars (text : List Char) : Split :=
  text.foldr push ⟨[], []⟩

theorem toChars_push (char : Char) (split : Split) :
    (split.push char).toChars = char :: split.toChars := by
  rcases split with ⟨_ | ⟨⟨gap, lexeme⟩, pieces⟩, tail⟩
  · by_cases run : isRunChar char <;> by_cases mark : isMark char <;>
      simp [push, pushRunChar, pushGapChar, startLexeme, toChars, run, mark]
  · by_cases run : isRunChar char <;> by_cases mark : isMark char <;>
      cases gap <;> cases starts : lexeme.head?.any isRunChar <;>
      simp [push, pushRunChar, pushGapChar, startLexeme, toChars, Piece.startsWithRun,
        run, mark, starts]

/-- Nothing is lost and nothing is moved. -/
theorem toChars_ofChars (text : List Char) : (ofChars text).toChars = text := by
  induction text with
  | nil => rfl
  | cons char text inductionHypothesis =>
      show ((ofChars text).push char).toChars = char :: text
      rw [toChars_push, inductionHypothesis]

end Split

end Reckon
