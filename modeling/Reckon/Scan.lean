import Reckon.Log
import Reckon.Split
import Reckon.Text.Blank

/-!
Contract: from a text to its tokens.

Owns:
- the token of each lexeme, and the refusal of a lexeme that is none;
- the report of what lies between lexemes.

Does not own: how a text is divided.
-/

set_option autoImplicit false

namespace Reckon

/-- Reports a gap unless it holds nothing but blanks. -/
def reportGap (gap : List Char) : Traced ParseError Unit :=
  match Text.trim gap with
  | [] => return ()
  | first :: others => .emit (.skipped (String.ofList (first :: others)))

def readLexeme (reader : Token.Reader) (lexeme : List Char) : Except ParseError Token :=
  match reader lexeme with
  | some token => .ok token
  | none => .error (.invalidLexeme (String.ofList lexeme))

/-- Reads the lexemes in order and reports each gap before the lexeme that follows
it. The first lexeme that is no token ends the reading. -/
def readPieces (reader : Token.Reader) (tail : List Char) :
    List Piece → Traced ParseError (List Token)
  | [] => do
      reportGap tail
      return []
  | piece :: pieces => do
      reportGap piece.gap
      let token ← .ofExcept (readLexeme reader piece.lexeme)
      (token :: ·) <$> readPieces reader tail pieces

def scanWith (reader : Token.Reader) (text : String) : Traced ParseError (List Token) := do
  let split := Split.ofChars text.toList
  let tokens ← readPieces reader split.tail split.pieces
  .emit (.tokenized text tokens.length)
  return tokens

def scan (text : String) : Traced ParseError (List Token) :=
  scanWith Token.ofLexeme? text

/-- The tokens of a text alone. -/
def tokenize (text : String) : Except ParseError (List Token) :=
  (scan text).outcome

end Reckon
