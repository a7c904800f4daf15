import Reckon.Lexis
import Reckon.Scan

/-!
Contract: what a text reports as skipped, told from the text alone.

Owns:
- the skipped texts among records, and the form of such a text;
- a run at its full length, and the first run of a text that is no numeral;
- the part of a text that is read.

Does not own: how gaps are found and trimmed.
-/

set_option autoImplicit false

namespace Reckon

/-! ### Skipped texts -/

def Record.skipped? : Record → Option String
  | skipped text => some text
  | _ => none

/-- The texts that are reported as skipped, in the order of the records. -/
def skippedTexts (records : List Record) : List String :=
  records.filterMap Record.skipped?

/-- Blanks may stand inside a skipped text, but not at its ends. -/
structure IsSkippedText (chars : List Char) : Prop where
  notEmpty : chars ≠ []
  first : ∀ char ∈ chars.head?, Text.isBlank char = false
  last : ∀ char ∈ chars.getLast?, Text.isBlank char = false
  gap : IsGap chars

/-! ### The part that is read -/

/-- Between the two texts, the run has its full length. -/
structure IsLongestRun (before run behind : List Char) : Prop where
  isRun : IsRun run
  starts : ¬ CutsRun before run
  ends : ¬ CutsRun run behind

/-- Of the longest runs of the text that are no numerals, `run` is the first, and
`before` stands before it. -/
structure FirstMisfit (text before run : List Char) : Prop where
  stands : ∃ behind, text = before ++ (run ++ behind) ∧ IsLongestRun before run behind
  misfit : ¬ IsNumeral run
  isFirst : ∀ front other back, text = front ++ (other ++ back) →
    IsLongestRun front other back → ¬ IsNumeral other → before.length ≤ front.length

/-- A text that has tokens is read to its end. Any other text is read as far as the run
for which it is refused. -/
inductive ReadPart (text : String) : List Char → Prop where
  | whole {tokens : List Token} :
      tokenize text = .ok tokens → ReadPart text text.toList
  | before {front run : List Char} :
      tokenize text = .error (.invalidLexeme (String.ofList run)) →
        FirstMisfit text.toList front run → ReadPart text front

end Reckon
