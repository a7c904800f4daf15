import Reckon.Proofs.Calculation
import Reckon.Proofs.Lexis.Scanning

/-!
Contract: what unrecognized characters do to a text.

Putting a space for each character of a gap changes the gaps and nothing else, one
character in front at a time. So the lexemes stay, and with them all that is made of
the text.

Owns:
- the division of a text with its gaps made blank;
- no result tells an unrecognized character from a space.

Does not own: what is recorded about gaps.
-/

set_option autoImplicit false

namespace Reckon

/-! ### Characters -/

theorem blankUnlessLexical_of_lexical {char : Char} (lexical : isLexical char = true) :
    blankUnlessLexical char = char := by
  rw [blankUnlessLexical, if_pos lexical]

theorem blankUnlessLexical_of_gap {char : Char} (gap : isLexical char = false) :
    blankUnlessLexical char = ' ' := by
  rw [blankUnlessLexical, if_neg (by simp [gap])]

theorem not_isUnrecognized_blankUnlessLexical (char : Char) :
    ¬ IsUnrecognized (blankUnlessLexical char) := by
  cases lexical : isLexical char with
  | false =>
      rw [blankUnlessLexical_of_gap lexical]
      decide
  | true =>
      rw [blankUnlessLexical_of_lexical lexical, IsUnrecognized, lexical]
      nofun

/-! ### Divisions -/

def Piece.blankGap (piece : Piece) : Piece :=
  ⟨piece.gap.map blankUnlessLexical, piece.lexeme⟩

theorem Piece.startsWithRun_blankGap (piece : Piece) :
    piece.blankGap.startsWithRun = piece.startsWithRun := by
  rw [startsWithRun, startsWithRun, blankGap, List.isEmpty_map]

namespace Split

def blankGaps (split : Split) : Split :=
  ⟨split.pieces.map Piece.blankGap, split.tail.map blankUnlessLexical⟩

theorem lexemes_blankGaps (split : Split) : split.blankGaps.lexemes = split.lexemes := by
  rw [lexemes, lexemes, blankGaps, List.map_map]
  rfl

variable {char : Char}

theorem blankGaps_startLexeme (split : Split) :
    (split.startLexeme char).blankGaps = split.blankGaps.startLexeme char := rfl

theorem blankGaps_pushRunChar (split : Split) :
    (split.pushRunChar char).blankGaps = split.blankGaps.pushRunChar char := by
  obtain ⟨_ | ⟨piece, pieces⟩, tail⟩ := split
  · rfl
  · have starts := piece.startsWithRun_blankGap
    show blankGaps (if piece.startsWithRun then _ else _) =
      if piece.blankGap.startsWithRun then _ else _
    cases joins : piece.startsWithRun with
    | false =>
        rw [joins] at starts
        rw [starts, if_neg Bool.false_ne_true, if_neg Bool.false_ne_true]
        rfl
    | true =>
        rw [joins] at starts
        rw [starts, if_pos rfl, if_pos rfl]
        rfl

theorem blankGaps_pushGapChar (split : Split) :
    (split.pushGapChar char).blankGaps =
      split.blankGaps.pushGapChar (blankUnlessLexical char) := by
  obtain ⟨_ | ⟨piece, pieces⟩, tail⟩ := split <;> rfl

theorem blankGaps_push (split : Split) :
    (split.push char).blankGaps = split.blankGaps.push (blankUnlessLexical char) := by
  by_cases run : isRunChar char = true
  · have lexical : isLexical char = true := by simp [isLexical, run]
    rw [blankUnlessLexical_of_lexical lexical, push_run run, push_run run, blankGaps_pushRunChar]
  · by_cases mark : isMark char = true
    · have lexical : isLexical char = true := by simp [isLexical, mark]
      rw [blankUnlessLexical_of_lexical lexical, push_mark mark, push_mark mark,
        blankGaps_startLexeme]
    · have gap : isLexical char = false := by simp [isLexical, run, mark]
      have space : isLexical (blankUnlessLexical char) = false := by
        rw [blankUnlessLexical_of_gap gap]
        decide
      rw [push_gap gap, push_gap space, blankGaps_pushGapChar]

theorem ofChars_map_blankUnlessLexical (text : List Char) :
    ofChars (text.map blankUnlessLexical) = (ofChars text).blankGaps := by
  induction text with
  | nil => rfl
  | cons char text inductionHypothesis =>
      show (ofChars (text.map blankUnlessLexical)).push (blankUnlessLexical char) =
        ((ofChars text).push char).blankGaps
      rw [inductionHypothesis, blankGaps_push]

end Split

/-! ### Results -/

theorem tokenize_blanked (text : String) : tokenize (blanked text) = tokenize text := by
  rw [tokenize_eq_mapM, tokenize_eq_mapM, blanked, String.toList_ofList,
    Split.ofChars_map_blankUnlessLexical, Split.lexemes_blankGaps]

/-- An unrecognized character is as good as a space, wherever it stands. A text is
refused only if it would be with spaces in the places of such characters. -/
theorem outcome_blanked (settings : Settings) (text : String) :
    (∀ char ∈ (blanked text).toList, ¬ IsUnrecognized char) ∧
      (parse settings (blanked text)).outcome = (parse settings text).outcome ∧
      (calculate settings (blanked text)).outcome = (calculate settings text).outcome := by
  have parsed : (parse settings (blanked text)).outcome = (parse settings text).outcome := by
    rw [outcome_parse, outcome_parse, tokenize_blanked]
  refine ⟨?_, parsed, outcome_calculate_congr parsed⟩
  rw [blanked, String.toList_ofList, List.forall_mem_map]
  intro char _
  exact not_isUnrecognized_blankUnlessLexical char

/-- Behind a number that makes up the expression, a word goes unnoticed. -/
theorem not_unrecognized_refused :
    ¬ ∀ (settings : Settings) (text : String),
      (∃ char ∈ text.toList, IsUnrecognized char) →
        ∃ error, (parse settings text).outcome = .error error := by
  intro refused
  have word : ∃ char ∈ "2 apples".toList, IsUnrecognized char :=
    ⟨'a', by decide, by decide⟩
  obtain ⟨error, failed⟩ := refused {} "2 apples" word
  have succeeds : (parse {} "2 apples").outcome.isOk = true := by decide +kernel
  rw [failed] at succeeds
  cases succeeds

end Reckon
