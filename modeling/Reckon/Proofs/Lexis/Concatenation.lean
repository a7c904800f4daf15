import Reckon.Proofs.Calculation
import Reckon.Proofs.Lexis.Scanning

/-!
Contract: the tokens of a text put together from two parts.

The lexemes of the first part are divided off from the left, and what is left of it behind
its last lexeme is a gap. A run that the first part ends with is complete unless the second
part goes on with it, so the lexemes of the second part follow as they are.

Owns:
- the lexemes of two texts in sequence, where no run is cut;
- a gap between them changes no token and no result.

Does not own: runs that are cut.
-/

set_option autoImplicit false

namespace Reckon

variable {front back : List Char}

/-! ### Boundaries -/

theorem IsRun.getLast?_any {lexeme : List Char} (run : IsRun lexeme) :
    lexeme.getLast?.any isRunChar = true := by
  rw [List.getLast?_eq_some_getLast run.1, Option.any_some]
  exact run.2 _ (List.getLast_mem run.1)

theorem CutsRun.append_left (first : List Char) (cuts : CutsRun front back) :
    CutsRun (first ++ front) back := by
  obtain ⟨char, last, runChar⟩ := (Option.any_eq_true _ _).mp cuts.1
  refine ⟨?_, cuts.2⟩
  rw [List.getLast?_append, last, Option.some_or, Option.any_some, runChar]

/-- A run with no character of a run behind it keeps its end when more text follows. -/
theorem isRunChar_head?_append {lexeme : List Char} (run : IsRun lexeme)
    (stops : ∀ char ∈ front.head?, isRunChar char = false)
    (whole : ¬ CutsRun (lexeme ++ front) back) :
    ∀ char ∈ (front ++ back).head?, isRunChar char = false := by
  cases front with
  | nil =>
      intro char first
      rw [List.append_nil] at whole
      apply Bool.eq_false_iff.mpr
      intro runChar
      exact whole ⟨run.getLast?_any, (Option.any_eq_true _ _).mpr ⟨char, first, runChar⟩⟩
  | cons first others => exact stops

theorem not_cutsRun_gap_append {gap : List Char} (isGap : IsGap gap)
    (whole : ¬ CutsRun front back) : ¬ CutsRun front (gap ++ back) := by
  cases gap with
  | nil => exact whole
  | cons char gap =>
      intro cuts
      have notRun : isRunChar char = false := isGap.isRunChar char List.mem_cons_self
      have runChar : isRunChar char = true := cuts.2
      rw [notRun] at runChar
      cases runChar

namespace Split

variable {split : Split}

/-! ### Lexemes -/

theorem lexemes_pushGapChar (split : Split) (char : Char) :
    (split.pushGapChar char).lexemes = split.lexemes := by
  obtain ⟨_ | ⟨piece, pieces⟩, tail⟩ := split <;> rfl

theorem lexemes_ofChars_gap_append {gap : List Char} (isGap : IsGap gap) (text : List Char) :
    (ofChars (gap ++ text)).lexemes = (ofChars text).lexemes := by
  induction gap with
  | nil => rfl
  | cons char gap inductionHypothesis =>
      obtain ⟨charGap, others⟩ := List.forall_mem_cons.mp isGap
      show ((ofChars (gap ++ text)).push char).lexemes = (ofChars text).lexemes
      rw [push_gap charGap, lexemes_pushGapChar, inductionHypothesis others]

/-- Induction on the pieces of the first part, as they are divided off from the left. -/
theorem WellFormed.lexemes_ofChars_append (wellFormed : split.WellFormed)
    (whole : ¬ CutsRun split.toChars back) :
    (ofChars (split.toChars ++ back)).lexemes = split.lexemes ++ (ofChars back).lexemes := by
  obtain ⟨pieces, tail⟩ := split
  obtain ⟨piecesFormed, tailGap, apart⟩ := wellFormed
  induction pieces with
  | nil => exact lexemes_ofChars_gap_append tailGap back
  | cons piece pieces inductionHypothesis =>
      obtain ⟨pieceFormed, othersFormed⟩ := List.forall_mem_cons.mp piecesFormed
      obtain ⟨first, others⟩ := List.isChain_cons.mp apart
      rw [toChars_cons] at whole ⊢
      have wholeOthers : ¬ CutsRun (toChars ⟨pieces, tail⟩) back := fun cuts =>
        whole ((cuts.append_left piece.lexeme).append_left piece.gap)
      have longest (run : IsRun piece.lexeme) :
          ∀ char ∈ (toChars ⟨pieces, tail⟩ ++ back).head?, isRunChar char = false := by
        have stops : ∀ char ∈ (toChars ⟨pieces, tail⟩).head?, isRunChar char = false :=
          WellFormed.isRunChar_head ⟨othersFormed, tailGap, others⟩
            fun next member => first next member run
        exact isRunChar_head?_append run stops fun cuts => whole (cuts.append_left piece.gap)
      rw [List.append_assoc, List.append_assoc,
        ofChars_append pieceFormed.gap pieceFormed.lexeme longest]
      show piece.lexeme :: (ofChars (toChars ⟨pieces, tail⟩ ++ back)).lexemes = _
      rw [inductionHypothesis wholeOthers othersFormed tailGap others]
      rfl

theorem lexemes_ofChars_append (whole : ¬ CutsRun front back) :
    (ofChars (front ++ back)).lexemes = (ofChars front).lexemes ++ (ofChars back).lexemes := by
  obtain ⟨sameChars, wellFormed⟩ := divides_ofChars front
  rw [← sameChars] at whole
  have divided := wellFormed.lexemes_ofChars_append whole
  rwa [sameChars] at divided

theorem lexemes_ofChars_insert_gap {gap : List Char} (isGap : IsGap gap)
    (whole : ¬ CutsRun front back) :
    (ofChars (front ++ (gap ++ back))).lexemes = (ofChars (front ++ back)).lexemes := by
  have wholeGap : ¬ CutsRun front (gap ++ back) := not_cutsRun_gap_append isGap whole
  rw [lexemes_ofChars_append wholeGap, lexemes_ofChars_gap_append isGap,
    lexemes_ofChars_append whole]

end Split

/-! ### Texts -/

/-- Where no run is cut, the tokens of the parts follow each other, and an error of the first
part comes before an error of the second. A gap that is put there changes no result. -/
theorem tokenize_append {front back : String}
    (whole : ¬ CutsRun front.toList back.toList) :
    (tokenize (front ++ back) = do
      let frontTokens ← tokenize front
      let backTokens ← tokenize back
      return frontTokens ++ backTokens) ∧
    ∀ gap : String, IsGap gap.toList →
      tokenize (front ++ gap ++ back) = tokenize (front ++ back) ∧
      ∀ settings, (calculate settings (front ++ gap ++ back)).outcome =
        (calculate settings (front ++ back)).outcome := by
  constructor
  · rw [tokenize_eq_mapM, String.toList_append, Split.lexemes_ofChars_append whole,
      List.mapM_append, ← tokenize_eq_mapM, ← tokenize_eq_mapM]
  · intro gap isGap
    have sameTokens : tokenize (front ++ gap ++ back) = tokenize (front ++ back) := by
      rw [tokenize_eq_mapM, tokenize_eq_mapM, String.toList_append, String.toList_append,
        String.toList_append, List.append_assoc, Split.lexemes_ofChars_insert_gap isGap whole]
    refine ⟨sameTokens, fun settings => outcome_calculate_congr ?_⟩
    rw [outcome_parse, outcome_parse, sameTokens]

/-- A run that is cut is refused as a whole, and not for its second part. -/
example : tokenize ("7" ++ ".") = .error (.invalidLexeme "7.") := by rfl

/-- A run that is no numeral before a run that is none, with a sign at the boundary. -/
theorem tokenize_append_sign :
    ¬ CutsRun "2*1.2.2".toList "+01".toList ∧
      (tokenize ("2*1.2.2" ++ "+01") = do
        let frontTokens ← tokenize "2*1.2.2"
        let backTokens ← tokenize "+01"
        return frontTokens ++ backTokens) ∧
      IsGap " and ".toList ∧
      tokenize ("2*1.2.2" ++ " and " ++ "+01") = tokenize ("2*1.2.2" ++ "+01") ∧
      (calculate {} ("2*1.2.2" ++ " and " ++ "+01")).outcome =
        (calculate {} ("2*1.2.2" ++ "+01")).outcome := by
  have whole : ¬ CutsRun "2*1.2.2".toList "+01".toList := by decide
  have isGap : IsGap " and ".toList := by decide
  obtain ⟨divided, gaps⟩ := tokenize_append whole
  obtain ⟨sameTokens, sameResult⟩ := gaps " and " isGap
  exact ⟨whole, divided, isGap, sameTokens, sameResult {}⟩

end Reckon
