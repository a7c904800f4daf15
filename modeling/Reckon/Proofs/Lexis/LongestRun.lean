import Reckon.Proofs.Lexis.Concatenation
import Reckon.Skipped

/-!
Contract: runs at their full length, and the lexemes that are runs.

Two runs of full length in one text are apart from each other. So the earlier one stands in
the text before the later one, and is a lexeme of that text.

Owns:
- a run of full length is a lexeme, and a lexeme that is a run has its full length;
- the first run that is no numeral, found among the lexemes.

Does not own: what is answered for such a run.
-/

set_option autoImplicit false

namespace Reckon

/-! ### Texts -/

theorem IsRun.head?_any {lexeme : List Char} (run : IsRun lexeme) :
    lexeme.head?.any isRunChar = true := by
  obtain ⟨notEmpty, runChars⟩ := run
  rw [List.head?_eq_some_head notEmpty, Option.any_some]
  exact runChars _ (List.head_mem notEmpty)

namespace IsLongestRun

variable {before run behind front other back rest : List Char}

/-- Two longest runs do not overlap or touch, so the one that starts earlier lies before
the other. -/
theorem exists_within (stands : IsLongestRun before run behind)
    (earlierStands : IsLongestRun front other back)
    (same : before ++ (run ++ behind) = front ++ (other ++ back))
    (earlier : front.length < before.length) :
    ∃ rest, before = front ++ (other ++ rest) ∧ IsLongestRun front other rest := by
  rcases List.append_eq_append_iff.mp same with ⟨middle, rfl, -⟩ | ⟨middle, rfl, restEq⟩
  · rw [List.length_append] at earlier
    omega
  rcases List.append_eq_append_iff.mp restEq with ⟨rest, rfl, rfl⟩ | ⟨further, rfl, -⟩
  · refine ⟨rest, rfl, earlierStands.isRun, earlierStands.starts, fun cuts => ?_⟩
    obtain ⟨char, first, runChar⟩ := (Option.any_eq_true _ _).mp cuts.2
    refine earlierStands.ends ⟨cuts.1, ?_⟩
    rw [List.head?_append, first, Option.some_or, Option.any_some, runChar]
  · -- The other run would go on to where this one starts.
    have middleRun : IsRun middle := by
      refine ⟨?_, fun char member => earlierStands.isRun.2 char (List.mem_append_left _ member)⟩
      rintro rfl
      simp at earlier
    have cuts : CutsRun middle run := ⟨middleRun.getLast?_any, stands.isRun.head?_any⟩
    exact absurd (cuts.append_left front) stands.starts

theorem mem_lexemes (stands : IsLongestRun front other rest) :
    other ∈ (Split.ofChars (front ++ (other ++ rest))).lexemes := by
  have whole : ¬ CutsRun front (other ++ rest) := fun cuts =>
    stands.starts ⟨cuts.1, stands.isRun.head?_any⟩
  have longest : IsRun other → ∀ char ∈ rest.head?, isRunChar char = false := by
    intro _ char first
    apply Bool.eq_false_iff.mpr
    intro runChar
    exact stands.ends
      ⟨stands.isRun.getLast?_any, (Option.any_eq_true _ _).mpr ⟨char, first, runChar⟩⟩
  have noGap : IsGap [] := nofun
  have divided := Split.ofChars_append noGap (.inl stands.isRun) longest
  rw [List.nil_append] at divided
  rw [Split.lexemes_ofChars_append whole, divided]
  exact List.mem_append_right _ List.mem_cons_self

end IsLongestRun

/-! ### Divisions -/

namespace Split

variable {split : Split} {front back : List Piece} {piece : Piece} {tail : List Char}

theorem WellFormed.upTo (wellFormed : WellFormed ⟨front ++ piece :: back, tail⟩) :
    WellFormed ⟨front, piece.gap⟩ where
  pieces := fun earlier member => wellFormed.pieces earlier (List.mem_append_left _ member)
  tail := (wellFormed.pieces piece (by simp)).gap
  apart := (List.isChain_append.mp wellFormed.apart).1

theorem WellFormed.after (wellFormed : WellFormed ⟨front ++ piece :: back, tail⟩) :
    WellFormed ⟨back, tail⟩ where
  pieces := fun later member => wellFormed.pieces later (by simp [member])
  tail := wellFormed.tail
  apart := (List.isChain_cons.mp (List.isChain_append.mp wellFormed.apart).2.1).2

/-- Before a run stands no character of a run. -/
theorem WellFormed.isRunChar_getLast (wellFormed : split.WellFormed)
    (apart : ∀ piece ∈ split.pieces.getLast?, IsRun piece.lexeme → split.tail ≠ []) :
    ∀ char ∈ split.toChars.getLast?, isRunChar char = false := by
  obtain ⟨pieces, tail⟩ := split
  intro char last
  rw [toChars, List.getLast?_append] at last
  cases tailLast : tail.getLast? with
  | some final =>
      obtain rfl : final = char := by simpa [tailLast] using last
      exact wellFormed.tail.isRunChar final (List.mem_of_getLast? tailLast)
  | none =>
      have noTail : tail = [] := List.getLast?_eq_none_iff.mp tailLast
      rcases pieces.eq_nil_or_concat with rfl | ⟨front, piece, rfl⟩
      · simp [tailLast] at last
      · have notRun : ¬ IsRun piece.lexeme := fun run => apart piece (by simp) run noTail
        have pieceFormed : piece.WellFormed := wellFormed.pieces piece (by simp)
        obtain ⟨mark, lexeme, isMark⟩ := pieceFormed.lexeme.resolve_left notRun
        obtain rfl : mark = char := by simpa [noTail, lexeme] using last
        exact isRunChar_of_isMark isMark

/-- A run among the lexemes has its full length. -/
theorem WellFormed.isLongestRun (wellFormed : WellFormed ⟨front ++ piece :: back, tail⟩)
    (run : IsRun piece.lexeme) :
    IsLongestRun (toChars ⟨front, piece.gap⟩) piece.lexeme (toChars ⟨back, tail⟩) := by
  obtain ⟨-, behindApart, frontApart⟩ := List.isChain_append.mp wellFormed.apart
  refine ⟨run, ?_, ?_⟩
  · intro cuts
    obtain ⟨char, last, runChar⟩ := (Option.any_eq_true _ _).mp cuts.1
    have notRun : isRunChar char = false :=
      wellFormed.upTo.isRunChar_getLast
        (fun earlier member earlierRun => frontApart earlier member piece rfl earlierRun run)
        char last
    rw [notRun] at runChar
    cases runChar
  · intro cuts
    obtain ⟨char, first, runChar⟩ := (Option.any_eq_true _ _).mp cuts.2
    have notRun : isRunChar char = false :=
      wellFormed.after.isRunChar_head
        (fun later member => (List.isChain_cons.mp behindApart).1 later member run) char first
    rw [notRun] at runChar
    cases runChar

/-- The first lexeme that is a run and no numeral is the first such run of the text. -/
theorem WellFormed.firstMisfit (wellFormed : WellFormed ⟨front ++ piece :: back, tail⟩)
    (earlier : ∀ piece ∈ front, IsRun piece.lexeme → IsNumeral piece.lexeme)
    (run : IsRun piece.lexeme) (misfit : ¬ IsNumeral piece.lexeme) :
    FirstMisfit (toChars ⟨front ++ piece :: back, tail⟩) (toChars ⟨front, piece.gap⟩)
      piece.lexeme := by
  have stands := wellFormed.isLongestRun run
  have divided : toChars ⟨front ++ piece :: back, tail⟩ =
      toChars ⟨front, piece.gap⟩ ++ (piece.lexeme ++ toChars ⟨back, tail⟩) := by
    simp [toChars]
  refine ⟨⟨_, divided, stands⟩, misfit, ?_⟩
  intro start other rest same otherStands otherMisfit
  apply Nat.le_of_not_lt
  intro startsEarlier
  obtain ⟨between, beforeEq, otherWithin⟩ :=
    stands.exists_within otherStands (divided.symm.trans same) startsEarlier
  have member : other ∈ (ofChars (toChars ⟨front, piece.gap⟩)).lexemes := by
    rw [beforeEq]
    exact otherWithin.mem_lexemes
  rw [wellFormed.upTo.ofChars_toChars] at member
  obtain ⟨otherPiece, inFront, rfl⟩ := List.mem_map.mp member
  exact otherMisfit (earlier otherPiece inFront otherStands.isRun)

end Split

end Reckon
