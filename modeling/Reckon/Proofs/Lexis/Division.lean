import Reckon.Lexis

/-!
Contract: every text has one division into gaps and lexemes.

A division is built from the end of the text, one character in front at a time. Each
character that is put in front keeps the division well formed. From the left, the
division takes one gap and one lexeme at a time, a run as far as it goes. So a
well-formed division is rebuilt from its own characters, and no text has another one.

Owns:
- existence and uniqueness of the division of a text;
- the division of a text behind its first lexeme.
-/

set_option autoImplicit false

namespace Reckon

/-! ### Characters -/

theorem isLexical_eq_false_iff {char : Char} :
    isLexical char = false ↔ isRunChar char = false ∧ isMark char = false := by
  unfold isLexical
  cases isRunChar char <;> cases isMark char <;> decide

theorem IsGap.isRunChar {gap : List Char} (isGap : IsGap gap) :
    ∀ char ∈ gap, isRunChar char = false :=
  fun char member => (isLexical_eq_false_iff.mp (isGap char member)).1

theorem IsRun.singleton {char : Char} (run : isRunChar char = true) : IsRun [char] :=
  ⟨List.cons_ne_nil _ _, by simpa using run⟩

theorem IsRun.cons {char : Char} {lexeme : List Char} (run : isRunChar char = true)
    (others : IsRun lexeme) : IsRun (char :: lexeme) :=
  ⟨List.cons_ne_nil _ _, List.forall_mem_cons.mpr ⟨run, others.2⟩⟩

/-- What a character of a run is joined to when it is put in front. -/
theorem Piece.WellFormed.startsWithRun_iff {piece : Piece} (wellFormed : piece.WellFormed) :
    piece.startsWithRun = true ↔ piece.gap = [] ∧ IsRun piece.lexeme := by
  have startsRun : piece.lexeme.head?.any isRunChar = true ↔ IsRun piece.lexeme := by
    rcases wellFormed.lexeme with run | single
    · cases lexeme : piece.lexeme with
      | nil => exact absurd lexeme run.1
      | cons first others =>
          rw [lexeme] at run
          simp [run, run.2 first (by simp)]
    · obtain ⟨mark, lexeme, isMark⟩ := single
      have notRun : ¬ IsRun piece.lexeme := IsSingleMark.not_isRun ⟨mark, lexeme, isMark⟩
      simp [lexeme, isRunChar_of_isMark isMark] at notRun ⊢
      exact notRun
  rw [Piece.startsWithRun, Bool.and_eq_true, List.isEmpty_iff, startsRun]

namespace Split

variable {split : Split} {char : Char}

/-! ### One more character in front -/

theorem push_run (run : isRunChar char = true) : split.push char = split.pushRunChar char := by
  rw [push, if_pos run]

theorem push_mark (mark : isMark char = true) : split.push char = split.startLexeme char := by
  rw [push, if_neg (by simp [isRunChar_of_isMark mark]), if_pos mark]

theorem push_gap (gap : isLexical char = false) : split.push char = split.pushGapChar char := by
  obtain ⟨notRun, notMark⟩ := isLexical_eq_false_iff.mp gap
  rw [push, if_neg (by simp [notRun]), if_neg (by simp [notMark])]

theorem WellFormed.startLexeme (wellFormed : split.WellFormed)
    (lexeme : IsRun [char] ∨ IsSingleMark [char])
    (apart : ∀ piece ∈ split.pieces.head?, Piece.ApartFrom ⟨[], [char]⟩ piece) :
    (split.startLexeme char).WellFormed where
  pieces := List.forall_mem_cons.mpr ⟨⟨nofun, lexeme⟩, wellFormed.pieces⟩
  tail := wellFormed.tail
  apart := List.isChain_cons.mpr ⟨apart, wellFormed.apart⟩

theorem WellFormed.pushGapChar (wellFormed : split.WellFormed)
    (gap : isLexical char = false) : (split.pushGapChar char).WellFormed := by
  obtain ⟨pieces, tail⟩ := split
  obtain ⟨piecesFormed, tailGap, apart⟩ := wellFormed
  cases pieces with
  | nil => exact ⟨nofun, List.forall_mem_cons.mpr ⟨gap, tailGap⟩, .nil⟩
  | cons piece pieces =>
      obtain ⟨pieceFormed, othersFormed⟩ := List.forall_mem_cons.mp piecesFormed
      obtain ⟨first, others⟩ := List.isChain_cons.mp apart
      have longerGap : IsGap (char :: piece.gap) :=
        List.forall_mem_cons.mpr ⟨gap, pieceFormed.gap⟩
      refine ⟨List.forall_mem_cons.mpr ⟨⟨longerGap, pieceFormed.lexeme⟩, othersFormed⟩, tailGap, ?_⟩
      exact List.isChain_cons.mpr ⟨first, others⟩

theorem WellFormed.pushRunChar (wellFormed : split.WellFormed) (run : isRunChar char = true) :
    (split.pushRunChar char).WellFormed := by
  have single : IsRun [char] ∨ IsSingleMark [char] := .inl (.singleton run)
  cases front : split.pieces with
  | nil =>
      rw [Split.pushRunChar, front]
      exact wellFormed.startLexeme single (by simp [front])
  | cons piece pieces =>
      have piecesFormed := wellFormed.pieces
      have apart := wellFormed.apart
      rw [front] at piecesFormed apart
      obtain ⟨pieceFormed, othersFormed⟩ := List.forall_mem_cons.mp piecesFormed
      by_cases joins : piece.startsWithRun = true
      · obtain ⟨noGap, pieceRun⟩ := pieceFormed.startsWithRun_iff.mp joins
        obtain ⟨first, others⟩ := List.isChain_cons.mp apart
        rw [Split.pushRunChar, front]
        simp only [joins, ↓reduceIte]
        have longerRun : IsRun (char :: piece.lexeme) := .cons run pieceRun
        refine ⟨List.forall_mem_cons.mpr ⟨⟨pieceFormed.gap, .inl longerRun⟩, othersFormed⟩,
          wellFormed.tail, List.isChain_cons.mpr ⟨?_, others⟩⟩
        intro next member _
        exact first next member pieceRun
      · rw [Split.pushRunChar, front]
        simp only [joins, Bool.false_eq_true, ↓reduceIte]
        refine wellFormed.startLexeme single ?_
        intro next member _ nextRun noGap
        rw [front] at member
        cases member
        exact joins (pieceFormed.startsWithRun_iff.mpr ⟨noGap, nextRun⟩)

theorem WellFormed.push (wellFormed : split.WellFormed) (char : Char) :
    (split.push char).WellFormed := by
  by_cases run : isRunChar char = true
  · rw [push_run run]
    exact wellFormed.pushRunChar run
  · by_cases mark : isMark char = true
    · have single : IsSingleMark [char] := ⟨char, rfl, mark⟩
      rw [push_mark mark]
      exact wellFormed.startLexeme (.inr single) fun _ _ isRun => absurd isRun single.not_isRun
    · have gap : isLexical char = false := by
        rw [isLexical_eq_false_iff]
        exact ⟨Bool.eq_false_iff.mpr run, Bool.eq_false_iff.mpr mark⟩
      rw [push_gap gap]
      exact wellFormed.pushGapChar gap

theorem divides_ofChars (text : List Char) : (ofChars text).Divides text := by
  refine ⟨toChars_ofChars text, ?_⟩
  induction text with
  | nil => exact ⟨nofun, nofun, .nil⟩
  | cons char text inductionHypothesis => exact inductionHypothesis.push char

/-! ### Rebuilding a division -/

theorem foldr_push_gap {gap : List Char} (isGap : IsGap gap) (lexeme : List Char)
    (pieces : List Piece) (tail : List Char) :
    gap.foldr push ⟨⟨[], lexeme⟩ :: pieces, tail⟩ = ⟨⟨gap, lexeme⟩ :: pieces, tail⟩ := by
  induction gap with
  | nil => rfl
  | cons char gap inductionHypothesis =>
      obtain ⟨charGap, others⟩ := List.forall_mem_cons.mp isGap
      rw [List.foldr_cons, inductionHypothesis others, push_gap charGap]
      rfl

theorem foldr_push_tail {tail : List Char} (isGap : IsGap tail) :
    tail.foldr push ⟨[], []⟩ = ⟨[], tail⟩ := by
  induction tail with
  | nil => rfl
  | cons char tail inductionHypothesis =>
      obtain ⟨charGap, others⟩ := List.forall_mem_cons.mp isGap
      rw [List.foldr_cons, inductionHypothesis others, push_gap charGap]
      rfl

/-- A run in front of what is no run becomes one lexeme. -/
theorem foldr_push_run {lexeme : List Char} (run : IsRun lexeme)
    (apart : ∀ piece ∈ split.pieces.head?, piece.startsWithRun = false) :
    lexeme.foldr push split = ⟨⟨[], lexeme⟩ :: split.pieces, split.tail⟩ := by
  obtain ⟨notEmpty, runChars⟩ := run
  induction lexeme with
  | nil => exact absurd rfl notEmpty
  | cons char others inductionHypothesis =>
      obtain ⟨charRun, othersRun⟩ := List.forall_mem_cons.mp runChars
      rw [List.foldr_cons, push_run charRun]
      cases others with
      | nil =>
          rw [List.foldr_nil, pushRunChar]
          cases front : split.pieces with
          | nil => simp [startLexeme, front]
          | cons piece pieces =>
              have notJoined := apart piece (by simp [front])
              simp [startLexeme, front, notJoined]
      | cons next others =>
          rw [inductionHypothesis (List.cons_ne_nil _ _) othersRun, pushRunChar]
          have joined : Piece.startsWithRun ⟨[], next :: others⟩ = true := by
            simp [Piece.startsWithRun, othersRun next (by simp)]
          simp [joined]

theorem foldr_push_lexeme {lexeme : List Char} (form : IsRun lexeme ∨ IsSingleMark lexeme)
    (apart : IsRun lexeme → ∀ piece ∈ split.pieces.head?, piece.startsWithRun = false) :
    lexeme.foldr push split = ⟨⟨[], lexeme⟩ :: split.pieces, split.tail⟩ := by
  rcases form with run | ⟨mark, rfl, isMark⟩
  · exact foldr_push_run run (apart run)
  · rw [List.foldr_cons, List.foldr_nil, push_mark isMark]
    rfl

/-! ### From the left -/

/-- A run ahead is a run that the text starts with. -/
theorem exists_of_startsWithRun {piece : Piece} (first : piece ∈ split.pieces.head?)
    (starts : piece.startsWithRun = true) :
    ∃ char ∈ split.toChars.head?, isRunChar char = true := by
  obtain ⟨pieces, tail⟩ := split
  obtain ⟨others, rfl⟩ := List.head?_eq_some_iff.mp first
  rw [Piece.startsWithRun, Bool.and_eq_true, List.isEmpty_iff, Option.any_eq_true] at starts
  obtain ⟨noGap, char, front, runChar⟩ := starts
  refine ⟨char, ?_, runChar⟩
  simp [toChars, noGap, front]

/-- A gap and the lexeme behind it are divided off, provided that a run is taken as far
as it goes. -/
theorem ofChars_append {gap lexeme rest : List Char} (isGap : IsGap gap)
    (form : IsRun lexeme ∨ IsSingleMark lexeme)
    (longest : IsRun lexeme → ∀ char ∈ rest.head?, isRunChar char = false) :
    ofChars (gap ++ (lexeme ++ rest)) =
      ⟨⟨gap, lexeme⟩ :: (ofChars rest).pieces, (ofChars rest).tail⟩ := by
  have apart : IsRun lexeme →
      ∀ piece ∈ (ofChars rest).pieces.head?, piece.startsWithRun = false := by
    intro run piece first
    apply Bool.eq_false_iff.mpr
    intro starts
    obtain ⟨char, member, runChar⟩ := exists_of_startsWithRun first starts
    rw [toChars_ofChars] at member
    rw [longest run char member] at runChar
    cases runChar
  rw [ofChars, List.foldr_append, List.foldr_append]
  show gap.foldr push (lexeme.foldr push (ofChars rest)) = _
  rw [foldr_push_lexeme form apart, foldr_push_gap isGap]

/-- Behind a run stands no character of a run. -/
theorem WellFormed.isRunChar_head (wellFormed : split.WellFormed)
    (apart : ∀ piece ∈ split.pieces.head?, IsRun piece.lexeme → piece.gap ≠ []) :
    ∀ char ∈ split.toChars.head?, isRunChar char = false := by
  obtain ⟨pieces, tail⟩ := split
  cases pieces with
  | nil =>
      intro char member
      exact wellFormed.tail.isRunChar char (List.mem_of_mem_head? member)
  | cons piece pieces =>
      obtain ⟨pieceFormed, -⟩ := List.forall_mem_cons.mp wellFormed.pieces
      intro char member
      cases gap : piece.gap with
      | cons first others =>
          obtain rfl : first = char := by simpa [toChars, gap] using member
          exact pieceFormed.gap.isRunChar first (by simp [gap])
      | nil =>
          have notRun : ¬ IsRun piece.lexeme := fun run => apart piece rfl run gap
          obtain ⟨mark, lexeme, isMark⟩ := pieceFormed.lexeme.resolve_left notRun
          obtain rfl : mark = char := by simpa [toChars, gap, lexeme] using member
          exact isRunChar_of_isMark isMark

theorem toChars_cons (piece : Piece) (pieces : List Piece) (tail : List Char) :
    toChars ⟨piece :: pieces, tail⟩ = piece.gap ++ (piece.lexeme ++ toChars ⟨pieces, tail⟩) := by
  simp [toChars]

/-- Induction on the pieces: each is divided off from the left. -/
theorem WellFormed.ofChars_toChars (wellFormed : split.WellFormed) :
    ofChars split.toChars = split := by
  obtain ⟨pieces, tail⟩ := split
  obtain ⟨piecesFormed, tailGap, apart⟩ := wellFormed
  induction pieces with
  | nil => exact foldr_push_tail tailGap
  | cons piece pieces inductionHypothesis =>
      obtain ⟨pieceFormed, othersFormed⟩ := List.forall_mem_cons.mp piecesFormed
      obtain ⟨first, others⟩ := List.isChain_cons.mp apart
      have longest : IsRun piece.lexeme →
          ∀ char ∈ (toChars ⟨pieces, tail⟩).head?, isRunChar char = false :=
        fun run => WellFormed.isRunChar_head ⟨othersFormed, tailGap, others⟩
          fun next member => first next member run
      rw [toChars_cons, ofChars_append pieceFormed.gap pieceFormed.lexeme longest,
        inductionHypothesis othersFormed tailGap others]

theorem divides_iff {text : List Char} : split.Divides text ↔ split = ofChars text := by
  constructor
  · intro divides
    rw [← divides.toChars_eq, divides.wellFormed.ofChars_toChars]
  · rintro rfl
    exact divides_ofChars text

end Split

end Reckon
