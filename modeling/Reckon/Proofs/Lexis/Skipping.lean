import Reckon.Proofs.Course
import Reckon.Proofs.Lexis.LongestRun

/-!
Contract: every unrecognized character that is read is reported, and reported once.

Trimming takes blanks from the ends of a gap and nothing else, so the reports of a gap hold
its unrecognized characters. The gaps that are reported are those of the part that is read:
all of them, or those up to the lexeme for which the text is refused. This part ends before
the first run that is no numeral, since a run of full length in it would be one of its
lexemes.

Owns:
- the reports of a gap and of a divided text;
- the part of a text that is read, found from its division;
- the skipped texts of a scan and of a calculation.

Does not own: the other records.
-/

set_option autoImplicit false

namespace Reckon

/-! ### Trimming -/

namespace Text

/-- Blanks are all that trimming takes away. -/
theorem exists_blanks_around_trim (text : List Char) :
    ∃ front back, text.dropWhile isBlank = trim text ++ back ∧ text = front ++ (trim text ++ back) ∧
      (∀ char ∈ front, isBlank char = true) ∧ ∀ char ∈ back, isBlank char = true := by
  let rest := text.dropWhile isBlank
  have atFront : text.takeWhile isBlank ++ rest = text := List.takeWhile_append_dropWhile
  have atBack : rest.reverse.takeWhile isBlank ++ rest.reverse.dropWhile isBlank = rest.reverse :=
    List.takeWhile_append_dropWhile
  have restEq : rest = trim text ++ (rest.reverse.takeWhile isBlank).reverse := by
    show rest = (rest.reverse.dropWhile isBlank).reverse ++ _
    rw [← List.reverse_append, atBack, List.reverse_reverse]
  refine ⟨text.takeWhile isBlank, (rest.reverse.takeWhile isBlank).reverse, restEq, ?_, ?_, ?_⟩
  · rw [← restEq, atFront]
  · intro char member
    exact List.mem_takeWhile_imp member
  · intro char member
    exact List.mem_takeWhile_imp (List.mem_reverse.mp member)

theorem not_isBlank_head_dropWhile (text : List Char) :
    ∀ char ∈ (text.dropWhile isBlank).head?, isBlank char = false := by
  intro char first
  have stops := List.head?_dropWhile_not isBlank text
  rw [Option.mem_def.mp first] at stops
  exact stops

theorem not_isBlank_head_trim (text : List Char) :
    ∀ char ∈ (trim text).head?, isBlank char = false := by
  obtain ⟨front, back, rest, -⟩ := exists_blanks_around_trim text
  intro char first
  apply not_isBlank_head_dropWhile text char
  rw [rest, List.head?_append, Option.mem_def.mp first]
  rfl

theorem not_isBlank_getLast_trim (text : List Char) :
    ∀ char ∈ (trim text).getLast?, isBlank char = false := by
  intro char last
  rw [trim, List.getLast?_reverse] at last
  exact not_isBlank_head_dropWhile _ char last

theorem filter_trim (text : List Char) :
    (trim text).filter (! isBlank ·) = text.filter (! isBlank ·) := by
  obtain ⟨front, back, -, divided, frontBlank, backBlank⟩ := exists_blanks_around_trim text
  have nothing {blanks : List Char} (areBlank : ∀ char ∈ blanks, isBlank char = true) :
      blanks.filter (! isBlank ·) = [] := by
    rw [List.filter_eq_nil_iff]
    intro char member
    simp [areBlank char member]
  conv => rhs; rw [divided]
  rw [List.filter_append, List.filter_append, nothing frontBlank, nothing backBlank,
    List.nil_append, List.append_nil]

theorem mem_of_mem_trim {text : List Char} {char : Char} (member : char ∈ trim text) :
    char ∈ text := by
  obtain ⟨front, back, -, divided, -⟩ := exists_blanks_around_trim text
  rw [divided]
  simp [member]

end Text

/-! ### The reports of a gap -/

theorem skippedTexts_append (left right : List Record) :
    skippedTexts (left ++ right) = skippedTexts left ++ skippedTexts right :=
  List.filterMap_append

theorem skippedTexts_append_of_none {others : List Record} (nothing : skippedTexts others = [])
    (records : List Record) : skippedTexts (records ++ others) = skippedTexts records := by
  rw [skippedTexts_append, nothing, List.append_nil]

theorem skippedTexts_reportGap (gap : List Char) :
    skippedTexts (reportGap gap).records =
      if Text.trim gap = [] then [] else [String.ofList (Text.trim gap)] := by
  unfold reportGap
  cases Text.trim gap <;> rfl

variable {gap : List Char}

theorem IsGap.isSkippedText_of_mem (isGap : IsGap gap) :
    ∀ report ∈ skippedTexts (reportGap gap).records, IsSkippedText report.toList := by
  intro report member
  rw [skippedTexts_reportGap] at member
  by_cases nothing : Text.trim gap = []
  · simp [nothing] at member
  · rw [if_neg nothing, List.mem_singleton] at member
    rw [member, String.toList_ofList]
    exact {
      notEmpty := nothing
      first := Text.not_isBlank_head_trim gap
      last := Text.not_isBlank_getLast_trim gap
      gap := fun char inside => isGap char (Text.mem_of_mem_trim inside) }

theorem flatMap_skippedTexts_reportGap (gap : List Char) :
    (skippedTexts (reportGap gap).records).flatMap String.toList = Text.trim gap := by
  rw [skippedTexts_reportGap]
  by_cases nothing : Text.trim gap = []
  · simp [nothing]
  · simp [nothing]

/-- In a gap, what is not blank is unrecognized. -/
theorem IsGap.filter_eq (isGap : IsGap gap) :
    gap.filter (! Text.isBlank ·) = gap.filter (IsUnrecognized ·) := by
  apply List.filter_congr
  intro char member
  simp [IsUnrecognized, isGap char member]

theorem Piece.WellFormed.filter_lexeme {piece : Piece} (wellFormed : piece.WellFormed) :
    piece.lexeme.filter (IsUnrecognized ·) = [] := by
  rw [List.filter_eq_nil_iff]
  intro char member
  have lexical : isLexical char = true := by
    rcases wellFormed.lexeme with run | ⟨mark, lexeme, isMark⟩
    · simp [isLexical, run.2 char member]
    · rw [lexeme, List.mem_singleton] at member
      simp [isLexical, member, isMark]
  simp [IsUnrecognized, lexical]

/-! ### The reports of a divided text -/

namespace Split

/-- What is reported of the gaps of a division, from the left. -/
def gapRecords (split : Split) : List Record :=
  split.pieces.flatMap (fun piece => (reportGap piece.gap).records) ++
    (reportGap split.tail).records

variable {split : Split}

theorem WellFormed.isSkippedText_of_mem (wellFormed : split.WellFormed) :
    ∀ report ∈ skippedTexts split.gapRecords, IsSkippedText report.toList := by
  intro report member
  rw [gapRecords, skippedTexts_append, skippedTexts, List.filterMap_flatMap,
    List.mem_append, List.mem_flatMap] at member
  rcases member with ⟨piece, inside, member⟩ | member
  · exact (wellFormed.pieces piece inside).gap.isSkippedText_of_mem report member
  · exact wellFormed.tail.isSkippedText_of_mem report member

theorem filter_reportGap {gap : List Char} (isGap : IsGap gap) :
    ((skippedTexts (reportGap gap).records).flatMap String.toList).filter (! Text.isBlank ·) =
      gap.filter (IsUnrecognized ·) := by
  rw [flatMap_skippedTexts_reportGap, Text.filter_trim, isGap.filter_eq]

/-- Induction on the pieces. -/
theorem WellFormed.filter_gapRecords (wellFormed : split.WellFormed) :
    ((skippedTexts split.gapRecords).flatMap String.toList).filter (! Text.isBlank ·) =
      split.toChars.filter (IsUnrecognized ·) := by
  obtain ⟨pieces, tail⟩ := split
  obtain ⟨piecesFormed, tailGap, apart⟩ := wellFormed
  induction pieces with
  | nil => exact filter_reportGap tailGap
  | cons piece pieces inductionHypothesis =>
      obtain ⟨pieceFormed, othersFormed⟩ := List.forall_mem_cons.mp piecesFormed
      have others := inductionHypothesis othersFormed tailGap (List.isChain_cons.mp apart).2
      have records : gapRecords ⟨piece :: pieces, tail⟩ =
          (reportGap piece.gap).records ++ gapRecords ⟨pieces, tail⟩ := by
        simp [gapRecords]
      rw [records, skippedTexts_append, List.flatMap_append, List.filter_append, others,
        filter_reportGap pieceFormed.gap, toChars_cons, List.filter_append, List.filter_append,
        pieceFormed.filter_lexeme, List.nil_append]

end Split

/-! ### The part that is read -/

theorem records_readPieces_append {reader : Token.Reader} {front : List Piece}
    (taken : ∀ piece ∈ front, reader piece.lexeme ≠ none) (tail : List Char)
    (back : List Piece) :
    (readPieces reader tail (front ++ back)).records =
      front.flatMap (fun piece => (reportGap piece.gap).records) ++
        (readPieces reader tail back).records := by
  induction front with
  | nil => rfl
  | cons piece front inductionHypothesis =>
      obtain ⟨pieceTaken, othersTaken⟩ := List.forall_mem_cons.mp taken
      obtain ⟨token, read⟩ := Option.ne_none_iff_exists'.mp pieceTaken
      have tokenRead : (Traced.ofExcept (readLexeme reader piece.lexeme)).outcome = .ok token := by
        rw [Traced.outcome_ofExcept, readLexeme, read]
      rw [List.cons_append, readPieces, Traced.records_bind_of_ok _ (outcome_reportGap piece.gap),
        Traced.records_bind_of_ok _ tokenRead, Traced.records_ofExcept, Traced.records_map,
        inductionHypothesis othersTaken, List.nil_append, List.flatMap_cons, List.append_assoc]

theorem records_readPieces_nil (reader : Token.Reader) (tail : List Char) :
    (readPieces reader tail []).records = (reportGap tail).records := by
  rw [readPieces, Traced.records_bind_of_ok _ (outcome_reportGap tail), Traced.records_pure,
    List.append_nil]

theorem records_readPieces_refused {reader : Token.Reader} {piece : Piece}
    (refused : reader piece.lexeme = none) (tail : List Char) (pieces : List Piece) :
    (readPieces reader tail (piece :: pieces)).records = (reportGap piece.gap).records := by
  have failed : (Traced.ofExcept (readLexeme reader piece.lexeme)).outcome =
      .error (.invalidLexeme (String.ofList piece.lexeme)) := by
    rw [Traced.outcome_ofExcept, readLexeme, refused]
  rw [readPieces, Traced.records_bind_of_ok _ (outcome_reportGap piece.gap),
    Traced.records_bind_of_error _ failed, Traced.records_ofExcept, List.append_nil]

theorem Piece.WellFormed.taken {piece : Piece} (wellFormed : piece.WellFormed)
    (numeral : IsRun piece.lexeme → IsNumeral piece.lexeme) :
    Token.ofLexeme? piece.lexeme ≠ none := by
  intro refused
  obtain ⟨run, misfit⟩ := (Token.ofLexeme?_eq_none_iff wellFormed.lexeme).mp refused
  exact misfit (numeral run)

section Texts

variable {settings : Settings} {text : String}

theorem skippedTexts_scan (text : String) :
    skippedTexts (scan text).records =
      skippedTexts (readPieces Token.ofLexeme? (Split.ofChars text.toList).tail
        (Split.ofChars text.toList).pieces).records := by
  cases read : tokenize text with
  | error error =>
      have refused := (outcome_readPieces_ofChars text).trans read
      rw [scan, scanWith, Traced.records_bind_of_error _ refused]
  | ok tokens =>
      have succeeded := (outcome_readPieces_ofChars text).trans read
      rw [scan, scanWith, Traced.records_bind_of_ok _ succeeded,
        Traced.records_bind_of_ok _ (Traced.outcome_emit _)]
      exact skippedTexts_append_of_none rfl _

theorem records_readPieces_of_ok {split : Split} {tokens : List Token}
    (divides : split.Divides text.toList) (read : tokenize text = .ok tokens) :
    (readPieces Token.ofLexeme? split.tail split.pieces).records = split.gapRecords := by
  have numerals := (exists_tokens_iff divides).mp ⟨tokens, read⟩
  have taken : ∀ piece ∈ split.pieces, Token.ofLexeme? piece.lexeme ≠ none :=
    fun piece member => (divides.wellFormed.pieces piece member).taken
      (numerals piece.lexeme (List.mem_map_of_mem member))
  have records := records_readPieces_append taken split.tail []
  rwa [List.append_nil, records_readPieces_nil] at records

/-- The text is refused at a piece. What stands before the lexeme of this piece is read. -/
theorem exists_refused_piece {split : Split} {error : ParseError}
    (divides : split.Divides text.toList) (read : tokenize text = .error error) :
    ∃ front piece back, split.pieces = front ++ piece :: back ∧
      (∀ earlier ∈ front, IsRun earlier.lexeme → IsNumeral earlier.lexeme) ∧
      Token.ofLexeme? piece.lexeme = none ∧
      ReadPart text (Split.toChars ⟨front, piece.gap⟩) := by
  obtain ⟨frontLexemes, lexeme, backLexemes, lexemes, earlier, run, misfit, rfl⟩ :=
    (tokenize_eq_error_iff divides).mp read
  obtain ⟨sameChars, wellFormed⟩ := divides
  obtain ⟨pieces, tail⟩ := split
  obtain ⟨front, others, rfl, rfl, othersLexemes⟩ := List.map_eq_append_iff.mp lexemes
  obtain ⟨piece, back, rfl, rfl, -⟩ := List.map_eq_cons_iff.mp othersLexemes
  rw [List.forall_mem_map] at earlier
  have pieceFormed : piece.WellFormed := wellFormed.pieces piece (by simp)
  have first := wellFormed.firstMisfit earlier run misfit
  exact ⟨front, piece, back, rfl, earlier,
    (Token.ofLexeme?_eq_none_iff pieceFormed.lexeme).mpr ⟨run, misfit⟩,
    .before read (sameChars ▸ first)⟩

/-- What is skipped on the way is what the gaps of the part that is read report. -/
theorem exists_split_readPart (text : String) :
    ∃ split : Split, split.WellFormed ∧ ReadPart text split.toChars ∧
      skippedTexts (scan text).records = skippedTexts split.gapRecords := by
  have divides := Split.divides_ofChars text.toList
  rw [skippedTexts_scan]
  revert divides
  generalize Split.ofChars text.toList = split
  intro divides
  cases read : tokenize text with
  | ok tokens =>
      refine ⟨split, divides.wellFormed, divides.toChars_eq ▸ .whole read, ?_⟩
      rw [records_readPieces_of_ok divides read]
  | error error =>
      obtain ⟨pieces, tail⟩ := split
      obtain ⟨front, piece, back, rfl, earlier, refused, readPart⟩ :=
        exists_refused_piece divides read
      have partFormed := divides.wellFormed.upTo
      have taken : ∀ piece ∈ front, Token.ofLexeme? piece.lexeme ≠ none :=
        fun piece member => (partFormed.pieces piece member).taken (earlier piece member)
      refine ⟨⟨front, piece.gap⟩, partFormed, readPart, ?_⟩
      rw [records_readPieces_append taken, records_readPieces_refused refused]
      rfl

/-! ### Uniqueness -/

theorem FirstMisfit.unique {chars before before' run run' : List Char}
    (left : FirstMisfit chars before run) (right : FirstMisfit chars before' run') :
    before = before' := by
  obtain ⟨behind, leftEq, leftStands⟩ := left.stands
  obtain ⟨behind', rightEq, rightStands⟩ := right.stands
  have sameLength : before.length = before'.length :=
    Nat.le_antisymm (left.isFirst _ _ _ rightEq rightStands right.misfit)
      (right.isFirst _ _ _ leftEq leftStands left.misfit)
  exact (List.append_inj (leftEq.symm.trans rightEq) sameLength).1

theorem ReadPart.unique {part other : List Char} (left : ReadPart text part)
    (right : ReadPart text other) : part = other := by
  cases left with
  | whole tokenized =>
      cases right with
      | whole _ => rfl
      | before failed _ =>
          rw [tokenized] at failed
          cases failed
  | before failed first =>
      cases right with
      | whole tokenized =>
          rw [tokenized] at failed
          cases failed
      | before _ otherFirst => exact first.unique otherFirst

/-! ### The whole calculation -/

theorem skippedTexts_parse (settings : Settings) (text : String) :
    skippedTexts (parse settings text).records = skippedTexts (scan text).records := by
  cases tokenized : tokenize text with
  | error error => rw [records_parse_of_tokenize_error tokenized]
  | ok tokens =>
      cases derived : Tree.ofTokens settings tokens with
      | error error => rw [records_parse_of_error tokenized derived]
      | ok tree =>
          rw [records_parse_of_ok tokenized derived]
          exact skippedTexts_append_of_none rfl _

theorem skippedTexts_calculate (settings : Settings) (text : String) :
    skippedTexts (calculate settings text).records = skippedTexts (scan text).records := by
  rw [← skippedTexts_parse settings]
  cases parsed : (parse settings text).outcome with
  | error error =>
      rw [records_calculate_of_parse_error parsed]
      exact skippedTexts_append_of_none rfl _
  | ok tree =>
      rw [records_calculate_of_parse_ok parsed, List.append_assoc]
      apply skippedTexts_append_of_none
      cases valued : tree.value with
      | error error =>
          rw [records_evaluate_of_error valued]
          rfl
      | ok value =>
          rw [records_evaluate_of_ok valued]
          rfl

/-- The skipped texts of a scan hold the unrecognized characters of the part that is read,
in order, each as often as it stands there; apart from them they hold blanks only, and these
inside. A calculation reports nothing else as skipped. -/
theorem skippedTexts_exact (text : String) :
    ∃ part, (∀ other, ReadPart text other ↔ other = part) ∧
      (String.join (skippedTexts (scan text).records)).toList.filter (! Text.isBlank ·) =
        part.filter (IsUnrecognized ·) ∧
      (∀ report ∈ skippedTexts (scan text).records, IsSkippedText report.toList) ∧
      ∀ settings, skippedTexts (calculate settings text).records =
        skippedTexts (scan text).records := by
  obtain ⟨split, wellFormed, readPart, skipped⟩ := exists_split_readPart text
  refine ⟨split.toChars, fun other => ⟨fun otherPart => otherPart.unique readPart, ?_⟩, ?_, ?_,
    fun settings => skippedTexts_calculate settings text⟩
  · rintro rfl
    exact readPart
  · rw [skipped, String.toList_join]
    exact wellFormed.filter_gapRecords
  · rw [skipped]
    exact wellFormed.isSkippedText_of_mem

/-- Behind the run for which the text is refused, nothing is reported. -/
example : skippedTexts (scan " a b 1 c 01 d").records = ["a b", "c"] := by rfl

end Texts

end Reckon
