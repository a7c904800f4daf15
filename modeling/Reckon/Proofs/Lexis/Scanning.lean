import Reckon.Proofs.Lexis.Division
import Reckon.Proofs.Lexis.Numeral
import Reckon.Proofs.Traced
import Reckon.Scan
import Mathlib.Data.List.Forall2

/-!
Contract: the tokens of a text are what its lexemes denote.

Gaps leave records only, so a text is read as its list of lexemes, and a list of lexemes
is read up to the first one that is no token.

Owns:
- the outcome of scanning, told from the lexemes alone;
- the result for every text, its tokens or its first run that is no numeral.

Does not own: what is recorded about gaps.
-/

set_option autoImplicit false

namespace Reckon

variable {reader : Token.Reader} {lexeme : List Char} {lexemes : List (List Char)}
  {tokens : List Token} {error : ParseError}

/-! ### Lexemes alone -/

@[simp] theorem outcome_reportGap (gap : List Char) : (reportGap gap).outcome = .ok () := by
  unfold reportGap
  split <;> rfl

/-- Induction on the pieces. What is read of a piece is its lexeme. -/
theorem outcome_readPieces (reader : Token.Reader) (tail : List Char) (pieces : List Piece) :
    (readPieces reader tail pieces).outcome =
      (pieces.map Piece.lexeme).mapM (readLexeme reader) := by
  induction pieces with
  | nil => simp [readPieces, Except.bind, pure, Except.pure]
  | cons piece pieces inductionHypothesis =>
      simp only [readPieces, Traced.outcome_bind, outcome_reportGap, Traced.outcome_ofExcept,
        Traced.outcome_map, inductionHypothesis, List.map_cons, List.mapM_cons]
      rfl

theorem tokenize_eq_mapM (text : String) :
    tokenize text =
      (Split.ofChars text.toList).lexemes.mapM (readLexeme Token.ofLexeme?) := by
  simp only [tokenize, scan, scanWith, Traced.outcome_bind, outcome_readPieces,
    Traced.outcome_emit, Traced.outcome_pure]
  show (Split.ofChars text.toList).lexemes.mapM (readLexeme Token.ofLexeme?) >>= pure = _
  exact bind_pure _

/-! ### Reading a list of lexemes -/

theorem mapM_readLexeme_cons_of_some {token : Token} (read : reader lexeme = some token) :
    (lexeme :: lexemes).mapM (readLexeme reader) =
      (lexemes.mapM (readLexeme reader)).map (token :: ·) := by
  rw [List.mapM_cons, readLexeme, read]
  rfl

theorem mapM_readLexeme_cons_of_none (refused : reader lexeme = none) :
    (lexeme :: lexemes).mapM (readLexeme reader) =
      .error (.invalidLexeme (String.ofList lexeme)) := by
  rw [List.mapM_cons, readLexeme, refused]
  rfl

theorem mapM_readLexeme_of_reads
    (reads : List.Forall₂ (fun lexeme token => reader lexeme = some token) lexemes tokens) :
    lexemes.mapM (readLexeme reader) = .ok tokens := by
  induction reads with
  | nil => rfl
  | cons read _ inductionHypothesis =>
      rw [mapM_readLexeme_cons_of_some read, inductionHypothesis]
      rfl

theorem mapM_readLexeme_of_refuses {front back : List (List Char)}
    (earlier : ∀ lexeme ∈ front, reader lexeme ≠ none) (refused : reader lexeme = none) :
    (front ++ lexeme :: back).mapM (readLexeme reader) =
      .error (.invalidLexeme (String.ofList lexeme)) := by
  induction front with
  | nil => exact mapM_readLexeme_cons_of_none refused
  | cons first front inductionHypothesis =>
      obtain ⟨firstTaken, othersTaken⟩ := List.forall_mem_cons.mp earlier
      obtain ⟨token, read⟩ := Option.ne_none_iff_exists'.mp firstTaken
      rw [List.cons_append, mapM_readLexeme_cons_of_some read, inductionHypothesis othersTaken]
      rfl

/-- Either all lexemes are read, or one is the first that is refused. -/
theorem reads_or_refuses (reader : Token.Reader) (lexemes : List (List Char)) :
    (∃ tokens, List.Forall₂ (fun lexeme token => reader lexeme = some token) lexemes tokens) ∨
      ∃ front lexeme back, lexemes = front ++ lexeme :: back ∧
        (∀ earlier ∈ front, reader earlier ≠ none) ∧ reader lexeme = none := by
  induction lexemes with
  | nil => exact .inl ⟨[], .nil⟩
  | cons first lexemes inductionHypothesis =>
      cases read : reader first with
      | none => exact .inr ⟨[], first, lexemes, rfl, nofun, read⟩
      | some token =>
          rcases inductionHypothesis with
            ⟨tokens, reads⟩ | ⟨front, lexeme, back, rfl, earlier, refused⟩
          · exact .inl ⟨token :: tokens, .cons read reads⟩
          · have taken : reader first ≠ none := by simp [read]
            exact .inr ⟨first :: front, lexeme, back, rfl,
              List.forall_mem_cons.mpr ⟨taken, earlier⟩, refused⟩

theorem mapM_readLexeme_eq_ok_iff :
    lexemes.mapM (readLexeme reader) = .ok tokens ↔
      List.Forall₂ (fun lexeme token => reader lexeme = some token) lexemes tokens := by
  refine ⟨fun succeeds => ?_, mapM_readLexeme_of_reads⟩
  rcases reads_or_refuses reader lexemes with ⟨found, reads⟩ | ⟨_, _, _, rfl, earlier, refused⟩
  · rw [mapM_readLexeme_of_reads reads] at succeeds
    rwa [← Except.ok.inj succeeds]
  · rw [mapM_readLexeme_of_refuses earlier refused] at succeeds
    cases succeeds

theorem mapM_readLexeme_eq_error_iff :
    lexemes.mapM (readLexeme reader) = .error error ↔
      ∃ front lexeme back, lexemes = front ++ lexeme :: back ∧
        (∀ earlier ∈ front, reader earlier ≠ none) ∧ reader lexeme = none ∧
        error = .invalidLexeme (String.ofList lexeme) := by
  constructor
  · intro fails
    rcases reads_or_refuses reader lexemes with
      ⟨_, reads⟩ | ⟨front, lexeme, back, rfl, earlier, refused⟩
    · rw [mapM_readLexeme_of_reads reads] at fails
      cases fails
    · rw [mapM_readLexeme_of_refuses earlier refused] at fails
      exact ⟨front, lexeme, back, rfl, earlier, refused, (Except.error.inj fails).symm⟩
  · rintro ⟨front, lexeme, back, rfl, earlier, refused, rfl⟩
    exact mapM_readLexeme_of_refuses earlier refused

/-! ### Texts -/

variable {text : String} {split : Split}

theorem Split.Divides.lexeme_form (divides : split.Divides text.toList)
    {lexeme : List Char} (member : lexeme ∈ split.lexemes) :
    IsRun lexeme ∨ IsSingleMark lexeme := by
  obtain ⟨piece, pieceMember, rfl⟩ := List.mem_map.mp member
  exact (divides.wellFormed.pieces piece pieceMember).lexeme

theorem tokenize_eq_ok_iff (divides : split.Divides text.toList) :
    tokenize text = .ok tokens ↔ List.Forall₂ Denotes split.lexemes tokens := by
  rw [tokenize_eq_mapM, ← Split.divides_iff.mp divides, mapM_readLexeme_eq_ok_iff]
  simp only [Token.ofLexeme?_eq_some_iff]

theorem tokenize_eq_error_iff (divides : split.Divides text.toList) :
    tokenize text = .error error ↔
      ∃ front lexeme back, split.lexemes = front ++ lexeme :: back ∧
        (∀ earlier ∈ front, IsRun earlier → IsNumeral earlier) ∧
        IsRun lexeme ∧ ¬ IsNumeral lexeme ∧
        error = .invalidLexeme (String.ofList lexeme) := by
  have refused_iff {lexeme : List Char} (member : lexeme ∈ split.lexemes) :
      Token.ofLexeme? lexeme = none ↔ IsRun lexeme ∧ ¬ IsNumeral lexeme :=
    Token.ofLexeme?_eq_none_iff (divides.lexeme_form member)
  rw [tokenize_eq_mapM, ← Split.divides_iff.mp divides, mapM_readLexeme_eq_error_iff]
  apply exists_congr; intro front
  apply exists_congr; intro lexeme
  apply exists_congr; intro back
  apply and_congr_right; intro divided
  have lexemeRefused : Token.ofLexeme? lexeme = none ↔ IsRun lexeme ∧ ¬ IsNumeral lexeme :=
    refused_iff (by simp [divided])
  have earlierTaken : (∀ earlier ∈ front, Token.ofLexeme? earlier ≠ none) ↔
      ∀ earlier ∈ front, IsRun earlier → IsNumeral earlier := by
    apply forall_congr'; intro earlier
    apply forall_congr'; intro member
    rw [ne_eq, refused_iff (by simp [divided, member]), not_and_not_right]
  rw [lexemeRefused, earlierTaken, and_assoc]

theorem isNumeral_of_denoted (denoted : List.Forall₂ Denotes lexemes tokens) :
    ∀ lexeme ∈ lexemes, IsRun lexeme → IsNumeral lexeme := by
  induction denoted with
  | nil => nofun
  | cons denotes _ inductionHypothesis =>
      refine List.forall_mem_cons.mpr ⟨fun run => ?_, inductionHypothesis⟩
      exact denotes.isNumeral_or_isSingleMark.resolve_right fun single => single.not_isRun run

theorem exists_tokens_iff (divides : split.Divides text.toList) :
    (∃ tokens, tokenize text = .ok tokens) ↔
      ∀ lexeme ∈ split.lexemes, IsRun lexeme → IsNumeral lexeme := by
  constructor
  · rintro ⟨tokens, succeeds⟩
    exact isNumeral_of_denoted ((tokenize_eq_ok_iff divides).mp succeeds)
  · intro numerals
    cases outcome : tokenize text with
    | ok tokens => exact ⟨tokens, rfl⟩
    | error error =>
        obtain ⟨front, lexeme, back, divided, -, run, notNumeral, -⟩ :=
          (tokenize_eq_error_iff divides).mp outcome
        have member : lexeme ∈ split.lexemes := by simp [divided]
        exact absurd (numerals lexeme member run) notNumeral

/-- Every text is divided in one way, and its tokens are what its lexemes denote; a text
with a run that is no numeral has no tokens, and the first such run is reported. -/
theorem tokenize_exact (text : String) :
    ∃ split : Split,
      (∀ other : Split, other.Divides text.toList ↔ other = split) ∧
      ((∃ tokens, tokenize text = .ok tokens) ↔
        ∀ lexeme ∈ split.lexemes, IsRun lexeme → IsNumeral lexeme) ∧
      (∀ tokens, tokenize text = .ok tokens ↔ List.Forall₂ Denotes split.lexemes tokens) ∧
      ∀ error, tokenize text = .error error ↔
        ∃ front lexeme back, split.lexemes = front ++ lexeme :: back ∧
          (∀ earlier ∈ front, IsRun earlier → IsNumeral earlier) ∧
          IsRun lexeme ∧ ¬ IsNumeral lexeme ∧
          error = .invalidLexeme (String.ofList lexeme) := by
  have divides := Split.divides_ofChars text.toList
  exact ⟨_, fun other => Split.divides_iff, exists_tokens_iff divides,
    fun tokens => tokenize_eq_ok_iff divides, fun error => tokenize_eq_error_iff divides⟩

/-- A run is refused as a whole, even where two numerals would make it up. -/
example : tokenize "7 + 1.2.2 * 01" = .error (.invalidLexeme "1.2.2") := by rfl

end Reckon
