import Reckon.Course
import Reckon.Proofs.Calculation
import Reckon.Proofs.Lexis.Scanning

/-!
Contract: the records of a calculation.

Owns:
- the records of each stage, told from the result of the stage;
- the records of a whole calculation follow the course that it takes.

Does not own: which text is reported as skipped.
-/

set_option autoImplicit false

namespace Reckon

/-! ### Scanning -/

theorem exists_records_reportGap (gap : List Char) :
    ∃ skipped : List String, (reportGap gap).records = skipped.map Record.skipped := by
  unfold reportGap
  split
  · exact ⟨[], rfl⟩
  · exact ⟨[_], rfl⟩

/-- Induction on the pieces. However far the reading comes, what it leaves are records
of skipped text. -/
theorem exists_records_readPieces (reader : Token.Reader) (tail : List Char)
    (pieces : List Piece) :
    ∃ skipped : List String,
      (readPieces reader tail pieces).records = skipped.map Record.skipped := by
  induction pieces with
  | nil =>
      obtain ⟨skipped, reported⟩ := exists_records_reportGap tail
      refine ⟨skipped, ?_⟩
      rw [readPieces, Traced.records_bind_of_ok _ (outcome_reportGap tail), reported,
        Traced.records_pure, List.append_nil]
  | cons piece pieces inductionHypothesis =>
      obtain ⟨before, reported⟩ := exists_records_reportGap piece.gap
      rw [readPieces, Traced.records_bind_of_ok _ (outcome_reportGap piece.gap), reported]
      cases read : readLexeme reader piece.lexeme with
      | error error =>
          refine ⟨before, ?_⟩
          rw [Traced.records_bind_of_error _ rfl, Traced.records_ofExcept, List.append_nil]
      | ok token =>
          obtain ⟨behind, followed⟩ := inductionHypothesis
          refine ⟨before ++ behind, ?_⟩
          rw [Traced.records_bind_of_ok _ rfl, Traced.records_ofExcept, Traced.records_map,
            followed, List.nil_append, List.map_append]

variable {settings : Settings} {text : String} {tokens : List Token} {tree : Tree}

theorem outcome_readPieces_ofChars (text : String) :
    (readPieces Token.ofLexeme? (Split.ofChars text.toList).tail
      (Split.ofChars text.toList).pieces).outcome = tokenize text := by
  rw [outcome_readPieces, tokenize_eq_mapM]
  rfl

theorem exists_records_pieces (text : String) :
    ∃ skipped : List String,
      (readPieces Token.ofLexeme? (Split.ofChars text.toList).tail
        (Split.ofChars text.toList).pieces).records = skipped.map Record.skipped :=
  exists_records_readPieces _ _ _

theorem exists_records_scan_of_error {error : ParseError} (failed : tokenize text = .error error) :
    ∃ skipped : List String, (scan text).records = skipped.map Record.skipped := by
  obtain ⟨skipped, reported⟩ := exists_records_pieces text
  have refused := (outcome_readPieces_ofChars text).trans failed
  refine ⟨skipped, ?_⟩
  rw [scan, scanWith, Traced.records_bind_of_error _ refused, reported]

theorem exists_records_scan_of_ok (tokenized : tokenize text = .ok tokens) :
    ∃ skipped : List String,
      (scan text).records = skipped.map Record.skipped ++ [.tokenized text tokens.length] := by
  obtain ⟨skipped, reported⟩ := exists_records_pieces text
  have read := (outcome_readPieces_ofChars text).trans tokenized
  refine ⟨skipped, ?_⟩
  rw [scan, scanWith, Traced.records_bind_of_ok _ read, reported,
    Traced.records_bind_of_ok _ (Traced.outcome_emit _)]
  rfl

/-! ### Parsing and evaluation -/

theorem records_parse_of_tokenize_error {error : ParseError}
    (failed : tokenize text = .error error) :
    (parse settings text).records = (scan text).records :=
  Traced.records_bind_of_error _ failed

theorem records_parse_of_error {error : ParseError} (tokenized : tokenize text = .ok tokens)
    (failed : Tree.ofTokens settings tokens = .error error) :
    (parse settings text).records = (scan text).records := by
  rw [parse, Traced.records_bind_of_ok _ tokenized, Traced.records_bind_of_error _ failed,
    Traced.records_ofExcept, List.append_nil]

theorem records_parse_of_ok (tokenized : tokenize text = .ok tokens)
    (derived : Tree.ofTokens settings tokens = .ok tree) :
    (parse settings text).records =
      (scan text).records ++ [.parsed tokens.length tree.nodeCount] := by
  rw [parse, Traced.records_bind_of_ok _ tokenized, Traced.records_bind_of_ok _ derived]
  rfl

theorem records_evaluate_of_error {error : EvalError} (failed : tree.value = .error error) :
    (evaluate tree).records = [] :=
  Traced.records_bind_of_error _ failed

theorem records_evaluate_of_ok {value : Float} (valued : tree.value = .ok value) :
    (evaluate tree).records = [.evaluated tree.nodeCount value] := by
  rw [evaluate, Traced.records_bind_of_ok _ valued]
  rfl

/-! ### The whole calculation -/

theorem records_calculate_of_parse_error {error : ParseError}
    (failed : (parse settings text).outcome = .error error) :
    (calculate settings text).records =
      (parse settings text).records ++ [.failed text (.parse error)] := by
  have refused : ((parse settings text).mapError CalculationError.parse).outcome =
      .error (.parse error) := by
    rw [Traced.outcome_mapError, failed]
    rfl
  rw [calculate, Traced.records_conclude, Traced.records_bind_of_error _ refused,
    Traced.records_mapError, Traced.outcome_bind, refused]
  rfl

theorem records_calculate_of_parse_ok (parsed : (parse settings text).outcome = .ok tree) :
    (calculate settings text).records =
      (parse settings text).records ++ (evaluate tree).records ++
        [conclusion text (tree.value.mapError .eval)] := by
  have continued : ((parse settings text).mapError CalculationError.parse).outcome =
      .ok tree := by
    rw [Traced.outcome_mapError, parsed]
    rfl
  rw [calculate, Traced.records_conclude, Traced.records_bind_of_ok _ continued,
    Traced.records_mapError, Traced.records_mapError, Traced.outcome_bind, continued]
  show _ ++ [conclusion text ((evaluate tree).mapError CalculationError.eval).outcome] = _
  rw [Traced.outcome_mapError, outcome_evaluate]

theorem Course.getLast?_messages {records : List Record}
    {outcome : Except CalculationError Float} (course : Course settings text records outcome) :
    (records.map Record.message).getLast? = some (verdict text outcome) := by
  cases course <;> rfl

/-- Each stage that succeeds adds its record to those of the stages before it. -/
theorem exists_course (settings : Settings) (text : String) :
    ∃ (skipped : List String) (records : List Record),
      (calculate settings text).records = skipped.map Record.skipped ++ records ∧
        Course settings text records (calculate settings text).outcome := by
  cases tokenized : tokenize text with
  | error error =>
      obtain ⟨skipped, scanned⟩ := exists_records_scan_of_error tokenized
      have failed : (parse settings text).outcome = .error error := by
        rw [outcome_parse, tokenized]
        rfl
      refine ⟨skipped, [.failed text (.parse error)], ?_, ?_⟩
      · rw [records_calculate_of_parse_error failed, records_parse_of_tokenize_error tokenized,
          scanned]
      · rw [outcome_calculate_of_parse_error failed]
        exact .invalidLexeme tokenized
  | ok tokens =>
      obtain ⟨skipped, scanned⟩ := exists_records_scan_of_ok tokenized
      have parsed : (parse settings text).outcome = Tree.ofTokens settings tokens := by
        rw [outcome_parse, tokenized]
        rfl
      cases derived : Tree.ofTokens settings tokens with
      | error error =>
          have failed := parsed.trans derived
          refine ⟨skipped,
            [.tokenized text tokens.length, .failed text (.parse error)], ?_, ?_⟩
          · rw [records_calculate_of_parse_error failed,
              records_parse_of_error tokenized derived, scanned, List.append_assoc]
            rfl
          · rw [outcome_calculate_of_parse_error failed]
            exact .noExpression tokenized derived
      | ok tree =>
          have grown := parsed.trans derived
          have left := records_calculate_of_parse_ok grown
          rw [records_parse_of_ok tokenized derived, scanned] at left
          rw [outcome_calculate_of_parse_ok grown]
          cases valued : tree.value with
          | error error =>
              refine ⟨skipped, _, ?_, .noValue tokenized derived valued⟩
              rw [left, records_evaluate_of_error valued, valued]
              simp [conclusion]
          | ok value =>
              refine ⟨skipped, _, ?_, .valued tokenized derived valued⟩
              rw [left, records_evaluate_of_ok valued, valued]
              simp [conclusion]

/-- A calculation leaves records of skipped text, then those of its course, and the
last of them words its result. -/
theorem records_calculate (settings : Settings) (text : String) :
    ∃ (skipped : List String) (records : List Record),
      (calculate settings text).records = skipped.map Record.skipped ++ records ∧
        Course settings text records (calculate settings text).outcome ∧
        ((calculate settings text).records.map Record.message).getLast? =
          some (verdict text (calculate settings text).outcome) := by
  obtain ⟨skipped, records, left, course⟩ := exists_course settings text
  refine ⟨skipped, records, left, course, ?_⟩
  rw [left, List.map_append, List.getLast?_append, course.getLast?_messages]
  rfl

end Reckon
