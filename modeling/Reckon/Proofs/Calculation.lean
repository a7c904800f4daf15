import Reckon.Proofs.Expression.Reading
import Reckon.Proofs.Outcome
import Reckon.Proofs.Parser.Language
import Reckon.Proofs.Traced

/-!
Contract: the outcome of a calculation, told from its text.

Owns:
- the outcome of each stage without its records;
- a calculation fails as its parsing does, or has the value of the expression that
  its tree stands for.

Does not own: which records are left.
-/

set_option autoImplicit false

namespace Reckon

/-! ### Outcomes -/

variable {settings : Settings} {text : String} {tree : Tree}

@[simp] theorem outcome_evaluate (tree : Tree) : (evaluate tree).outcome = tree.value := by
  simp only [evaluate, Traced.outcome_bind, Traced.outcome_ofExcept, Traced.outcome_emit,
    Traced.outcome_pure]
  cases tree.value <;> rfl

theorem outcome_parse (settings : Settings) (text : String) :
    (parse settings text).outcome = (tokenize text).bind (Tree.ofTokens settings) := by
  simp only [parse, Traced.outcome_bind, Traced.outcome_ofExcept, Traced.outcome_emit,
    Traced.outcome_pure, tokenize]
  cases (scan text).outcome with
  | error error => rfl
  | ok tokens =>
      change (Tree.ofTokens settings tokens).bind _ = Tree.ofTokens settings tokens
      cases Tree.ofTokens settings tokens <;> rfl

theorem outcome_calculate_of_parse_error {error : ParseError}
    (failed : (parse settings text).outcome = .error error) :
    (calculate settings text).outcome = .error (.parse error) := by
  simp [calculate, failed, Except.bind]

theorem outcome_calculate_of_parse_ok (parsed : (parse settings text).outcome = .ok tree) :
    (calculate settings text).outcome = tree.value.mapError .eval := by
  simp [calculate, parsed, Except.bind]

theorem outcome_calculate_congr {text' : String}
    (same : (parse settings text).outcome = (parse settings text').outcome) :
    (calculate settings text).outcome = (calculate settings text').outcome := by
  cases parsed : (parse settings text').outcome with
  | error error =>
      rw [parsed] at same
      rw [outcome_calculate_of_parse_error same, outcome_calculate_of_parse_error parsed]
  | ok tree =>
      rw [parsed] at same
      rw [outcome_calculate_of_parse_ok same, outcome_calculate_of_parse_ok parsed]

/-- Only the trees of the grammar come out of parsing. -/
theorem derives_of_parse (parsed : (parse settings text).outcome = .ok tree) :
    Derives .expression tree := by
  rw [outcome_parse] at parsed
  cases tokenized : tokenize text with
  | error error =>
      rw [tokenized] at parsed
      cases parsed
  | ok tokens =>
      rw [tokenized] at parsed
      exact (Tree.derives_of_ofTokens parsed).1

/-- A calculation has no errors but those of parsing and division by zero. Without
them it has the quantity of the expression that its tree stands for. -/
theorem outcome_calculate (settings : Settings) (text : String) :
    (∀ error, (calculate settings text).outcome = .error (.parse error) ↔
        (parse settings text).outcome = .error error) ∧
      ∀ tree, (parse settings text).outcome = .ok tree →
        ∃ reading, Expression.ofTree? tree = some reading ∧
          (∀ label found, (calculate settings text).outcome ≠
            .error (.eval (.incompleteSubtree label found))) ∧
          ((calculate settings text).outcome = .error (.eval .divisionByZero) ↔
            reading.DividesByZero) ∧
          (¬ reading.DividesByZero →
            (calculate settings text).outcome = .ok reading.quantity) := by
  constructor
  · intro error
    cases parsed : (parse settings text).outcome with
    | error found =>
        rw [outcome_calculate_of_parse_error parsed]
        simp
    | ok tree =>
        rw [outcome_calculate_of_parse_ok parsed]
        cases tree.value <;> simp
  · intro tree parsed
    obtain ⟨reading, stands⟩ := (derives_of_parse parsed).exists_standsFor
    refine ⟨reading, stands.reading, ?_⟩
    rw [outcome_calculate_of_parse_ok parsed, stands.value_eq, reading.value_eq]
    by_cases divides : reading.DividesByZero <;> simp [divides]

/-- A group whose value is zero, as a divisor. -/
theorem outcome_calculate_zero_group :
    ∃ tree, (parse {} "8/(2-2)").outcome = .ok tree ∧
      ∃ reading, Expression.ofTree? tree = some reading ∧
        (∀ label found, (calculate {} "8/(2-2)").outcome ≠
          .error (.eval (.incompleteSubtree label found))) ∧
        ((calculate {} "8/(2-2)").outcome = .error (.eval .divisionByZero) ↔
          reading.DividesByZero) ∧
        (¬ reading.DividesByZero →
          (calculate {} "8/(2-2)").outcome = .ok reading.quantity) := by
  have succeeds : (parse {} "8/(2-2)").outcome.isOk = true := by decide +kernel
  cases parsed : (parse {} "8/(2-2)").outcome with
  | error error =>
      rw [parsed] at succeeds
      cases succeeds
  | ok tree => exact ⟨tree, rfl, (outcome_calculate {} "8/(2-2)").2 tree parsed⟩

end Reckon
