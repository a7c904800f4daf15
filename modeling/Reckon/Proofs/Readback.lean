import Reckon.Proofs.Binary64.Sign
import Reckon.Proofs.Calculation
import Reckon.Proofs.Decimal.Shortest
import Reckon.Proofs.Decimal.Written
import Reckon.Proofs.Expression.Rendering
import Reckon.Proofs.Lexis.Scanning

/-!
Contract: a printed double is calculated back.

A finite double is printed as a numeral, after a minus sign where its sign bit is set.
The numeral is one run and the minus one mark, so they come back as the tokens of a
number or of a negated number, and negation sets the sign bit again.

Owns:
- the tokens of a numeral and of a negated numeral;
- the outcome of calculating the written form of a double, whatever the double.

Does not own: the written form itself.
-/

set_option autoImplicit false

namespace Reckon

/-! ### Tokens of a printed number -/

section Printed

variable {lexeme : List Char} {decimal : Decimal}

theorem Numeral.wellFormed (numeral : Numeral lexeme decimal) :
    Piece.WellFormed ⟨[], lexeme⟩ :=
  ⟨nofun, .inl numeral.isRun⟩

theorem tokenize_numeral (numeral : Numeral lexeme decimal) :
    tokenize (String.ofList lexeme) = .ok [.number decimal.toFloat] := by
  have divides : Split.Divides ⟨[⟨[], lexeme⟩], []⟩ (String.ofList lexeme).toList :=
    { toChars_eq := by simp [Split.toChars]
      wellFormed :=
        { pieces := List.forall_mem_singleton.mpr numeral.wellFormed
          tail := nofun
          apart := .singleton _ } }
  apply (tokenize_eq_ok_iff divides).mpr
  exact .cons (.number numeral) .nil

theorem tokenize_minus_numeral (numeral : Numeral lexeme decimal) :
    tokenize (String.ofList ('-' :: lexeme)) =
      .ok [.operator .subtract, .number decimal.toFloat] := by
  have minus : IsSingleMark ['-'] := ⟨'-', rfl, by decide⟩
  have divides : Split.Divides ⟨[⟨[], ['-']⟩, ⟨[], lexeme⟩], []⟩
      (String.ofList ('-' :: lexeme)).toList :=
    { toChars_eq := by simp [Split.toChars]
      wellFormed :=
        { pieces := List.forall_mem_cons.mpr
            ⟨⟨nofun, .inr minus⟩, List.forall_mem_singleton.mpr numeral.wellFormed⟩
          tail := nofun
          apart := List.isChain_pair.mpr fun run => absurd run minus.not_isRun } }
  apply (tokenize_eq_ok_iff divides).mpr
  exact .cons (.operator .subtract) (.cons (.number numeral) .nil)

end Printed

/-! ### Values of texts -/

variable {settings : Settings} {text : String}

/-- A text whose tokens write an expression has the value of the expression. -/
theorem outcome_calculate_of_tokenize {expression : Expression}
    (tokenized : tokenize text = .ok expression.tokens)
    (deepEnough : expression.nesting ≤ settings.nestingLimit) :
    (calculate settings text).outcome = expression.value.mapError .eval := by
  obtain ⟨tree, written⟩ := expression.fits.asExpression
  have ownTokens : tree.yield = expression.tokens := written.yield_eq
  have ownNesting : tree.nesting = expression.nesting := written.nesting_eq
  have parsed : (parse settings text).outcome = .ok tree := by
    rw [outcome_parse, tokenized, ← ownTokens]
    exact Tree.ofTokens_yield written.derives (ownNesting ▸ deepEnough)
  rw [outcome_calculate_of_parse_ok parsed, value_of_ofTree? written.derives written.reading]

/-! ### Written forms of doubles -/

variable {value : Float}

theorem numeral_of_unsigned (finite : Binary64.finite value = true)
    (unsigned : Binary64.signed value = false) :
    numeral value =
      String.ofList (Decimal.shortest (Binary64.magnitude value)).toChars := by
  have small : Binary64.magnitude value < Binary64.infinity := of_decide_eq_true finite
  simp [numeral, numeralChars, magnitudeChars, small, Nat.lt_asymm small, unsigned]

theorem numeral_of_negative (finite : Binary64.finite value = true)
    (negative : Binary64.signed value = true) :
    numeral value =
      String.ofList ('-' :: (Decimal.shortest (Binary64.magnitude value)).toChars) := by
  have small : Binary64.magnitude value < Binary64.infinity := of_decide_eq_true finite
  simp [numeral, numeralChars, magnitudeChars, small, Nat.lt_asymm small, negative]

/-- The written magnitude is read as the double without its sign bit. -/
theorem toFloat_reread_shortest (finite : Binary64.finite value = true) :
    (Decimal.shortest (Binary64.magnitude value)).reread.toFloat =
      Binary64.ofPattern (Binary64.magnitude value) := by
  have readsAs := Decimal.readsAs_shortest (of_decide_eq_true finite)
  rw [Decimal.toFloat_reread, Decimal.toFloat, Binary64.ofRatio]
  exact congrArg Binary64.ofPattern readsAs

theorem outcome_calculate_unsigned (finite : Binary64.finite value = true)
    (unsigned : Binary64.signed value = false) :
    (calculate settings (numeral value)).outcome = .ok value := by
  have tokenized : tokenize (numeral value) = .ok (Expression.number value).tokens := by
    rw [numeral_of_unsigned finite unsigned, tokenize_numeral (Decimal.numeral_toChars _),
      toFloat_reread_shortest finite, Binary64.ofPattern_magnitude unsigned]
    rfl
  exact outcome_calculate_of_tokenize tokenized (Nat.zero_le _)

theorem outcome_calculate_negative (finite : Binary64.finite value = true)
    (negative : Binary64.signed value = true) (oneLevel : 1 ≤ settings.nestingLimit) :
    (calculate settings (numeral value)).outcome = .ok value := by
  let operand := Expression.number (Binary64.ofPattern (Binary64.magnitude value))
  have tokenized : tokenize (numeral value) = .ok (Expression.negation operand).tokens := by
    rw [numeral_of_negative finite negative,
      tokenize_minus_numeral (Decimal.numeral_toChars _), toFloat_reread_shortest finite]
    rfl
  rw [outcome_calculate_of_tokenize tokenized oneLevel]
  show Except.ok (-Binary64.ofPattern (Binary64.magnitude value)) = _
  rw [Binary64.neg_ofPattern_magnitude negative]

/-- The letters of an infinity or a NaN are no lexemes, so at most a minus is left. -/
theorem exists_parse_error_of_not_finite (settings : Settings)
    (notFinite : Binary64.finite value = false) :
    ∃ error, (parse settings (numeral value)).outcome = .error error := by
  have large : ¬ Binary64.magnitude value < Binary64.infinity := of_decide_eq_false notFinite
  simp only [numeral, numeralChars, magnitudeChars, if_neg large]
  split
  · exact ⟨.malformed 0 .emptyExpression, rfl⟩
  · split
    · exact ⟨.malformed 1 .danglingMinus, rfl⟩
    · exact ⟨.malformed 0 .emptyExpression, rfl⟩

/-- What is printed can be calculated: every finite double comes back bit by bit, and
what is printed for any other double is refused. -/
theorem outcome_calculate_numeral (settings : Settings) (value : Float) :
    (Binary64.finite value = true → 1 ≤ settings.nestingLimit →
      (calculate settings (numeral value)).outcome = .ok value) ∧
    (Binary64.finite value = false →
      ∃ error, (calculate settings (numeral value)).outcome = .error (.parse error)) := by
  constructor
  · intro finite oneLevel
    cases sign : Binary64.signed value with
    | false => exact outcome_calculate_unsigned finite sign
    | true => exact outcome_calculate_negative finite sign oneLevel
  · intro notFinite
    obtain ⟨error, refused⟩ := exists_parse_error_of_not_finite settings notFinite
    exact ⟨error, outcome_calculate_of_parse_error refused⟩

/-- The negative double next to zero, which takes 324 decimal places, and negative
infinity. -/
theorem outcome_calculate_numeral_extremes :
    (calculate ⟨1⟩ (numeral (Float.ofBits 0x8000000000000001))).outcome =
        .ok (Float.ofBits 0x8000000000000001) ∧
      ∃ error, (calculate ⟨1⟩ (numeral (Float.ofBits 0xfff0000000000000))).outcome =
        .error (.parse error) :=
  ⟨(outcome_calculate_numeral ⟨1⟩ _).1 (by decide) (by decide),
    (outcome_calculate_numeral ⟨1⟩ _).2 (by decide)⟩

end Reckon
