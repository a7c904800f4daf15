import Reckon.Proofs.Binary64.Rounding
import Reckon.Proofs.Binary64.Sign
import Reckon.Proofs.Lexis.Numeral
import Reckon.Scan

/-!
Contract: which reader takes a text, whatever text it is given.

Readers are made for lexemes, but nothing keeps other texts from them. The numerals are
runs and the other lexemes are single marks, so no text is taken by two readers, and the
order in which they are tried decides nothing.

Owns:
- the texts that are taken as numbers, and the sign of the number;
- at most one reader takes a text;
- scanning with the readers in any order.
-/

set_option autoImplicit false

namespace Reckon

variable {lexeme : List Char} {token : Token}

/-! ### Numbers -/

theorem Decimal.isNaN_toFloat (decimal : Decimal) : decimal.toFloat.isNaN = false :=
  Binary64.isNaN_ofPattern (Binary64.nearest_le_infinity _ _)

theorem Decimal.signed_toFloat (decimal : Decimal) : Binary64.signed decimal.toFloat = false :=
  Binary64.signed_ofPattern (Binary64.nearest_le_infinity _ _)

theorem Token.exists_number?_iff :
    (∃ token, Token.number? lexeme = some token) ↔ IsNumeral lexeme := by
  constructor
  · rintro ⟨token, read⟩
    obtain ⟨decimal, numeral, -⟩ := Token.number?_eq_some_iff.mp read
    exact ⟨decimal, numeral⟩
  · rintro ⟨decimal, numeral⟩
    exact ⟨_, Token.number?_eq_some_iff.mpr ⟨decimal, numeral, rfl⟩⟩

theorem Token.exists_unsigned_of_number? (read : Token.number? lexeme = some token) :
    ∃ value, token = .number value ∧ value.isNaN = false ∧ Binary64.signed value = false := by
  obtain ⟨decimal, -, rfl⟩ := Token.number?_eq_some_iff.mp read
  exact ⟨_, rfl, decimal.isNaN_toFloat, decimal.signed_toFloat⟩

/-! ### At most one reader -/

theorem IsSingleMark.number?_eq_none (single : IsSingleMark lexeme) :
    Token.number? lexeme = none := by
  rw [Option.eq_none_iff_forall_ne_some]
  intro token read
  obtain ⟨decimal, numeral, -⟩ := Token.number?_eq_some_iff.mp read
  exact single.not_isRun numeral.isRun

theorem Token.isSingleMark_of_operator? (read : Token.operator? lexeme = some token) :
    IsSingleMark lexeme := by
  obtain ⟨operator, rfl, -⟩ := Token.operator?_eq_some_iff.mp read
  exact ⟨_, rfl, operator.isMark_symbol⟩

theorem Token.isSingleMark_of_paren? (read : Token.paren? lexeme = some token) :
    IsSingleMark lexeme := by
  rcases Token.paren?_eq_some_iff.mp read with ⟨rfl, -⟩ | ⟨rfl, -⟩ <;>
    exact ⟨_, rfl, by decide⟩

theorem Token.operator?_eq_none_of_paren? (read : Token.paren? lexeme = some token) :
    Token.operator? lexeme = none := by
  rcases Token.paren?_eq_some_iff.mp read with ⟨rfl, -⟩ | ⟨rfl, -⟩ <;> rfl

theorem Token.pairwise_readers (lexeme : List Char) :
    Token.readers.Pairwise fun left right => left lexeme = none ∨ right lexeme = none := by
  have numberOrOperator : Token.number? lexeme = none ∨ Token.operator? lexeme = none := by
    cases read : Token.operator? lexeme with
    | none => exact .inr rfl
    | some token => exact .inl (Token.isSingleMark_of_operator? read).number?_eq_none
  have numberOrParen : Token.number? lexeme = none ∨ Token.paren? lexeme = none := by
    cases read : Token.paren? lexeme with
    | none => exact .inr rfl
    | some token => exact .inl (Token.isSingleMark_of_paren? read).number?_eq_none
  have operatorOrParen : Token.operator? lexeme = none ∨ Token.paren? lexeme = none := by
    cases read : Token.paren? lexeme with
    | none => exact .inr rfl
    | some token => exact .inl (Token.operator?_eq_none_of_paren? read)
  simp [Token.readers, numberOrOperator, numberOrParen, operatorOrParen]

/-! ### The order of the readers -/

theorem Token.firstOf_eq_ofLexeme? {order : List Token.Reader} (perm : order.Perm Token.readers) :
    Token.firstOf order = Token.ofLexeme? := by
  funext lexeme
  apply Option.ext
  intro token
  rw [Token.firstOf_eq_some_iff fun reader => perm.mem_iff, Token.ofLexeme?_eq_some_iff]

/-- Exactly the numerals are taken as numbers, and these are neither NaN nor signed. No text
is taken by two readers, and the order of the readers changes nothing about the tokens of a
text, its error or its records. -/
theorem readers_exclusive :
    (∀ lexeme, (∃ token, Token.number? lexeme = some token) ↔ IsNumeral lexeme) ∧
    (∀ lexeme token, Token.number? lexeme = some token →
      ∃ value, token = .number value ∧ value.isNaN = false ∧ Binary64.signed value = false) ∧
    (∀ lexeme,
      Token.readers.Pairwise fun left right => left lexeme = none ∨ right lexeme = none) ∧
    ∀ order : List Token.Reader, order.Perm Token.readers →
      ∀ text, scanWith (Token.firstOf order) text = scan text := by
  refine ⟨fun lexeme => Token.exists_number?_iff, ?_, Token.pairwise_readers, ?_⟩
  · intro lexeme token read
    exact Token.exists_unsigned_of_number? read
  · intro order perm text
    rw [Token.firstOf_eq_ofLexeme? perm]
    rfl

/-- The readers backwards, and a numeral beside the same numeral with a line break. -/
theorem readers_exclusive_backwards :
    let backwards := [Token.paren?, Token.operator?, Token.number?]
    backwards.Perm Token.readers ∧
      (∀ text, scanWith (Token.firstOf backwards) text = scan text) ∧
      (∃ value, Token.number? ['0', '.', '5'] = some (.number value) ∧ value.isNaN = false ∧
        Binary64.signed value = false) ∧
      ¬ IsNumeral ['0', '.', '5', '\n'] := by
  intro backwards
  obtain ⟨numbers, unsigned, -, anyOrder⟩ := readers_exclusive
  have perm : backwards.Perm Token.readers := Token.readers.reverse_perm
  have read : Token.number? ['0', '.', '5'] = some (.number (Decimal.toFloat ⟨5, 1⟩)) := rfl
  refine ⟨perm, anyOrder backwards perm, ?_, ?_⟩
  · obtain ⟨value, same, notNaN, notSigned⟩ := unsigned _ _ read
    exact ⟨value, read.trans (congrArg some same), notNaN, notSigned⟩
  · intro isNumeral
    obtain ⟨token, refused⟩ := (numbers _).mpr isNumeral
    cases refused

end Reckon
