import Reckon.Lexis
import Mathlib.Data.List.TakeWhile

/-!
Contract: the readers of lexemes against the language of lexemes.

Owns:
- a literal is read exactly when it is a numeral, as the decimal that it writes;
- a lexeme is read exactly as the token that it denotes, and only a run that is no
  numeral is refused.

Does not own: the order in which the lexemes of a text are read.
-/

set_option autoImplicit false

namespace Reckon

variable {lexeme digits places : List Char} {decimal : Decimal} {token : Token}

/-! ### Digits -/

theorem IsWholePart.allDigits (whole : IsWholePart digits) : AllDigits digits := by
  cases whole with
  | zero => exact List.forall_mem_singleton.mpr (by decide)
  | nonzero first _ others => exact List.forall_mem_cons.mpr ⟨first, others⟩

theorem IsWholePart.ne_nil (whole : IsWholePart digits) : digits ≠ [] := by
  cases whole <;> exact List.cons_ne_nil _ _

theorem AllDigits.isWhole_iff (allDigits : AllDigits digits) :
    Decimal.IsWhole digits ↔ IsWholePart digits := by
  constructor
  · rintro (rfl | ⟨notEmpty, nonzero⟩)
    · exact .zero
    · cases digits with
      | nil => exact absurd rfl notEmpty
      | cons first others =>
          obtain ⟨firstDigit, othersDigits⟩ := List.forall_mem_cons.mp allDigits
          have notZero : first ≠ '0' := by simpa using nonzero
          exact .nonzero firstDigit notZero othersDigits
  · intro whole
    cases whole with
    | zero => exact .inl rfl
    | nonzero _ notZero _ => exact .inr ⟨List.cons_ne_nil _ _, by simpa using notZero⟩

theorem AllDigits.takeWhile_append_point (allDigits : AllDigits digits) (places : List Char) :
    (digits ++ '.' :: places).takeWhile Char.isDigit = digits := by
  rw [List.takeWhile_append_of_pos allDigits, List.takeWhile_cons_of_neg (by decide),
    List.append_nil]

theorem AllDigits.dropWhile_append_point (allDigits : AllDigits digits) (places : List Char) :
    (digits ++ '.' :: places).dropWhile Char.isDigit = '.' :: places := by
  rw [List.dropWhile_append_of_pos allDigits, List.dropWhile_cons_of_neg (by decide)]

/-! ### Numerals -/

theorem Numeral.read?_eq (numeral : Numeral lexeme decimal) :
    Decimal.read? lexeme = some decimal := by
  cases numeral with
  | whole whole =>
      have isWhole := whole.allDigits.isWhole_iff.mpr whole
      have taken : lexeme.takeWhile Char.isDigit = lexeme :=
        List.takeWhile_eq_self_iff.mpr whole.allDigits
      have dropped : lexeme.dropWhile Char.isDigit = [] :=
        List.dropWhile_eq_nil_iff.mpr whole.allDigits
      simp only [Decimal.read?, taken, dropped, isWhole, if_true]
  | fraction whole notEmpty placesDigits =>
      have isWhole := whole.allDigits.isWhole_iff.mpr whole
      have allPlaces := List.all_eq_true.mpr placesDigits
      simp only [Decimal.read?, whole.allDigits.takeWhile_append_point,
        whole.allDigits.dropWhile_append_point, isWhole, allPlaces, if_true]
      rw [if_pos ⟨trivial, notEmpty, trivial⟩]

theorem Numeral.of_read? (read : Decimal.read? lexeme = some decimal) :
    Numeral lexeme decimal := by
  have allDigits : AllDigits (lexeme.takeWhile Char.isDigit) :=
    fun _ member => List.mem_takeWhile_imp member
  have divided : lexeme.takeWhile Char.isDigit ++ lexeme.dropWhile Char.isDigit = lexeme :=
    List.takeWhile_append_dropWhile
  unfold Decimal.read? at read
  generalize lexeme.takeWhile Char.isDigit = digits at allDigits divided read
  generalize lexeme.dropWhile Char.isDigit = others at divided read
  by_cases isWhole : Decimal.IsWhole digits
  · have whole := allDigits.isWhole_iff.mp isWhole
    rw [if_pos isWhole] at read
    subst divided
    cases others with
    | nil =>
        obtain rfl := Option.some.inj read
        rw [List.append_nil]
        exact .whole whole
    | cons point places =>
        by_cases isFraction : point = '.' ∧ places ≠ [] ∧ places.all Char.isDigit = true
        · obtain ⟨rfl, notEmpty, allPlaces⟩ := isFraction
          simp only [notEmpty, allPlaces, ne_eq, not_false_eq_true, true_and, if_true] at read
          obtain rfl := Option.some.inj read
          exact .fraction whole notEmpty (List.all_eq_true.mp allPlaces)
        · simp only [if_neg isFraction] at read
          cases read
  · rw [if_neg isWhole] at read
    cases read

theorem Decimal.read?_eq_some_iff : Decimal.read? lexeme = some decimal ↔ Numeral lexeme decimal :=
  ⟨Numeral.of_read?, Numeral.read?_eq⟩

theorem Numeral.isRun (numeral : Numeral lexeme decimal) : IsRun lexeme := by
  have runDigits : ∀ {chars : List Char}, AllDigits chars →
      ∀ char ∈ chars, isRunChar char = true := by
    intro chars allDigits char member
    rw [isRunChar, allDigits char member, Bool.true_or]
  cases numeral with
  | whole whole => exact ⟨whole.ne_nil, runDigits whole.allDigits⟩
  | fraction whole _ placesDigits =>
      refine ⟨by simp, List.forall_mem_append.mpr ⟨runDigits whole.allDigits, ?_⟩⟩
      exact List.forall_mem_cons.mpr ⟨by decide, runDigits placesDigits⟩

/-! ### Tokens -/

theorem Operator.ofSymbol?_eq_some_iff {symbol : Char} {operator : Operator} :
    Operator.ofSymbol? symbol = some operator ↔ symbol = operator.symbol := by
  constructor
  · intro read
    unfold Operator.ofSymbol? at read
    split at read <;> cases read <;> rfl
  · rintro rfl
    exact operator.ofSymbol?_symbol

theorem Token.number?_eq_some_iff :
    Token.number? lexeme = some token ↔
      ∃ decimal, Numeral lexeme decimal ∧ .number decimal.toFloat = token := by
  simp only [Token.number?, Option.map_eq_some_iff, Decimal.read?_eq_some_iff]

theorem Token.operator?_eq_some_iff :
    Token.operator? lexeme = some token ↔
      ∃ operator : Operator, lexeme = [operator.symbol] ∧ .operator operator = token := by
  have isSymbol (operator : Operator) :
      Operator.ofLexeme? lexeme = some operator ↔ lexeme = [operator.symbol] := by
    match lexeme with
    | [] => simp [Operator.ofLexeme?]
    | [only] => simp [Operator.ofLexeme?, Operator.ofSymbol?_eq_some_iff]
    | _ :: _ :: _ => simp [Operator.ofLexeme?]
  simp only [Token.operator?, Option.map_eq_some_iff, isSymbol]

theorem Token.paren?_eq_some_iff :
    Token.paren? lexeme = some token ↔
      lexeme = ['('] ∧ token = .openParen ∨ lexeme = [')'] ∧ token = .closeParen := by
  unfold Token.paren?
  split <;> simp_all [eq_comm]

theorem Token.exists_reader_iff :
    (∃ reader ∈ Token.readers, reader lexeme = some token) ↔ Denotes lexeme token := by
  constructor
  · rintro ⟨reader, member, read⟩
    simp only [Token.readers, List.mem_cons, List.not_mem_nil, or_false] at member
    rcases member with rfl | rfl | rfl
    · obtain ⟨decimal, numeral, rfl⟩ := Token.number?_eq_some_iff.mp read
      exact .number numeral
    · obtain ⟨operator, rfl, rfl⟩ := Token.operator?_eq_some_iff.mp read
      exact .operator operator
    · rcases Token.paren?_eq_some_iff.mp read with ⟨rfl, rfl⟩ | ⟨rfl, rfl⟩
      · exact .openParen
      · exact .closeParen
  · intro denotes
    cases denotes with
    | number numeral =>
        exact ⟨Token.number?, by simp [Token.readers],
          Token.number?_eq_some_iff.mpr ⟨_, numeral, rfl⟩⟩
    | operator operator =>
        exact ⟨Token.operator?, by simp [Token.readers],
          Token.operator?_eq_some_iff.mpr ⟨operator, rfl, rfl⟩⟩
    | openParen => exact ⟨Token.paren?, by simp [Token.readers], rfl⟩
    | closeParen => exact ⟨Token.paren?, by simp [Token.readers], rfl⟩

/-! ### What a lexeme denotes -/

theorem Operator.isMark_symbol (operator : Operator) : isMark operator.symbol = true := by
  cases operator <;> decide

/-- A numeral is a run, and every other lexeme that denotes a token is a single mark. -/
theorem Denotes.isNumeral_or_isSingleMark (denotes : Denotes lexeme token) :
    IsNumeral lexeme ∨ IsSingleMark lexeme := by
  cases denotes with
  | number numeral => exact .inl ⟨_, numeral⟩
  | operator operator => exact .inr ⟨_, rfl, Operator.isMark_symbol operator⟩
  | openParen => exact .inr ⟨_, rfl, by decide⟩
  | closeParen => exact .inr ⟨_, rfl, by decide⟩

theorem Denotes.number?_eq (denotes : Denotes lexeme token) (run : IsRun lexeme) :
    Token.number? lexeme = some token := by
  have notRun {mark : Char} (isMark : isMark mark = true) : ¬ IsRun [mark] :=
    IsSingleMark.not_isRun ⟨mark, rfl, isMark⟩
  cases denotes with
  | number numeral => exact Token.number?_eq_some_iff.mpr ⟨_, numeral, rfl⟩
  | operator operator => exact absurd run (notRun (Operator.isMark_symbol operator))
  | openParen => exact absurd run (notRun (by decide))
  | closeParen => exact absurd run (notRun (by decide))

theorem Denotes.mark?_eq (denotes : Denotes lexeme token) (single : IsSingleMark lexeme) :
    (Token.operator? lexeme).or (Token.paren? lexeme) = some token := by
  cases denotes with
  | number numeral => exact absurd numeral.isRun single.not_isRun
  | operator operator => rw [Token.operator?_eq_some_iff.mpr ⟨operator, rfl, rfl⟩, Option.some_or]
  | openParen => rfl
  | closeParen => rfl

theorem Denotes.unique {other : Token} (denotes : Denotes lexeme token)
    (denotesOther : Denotes lexeme other) : token = other := by
  rcases denotes.isNumeral_or_isSingleMark with ⟨_, numeral⟩ | single
  · have read := denotes.number?_eq numeral.isRun
    rw [denotesOther.number?_eq numeral.isRun] at read
    exact (Option.some.inj read).symm
  · have read := denotes.mark?_eq single
    rw [denotesOther.mark?_eq single] at read
    exact (Option.some.inj read).symm

theorem Token.firstOf_eq_some_iff {order : List Token.Reader}
    (sameReaders : ∀ reader, reader ∈ order ↔ reader ∈ Token.readers) :
    Token.firstOf order lexeme = some token ↔ Denotes lexeme token := by
  have denotes_of_findSome? {found : Token} (read : Token.firstOf order lexeme = some found) :
      Denotes lexeme found := by
    obtain ⟨reader, member, read⟩ := List.exists_of_findSome?_eq_some read
    exact Token.exists_reader_iff.mp ⟨reader, (sameReaders reader).mp member, read⟩
  constructor
  · exact denotes_of_findSome?
  · intro denotes
    obtain ⟨reader, member, read⟩ := Token.exists_reader_iff.mpr denotes
    cases first : Token.firstOf order lexeme with
    | none =>
        have refused := List.findSome?_eq_none_iff.mp first reader ((sameReaders reader).mpr member)
        rw [read] at refused
        cases refused
    | some found => rw [denotes.unique (denotes_of_findSome? first)]

theorem Token.ofLexeme?_eq_some_iff : Token.ofLexeme? lexeme = some token ↔ Denotes lexeme token :=
  Token.firstOf_eq_some_iff fun _ => Iff.rfl

theorem IsSingleMark.exists_denotes (single : IsSingleMark lexeme) :
    ∃ token, Denotes lexeme token := by
  obtain ⟨mark, rfl, isMark⟩ := single
  simp only [Reckon.isMark, List.contains_eq_mem, decide_eq_true_eq, List.mem_cons,
    List.not_mem_nil, or_false] at isMark
  rcases isMark with rfl | rfl | rfl | rfl | rfl | rfl
  · exact ⟨_, .operator .add⟩
  · exact ⟨_, .operator .subtract⟩
  · exact ⟨_, .operator .multiply⟩
  · exact ⟨_, .operator .divide⟩
  · exact ⟨_, .openParen⟩
  · exact ⟨_, .closeParen⟩

/-- The only lexemes that are no tokens are runs. -/
theorem Token.ofLexeme?_eq_none_iff (form : IsRun lexeme ∨ IsSingleMark lexeme) :
    Token.ofLexeme? lexeme = none ↔ IsRun lexeme ∧ ¬ IsNumeral lexeme := by
  have refused : Token.ofLexeme? lexeme = none ↔ ∀ token, ¬ Denotes lexeme token := by
    simp only [Option.eq_none_iff_forall_ne_some, ne_eq, Token.ofLexeme?_eq_some_iff]
  rw [refused]
  constructor
  · intro noToken
    have notMark : ¬ IsSingleMark lexeme := fun single =>
      let ⟨token, denotes⟩ := single.exists_denotes
      noToken token denotes
    exact ⟨form.resolve_right notMark, fun ⟨_, numeral⟩ => noToken _ (.number numeral)⟩
  · rintro ⟨run, notNumeral⟩ token denotes
    rcases denotes.isNumeral_or_isSingleMark with isNumeral | single
    · exact notNumeral isNumeral
    · exact single.not_isRun run

end Reckon
