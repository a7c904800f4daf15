import Reckon.Parser.Rules

/-!
Contract: what each step of the parser does to its state.

Owns:
- sequencing of parsers, told by their outcomes;
- the relation between two states of a run: the tokens read between them;
- one equation for each step of the rules, by the tokens in front of the cursor.

Does not own: which trees come out of a whole rule.
-/

set_option autoImplicit false

namespace Reckon

namespace Parser

/-! ### Sequencing -/

section Sequencing

variable {α β : Type} {first : Parser α} {next : α → Parser β} {before after : State}

theorem bind_of_ok {value : α} {between : State} (read : first before = .ok value between) :
    (first >>= next) before = next value between := by
  change EStateM.bind first next before = _
  unfold EStateM.bind
  rw [read]

theorem bind_of_error {error : ParseError} (failed : first before = .error error after) :
    (first >>= next) before = .error error after := by
  change EStateM.bind first next before = _
  unfold EStateM.bind
  rw [failed]

theorem bind_eq_ok_iff {result : β} :
    (first >>= next) before = .ok result after ↔
      ∃ value between, first before = .ok value between ∧
        next value between = .ok result after := by
  change EStateM.bind first next before = _ ↔ _
  unfold EStateM.bind
  cases first before <;> simp [and_assoc]

theorem bind_eq_error_iff {error : ParseError} :
    (first >>= next) before = .error error after ↔
      first before = .error error after ∨
        ∃ value between, first before = .ok value between ∧
          next value between = .error error after := by
  change EStateM.bind first next before = _ ↔ _
  unfold EStateM.bind
  cases first before <;> simp [and_assoc]

theorem pure_eq_ok_iff {value result : α} :
    (pure value : Parser α) before = .ok result after ↔ value = result ∧ before = after := by
  change EStateM.Result.ok value before = _ ↔ _
  simp

theorem pure_ne_error {value : α} {error : ParseError} :
    (pure value : Parser α) before ≠ .error error after := by
  change EStateM.Result.ok value before ≠ _
  simp

end Sequencing

/-! ### The tokens read between two states -/

theorem State.position_le (state : State) :
    state.cursor.position ≤ state.cursor.tokens.length := by
  simp [Cursor.tokens, Cursor.position]

/-- The cursor has passed the tokens between the two states, and nothing else has
changed. -/
structure State.Reads (before : State) (tokens : List Token) (after : State) : Prop where
  ahead_eq : before.cursor.ahead = tokens ++ after.cursor.ahead
  passed_eq : after.cursor.passed = tokens.reverse ++ before.cursor.passed
  limit_eq : after.limit = before.limit
  depth_eq : after.depth = before.depth

namespace State.Reads

variable {before between after : State} {left right tokens : List Token}

theorem refl (state : State) : state.Reads [] state :=
  ⟨rfl, rfl, rfl, rfl⟩

theorem step (passed ahead : List Token) (token : Token) (limit depth : Nat) :
    State.Reads ⟨⟨passed, token :: ahead⟩, limit, depth⟩ [token]
      ⟨⟨token :: passed, ahead⟩, limit, depth⟩ :=
  ⟨rfl, rfl, rfl, rfl⟩

theorem trans (first : before.Reads left between) (second : between.Reads right after) :
    before.Reads (left ++ right) after where
  ahead_eq := by rw [first.ahead_eq, second.ahead_eq, List.append_assoc]
  passed_eq := by
    rw [second.passed_eq, first.passed_eq, List.reverse_append, List.append_assoc]
  limit_eq := second.limit_eq.trans first.limit_eq
  depth_eq := second.depth_eq.trans first.depth_eq

/-- What is read at once can be read in two parts. -/
theorem split (left : List Token) (both : before.Reads (left ++ right) after) :
    ∃ between, before.Reads left between ∧ between.Reads right after := by
  refine ⟨⟨⟨left.reverse ++ before.cursor.passed, right ++ after.cursor.ahead⟩,
    before.limit, before.depth⟩, ⟨?_, rfl, rfl, rfl⟩, ⟨rfl, ?_, both.limit_eq, both.depth_eq⟩⟩
  · rw [both.ahead_eq, List.append_assoc]
  · rw [both.passed_eq, List.reverse_append, List.append_assoc]

/-- The tokens read determine the state behind them. -/
theorem unique (one : before.Reads tokens between) (other : before.Reads tokens after) :
    between = after := by
  have sameAhead : between.cursor.ahead = after.cursor.ahead :=
    List.append_cancel_left (one.ahead_eq.symm.trans other.ahead_eq)
  have samePassed : between.cursor.passed = after.cursor.passed :=
    one.passed_eq.trans other.passed_eq.symm
  have sameLimit : between.limit = after.limit := one.limit_eq.trans other.limit_eq.symm
  have sameDepth : between.depth = after.depth := one.depth_eq.trans other.depth_eq.symm
  rcases between with ⟨⟨_, _⟩, _, _⟩
  rcases after with ⟨⟨_, _⟩, _, _⟩
  simp_all

theorem eq_of_nil (none : before.Reads [] after) : after = before :=
  none.unique (refl before)

theorem enter (reads : before.Reads tokens after) : before.enter.Reads tokens after.enter where
  ahead_eq := reads.ahead_eq
  passed_eq := reads.passed_eq
  limit_eq := reads.limit_eq
  depth_eq := congrArg (· + 1) reads.depth_eq

/-- Reading inside a group or a negation is reading all the same. -/
theorem leave {cursor : Cursor} {limit depth : Nat}
    (inner : State.Reads ⟨cursor, limit, depth + 1⟩ tokens after) :
    State.Reads ⟨cursor, limit, depth⟩ tokens after.leave where
  ahead_eq := inner.ahead_eq
  passed_eq := inner.passed_eq
  limit_eq := inner.limit_eq
  depth_eq := by
    show after.depth - 1 = depth
    rw [inner.depth_eq]
    rfl

theorem current?_eq {token : Token} (reads : before.Reads (token :: tokens) after) :
    before.cursor.current? = some token := by
  rw [Cursor.current?, reads.ahead_eq]
  rfl

theorem length_ahead (reads : before.Reads tokens after) :
    before.cursor.ahead.length = tokens.length + after.cursor.ahead.length := by
  rw [reads.ahead_eq, List.length_append]

theorem length_ahead_le (reads : before.Reads tokens after) :
    after.cursor.ahead.length ≤ before.cursor.ahead.length := by
  rw [reads.length_ahead]
  omega

theorem tokens_eq (reads : before.Reads tokens after) :
    after.cursor.tokens = before.cursor.tokens := by
  simp [Cursor.tokens, reads.ahead_eq, reads.passed_eq]

theorem position_eq (reads : before.Reads tokens after) :
    after.cursor.position = before.cursor.position + tokens.length := by
  rw [Cursor.position, reads.passed_eq, List.length_append, List.length_reverse, Nat.add_comm]
  rfl

/-- The tokens read are those between the two positions. -/
theorem extract_eq (reads : before.Reads tokens after) :
    before.cursor.tokens.extract before.cursor.position after.cursor.position = tokens := by
  rw [reads.position_eq]
  simp [Cursor.tokens, Cursor.position, List.extract_eq_take_drop, reads.ahead_eq]

end State.Reads

/-! ### Chains -/

/-- The token is an operator of the given precedence. -/
def Offers (precedence : Precedence) (found : Option Token) : Prop :=
  ∃ operator, found = some (.operator operator) ∧ operator.precedence = precedence

section Chains

variable {precedence : Precedence} {operand : Parser Tree} {bound : Nat}

theorem not_offers_none : ¬ Offers precedence none := by
  intro parts
  obtain ⟨operator, found, _⟩ := parts
  cases found

theorem not_offers_of_exhausted {state : State} (exhausted : state.cursor.ahead.length ≤ 0) :
    ¬ Offers precedence state.cursor.current? := by
  rw [Cursor.current?, List.length_eq_zero_iff.mp (Nat.le_zero.mp exhausted)]
  exact not_offers_none

theorem accept?_of_offer {operator : Operator} (offered : operator.precedence = precedence)
    (passed ahead : List Token) (limit depth : Nat) :
    accept? precedence ⟨⟨passed, .operator operator :: ahead⟩, limit, depth⟩ =
      .ok (some (.operator operator)) ⟨⟨.operator operator :: passed, ahead⟩, limit, depth⟩ := by
  subst offered
  cases operator <;> rfl

theorem accept?_of_not_offer {state : State}
    (notOffered : ¬ Offers precedence state.cursor.current?) :
    accept? precedence state = .ok none state := by
  rcases state with ⟨⟨passed, _ | ⟨token, ahead⟩⟩, limit, depth⟩
  · rfl
  · cases token with
    | operator operator =>
        cases operator <;> cases precedence <;>
          first | rfl | exact absurd ⟨_, rfl, rfl⟩ notOffered
    | _ => rfl

theorem links_of_offer {operator : Operator} (offered : operator.precedence = precedence)
    (passed ahead : List Token) (limit depth : Nat) :
    links precedence operand (bound + 1)
        ⟨⟨passed, .operator operator :: ahead⟩, limit, depth⟩ =
      (do
        let right ← operand
        let others ← links precedence operand bound
        return (Token.operator operator, right) :: others : Parser (List (Token × Tree)))
        ⟨⟨.operator operator :: passed, ahead⟩, limit, depth⟩ :=
  bind_of_ok (accept?_of_offer offered passed ahead limit depth)

theorem links_of_not_offer {state : State}
    (notOffered : ¬ Offers precedence state.cursor.current?) :
    links precedence operand bound state = .ok [] state := by
  cases bound with
  | zero => rfl
  | succ bound => exact bind_of_ok (accept?_of_not_offer notOffered)

theorem chainWithin_eq_ok_iff {symbol : Symbol} {tree : Tree} {before after : State} :
    chainWithin bound symbol precedence operand before = .ok tree after ↔
      ∃ first links', tree = Tree.chain symbol first links' ∧
        ∃ between, operand before = .ok first between ∧
          links precedence operand bound between = .ok links' after := by
  unfold chainWithin
  simp only [bind_eq_ok_iff, pure_eq_ok_iff]
  constructor
  · intro parts
    obtain ⟨first, between, firstRead, others, after, othersRead, rfl, rfl⟩ := parts
    exact ⟨first, others, rfl, between, firstRead, othersRead⟩
  · intro parts
    obtain ⟨first, others, rfl, between, firstRead, othersRead⟩ := parts
    exact ⟨first, between, firstRead, others, after, othersRead, rfl, rfl⟩

theorem chainWithin_eq_error_iff {symbol : Symbol} {error : ParseError}
    {before after : State} :
    chainWithin bound symbol precedence operand before = .error error after ↔
      operand before = .error error after ∨
        ∃ first between, operand before = .ok first between ∧
          links precedence operand bound between = .error error after := by
  unfold chainWithin
  simp only [bind_eq_error_iff, pure_ne_error, and_false, exists_false, or_false]

end Chains

/-! ### Groups and negations -/

section Nested

variable {token : Token} {passed ahead : List Token} {limit depth : Nat} {after : State}
  {error : ParseError}

theorem deeper_eq_ok_iff {α : Type} {inner : Parser α} {result : α} :
    deeper (do advance; inner) ⟨⟨passed, token :: ahead⟩, limit, depth⟩ = .ok result after ↔
      depth < limit ∧ ∃ final, inner ⟨⟨token :: passed, ahead⟩, limit, depth + 1⟩ =
        .ok result final ∧ after = final.leave := by
  have stepped : (do advance; inner : Parser α)
      (State.enter ⟨⟨passed, token :: ahead⟩, limit, depth⟩) =
        inner ⟨⟨token :: passed, ahead⟩, limit, depth + 1⟩ := rfl
  unfold deeper
  rw [stepped]
  by_cases below : depth < limit
  · cases inner ⟨⟨token :: passed, ahead⟩, limit, depth + 1⟩ <;>
      simp [below, and_assoc, eq_comm]
  · simp [below]

theorem deeper_eq_error_iff {α : Type} {inner : Parser α} :
    deeper (do advance; inner) ⟨⟨passed, token :: ahead⟩, limit, depth⟩ = .error error after ↔
      limit ≤ depth ∧ error = .nestedTooDeep limit ∧
          after = ⟨⟨passed, token :: ahead⟩, limit, depth⟩ ∨
        depth < limit ∧ ∃ final, inner ⟨⟨token :: passed, ahead⟩, limit, depth + 1⟩ =
          .error error final ∧ after = final.leave := by
  have stepped : (do advance; inner : Parser α)
      (State.enter ⟨⟨passed, token :: ahead⟩, limit, depth⟩) =
        inner ⟨⟨token :: passed, ahead⟩, limit, depth + 1⟩ := rfl
  unfold deeper
  rw [stepped]
  by_cases below : depth < limit
  · cases inner ⟨⟨token :: passed, ahead⟩, limit, depth + 1⟩ <;>
      simp [below, and_assoc, eq_comm, Nat.not_le.mpr below]
  · simp [below, Nat.not_lt.mp below, eq_comm]

theorem groupAround_eq_ok_iff {inside : Parser Tree} {tree : Tree} {before : State} :
    groupAround inside before = .ok tree after ↔
      ∃ between, deeper (do advance; inside) before = .ok tree between ∧
        between.cursor.current? = some .closeParen ∧
          between.Reads [.closeParen] after := by
  unfold groupAround
  rw [bind_eq_ok_iff]
  constructor
  · intro parts
    rcases parts with ⟨tree, ⟨⟨passed, _ | ⟨token, ahead⟩⟩, limit, depth⟩, insideRead, closed⟩
    · cases closed
    · cases token with
      | closeParen =>
          cases closed
          exact ⟨_, insideRead, rfl, .step ..⟩
      | _ => cases closed
  · intro parts
    rcases parts with ⟨⟨⟨passed, _ | ⟨token, ahead⟩⟩, limit, depth⟩, insideRead, closes, closeRead⟩
    · cases closes
    · cases closes
      refine ⟨tree, _, insideRead, ?_⟩
      rw [closeRead.unique (.step ..)]
      rfl

theorem groupAround_eq_error_iff {inside : Parser Tree} {before : State} :
    groupAround inside before = .error error after ↔
      deeper (do advance; inside) before = .error error after ∨
        ∃ tree, deeper (do advance; inside) before = .ok tree after ∧
          after.cursor.current? ≠ some .closeParen ∧
            error = .malformed after.cursor.position
              (.missingClose after.cursor.current?) := by
  unfold groupAround
  rw [bind_eq_error_iff]
  refine or_congr_right ⟨?_, ?_⟩
  · intro parts
    rcases parts with ⟨tree, ⟨⟨passed, _ | ⟨token, ahead⟩⟩, limit, depth⟩, insideRead, refused⟩
    · cases refused
      exact ⟨tree, insideRead, by simp [Cursor.current?], rfl⟩
    · cases token <;> cases refused <;>
        exact ⟨tree, insideRead, by simp [Cursor.current?], rfl⟩
  · intro parts
    obtain ⟨tree, insideRead, notClosed, rfl⟩ := parts
    refine ⟨tree, after, insideRead, ?_⟩
    rcases after with ⟨⟨passed, _ | ⟨token, ahead⟩⟩, limit, depth⟩
    · rfl
    · cases token <;> first | rfl | exact absurd rfl notClosed

end Nested

/-! ### Factors -/

/-- The token may stand at the front of a factor. -/
def startsFactor : Token → Bool
  | .number _ => true
  | .openParen => true
  | .operator .subtract => true
  | _ => false

/-- What a factor finds in front of it, one case for each way it goes on. -/
inductive FactorFront : List Token → Prop where
  | number (value : Float) (ahead : List Token) : FactorFront (.number value :: ahead)
  | group (ahead : List Token) : FactorFront (.openParen :: ahead)
  | minus {ahead : List Token} :
      takesMinus ahead.head? = true → FactorFront (.operator .subtract :: ahead)
  | dangling {ahead : List Token} :
      takesMinus ahead.head? = false → FactorFront (.operator .subtract :: ahead)
  | misplaced {token : Token} (ahead : List Token) :
      startsFactor token = false → FactorFront (token :: ahead)
  | ended : FactorFront []

theorem factorFront : ∀ ahead : List Token, FactorFront ahead
  | [] => .ended
  | .number value :: ahead => .number value ahead
  | .openParen :: ahead => .group ahead
  | .closeParen :: ahead => .misplaced ahead rfl
  | .operator .add :: ahead => .misplaced ahead rfl
  | .operator .multiply :: ahead => .misplaced ahead rfl
  | .operator .divide :: ahead => .misplaced ahead rfl
  | .operator .subtract :: ahead => by
      cases takes : takesMinus ahead.head? with
      | true => exact .minus takes
      | false => exact .dangling takes

section Factors

variable {passed ahead : List Token} {limit depth bound : Nat}

theorem factorWithin_number (value : Float) :
    factorWithin (bound + 1) ⟨⟨passed, .number value :: ahead⟩, limit, depth⟩ =
      .ok (Tree.factor (Tree.terminal (.number value)))
        ⟨⟨.number value :: passed, ahead⟩, limit, depth⟩ :=
  rfl

theorem factorWithin_group :
    factorWithin (bound + 1) ⟨⟨passed, .openParen :: ahead⟩, limit, depth⟩ =
      (do
        let group ← groupAround (expressionWithin bound (factorWithin bound))
        return Tree.factor group : Parser Tree)
        ⟨⟨passed, .openParen :: ahead⟩, limit, depth⟩ :=
  rfl

theorem factorWithin_minus (takes : takesMinus ahead.head? = true) :
    factorWithin (bound + 1) ⟨⟨passed, .operator .subtract :: ahead⟩, limit, depth⟩ =
      (do
        let operand ← deeper (do advance; factorWithin bound)
        return Tree.factor (Tree.negative (.operator .subtract) operand) : Parser Tree)
        ⟨⟨passed, .operator .subtract :: ahead⟩, limit, depth⟩ := by
  cases ahead with
  | nil => cases takes
  | cons token ahead => cases token <;> first | rfl | cases takes

theorem factorWithin_dangling (takes : takesMinus ahead.head? = false) :
    factorWithin (bound + 1) ⟨⟨passed, .operator .subtract :: ahead⟩, limit, depth⟩ =
      .error (.malformed (passed.length + 1) .danglingMinus)
        ⟨⟨passed, .operator .subtract :: ahead⟩, limit, depth⟩ := by
  cases ahead with
  | nil => rfl
  | cons token ahead => cases token <;> first | rfl | cases takes

theorem factorWithin_misplaced {token : Token} (misplaced : startsFactor token = false) :
    factorWithin (bound + 1) ⟨⟨passed, token :: ahead⟩, limit, depth⟩ =
      .error (.malformed passed.length (.missingOperand token))
        ⟨⟨passed, token :: ahead⟩, limit, depth⟩ := by
  cases token with
  | operator operator => cases operator <;> first | rfl | cases misplaced
  | closeParen => rfl
  | _ => cases misplaced

theorem factorWithin_ended :
    factorWithin bound ⟨⟨passed, []⟩, limit, depth⟩ =
      .error (.malformed passed.length .unexpectedEnd) ⟨⟨passed, []⟩, limit, depth⟩ := by
  cases bound <;> rfl

end Factors

/-! ### Whole token lists -/

section Whole

variable {before after : State} {tree : Tree} {error : ParseError}

theorem whole_eq_ok_iff (notEmpty : before.cursor.current? ≠ none) :
    whole before = .ok tree after ↔
      expression before = .ok tree after ∧ after.cursor.current? = none := by
  rcases before with ⟨⟨passed, _ | ⟨token, ahead⟩⟩, limit, depth⟩
  · exact absurd rfl notEmpty
  change EStateM.bind expression _ _ = _ ↔ _
  unfold EStateM.bind
  cases expression ⟨⟨passed, token :: ahead⟩, limit, depth⟩ with
  | error error final => simp
  | ok found final =>
      rcases final with ⟨⟨passed, _ | ⟨next, ahead⟩⟩, limit, depth⟩
      · change EStateM.Result.ok found _ = _ ↔ _
        simp only [EStateM.Result.ok.injEq]
        constructor
        · intro same
          obtain ⟨rfl, rfl⟩ := same
          exact ⟨⟨rfl, rfl⟩, rfl⟩
        · exact And.left
      · change EStateM.Result.error _ _ = _ ↔ _
        simp only [EStateM.Result.ok.injEq, reduceCtorEq, false_iff]
        intro parts
        obtain ⟨⟨rfl, rfl⟩, ended⟩ := parts
        cases ended

theorem whole_eq_error_iff (notEmpty : before.cursor.current? ≠ none) :
    whole before = .error error after ↔
      expression before = .error error after ∨
        ∃ tree token, expression before = .ok tree after ∧
          after.cursor.current? = some token ∧
            error = .malformed after.cursor.position (.trailingToken token) := by
  rcases before with ⟨⟨passed, _ | ⟨token, ahead⟩⟩, limit, depth⟩
  · exact absurd rfl notEmpty
  change EStateM.bind expression _ _ = _ ↔ _
  unfold EStateM.bind
  cases expression ⟨⟨passed, token :: ahead⟩, limit, depth⟩ with
  | error found final => simp
  | ok found final =>
      rcases final with ⟨⟨passed, _ | ⟨next, ahead⟩⟩, limit, depth⟩
      · change EStateM.Result.ok found _ = _ ↔ _
        simp only [EStateM.Result.ok.injEq, reduceCtorEq, false_or, false_iff]
        intro parts
        obtain ⟨tree, token, ⟨-, rfl⟩, trailing, -⟩ := parts
        cases trailing
      · change EStateM.Result.error _ _ = _ ↔ _
        simp only [EStateM.Result.error.injEq, EStateM.Result.ok.injEq, reduceCtorEq, false_or]
        constructor
        · intro same
          obtain ⟨rfl, rfl⟩ := same
          exact ⟨found, next, ⟨rfl, rfl⟩, rfl, rfl⟩
        · intro parts
          obtain ⟨tree, token, ⟨-, rfl⟩, trailing, rfl⟩ := parts
          cases trailing
          exact ⟨rfl, rfl⟩

end Whole

end Parser

namespace Tree

open Reckon.Parser

variable {settings : Settings} {tokens : List Token}

theorem ofTokens_eq_ok_iff_whole {tree : Tree} :
    ofTokens settings tokens = .ok tree ↔
      ∃ after, whole (State.initial settings tokens) = .ok tree after := by
  unfold ofTokens
  cases whole (State.initial settings tokens) <;> simp

theorem ofTokens_eq_error_iff_whole {error : ParseError} :
    ofTokens settings tokens = .error error ↔
      ∃ after, whole (State.initial settings tokens) = .error error after := by
  unfold ofTokens
  cases whole (State.initial settings tokens) <;> simp

end Tree

end Reckon
