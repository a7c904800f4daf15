import Reckon.Proofs.Outlook

/-!
Contract: how deep the tokens so far have nested.

Only a number and an opening parenthesis show how deep the tokens nest: a minus sign
takes a level that counts once its operand is there. The peak of a course is the
deepest level that one of these two has reached. Tokens behind the first that has no
place count for nothing, since no course leads to them.

Owns:
- the peak of a course, and the place where it exceeds a limit;
- the peak of a derived tree is within its nesting;
- a completion of every outlook that adds nothing to the peak.

Does not own: which error is reported where the peak exceeds the limit.
-/

set_option autoImplicit false

namespace Reckon

namespace Outlook

/-- The depth that a number or an opening parenthesis takes the nesting to. -/
def rise (outlook : Outlook) (token : Token) : Nat :=
  if Parser.takesMinus (some token) then outlook.reach token else 0

def peak : Outlook → List Token → Nat
  | _, [] => 0
  | outlook, token :: tokens =>
      match outlook.next? token with
      | none => 0
      | some next => max (outlook.rise token) (next.peak tokens)

theorem lt_rise_iff {outlook : Outlook} {token : Token} {limit : Nat} :
    limit < outlook.rise token ↔
      Parser.takesMinus (some token) = true ∧ limit < outlook.reach token := by
  unfold rise
  split
  · simp [*]
  · simp [*]

/-! ### Peaks of courses -/

@[simp] theorem peak_nil (outlook : Outlook) : outlook.peak [] = 0 := rfl

theorem peak_cons {outlook next : Outlook} {token : Token}
    (step : outlook.next? token = some next) (tokens : List Token) :
    outlook.peak (token :: tokens) = max (outlook.rise token) (next.peak tokens) := by
  rw [peak, step]

theorem peak_singleton {outlook next : Outlook} {token : Token}
    (step : outlook.next? token = some next) : outlook.peak [token] = outlook.rise token := by
  rw [peak_cons step, peak_nil, Nat.max_zero]

/-- Behind a token that has no place nothing counts. -/
theorem peak_cons_of_refused {outlook : Outlook} {token : Token}
    (refused : outlook.next? token = none) (tokens : List Token) :
    outlook.peak (token :: tokens) = 0 := by
  rw [peak, refused]

theorem peak_append {outlook between : Outlook} {left : List Token}
    (course : outlook.over? left = some between) (right : List Token) :
    outlook.peak (left ++ right) = max (outlook.peak left) (between.peak right) := by
  induction left generalizing outlook with
  | nil =>
      cases course
      simp
  | cons token left inductionHypothesis =>
      obtain ⟨next, step, rest⟩ := Option.bind_eq_some_iff.mp (over?_cons .. ▸ course)
      rw [List.cons_append, peak_cons step, peak_cons step, inductionHypothesis rest,
        Nat.max_assoc]

/-- More tokens never lower the peak. -/
theorem peak_le_peak_append (outlook : Outlook) (left right : List Token) :
    outlook.peak left ≤ outlook.peak (left ++ right) := by
  induction left generalizing outlook with
  | nil => exact Nat.zero_le _
  | cons token left inductionHypothesis =>
      rw [List.cons_append]
      cases step : outlook.next? token with
      | none =>
          rw [peak_cons_of_refused step]
          exact Nat.zero_le _
      | some next =>
          have later := inductionHypothesis next
          rw [peak_cons step, peak_cons step]
          omega

/-- The tokens from the first refusal on add nothing to the peak. -/
theorem peak_eq_peak_take {outlook reached : Outlook} {tokens : List Token} {position : Nat}
    (course : outlook.over? (tokens.take position) = some reached)
    (refuses : reached.Refuses tokens[position]?) :
    outlook.peak tokens = outlook.peak (tokens.take position) := by
  have nothingMore : reached.peak (tokens.drop position) = 0 := by
    cases ahead : tokens.drop position with
    | nil => rfl
    | cons token others =>
        have found : tokens[position]? = some token := by
          rw [← List.head?_drop, ahead]
          rfl
        rw [found] at refuses
        exact peak_cons_of_refused refuses others
  calc outlook.peak tokens
      = outlook.peak (tokens.take position ++ tokens.drop position) := by
        rw [List.take_append_drop]
    _ = outlook.peak (tokens.take position) := by
        rw [peak_append course, nothingMore, Nat.max_zero]

/-- Where the peak exceeds a limit, some number or opening parenthesis reaches beyond
it. -/
theorem exists_of_lt_peak {outlook : Outlook} {tokens : List Token} {limit : Nat}
    (exceeds : limit < outlook.peak tokens) :
    ∃ left token right reached next, tokens = left ++ token :: right ∧
      outlook.over? left = some reached ∧ reached.next? token = some next ∧
        limit < reached.rise token := by
  induction tokens generalizing outlook with
  | nil => exact absurd exceeds (Nat.not_lt_zero _)
  | cons token tokens inductionHypothesis =>
      cases step : outlook.next? token with
      | none =>
          rw [peak_cons_of_refused step] at exceeds
          exact absurd exceeds (Nat.not_lt_zero _)
      | some next =>
          rw [peak_cons step] at exceeds
          by_cases here : limit < outlook.rise token
          · exact ⟨[], token, tokens, outlook, next, rfl, rfl, step, here⟩
          · have later : limit < next.peak tokens := by omega
            obtain ⟨left, deep, right, reached, beyond, rfl, course, deepStep, deeper⟩ :=
              inductionHypothesis later
            refine ⟨token :: left, deep, right, reached, beyond, rfl, ?_, deepStep, deeper⟩
            rw [over?_cons, step, Option.bind_some, course]

/-- A number or an opening parenthesis that reaches beyond the limit takes the peak
there. -/
theorem lt_peak_of_reach {outlook reached next : Outlook} {tokens : List Token}
    {position : Nat} {token : Token} {limit : Nat}
    (course : outlook.over? (tokens.take position) = some reached)
    (found : tokens[position]? = some token) (takes : Parser.takesMinus (some token) = true)
    (exceeds : limit < reached.reach token) (step : reached.next? token = some next) :
    limit < outlook.peak tokens := by
  obtain ⟨inRange, rfl⟩ := List.getElem?_eq_some_iff.mp found
  have exceedsHere : limit < reached.rise tokens[position] := lt_rise_iff.mpr ⟨takes, exceeds⟩
  have split : tokens.take position ++ tokens[position] :: tokens.drop (position + 1) = tokens := by
    rw [← List.drop_eq_getElem_cons inRange, List.take_append_drop]
  rw [← split, peak_append course, peak_cons step]
  omega

/-! ### Peaks and depths -/

theorem rise_le (outlook : Outlook) (token : Token) : outlook.rise token ≤ outlook.depth + 1 := by
  unfold rise
  split
  · unfold reach
    split <;> omega
  · omega

/-- Levels take tokens, so a limit of as many levels is never exceeded. -/
theorem peak_le_length (outlook : Outlook) (tokens : List Token) :
    outlook.peak tokens ≤ outlook.depth + tokens.length := by
  induction tokens generalizing outlook with
  | nil => exact Nat.zero_le _
  | cons token tokens inductionHypothesis =>
      rw [List.length_cons]
      cases step : outlook.next? token with
      | none =>
          rw [peak_cons_of_refused step]
          exact Nat.zero_le _
      | some next =>
          have oneToken := rise_le outlook token
          have oneLevel := depth_le_of_next? step
          have otherTokens := inductionHypothesis next
          rw [peak_cons step]
          omega

theorem peak_start_le_length (tokens : List Token) : start.peak tokens ≤ tokens.length := by
  have levels : start.peak tokens ≤ 0 + tokens.length := start.peak_le_length tokens
  omega

/-- What follows a number or an opening parenthesis is no deeper than these reach. -/
theorem depth_le_rise {outlook next : Outlook} {token : Token}
    (takes : Parser.takesMinus (some token) = true)
    (step : outlook.next? token = some next) : next.depth ≤ outlook.rise token := by
  rcases outlook with ⟨expected, groups⟩
  cases token with
  | number value =>
      cases expected <;> cases step <;> simp [rise, reach, depth, Parser.takesMinus]
  | openParen =>
      cases expected <;> cases step <;> simp [rise, reach, depth, levels, Parser.takesMinus]
  | _ => cases takes

/-! ### Derived trees -/

theorem peak_linksYield_le (precedence : Precedence) {links : List (Token × Tree)}
    {groups : List Bool} {bound : Nat}
    (operators : ∀ link ∈ links, link.1.kind = precedence.kind)
    (courses : ∀ link ∈ links,
      over? ⟨.operand, groups⟩ link.2.yield = some ⟨.operator, groups⟩)
    (peaks : ∀ link ∈ links, peak ⟨.operand, groups⟩ link.2.yield ≤ bound) :
    peak ⟨.operator, groups⟩ (Tree.linksYield links) ≤ bound := by
  induction links with
  | nil => exact Nat.zero_le _
  | cons link links inductionHypothesis =>
      have operatorStep := next?_operator (operators link (by simp)) groups
      have operatorRise : rise ⟨.operator, groups⟩ link.1 = 0 := by
        obtain ⟨operator, isOperator, -⟩ :=
          Token.kind_eq_precedence_kind_iff.mp (operators link (by simp))
        rw [isOperator]
        rfl
      have here := peaks link (by simp)
      have others := inductionHypothesis
        (fun other member => operators other (by simp [member]))
        (fun other member => courses other (by simp [member]))
        (fun other member => peaks other (by simp [member]))
      rw [Tree.linksYield_cons, peak_cons operatorStep, peak_append (courses link (by simp)),
        operatorRise]
      omega

theorem peak_chain_le {symbol operand : Symbol} {precedence : Precedence}
    (rule : ChainRule symbol operand precedence) {first : Tree} {links : List (Token × Tree)}
    {groups : List Bool} (firstDerived : Derives operand first)
    (operators : ∀ link ∈ links, link.1.kind = precedence.kind)
    (operands : ∀ link ∈ links, Derives operand link.2)
    (firstPeak : peak ⟨.operand, groups⟩ first.yield ≤ levels groups + first.nesting)
    (peaks : ∀ link ∈ links,
      peak ⟨.operand, groups⟩ link.2.yield ≤ levels groups + link.2.nesting) :
    peak ⟨.operand, groups⟩ (Tree.chain symbol first links).yield ≤
      levels groups + (Tree.chain symbol first links).nesting := by
  obtain ⟨firstNests, linksNest⟩ :=
    (Tree.nesting_chain_le_iff rule.isChain).mp
      (Nat.le_refl (Tree.chain symbol first links).nesting)
  have linksPeak : peak ⟨.operator, groups⟩ (Tree.linksYield links) ≤
      levels groups + (Tree.chain symbol first links).nesting := by
    apply peak_linksYield_le precedence operators
    · exact fun link member => over?_yield (operands link member) groups
    · exact fun link member =>
        Nat.le_trans (peaks link member) (Nat.add_le_add_left (linksNest link member) _)
  rw [Tree.yield_chain rule.isChain.1, peak_append (over?_yield firstDerived groups)]
  omega

theorem peak_group_le {inside : Tree} {outlook : Outlook} {negated : Bool}
    (derived : Derives .expression inside)
    (opens : outlook.next? .openParen = some ⟨.operand, negated :: outlook.groups⟩)
    (deeper : depth ⟨.operand, negated :: outlook.groups⟩ = outlook.depth + 1)
    (insidePeak : peak ⟨.operand, negated :: outlook.groups⟩ inside.yield ≤
      levels (negated :: outlook.groups) + inside.nesting) :
    outlook.peak (Tree.factor inside).yield ≤ outlook.depth + (Tree.factor inside).nesting := by
  have openRise := rise_le outlook .openParen
  have closes : next? ⟨.operator, negated :: outlook.groups⟩ .closeParen =
      some ⟨.operator, outlook.groups⟩ := rfl
  have closeRise : rise ⟨.operator, negated :: outlook.groups⟩ .closeParen = 0 := rfl
  have insideDepth : levels (negated :: outlook.groups) = outlook.depth + 1 := deeper
  rw [Tree.yield_group derived.isExpression, Tree.nesting_group derived.isExpression,
    peak_cons opens, peak_append (over?_yield derived _), peak_cons closes, closeRise, peak_nil]
  omega

/-- Induction on the derivation. A tree reaches no deeper than it nests, counted from
the groups that are open around it. -/
theorem peak_yield_le {symbol : Symbol} {tree : Tree} (derived : Derives symbol tree)
    (groups : List Bool) :
    peak ⟨.operand, groups⟩ tree.yield ≤ levels groups + tree.nesting := by
  induction derived generalizing groups with
  | number value =>
      rw [Tree.yield_number, Tree.nesting_number]
      show max (levels groups + 0 + 0) 0 ≤ levels groups + 0
      omega
  | group inside insidePeak =>
      exact peak_group_le inside rfl rfl (insidePeak (false :: groups))
  | negated content contentPeak =>
      cases content <;> rw [Tree.yield_negated, Tree.nesting_negated] <;>
        exact contentPeak groups
  | negativeNumber value =>
      rw [Tree.yield_negative, Tree.nesting_negative, Tree.yield_number, Tree.nesting_number]
      show max 0 (max (levels groups + 1 + 0) 0) ≤ levels groups + (0 + 1)
      omega
  | @negativeGroup inside insideDerived insidePeak =>
      have operandPeak : peak ⟨.negatedOperand, groups⟩ (Tree.factor inside).yield ≤
          levels groups + 1 + (Tree.factor inside).nesting :=
        peak_group_le insideDerived rfl rfl (insidePeak (true :: groups))
      rw [Tree.yield_negative, Tree.nesting_negative]
      show max 0 (peak ⟨.negatedOperand, groups⟩ (Tree.factor inside).yield) ≤ _
      omega
  | term first operators operands firstPeak operandPeaks =>
      exact peak_chain_le .term first operators operands (firstPeak groups)
        fun link member => operandPeaks link member groups
  | expression first operators operands firstPeak operandPeaks =>
      exact peak_chain_le .expression first operators operands (firstPeak groups)
        fun link member => operandPeaks link member groups

theorem peak_start_yield_le {symbol : Symbol} {tree : Tree} (derived : Derives symbol tree) :
    start.peak tree.yield ≤ tree.nesting := by
  have levels : start.peak tree.yield ≤ 0 + tree.nesting := peak_yield_le derived []
  omega

/-! ### Completions -/

theorem over?_closeParens (groups : List Bool) :
    over? ⟨.operator, groups⟩ (groups.map fun _ => .closeParen) = some ⟨.operator, []⟩ := by
  induction groups with
  | nil => rfl
  | cons negated groups inductionHypothesis => exact inductionHypothesis

theorem peak_closeParens (groups : List Bool) :
    peak ⟨.operator, groups⟩ (groups.map fun _ => .closeParen) = 0 := by
  induction groups with
  | nil => rfl
  | cons negated groups inductionHypothesis =>
      show max 0 (peak ⟨.operator, groups⟩ (groups.map fun _ => .closeParen)) = 0
      rw [inductionHypothesis, Nat.max_self]

/-- Every outlook is completed by some tokens: an operand where one is due, and then
the end of every group. They go no deeper than the outlook stands. -/
theorem exists_completion (outlook : Outlook) :
    ∃ rest final, outlook.over? rest = some final ∧ final.IsComplete ∧
      outlook.peak rest ≤ outlook.depth := by
  rcases outlook with ⟨expected, groups⟩
  have closed := over?_closeParens groups
  have level := peak_closeParens groups
  cases expected with
  | operator => exact ⟨_, _, closed, rfl, by rw [level]; exact Nat.zero_le _⟩
  | operand =>
      refine ⟨.number 0 :: groups.map fun _ => .closeParen, _, closed, rfl, ?_⟩
      show max (levels groups + 0 + 0) (peak ⟨.operator, groups⟩ _) ≤ levels groups + 0
      omega
  | negatedOperand =>
      refine ⟨.number 0 :: groups.map fun _ => .closeParen, _, closed, rfl, ?_⟩
      show max (levels groups + 1 + 0) (peak ⟨.operator, groups⟩ _) ≤ levels groups + 1
      omega

end Outlook

end Reckon
