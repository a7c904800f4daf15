import Reckon.Proofs.Parser.Acceptance
import Reckon.Proofs.Parser.Machine

/-!
Contract: every run of a rule ends with the result of its parser, and keeps the discipline.

The parsers go down a bound on the tokens ahead, and a run has no bound. That a run comes
to the result of the parser, with any callers left waiting, is therefore also what says
that it comes to an end.

Owns:
- the run of each rule, led along its parser;
- the tokens that a rule reads when it succeeds;
- the discipline of every rule.
-/

set_option autoImplicit false

namespace Reckon

namespace Parser

open Relation (ReflTransGen)

/-! ### Runs along the parsers -/

/-- A call of the rule comes to what the parser answers, whoever waits for it. -/
def RunsAs (rule : Rule) (parser : Parser Tree) (state : State) : Prop :=
  ∀ frames, Machine.Reaches ⟨.called rule, frames, state⟩ (.ofResult frames (parser state))

/-- So it does wherever so many tokens or fewer are ahead. -/
def RunsWithin (bound : Nat) (rule : Rule) (parser : Parser Tree) : Prop :=
  ∀ state : State, state.cursor.ahead.length ≤ bound → state.depth ≤ state.limit →
    RunsAs rule parser state

section Steps

variable {machine : Machine} {rule : Rule} {frame : Frame} {frames : List Frame}
  {state after : State} {tree : Tree} {error : ParseError}

theorem reaches_of_begin {turn : EStateM.Result ParseError State Turn}
    (begins : rule.begin state = turn) (rest : (Machine.ofTurn frames turn).Reaches machine) :
    Machine.Reaches ⟨.called rule, frames, state⟩ machine :=
  ReflTransGen.head (congrArg (fun turn => some (Machine.ofTurn frames turn)) begins) rest

theorem reaches_of_resume {turn : EStateM.Result ParseError State Turn}
    (reaches : machine.Reaches ⟨.returned (.ok tree), frame :: frames, state⟩)
    (resumes : frame.resume tree (frame.unwind state) = turn) :
    machine.Reaches (Machine.ofTurn frames turn) :=
  ReflTransGen.tail reaches (congrArg (fun turn => some (Machine.ofTurn frames turn)) resumes)

theorem reaches_of_error
    (reaches : machine.Reaches ⟨.returned (.error error), frame :: frames, state⟩) :
    machine.Reaches ⟨.returned (.error error), frames, frame.unwind state⟩ :=
  ReflTransGen.tail reaches rfl

end Steps

section Chains

variable {precedence : Precedence} {operand : Parser Tree} {bound steps : Nat}
  {frames : List Frame} {first : Tree} {found : List (Token × Tree)}

/-- A chain behind its first operand and the links that have been found. -/
def chainFrom (precedence : Precedence) (operand : Parser Tree) (steps : Nat) (first : Tree)
    (found : List (Token × Tree)) : Parser Tree := do
  let others ← links precedence operand steps
  return Tree.chain (Rule.chain precedence).symbol first (found ++ others)

theorem chainWithin_eq :
    chainWithin bound (Rule.chain precedence).symbol precedence operand =
      (do
        let first ← operand
        chainFrom precedence operand bound first []) :=
  rfl

/-- Where no operator goes on, the chain is complete. -/
theorem reaches_of_not_offer {state : State}
    (notOffered : ¬ Offers precedence state.cursor.current?) :
    (Machine.ofTurn frames (extend precedence first found state)).Reaches
      (.ofResult frames (chainFrom precedence operand steps first found state)) := by
  rw [extend_of_not_offer notOffered, chainFrom, bind_of_ok (links_of_not_offer notOffered),
    List.append_nil]
  exact .refl

section Offered

variable {operator : Operator} {passed ahead : List Token} {limit depth : Nat} {after : State}

theorem chainFrom_of_error (offered : operator.precedence = precedence) {error : ParseError}
    (failed : operand ⟨⟨.operator operator :: passed, ahead⟩, limit, depth⟩ =
      .error error after) :
    chainFrom precedence operand (steps + 1) first found
        ⟨⟨passed, .operator operator :: ahead⟩, limit, depth⟩ = .error error after :=
  bind_of_error ((links_of_offer offered ..).trans (bind_of_error failed))

/-- The link that is read joins those that have been found. -/
theorem chainFrom_of_ok (offered : operator.precedence = precedence) {right : Tree}
    (read : operand ⟨⟨.operator operator :: passed, ahead⟩, limit, depth⟩ = .ok right after) :
    chainFrom precedence operand (steps + 1) first found
        ⟨⟨passed, .operator operator :: ahead⟩, limit, depth⟩ =
      chainFrom precedence operand steps first (found ++ [(.operator operator, right)])
        after := by
  have linksRead : links precedence operand (steps + 1)
      ⟨⟨passed, .operator operator :: ahead⟩, limit, depth⟩ = _ :=
    (links_of_offer offered passed ahead limit depth).trans (bind_of_ok read)
  unfold chainFrom
  cases others : links precedence operand steps after with
  | error error final =>
      rw [bind_of_error others] at linksRead
      rw [bind_of_error linksRead, bind_of_error others]
  | ok others final =>
      rw [bind_of_ok ‹_›] at linksRead
      rw [bind_of_ok linksRead, bind_of_ok ‹_›, List.append_assoc]
      rfl

end Offered

/-- Induction on the bound of the loop. The links that the frame holds grow at their end,
while the loop puts each one in front of those to come. -/
theorem reaches_of_extend (runs : RunsWithin bound (Rule.operand precedence) operand)
    (exact : Exact bound (Rule.operand precedence).symbol operand) {state : State}
    (enoughSteps : state.cursor.ahead.length ≤ steps)
    (withinBound : state.cursor.ahead.length ≤ bound) (withinLimit : state.depth ≤ state.limit) :
    (Machine.ofTurn frames (extend precedence first found state)).Reaches
      (.ofResult frames (chainFrom precedence operand steps first found state)) := by
  induction steps generalizing found state with
  | zero => exact reaches_of_not_offer (not_offers_of_exhausted enoughSteps)
  | succ steps inductionHypothesis =>
      by_cases offered : Offers precedence state.cursor.current?
      · rcases state with ⟨⟨passed, _ | ⟨token, ahead⟩⟩, limit, depth⟩
        · exact absurd offered not_offers_none
        rcases offered with ⟨operator, isOperator, ofPrecedence⟩
        cases isOperator
        have aheadBound : ahead.length ≤ bound := Nat.le_of_succ_le withinBound
        have aheadSteps : ahead.length ≤ steps := Nat.le_of_succ_le_succ enoughSteps
        have operandExact (right : Tree) (after : State) :=
          exact ⟨⟨.operator operator :: passed, ahead⟩, limit, depth⟩ right after aheadBound
            withinLimit
        have operandRun := runs ⟨⟨.operator operator :: passed, ahead⟩, limit, depth⟩ aheadBound
          withinLimit (.nextOperand precedence first found (.operator operator) :: frames)
        rw [extend_of_offer ofPrecedence]
        cases read : operand ⟨⟨.operator operator :: passed, ahead⟩, limit, depth⟩ with
        | error error after =>
            rw [read] at operandRun
            rw [chainFrom_of_error ofPrecedence read]
            exact reaches_of_error operandRun
        | ok right after =>
            -- Behind the operand fewer tokens are ahead, at the same depth.
            have reads := ((operandExact right after).mp read).reads
            have shorter := reads.length_ahead_le
            rw [read] at operandRun
            rw [chainFrom_of_ok ofPrecedence read]
            refine (reaches_of_resume operandRun rfl).trans (inductionHypothesis ?_ ?_ ?_)
            · exact Nat.le_trans shorter aheadSteps
            · exact Nat.le_trans shorter aheadBound
            · exact reads.depth_eq ▸ reads.limit_eq ▸ withinLimit
      · exact reaches_of_not_offer offered

theorem runsWithin_chain (precedence : Precedence)
    (runs : RunsWithin bound (Rule.operand precedence) operand)
    (exact : Exact bound (Rule.operand precedence).symbol operand) :
    RunsWithin bound (Rule.chain precedence)
      (chainWithin bound (Rule.chain precedence).symbol precedence operand) := by
  intro state withinBound withinLimit frames
  have operandRun := runs state withinBound withinLimit (.firstOperand precedence :: frames)
  rw [chainWithin_eq]
  apply reaches_of_begin (begin_chain precedence state)
  cases read : operand state with
  | error error after =>
      rw [read] at operandRun
      rw [bind_of_error read]
      exact reaches_of_error operandRun
  | ok tree after =>
      have reads := ((exact state tree after withinBound withinLimit).mp read).reads
      have shorter := Nat.le_trans reads.length_ahead_le withinBound
      rw [read] at operandRun
      rw [bind_of_ok read]
      apply (reaches_of_resume operandRun rfl).trans
      apply reaches_of_extend runs exact shorter shorter
      exact reads.depth_eq ▸ reads.limit_eq ▸ withinLimit

end Chains

section Nested

variable {rule callee : Rule} {frame : Frame} {frames : List Frame} {inner : Parser Tree}
  {bound : Nat} {token : Token} {passed ahead : List Token} {limit depth : Nat} {after : State}

/-- A call one level deeper, which comes back with a tree. -/
theorem reaches_of_deeper_ok (runs : RunsWithin bound callee inner)
    (withinBound : ahead.length ≤ bound) (nested : frame.isNested = true)
    (begins : rule.begin ⟨⟨passed, token :: ahead⟩, limit, depth⟩ =
      descend callee frame ⟨⟨passed, token :: ahead⟩, limit, depth⟩) {tree : Tree}
    (read : deeper (do advance; inner) ⟨⟨passed, token :: ahead⟩, limit, depth⟩ =
      .ok tree after) :
    Machine.Reaches ⟨.called rule, frames, ⟨⟨passed, token :: ahead⟩, limit, depth⟩⟩
      (.ofTurn frames (frame.resume tree after)) := by
  obtain ⟨below, final, innerRead, rfl⟩ := deeper_eq_ok_iff.mp read
  have innerRun := runs ⟨⟨token :: passed, ahead⟩, limit, depth + 1⟩ withinBound below
    (frame :: frames)
  have left : frame.unwind final = final.leave := if_pos nested
  rw [innerRead] at innerRun
  apply reaches_of_begin (begins.trans (descend_of_lt callee frame below))
  exact reaches_of_resume innerRun (congrArg (frame.resume tree) left)

/-- A call one level deeper, which comes back with an error or is not made. -/
theorem reaches_of_deeper_error (runs : RunsWithin bound callee inner)
    (withinBound : ahead.length ≤ bound) (nested : frame.isNested = true)
    (begins : rule.begin ⟨⟨passed, token :: ahead⟩, limit, depth⟩ =
      descend callee frame ⟨⟨passed, token :: ahead⟩, limit, depth⟩) {error : ParseError}
    (failed : deeper (do advance; inner) ⟨⟨passed, token :: ahead⟩, limit, depth⟩ =
      .error error after) :
    Machine.Reaches ⟨.called rule, frames, ⟨⟨passed, token :: ahead⟩, limit, depth⟩⟩
      ⟨.returned (.error error), frames, after⟩ := by
  rcases deeper_eq_error_iff.mp failed with ⟨full, rfl, rfl⟩ | ⟨below, final, innerFailed, rfl⟩
  · exact reaches_of_begin (begins.trans (descend_of_le callee frame full)) .refl
  · have innerRun := runs ⟨⟨token :: passed, ahead⟩, limit, depth + 1⟩ withinBound below
      (frame :: frames)
    have left : frame.unwind final = final.leave := if_pos nested
    rw [innerFailed] at innerRun
    apply reaches_of_begin (begins.trans (descend_of_lt callee frame below))
    exact left ▸ reaches_of_error innerRun

theorem ofTurn_resume_inside {inside : Parser Tree} {before : State} {tree : Tree}
    (read : deeper (do advance; inside) before = .ok tree after) (frames : List Frame) :
    Machine.ofTurn frames (Frame.inside.resume tree after) =
      .ofResult frames (groupAround inside before) := by
  rw [groupAround, bind_of_ok read]
  rcases after with ⟨⟨passed, _ | ⟨token, ahead⟩⟩, limit, depth⟩
  · rfl
  · cases token <;> rfl

theorem runsAs_group {inside : Parser Tree} (runs : RunsWithin bound .expression inside)
    (withinBound : ahead.length ≤ bound) :
    RunsAs .group (groupAround inside) ⟨⟨passed, token :: ahead⟩, limit, depth⟩ := by
  intro frames
  cases read : deeper (do advance; inside) ⟨⟨passed, token :: ahead⟩, limit, depth⟩ with
  | error error after =>
      rw [groupAround_eq_error_iff.mpr (.inl read)]
      exact reaches_of_deeper_error runs withinBound rfl rfl read
  | ok tree after =>
      rw [← ofTurn_resume_inside read]
      exact reaches_of_deeper_ok runs withinBound rfl rfl read

theorem runsAs_factor_group
    (runs : RunsWithin bound .expression (expressionWithin bound (factorWithin bound)))
    (withinBound : ahead.length ≤ bound) :
    RunsAs .factor (factorWithin (bound + 1)) ⟨⟨passed, .openParen :: ahead⟩, limit, depth⟩ := by
  intro frames
  have groupRun : Machine.Reaches
      ⟨.called .group, .grouped :: frames, ⟨⟨passed, .openParen :: ahead⟩, limit, depth⟩⟩ _ :=
    runsAs_group runs withinBound _
  rw [factorWithin_group]
  apply reaches_of_begin rfl
  cases read : groupAround (expressionWithin bound (factorWithin bound))
      ⟨⟨passed, .openParen :: ahead⟩, limit, depth⟩ with
  | error error after =>
      rw [read] at groupRun
      rw [bind_of_error read]
      exact reaches_of_error groupRun
  | ok group after =>
      rw [read] at groupRun
      rw [bind_of_ok read]
      exact reaches_of_resume groupRun rfl

theorem runsAs_factor_minus (runs : RunsWithin bound .factor (factorWithin bound))
    (takes : takesMinus ahead.head? = true) (withinBound : ahead.length ≤ bound) :
    RunsAs .factor (factorWithin (bound + 1))
      ⟨⟨passed, .operator .subtract :: ahead⟩, limit, depth⟩ := by
  intro frames
  have nested : Frame.negated.isNested = true := rfl
  rw [factorWithin_minus takes]
  cases read : deeper (do advance; factorWithin bound)
      ⟨⟨passed, .operator .subtract :: ahead⟩, limit, depth⟩ with
  | error error after =>
      rw [bind_of_error read]
      exact reaches_of_deeper_error runs withinBound nested (begin_minus takes) read
  | ok operand after =>
      rw [bind_of_ok read]
      exact reaches_of_deeper_ok runs withinBound nested (begin_minus takes) read

end Nested

theorem runsWithin_expression {bound : Nat}
    (runs : RunsWithin bound .factor (factorWithin bound)) :
    RunsWithin bound .expression (expressionWithin bound (factorWithin bound)) := by
  have termRuns : RunsWithin bound .term (termWithin bound (factorWithin bound)) :=
    runsWithin_chain .multiplicative runs (exact_factorWithin bound)
  exact runsWithin_chain .additive termRuns (exact_termWithin bound)

/-- Induction on the bound, as the parser goes down it. -/
theorem runsWithin_factor (bound : Nat) : RunsWithin bound .factor (factorWithin bound) := by
  induction bound with
  | zero =>
      intro state withinBound withinLimit frames
      rcases state with ⟨⟨passed, ahead⟩, limit, depth⟩
      obtain rfl : ahead = [] := List.length_eq_zero_iff.mp (Nat.le_zero.mp withinBound)
      exact reaches_of_begin begin_ended .refl
  | succ bound inductionHypothesis =>
      intro state withinBound withinLimit
      rcases state with ⟨⟨passed, ahead⟩, limit, depth⟩
      cases factorFront ahead with
      | number value ahead => exact fun frames => reaches_of_begin (begin_number value) .refl
      | group ahead =>
          exact runsAs_factor_group (runsWithin_expression inductionHypothesis)
            (Nat.le_of_succ_le_succ withinBound)
      | minus takes =>
          exact runsAs_factor_minus inductionHypothesis takes
            (Nat.le_of_succ_le_succ withinBound)
      | dangling takes =>
          rw [RunsAs, factorWithin_dangling takes]
          exact fun frames => reaches_of_begin (begin_dangling takes) .refl
      | misplaced ahead misplaced =>
          rw [RunsAs, factorWithin_misplaced misplaced]
          exact fun frames => reaches_of_begin (begin_misplaced misplaced) .refl
      | ended => exact fun frames => reaches_of_begin begin_ended .refl

/-! ### The rules -/

namespace Rule

variable {rule : Rule} {before after : State} {tree : Tree}

theorem runsAs_rule (withinLimit : before.depth ≤ before.limit)
    (opens : rule = .group → before.cursor.current? = some .openParen) :
    RunsAs rule rule.parser before := by
  cases rule with
  | expression =>
      exact runsWithin_expression (runsWithin_factor _) before (Nat.le_refl _) withinLimit
  | term =>
      exact runsWithin_chain .multiplicative (runsWithin_factor _) (exact_factorWithin _) before
        (Nat.le_refl _) withinLimit
  | factor => exact runsWithin_factor _ before (Nat.le_refl _) withinLimit
  | group =>
      rcases before with ⟨⟨passed, _ | ⟨token, ahead⟩⟩, limit, depth⟩
      · cases opens rfl
      · exact runsAs_group (runsWithin_expression (runsWithin_factor _)) (Nat.le_succ _)

/-- A rule succeeds with a tree of its symbol, a group with the content of a factor. -/
theorem exists_accepts_of_ok (withinLimit : before.depth ≤ before.limit)
    (opens : rule = .group → before.cursor.current? = some .openParen)
    (read : rule.parser before = .ok tree after) :
    ∃ symbol whole, Accepts symbol before whole after ∧ whole.yield = rule.tokens tree := by
  have accepted {bound : Nat} {symbol : Symbol} {parser : Parser Tree}
      (exact : Exact bound symbol parser) (withinBound : before.cursor.ahead.length ≤ bound)
      (read : parser before = .ok tree after) : Accepts symbol before tree after :=
    (exact before tree after withinBound withinLimit).mp read
  cases rule with
  | expression =>
      exact ⟨_, tree, accepted (exact_expressionWithin _) (Nat.le_refl _) read, rfl⟩
  | term => exact ⟨_, tree, accepted (exact_termWithin _) (Nat.le_refl _) read, rfl⟩
  | factor => exact ⟨_, tree, accepted (exact_factorWithin _) (Nat.le_refl _) read, rfl⟩
  | group =>
      rcases before with ⟨⟨passed, _ | ⟨token, ahead⟩⟩, limit, depth⟩
      · cases opens rfl
      cases opens rfl
      have factorRead : factorWithin (ahead.length + 2)
          ⟨⟨passed, .openParen :: ahead⟩, limit, depth⟩ = .ok (Tree.factor tree) after :=
        factorWithin_group.trans (bind_of_ok read)
      have accepted := (exact_factorWithin _ _ _ _ (Nat.le_succ _) withinLimit).mp factorRead
      obtain ⟨inside, final, same, -, insideAccepted, -⟩ := accepts_group_iff.mp accepted
      cases same
      exact ⟨_, _, accepted, Tree.yield_group insideAccepted.derives.isExpression⟩

theorem reads_of_ok (withinLimit : before.depth ≤ before.limit)
    (opens : rule = .group → before.cursor.current? = some .openParen)
    (read : rule.parser before = .ok tree after) :
    before.Reads (rule.tokens tree) after ∧ rule.tokens tree ≠ [] := by
  obtain ⟨symbol, whole, accepted, sameTokens⟩ :=
    exists_accepts_of_ok withinLimit opens read
  rw [← sameTokens]
  exact ⟨accepted.reads, accepted.derives.yield_ne_nil⟩

/-- From every state within the limit, the run of a rule ends, never goes beyond the limit,
and leaves a level only where there is one. It ends at the same depth and never behind the
place where it started; where it ends with a tree, the tokens on the way are those of the
tree. -/
theorem disciplined (rule : Rule) (before : State) (withinLimit : before.depth ≤ before.limit)
    (opens : rule = .group → before.cursor.current? = some .openParen) :
    rule.Disciplined before := by
  have ends : (Machine.start rule before).Reaches (.ofResult [] (rule.parser before)) :=
    runsAs_rule withinLimit opens []
  have upholds {machine : Machine} (reaches : (Machine.start rule before).Reaches machine) :
      Upholds before machine.frames machine.state :=
    Machine.upholds_of_reaches withinLimit reaches
  have final : Upholds before [] (rule.stateAfter before) := by
    have final := upholds ends
    unfold stateAfter
    cases result : rule.parser before <;> rw [result] at final <;> exact final
  obtain ⟨between, reads⟩ : ∃ between, before.Reads between (rule.stateAfter before) :=
    final.reads
  exact
    { ends := ends
      stops := by cases rule.parser before <;> rfl
      within := by
        intro machine reaches
        rw [← (upholds reaches).limit_eq]
        exact (upholds reaches).within
      leaves := by
        intro machine reaches leaves
        cases leaves with
        | intro nested => exact (upholds reaches).one_le_depth nested
      tokens_eq := reads.tokens_eq
      limit_eq := reads.limit_eq
      depth_eq := reads.depth_eq
      position_le := by
        rw [reads.position_eq]
        exact Nat.le_add_right _ _
      position_le_length := by
        rw [← reads.tokens_eq]
        exact State.position_le _
      position_lt := by
        intro tree after read
        obtain ⟨treeReads, notEmpty⟩ := reads_of_ok withinLimit opens read
        rw [treeReads.position_eq]
        exact Nat.lt_add_of_pos_right (List.length_pos_iff.mpr notEmpty)
      extract_eq := by
        intro tree after read
        exact (reads_of_ok withinLimit opens read).1.extract_eq }

/-- A group under a minus sign, which takes up the last level that is allowed. -/
theorem disciplined_negated_group :
    let before : State :=
      ⟨⟨[.operator .subtract], [.openParen, .number 1, .closeParen]⟩, 2, 1⟩
    before.depth ≤ before.limit ∧ before.cursor.current? = some .openParen ∧
      (group.stateAfter before).depth = 1 ∧ (group.stateAfter before).cursor.position = 4 ∧
      group.Disciplined before := by
  intro before
  exact ⟨by decide, rfl, rfl, rfl, disciplined group before (by decide) fun _ => rfl⟩

end Rule

end Parser

end Reckon
