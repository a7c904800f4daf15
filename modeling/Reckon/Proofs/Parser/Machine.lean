import Reckon.Parser.Machine
import Reckon.Proofs.Parser.Steps

/-!
Contract: what one step of a run, and a whole run, keeps of the state that it starts from.

Wherever a run comes to, its state is the first one after some tokens, and deeper by the
levels that the callers have entered. So a level that is left has been entered before, and
where no caller is left the depth is the first one again.

Owns:
- one equation for each way that a part of a call can go;
- the invariant of a run, kept by each part, each step and each run.

Does not own: where a run ends.
-/

set_option autoImplicit false

namespace Reckon

namespace Parser

/-! ### Parts of a call -/

section Parts

variable {passed ahead : List Token} {limit depth : Nat} {precedence : Precedence}
  {first : Tree} {links : List (Token × Tree)} {state : State}

theorem begin_chain (precedence : Precedence) (state : State) :
    (Rule.chain precedence).begin state =
      .ok (.call (Rule.operand precedence) (.firstOperand precedence)) state := by
  cases precedence <;> rfl

theorem begin_number (value : Float) :
    Rule.factor.begin ⟨⟨passed, .number value :: ahead⟩, limit, depth⟩ =
      .ok (.result (Tree.factor (Tree.terminal (.number value))))
        ⟨⟨.number value :: passed, ahead⟩, limit, depth⟩ :=
  rfl

theorem begin_minus (takes : takesMinus ahead.head? = true) :
    Rule.factor.begin ⟨⟨passed, .operator .subtract :: ahead⟩, limit, depth⟩ =
      descend .factor .negated ⟨⟨passed, .operator .subtract :: ahead⟩, limit, depth⟩ := by
  cases ahead with
  | nil => cases takes
  | cons token ahead => cases token <;> first | rfl | cases takes

theorem begin_dangling (takes : takesMinus ahead.head? = false) :
    Rule.factor.begin ⟨⟨passed, .operator .subtract :: ahead⟩, limit, depth⟩ =
      .error (.malformed (passed.length + 1) .danglingMinus)
        ⟨⟨passed, .operator .subtract :: ahead⟩, limit, depth⟩ := by
  cases ahead with
  | nil => rfl
  | cons token ahead => cases token <;> first | rfl | cases takes

theorem begin_misplaced {token : Token} (misplaced : startsFactor token = false) :
    Rule.factor.begin ⟨⟨passed, token :: ahead⟩, limit, depth⟩ =
      .error (.malformed passed.length (.missingOperand token))
        ⟨⟨passed, token :: ahead⟩, limit, depth⟩ := by
  cases token with
  | operator operator => cases operator <;> first | rfl | cases misplaced
  | closeParen => rfl
  | _ => cases misplaced

theorem begin_ended :
    Rule.factor.begin ⟨⟨passed, []⟩, limit, depth⟩ =
      .error (.malformed passed.length .unexpectedEnd) ⟨⟨passed, []⟩, limit, depth⟩ :=
  rfl

theorem descend_of_lt (rule : Rule) (frame : Frame) (below : state.depth < state.limit) :
    descend rule frame state =
      .ok (.call rule frame) { state.enter with cursor := state.cursor.advance } := by
  have entered : enter state = .ok () state.enter := if_pos below
  exact bind_of_ok entered

theorem descend_of_le (rule : Rule) (frame : Frame) (full : state.limit ≤ state.depth) :
    descend rule frame state = .error (.nestedTooDeep state.limit) state := by
  have refused : enter state = .error (.nestedTooDeep state.limit) state :=
    if_neg (Nat.not_lt.mpr full)
  exact bind_of_error refused

theorem extend_of_offer {operator : Operator} (offered : operator.precedence = precedence) :
    extend precedence first links ⟨⟨passed, .operator operator :: ahead⟩, limit, depth⟩ =
      .ok (.call (Rule.operand precedence)
          (.nextOperand precedence first links (.operator operator)))
        ⟨⟨.operator operator :: passed, ahead⟩, limit, depth⟩ :=
  bind_of_ok (accept?_of_offer offered passed ahead limit depth)

theorem extend_of_not_offer (notOffered : ¬ Offers precedence state.cursor.current?) :
    extend precedence first links state =
      .ok (.result (Tree.chain (Rule.chain precedence).symbol first links)) state :=
  bind_of_ok (accept?_of_not_offer notOffered)

theorem resume_inside_of_close (tree : Tree) :
    Frame.inside.resume tree ⟨⟨passed, .closeParen :: ahead⟩, limit, depth⟩ =
      .ok (.result tree) ⟨⟨.closeParen :: passed, ahead⟩, limit, depth⟩ :=
  rfl

theorem resume_inside_of_not_close (tree : Tree)
    (notClosed : state.cursor.current? ≠ some .closeParen) :
    Frame.inside.resume tree state =
      .error (.malformed state.cursor.position (.missingClose state.cursor.current?)) state := by
  rcases state with ⟨⟨passed, _ | ⟨token, ahead⟩⟩, limit, depth⟩
  · rfl
  · cases token <;> first | rfl | exact absurd rfl notClosed

end Parts

/-! ### The invariant of a run -/

/-- How many levels the callers have entered. -/
def levels : List Frame → Nat
  | [] => 0
  | frame :: frames => levels frames + if frame.isNested then 1 else 0

def State.deepened (state : State) (levels : Nat) : State :=
  { state with depth := state.depth + levels }

/-- The state has come about from the first one, with the callers still waiting. -/
structure Upholds (before : State) (frames : List Frame) (state : State) : Prop where
  reads : ∃ tokens, (before.deepened (levels frames)).Reads tokens state
  within : state.depth ≤ state.limit

theorem State.Reads.advance (state : State) :
    ∃ tokens, state.Reads tokens { state with cursor := state.cursor.advance } := by
  rcases state with ⟨⟨passed, _ | ⟨token, ahead⟩⟩, limit, depth⟩
  · exact ⟨[], .refl _⟩
  · exact ⟨[token], .step ..⟩

namespace Upholds

variable {before state after : State} {frames : List Frame} {frame : Frame}

theorem start (withinLimit : before.depth ≤ before.limit) : Upholds before [] before :=
  ⟨⟨[], .refl before⟩, withinLimit⟩

theorem limit_eq (upholds : Upholds before frames state) : state.limit = before.limit := by
  obtain ⟨tokens, reads⟩ := upholds.reads
  exact reads.limit_eq

theorem depth_eq (upholds : Upholds before frames state) :
    state.depth = before.depth + levels frames := by
  obtain ⟨tokens, reads⟩ := upholds.reads
  exact reads.depth_eq

theorem read {tokens : List Token} (upholds : Upholds before frames state)
    (reads : state.Reads tokens after) : Upholds before frames after where
  reads := by
    obtain ⟨earlier, earlierReads⟩ := upholds.reads
    exact ⟨earlier ++ tokens, earlierReads.trans reads⟩
  within := by
    rw [reads.depth_eq, reads.limit_eq]
    exact upholds.within

theorem wait (upholds : Upholds before frames state) (flat : frame.isNested = false) :
    Upholds before (frame :: frames) state where
  reads := by
    rw [levels, flat]
    exact upholds.reads
  within := upholds.within

theorem enter (upholds : Upholds before frames state) (nested : frame.isNested = true)
    (below : state.depth < state.limit) : Upholds before (frame :: frames) state.enter where
  reads := by
    rw [levels, nested]
    obtain ⟨tokens, reads⟩ := upholds.reads
    exact ⟨tokens, reads.enter⟩
  within := below

/-- A level that is left has been entered for the caller. -/
theorem one_le_depth (upholds : Upholds before (frame :: frames) state)
    (nested : frame.isNested = true) : 1 ≤ state.depth := by
  have depthEq := upholds.depth_eq
  rw [levels, nested, if_pos rfl] at depthEq
  omega

theorem unwind (upholds : Upholds before (frame :: frames) state) :
    Upholds before frames (frame.unwind state) := by
  have within := upholds.within
  obtain ⟨tokens, reads⟩ := upholds.reads
  unfold Frame.unwind
  cases nested : frame.isNested with
  | false =>
      rw [levels, nested] at reads
      exact ⟨⟨tokens, reads⟩, within⟩
  | true =>
      rw [levels, nested] at reads
      exact ⟨⟨tokens, reads.leave⟩, Nat.le_trans (Nat.sub_le _ _) within⟩

/-! #### Parts -/

/-- The machine behind a part of a call upholds the invariant. -/
abbrev ByTurn (before : State) (frames : List Frame)
    (turn : EStateM.Result ParseError State Turn) : Prop :=
  Upholds before (Machine.ofTurn frames turn).frames (Machine.ofTurn frames turn).state

theorem descend (upholds : Upholds before frames state) (rule : Rule)
    (nested : frame.isNested = true) : ByTurn before frames (descend rule frame state) := by
  by_cases below : state.depth < state.limit
  · rw [descend_of_lt rule frame below]
    obtain ⟨tokens, reads⟩ := State.Reads.advance state.enter
    exact (upholds.enter nested below).read reads
  · rw [descend_of_le rule frame (Nat.not_lt.mp below)]
    exact upholds

theorem begin (upholds : Upholds before frames state) (rule : Rule) :
    ByTurn before frames (rule.begin state) := by
  cases rule with
  | expression => exact upholds.wait rfl
  | term => exact upholds.wait rfl
  | group => exact upholds.descend .expression rfl
  | factor =>
      rcases state with ⟨⟨passed, ahead⟩, limit, depth⟩
      cases factorFront ahead with
      | number value ahead =>
          rw [begin_number]
          exact upholds.read (.step ..)
      | group ahead => exact upholds.wait rfl
      | minus takes =>
          rw [begin_minus takes]
          exact upholds.descend .factor rfl
      | dangling takes =>
          rw [begin_dangling takes]
          exact upholds
      | misplaced ahead misplaced =>
          rw [begin_misplaced misplaced]
          exact upholds
      | ended => exact upholds

theorem extend (upholds : Upholds before frames state) (precedence : Precedence)
    (first : Tree) (links : List (Token × Tree)) :
    ByTurn before frames (extend precedence first links state) := by
  by_cases offered : Offers precedence state.cursor.current?
  · rcases state with ⟨⟨passed, _ | ⟨token, ahead⟩⟩, limit, depth⟩
    · exact absurd offered not_offers_none
    rcases offered with ⟨operator, isOperator, ofPrecedence⟩
    cases isOperator
    rw [extend_of_offer ofPrecedence]
    exact (upholds.read (.step ..)).wait rfl
  · rw [extend_of_not_offer offered]
    exact upholds

theorem resume (upholds : Upholds before frames state) (tree : Tree) (frame : Frame) :
    ByTurn before frames (frame.resume tree state) := by
  cases frame with
  | firstOperand precedence => exact upholds.extend precedence tree []
  | nextOperand precedence first links operator => exact upholds.extend precedence first _
  | grouped => exact upholds
  | negated => exact upholds
  | inside =>
      by_cases closed : state.cursor.current? = some .closeParen
      · rcases state with ⟨⟨passed, _ | ⟨token, ahead⟩⟩, limit, depth⟩
        · cases closed
        cases closed
        rw [resume_inside_of_close]
        exact upholds.read (.step ..)
      · rw [resume_inside_of_not_close tree closed]
        exact upholds

end Upholds

/-! ### Steps and runs -/

namespace Machine

variable {before : State} {machine next : Machine}

theorem upholds_of_step (upholds : Upholds before machine.frames machine.state)
    (steps : machine.Steps next) : Upholds before next.frames next.state := by
  rcases machine with ⟨status, frames, state⟩
  cases status with
  | called rule =>
      cases steps
      exact upholds.begin rule
  | returned result =>
      cases frames with
      | nil => cases result <;> cases steps
      | cons frame frames =>
          cases result with
          | ok tree =>
              cases steps
              exact upholds.unwind.resume tree frame
          | error error =>
              cases steps
              exact upholds.unwind

/-- Induction on the run. -/
theorem upholds_of_reaches {rule : Rule} (withinLimit : before.depth ≤ before.limit)
    (reaches : (start rule before).Reaches machine) :
    Upholds before machine.frames machine.state := by
  induction reaches with
  | refl => exact .start withinLimit
  | tail _ steps inductionHypothesis => exact upholds_of_step inductionHypothesis steps

end Machine

end Parser

end Reckon
