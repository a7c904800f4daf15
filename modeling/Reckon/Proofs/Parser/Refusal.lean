import Reckon.Proofs.Outlook.Peak
import Reckon.Proofs.Parser.Acceptance

/-!
Contract: every failure of the parser is justified by the tokens before it.

A fault is put where the outlook refuses what is found, and the outlook and what is
found tell which fault it is. The tokens before a fault stay within the nesting limit.
The limit is reported where the next token would take the depth beyond it.

Owns:
- justification of an error;
- every error of every rule is justified, wherever the rule is started.
-/

set_option autoImplicit false

namespace Reckon

/-- The token that the message of the fault names. -/
def SyntaxFault.named? : SyntaxFault → Option Token
  | trailingToken found => some found
  | missingOperand found => some found
  | missingClose found => found
  | _ => none

/-- A fault names what is found, or nothing. -/
theorem Outlook.eq_of_named?_fault {outlook : Outlook} {found : Option Token} {token : Token}
    (named : (outlook.fault found).named? = some token) : found = some token := by
  rcases outlook with ⟨expected, groups⟩
  cases expected with
  | operand => cases found <;> exact named
  | negatedOperand => cases named
  | operator => cases groups <;> cases found <;> exact named

/-- The error is the right answer for the tokens, given what comes before its
place. -/
inductive Justified (tokens : List Token) (limit : Nat) : ParseError → Prop where
  | malformed {position : Nat} {fault : SyntaxFault} {outlook : Outlook} :
      Outlook.start.over? (tokens.take position) = some outlook →
        position ≤ tokens.length → outlook.Refuses tokens[position]? →
          (∀ token, fault.named? = some token → tokens[position]? = some token) →
            Outlook.start.peak (tokens.take position) ≤ limit →
              (tokens ≠ [] → fault = outlook.fault tokens[position]?) →
                Justified tokens limit (.malformed position fault)
  | nestedTooDeep {position : Nat} {token : Token} {outlook next : Outlook} :
      Outlook.start.over? (tokens.take position) = some outlook →
        tokens[position]? = some token → Parser.takesMinus (some token) = true →
          limit < outlook.reach token → outlook.next? token = some next →
            Justified tokens limit (.nestedTooDeep limit)

namespace Parser

/-! ### The outlook of a state -/

/-- The tokens that the cursor has passed lead to the outlook and stay within the
limit. -/
structure State.Faces (state : State) (outlook : Outlook) : Prop where
  course : Outlook.start.over? state.cursor.passed.reverse = some outlook
  within : Outlook.start.peak state.cursor.passed.reverse ≤ state.limit

namespace State

variable {before after state : State} {outlook next : Outlook} {tokens : List Token}

theorem Faces.reads (faces : before.Faces outlook) (reads : before.Reads tokens after)
    (course : outlook.over? tokens = some next) (within : outlook.peak tokens ≤ before.limit) :
    after.Faces next where
  course := by
    rw [reads.passed_eq, List.reverse_append, List.reverse_reverse, Outlook.over?_append,
      faces.course]
    exact course
  within := by
    rw [reads.passed_eq, reads.limit_eq, List.reverse_append, List.reverse_reverse,
      Outlook.peak_append faces.course]
    exact Nat.max_le.mpr ⟨faces.within, within⟩

theorem Faces.step {token : Token} (faces : before.Faces outlook)
    (read : before.Reads [token] after) (step : outlook.next? token = some next)
    (within : outlook.rise token ≤ before.limit) : after.Faces next := by
  apply faces.reads read ((Outlook.over?_singleton ..).trans step)
  rw [Outlook.peak_singleton step]
  exact within

theorem Faces.enter (faces : state.Faces outlook) : state.enter.Faces outlook :=
  ⟨faces.course, faces.within⟩

theorem Faces.leave (faces : state.Faces outlook) : state.leave.Faces outlook :=
  ⟨faces.course, faces.within⟩

theorem take_position (state : State) :
    state.cursor.tokens.take state.cursor.position = state.cursor.passed.reverse := by
  simp [Cursor.tokens, Cursor.position]

theorem getElem?_position (state : State) :
    state.cursor.tokens[state.cursor.position]? = state.cursor.current? := by
  simp [Cursor.tokens, Cursor.position, Cursor.current?, List.getElem?_append,
    List.head?_eq_getElem?]

/-- A fault at the cursor is justified by the outlook of the state. -/
theorem Faces.justified_malformed (faces : state.Faces outlook) {fault : SyntaxFault}
    (refuses : outlook.Refuses state.cursor.current?)
    (isFault : fault = outlook.fault state.cursor.current?) :
    Justified state.cursor.tokens state.limit (.malformed state.cursor.position fault) := by
  have names : ∀ token, fault.named? = some token → state.cursor.current? = some token := by
    intro token named
    rw [isFault] at named
    exact Outlook.eq_of_named?_fault named
  rw [← getElem?_position] at refuses names isFault
  apply Justified.malformed _ state.position_le refuses names _ fun _ => isFault
  · rw [take_position]
    exact faces.course
  · rw [take_position]
    exact faces.within

theorem Faces.justified_nestedTooDeep (faces : state.Faces outlook) {token : Token}
    (found : state.cursor.current? = some token) (opens : takesMinus (some token) = true)
    (step : outlook.next? token = some next) (exceeds : state.limit < outlook.reach token) :
    Justified state.cursor.tokens state.limit (.nestedTooDeep state.limit) := by
  rw [← getElem?_position] at found
  refine .nestedTooDeep ?_ found opens exceeds step
  rw [take_position]
  exact faces.course

end State

/-! ### The rules -/

/-- The state is at the depth of the outlook that its tokens lead to, and within its
bounds. -/
structure State.Follows (bound : Nat) (state : State) (outlook : Outlook) : Prop where
  withinBound : state.cursor.ahead.length ≤ bound
  withinLimit : state.depth ≤ state.limit
  faces : state.Faces outlook
  depth_eq : state.depth = outlook.depth

/-- Where an operand is due, the parser fails with justification only. -/
def Justifies (bound : Nat) (parser : Parser Tree) : Prop :=
  ∀ before groups error after, before.Follows bound ⟨.operand, groups⟩ →
    parser before = .error error after → Justified before.cursor.tokens before.limit error

/-- So does a parser that is started behind a minus sign too, if what is found there
can be negated. -/
def JustifiesOperand (bound : Nat) (parser : Parser Tree) : Prop :=
  ∀ before outlook error after, before.Follows bound outlook →
    outlook.AwaitsOperand before.cursor.current? →
      parser before = .error error after → Justified before.cursor.tokens before.limit error

theorem JustifiesOperand.justifies {bound : Nat} {parser : Parser Tree}
    (justifies : JustifiesOperand bound parser) : Justifies bound parser :=
  fun before groups error after follows failed =>
    justifies before ⟨.operand, groups⟩ error after follows (.inl rfl) failed

theorem State.Reads.justified {before after : State} {tokens : List Token}
    {error : ParseError} (reads : before.Reads tokens after)
    (justified : Justified after.cursor.tokens after.limit error) :
    Justified before.cursor.tokens before.limit error := by
  rw [reads.tokens_eq, reads.limit_eq] at justified
  exact justified

section Chains

variable {symbol operand : Symbol} {precedence : Precedence} {parser : Parser Tree}
  {bound : Nat} {before after : State} {groups : List Bool} {error : ParseError}
  {tree : Tree}

/-- Behind an accepted tree an operator is due. -/
theorem Accepts.faces (accepted : Accepts symbol before tree after)
    (follows : before.Follows bound ⟨.operand, groups⟩) : after.Faces ⟨.operator, groups⟩ := by
  apply follows.faces.reads accepted.reads (Outlook.over?_yield accepted.derives groups)
  have treePeak := Outlook.peak_yield_le accepted.derives groups
  have levelsEq : before.depth = Outlook.levels groups := follows.depth_eq
  have nests := accepted.nests
  omega

theorem Accepts.follows (accepted : Accepts symbol before tree after)
    (follows : before.Follows bound ⟨.operand, groups⟩) :
    after.Follows bound ⟨.operator, groups⟩ where
  withinBound := Nat.le_trans accepted.reads.length_ahead_le follows.withinBound
  withinLimit := by
    rw [accepted.reads.depth_eq, accepted.reads.limit_eq]
    exact follows.withinLimit
  faces := accepted.faces follows
  depth_eq := accepted.reads.depth_eq.trans follows.depth_eq

theorem justified_of_links (exact : Exact bound operand parser)
    (justifies : Justifies bound parser) {steps : Nat}
    (follows : before.Follows bound ⟨.operator, groups⟩)
    (failed : Parser.links precedence parser steps before = .error error after) :
    Justified before.cursor.tokens before.limit error := by
  induction steps generalizing before with
  | zero => cases failed
  | succ steps inductionHypothesis =>
      by_cases offered : Offers precedence before.cursor.current?
      · rcases before with ⟨⟨passed, _ | ⟨token, ahead⟩⟩, limit, depth⟩
        · exact absurd offered not_offers_none
        rcases offered with ⟨operator, isOperator, ofPrecedence⟩
        cases isOperator
        have operatorRead := State.Reads.step passed ahead (.operator operator) limit depth
        have operandFollows :
            State.Follows bound ⟨⟨.operator operator :: passed, ahead⟩, limit, depth⟩
              ⟨.operand, groups⟩ :=
          ⟨Nat.le_of_succ_le follows.withinBound, follows.withinLimit,
            follows.faces.step operatorRead rfl (Nat.zero_le _), follows.depth_eq⟩
        apply operatorRead.justified
        rw [links_of_offer ofPrecedence] at failed
        simp only [bind_eq_error_iff, pure_ne_error, and_false, exists_false, or_false] at failed
        rcases failed with operandFailed | ⟨right, between, rightRead, othersFailed⟩
        · exact justifies _ _ _ _ operandFollows operandFailed
        · have accepted := (exact _ right between operandFollows.withinBound
            operandFollows.withinLimit).mp rightRead
          apply accepted.reads.justified
          exact inductionHypothesis (accepted.follows operandFollows) othersFailed
      · rw [links_of_not_offer offered] at failed
        cases failed

theorem justifies_chainWithin (exact : Exact bound operand parser)
    (justifies : Justifies bound parser) :
    Justifies bound (chainWithin bound symbol precedence parser) := by
  intro before groups error after follows failed
  rcases chainWithin_eq_error_iff.mp failed with firstFailed | ⟨first, between, read, linksFailed⟩
  · exact justifies _ _ _ _ follows firstFailed
  · have accepted :=
      (exact _ first between follows.withinBound follows.withinLimit).mp read
    apply accepted.reads.justified
    exact justified_of_links exact justifies (accepted.follows follows) linksFailed

theorem justifies_expressionWithin
    (justifies : JustifiesOperand bound (factorWithin bound)) :
    Justifies bound (expressionWithin bound (factorWithin bound)) :=
  justifies_chainWithin (exact_termWithin bound)
    (justifies_chainWithin (exact_factorWithin bound) justifies.justifies)

end Chains

section Factors

variable {passed ahead : List Token} {limit depth bound : Nat} {outlook : Outlook}
  {error : ParseError} {after : State}

theorem justified_of_groupAround {inside : Parser Tree}
    (exact : Exact bound .expression inside) (justifies : Justifies bound inside)
    (follows :
      State.Follows (bound + 1) ⟨⟨passed, .openParen :: ahead⟩, limit, depth⟩ outlook)
    (awaits : outlook.AwaitsOperand (some .openParen))
    (failed : groupAround inside ⟨⟨passed, .openParen :: ahead⟩, limit, depth⟩ =
      .error error after) :
    Justified (State.mk ⟨passed, .openParen :: ahead⟩ limit depth).cursor.tokens limit
      error := by
  obtain ⟨negated, opens, deeperEq⟩ := awaits.opens
  have depthEq : depth = outlook.depth := follows.depth_eq
  have openRead := State.Reads.step passed ahead .openParen limit depth
  have openRise : outlook.rise .openParen ≤ depth + 1 := depthEq ▸ outlook.rise_le .openParen
  have insideFollows (below : depth + 1 ≤ limit) :
      State.Follows bound ⟨⟨.openParen :: passed, ahead⟩, limit, depth + 1⟩
        ⟨.operand, negated :: outlook.groups⟩ :=
    { withinBound := Nat.le_of_succ_le_succ follows.withinBound
      withinLimit := below
      faces := (follows.faces.step openRead opens (Nat.le_trans openRise below)).enter
      depth_eq := by rw [deeperEq, ← depthEq] }
  rcases groupAround_eq_error_iff.mp failed with notEntered | ⟨tree, entered, notClosed, rfl⟩
  · rcases deeper_eq_error_iff.mp notEntered with
      ⟨tooDeep, rfl, -⟩ | ⟨below, final, failedInside, -⟩
    · refine follows.faces.justified_nestedTooDeep rfl rfl opens ?_
      show limit < outlook.depth + 1
      omega
    · rw [← openRead.tokens_eq]
      exact justifies ⟨⟨.openParen :: passed, ahead⟩, limit, depth + 1⟩ _ _ _
        (insideFollows below) failedInside
  · obtain ⟨below, final, insideRead, rfl⟩ := deeper_eq_ok_iff.mp entered
    have accepted := (exact _ tree final (insideFollows below).withinBound below).mp insideRead
    have groupRead := openRead.trans (State.Reads.leave accepted.reads)
    have closeFaces : final.leave.Faces ⟨.operator, negated :: outlook.groups⟩ :=
      (accepted.faces (insideFollows below)).leave
    apply groupRead.justified
    refine closeFaces.justified_malformed ?_ rfl
    exact Outlook.refuses_of_not_offers accepted.not_offers (absurd · notClosed)
      fun _ => List.cons_ne_nil _ _

/-- The sign is passed over, and the operand behind it is one level deeper. -/
theorem justified_of_negation {operand : Parser Tree} (takes : takesMinus ahead.head? = true)
    (justifies : JustifiesOperand bound operand)
    (follows :
      State.Follows (bound + 1) ⟨⟨passed, .operator .subtract :: ahead⟩, limit, depth⟩ outlook)
    (awaits : outlook.AwaitsOperand (some (.operator .subtract)))
    (failed : deeper (do advance; operand)
      ⟨⟨passed, .operator .subtract :: ahead⟩, limit, depth⟩ = .error error after) :
    Justified (State.mk ⟨passed, .operator .subtract :: ahead⟩ limit depth).cursor.tokens limit
      error := by
  have signRead := State.Reads.step passed ahead (.operator .subtract) limit depth
  have depthEq : depth = outlook.depth := follows.depth_eq
  have faces := follows.faces
  rw [awaits.eq_of_minus] at faces depthEq
  have operandFaces := faces.step signRead rfl (Nat.zero_le _)
  have operandDepth : depth + 1 = Outlook.depth ⟨.negatedOperand, outlook.groups⟩ :=
    congrArg (· + 1) depthEq
  rw [← signRead.tokens_eq]
  rcases deeper_eq_error_iff.mp failed with
    ⟨tooDeep, rfl, -⟩ | ⟨below, final, operandFailed, -⟩
  · cases ahead with
    | nil => cases takes
    | cons token ahead =>
        obtain ⟨next, step⟩ := Outlook.exists_next?_of_takesMinus takes outlook.groups
        refine operandFaces.justified_nestedTooDeep rfl takes step ?_
        rw [Outlook.reach, ← operandDepth]
        show limit < _
        omega
  · exact justifies ⟨⟨.operator .subtract :: passed, ahead⟩, limit, depth + 1⟩ _ _ _
      ⟨Nat.le_of_succ_le_succ follows.withinBound, below, operandFaces.enter, operandDepth⟩
      (.inr ⟨rfl, takes⟩) operandFailed

/-- Induction on the bound. The outlook may be one behind a minus sign, since the
operand of a negation is read by the same rule. -/
theorem justifiesOperand_factorWithin (bound : Nat) :
    JustifiesOperand bound (factorWithin bound) := by
  induction bound with
  | zero =>
      intro before outlook error after follows awaits failed
      rcases before with ⟨⟨passed, ahead⟩, limit, depth⟩
      obtain rfl : ahead = [] :=
        List.length_eq_zero_iff.mp (Nat.le_zero.mp follows.withinBound)
      rw [factorWithin_ended] at failed
      cases failed
      exact follows.faces.justified_malformed awaits.refuses_none awaits.fault_none.symm
  | succ bound inductionHypothesis =>
      intro before outlook error after follows awaits failed
      rcases before with ⟨⟨passed, ahead⟩, limit, depth⟩
      cases factorFront ahead with
      | number value ahead =>
          rw [factorWithin_number] at failed
          cases failed
      | group ahead =>
          rw [factorWithin_group] at failed
          simp only [bind_eq_error_iff, pure_ne_error, and_false, exists_false, or_false]
            at failed
          exact justified_of_groupAround (exact_expressionWithin bound)
            (justifies_expressionWithin inductionHypothesis) follows awaits failed
      | @minus ahead takes =>
          rw [factorWithin_minus takes] at failed
          simp only [bind_eq_error_iff, pure_ne_error, and_false, exists_false, or_false]
            at failed
          exact justified_of_negation takes inductionHypothesis follows awaits failed
      | @dangling ahead takes =>
          have signRead := State.Reads.step passed ahead (.operator .subtract) limit depth
          have faces := follows.faces
          rw [awaits.eq_of_minus] at faces
          have operandFaces := faces.step signRead rfl (Nat.zero_le _)
          rw [factorWithin_dangling takes] at failed
          cases failed
          rw [← signRead.tokens_eq]
          exact operandFaces.justified_malformed (Outlook.refuses_dangling takes _) rfl
      | @misplaced token ahead misplaced =>
          rw [factorWithin_misplaced misplaced] at failed
          cases failed
          exact follows.faces.justified_malformed (awaits.refuses_misplaced misplaced)
            (awaits.fault_misplaced misplaced).symm
      | ended =>
          rw [factorWithin_ended] at failed
          cases failed
          exact follows.faces.justified_malformed awaits.refuses_none awaits.fault_none.symm

end Factors

end Parser

/-! ### Whole token lists -/

namespace SyntaxFault

/-- The messages that name no token. -/
def plainMessages : List String :=
  ["Empty expression", "Expected a number or '(' after unary '-'",
    "Unexpected end of expression", "Expected ')', found end of expression"]

/-- What a message says before the token that it names. -/
def namingWords : List String :=
  ["Unexpected token after expression: ", "Expected an operand, found ",
    "Expected ')', found "]

/-- A message names the token of its fault, or names none. -/
theorem message_cases (fault : SyntaxFault) :
    fault.message ∈ plainMessages ∨
      ∃ token, fault.named? = some token ∧
        ∃ words ∈ namingWords, fault.message = words ++ token.text := by
  unfold message
  cases fault with
  | emptyExpression => simp [plainMessages]
  | danglingMinus => simp [plainMessages]
  | unexpectedEnd => simp [plainMessages]
  | trailingToken found => exact .inr ⟨found, rfl, _, by simp [namingWords], rfl⟩
  | missingOperand found => exact .inr ⟨found, rfl, _, by simp [namingWords], rfl⟩
  | missingClose found =>
      cases found with
      | none => simp [plainMessages]
      | some found => exact .inr ⟨found, rfl, _, by simp [namingWords], rfl⟩

end SyntaxFault

namespace Tree

open Reckon.Parser

variable {settings : Settings} {tokens : List Token}

/-- Whatever is answered for a token list without a tree is justified by it. -/
theorem justified_of_ofTokens {error : ParseError}
    (failed : ofTokens settings tokens = .error error) :
    Justified tokens settings.nestingLimit error := by
  obtain ⟨after, wholeFailed⟩ := ofTokens_eq_error_iff_whole.mp failed
  have startFaces : (State.initial settings tokens).Faces .start := ⟨rfl, Nat.zero_le _⟩
  cases tokens with
  | nil =>
      cases wholeFailed
      exact .malformed rfl (Nat.le_refl _) nofun nofun startFaces.within (absurd rfl)
  | cons token tokens =>
      have notEmpty : (State.initial settings (token :: tokens)).cursor.current? ≠ none :=
        nofun
      have follows : (State.initial settings (token :: tokens)).Follows
          (token :: tokens).length ⟨.operand, []⟩ :=
        ⟨Nat.le_refl _, Nat.zero_le _, startFaces, rfl⟩
      rcases (whole_eq_error_iff notEmpty).mp wholeFailed with
        expressionFailed | ⟨tree, trailing, read, found, rfl⟩
      · exact justifies_expressionWithin (justifiesOperand_factorWithin _) _ [] _ _ follows
          expressionFailed
      · have accepted := (exact_expressionWithin (token :: tokens).length _ tree after
          (Nat.le_refl _) (Nat.zero_le _)).mp read
        have endFaces := accepted.faces follows
        apply accepted.reads.justified
        refine endFaces.justified_malformed ?_ ?_
        · exact Outlook.refuses_of_not_offers accepted.not_offers (fun _ => rfl)
            (by simp [found])
        · rw [found]
          rfl

end Tree

end Reckon
