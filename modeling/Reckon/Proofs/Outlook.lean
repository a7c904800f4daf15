import Reckon.Proofs.Derivation
import Reckon.Proofs.Parser.Steps

/-!
Contract: what may come next, told from the tokens so far.

Two things about the tokens so far decide how they can go on: whether an operand or
an operator is due, and which groups are open. The outlook holds just these, and one
token takes it to the next outlook or has no place in it.

Owns:
- the outlook, its course over tokens, and the depth it stands at;
- every derived tree leads from the wait for an operand to the wait for an operator,
  whatever groups are open;
- the fault of what is found where it has no place.

Does not own: that an accepted course belongs to a derived tree.
-/

set_option autoImplicit false

namespace Reckon

inductive Expected where
  | operand
  /-- The number or the group that a minus sign applies to. -/
  | negatedOperand
  | operator
deriving DecidableEq, Repr

structure Outlook where
  expected : Expected
  /-- For each open group, the innermost first, whether it is under a minus sign. -/
  groups : List Bool
deriving DecidableEq, Repr

namespace Outlook

def start : Outlook :=
  ⟨.operand, []⟩

/-- The outlook behind one more token, if the token may stand here. -/
def next? : Outlook → Token → Option Outlook
  | ⟨.operand, groups⟩, .number _ => some ⟨.operator, groups⟩
  | ⟨.operand, groups⟩, .openParen => some ⟨.operand, false :: groups⟩
  | ⟨.operand, groups⟩, .operator .subtract => some ⟨.negatedOperand, groups⟩
  | ⟨.negatedOperand, groups⟩, .number _ => some ⟨.operator, groups⟩
  | ⟨.negatedOperand, groups⟩, .openParen => some ⟨.operand, true :: groups⟩
  | ⟨.operator, groups⟩, .operator _ => some ⟨.operand, groups⟩
  | ⟨.operator, _ :: groups⟩, .closeParen => some ⟨.operator, groups⟩
  | _, _ => none

/-- The outlook behind all the tokens, if each may stand where it does. -/
def over? (outlook : Outlook) (tokens : List Token) : Option Outlook :=
  tokens.foldlM next? outlook

/-- The tokens so far are an expression. -/
def IsComplete (outlook : Outlook) : Prop :=
  outlook = ⟨.operator, []⟩

/-- Nothing that is found here goes on with the tokens so far: neither the token, nor
their end. -/
def Refuses (outlook : Outlook) : Option Token → Prop
  | some token => outlook.next? token = none
  | none => ¬ outlook.IsComplete

/-- The fault of what is found where it does not go on. At the end of a complete
expression nothing is at fault, and no fault is asked for. -/
def fault : Outlook → Option Token → SyntaxFault
  | ⟨.operand, _⟩, none => .unexpectedEnd
  | ⟨.operand, _⟩, some token => .missingOperand token
  | ⟨.negatedOperand, _⟩, _ => .danglingMinus
  | ⟨.operator, []⟩, some token => .trailingToken token
  | ⟨.operator, _⟩, found => .missingClose found

/-- A group is a level, and a group under a minus sign is one more for the sign. -/
def levels : List Bool → Nat
  | [] => 0
  | negated :: groups => levels groups + if negated then 2 else 1

/-- How many groups and negations the next token stands inside of. -/
def depth (outlook : Outlook) : Nat :=
  levels outlook.groups + if outlook.expected = .negatedOperand then 1 else 0

/-- The depth that the token takes the nesting to, a group that it opens included. -/
def reach (outlook : Outlook) (token : Token) : Nat :=
  outlook.depth + if token = .openParen then 1 else 0

/-! ### Courses over tokens -/

@[simp] theorem over?_nil (outlook : Outlook) : outlook.over? [] = some outlook := rfl

@[simp] theorem over?_cons (outlook : Outlook) (token : Token) (tokens : List Token) :
    outlook.over? (token :: tokens) = (outlook.next? token).bind (over? · tokens) :=
  List.foldlM_cons

theorem over?_singleton (outlook : Outlook) (token : Token) :
    outlook.over? [token] = outlook.next? token := by
  simp

theorem over?_append (outlook : Outlook) (left right : List Token) :
    outlook.over? (left ++ right) = (outlook.over? left).bind (over? · right) :=
  List.foldlM_append

theorem over?_of_append {outlook final : Outlook} {left right : List Token}
    (course : outlook.over? (left ++ right) = some final) :
    ∃ between, outlook.over? left = some between ∧ between.over? right = some final := by
  rw [over?_append] at course
  exact Option.bind_eq_some_iff.mp course

/-- No token takes the nesting deeper by more than one level. -/
theorem depth_le_of_next? {outlook next : Outlook} {token : Token}
    (step : outlook.next? token = some next) : next.depth ≤ outlook.depth + 1 := by
  rcases outlook with ⟨expected, groups⟩
  cases expected <;> cases token with
  | operator operator =>
      cases operator <;> simp only [next?, Option.some.injEq, reduceCtorEq] at step <;>
        subst step <;> simp [depth]
  | closeParen =>
      cases groups <;> simp only [next?, Option.some.injEq, reduceCtorEq] at step <;>
        subst step <;> simp [depth, levels] <;> omega
  | _ =>
      simp only [next?, Option.some.injEq, reduceCtorEq] at step <;> subst step <;>
        simp [depth, levels] <;> omega

/-! ### Derived trees -/

theorem next?_operator {precedence : Precedence} {token : Token}
    (operator : token.kind = precedence.kind) (groups : List Bool) :
    next? ⟨.operator, groups⟩ token = some ⟨.operand, groups⟩ := by
  obtain ⟨operator, rfl, -⟩ := Token.kind_eq_precedence_kind_iff.mp operator
  rfl

theorem over?_linksYield (precedence : Precedence) {links : List (Token × Tree)}
    {groups : List Bool} (operators : ∀ link ∈ links, link.1.kind = precedence.kind)
    (operands : ∀ link ∈ links,
      over? ⟨.operand, groups⟩ link.2.yield = some ⟨.operator, groups⟩) :
    over? ⟨.operator, groups⟩ (Tree.linksYield links) = some ⟨.operator, groups⟩ := by
  induction links with
  | nil => rfl
  | cons link links inductionHypothesis =>
      rw [Tree.linksYield_cons, over?_cons, next?_operator (operators link (by simp)),
        Option.bind_some, over?_append, operands link (by simp), Option.bind_some]
      exact inductionHypothesis (fun other member => operators other (by simp [member]))
        fun other member => operands other (by simp [member])

/-- Induction on the derivation. The groups around the tree stay open all the way, so
what is due behind the tree does not depend on them. -/
theorem over?_yield {symbol : Symbol} {tree : Tree} (derived : Derives symbol tree)
    (groups : List Bool) :
    over? ⟨.operand, groups⟩ tree.yield = some ⟨.operator, groups⟩ := by
  induction derived generalizing groups with
  | number value =>
      rw [Tree.yield_number]
      rfl
  | group inside inductionHypothesis =>
      rw [Tree.yield_group inside.isExpression]
      simp [next?, over?_append, inductionHypothesis]
  | negated content inductionHypothesis =>
      cases content <;> rw [Tree.yield_negated] <;> exact inductionHypothesis groups
  | negativeNumber value =>
      rw [Tree.yield_negative, Tree.yield_number]
      rfl
  | negativeGroup inside inductionHypothesis =>
      rw [Tree.yield_negative, Tree.yield_group inside.isExpression]
      simp [next?, over?_append, inductionHypothesis]
  | term first operators operands firstCourse operandCourses =>
      rw [Tree.yield_chain (by simp), over?_append, firstCourse, Option.bind_some]
      exact over?_linksYield .multiplicative operators
        fun link member => operandCourses link member groups
  | expression first operators operands firstCourse operandCourses =>
      rw [Tree.yield_chain (by simp), over?_append, firstCourse, Option.bind_some]
      exact over?_linksYield .additive operators
        fun link member => operandCourses link member groups

/-! ### Where an operand is due -/

/-- An operand is due, and under a minus sign what is found can be one. -/
def AwaitsOperand (outlook : Outlook) (found : Option Token) : Prop :=
  outlook.expected = .operand ∨
    outlook.expected = .negatedOperand ∧ Parser.takesMinus found = true

/-- A group opens under a minus sign or not, one level deeper either way. -/
theorem AwaitsOperand.opens {outlook : Outlook} {found : Option Token}
    (awaits : outlook.AwaitsOperand found) :
    ∃ negated, outlook.next? .openParen = some ⟨.operand, negated :: outlook.groups⟩ ∧
      depth ⟨.operand, negated :: outlook.groups⟩ = outlook.depth + 1 := by
  rcases outlook with ⟨expected, groups⟩
  rcases awaits with due | ⟨due, -⟩ <;> cases due
  · exact ⟨false, rfl, by simp [depth, levels]⟩
  · exact ⟨true, rfl, by simp [depth, levels]⟩

/-- A second minus sign is not awaited, so it is a first one that is found. -/
theorem AwaitsOperand.eq_of_minus {outlook : Outlook}
    (awaits : outlook.AwaitsOperand (some (.operator .subtract))) :
    outlook = ⟨.operand, outlook.groups⟩ := by
  rcases outlook with ⟨expected, groups⟩
  rcases awaits with due | ⟨-, takes⟩
  · cases due
    rfl
  · cases takes

theorem AwaitsOperand.refuses_none {outlook : Outlook} {found : Option Token}
    (awaits : outlook.AwaitsOperand found) : outlook.Refuses none := by
  rintro rfl
  rcases awaits with due | ⟨due, -⟩ <;> cases due

theorem AwaitsOperand.refuses_misplaced {outlook : Outlook} {token : Token}
    (awaits : outlook.AwaitsOperand (some token))
    (misplaced : Parser.startsFactor token = false) : outlook.Refuses (some token) := by
  rcases outlook with ⟨expected, groups⟩
  rcases awaits with due | ⟨-, takes⟩
  · cases due
    cases token with
    | operator operator => cases operator <;> first | rfl | cases misplaced
    | closeParen => rfl
    | _ => cases misplaced
  · cases token with
    | number value => cases misplaced
    | openParen => cases misplaced
    | _ => cases takes

theorem AwaitsOperand.fault_none {outlook : Outlook} (awaits : outlook.AwaitsOperand none) :
    outlook.fault none = .unexpectedEnd := by
  rcases outlook with ⟨expected, groups⟩
  rcases awaits with due | ⟨-, takes⟩
  · cases due
    rfl
  · cases takes

theorem AwaitsOperand.fault_misplaced {outlook : Outlook} {token : Token}
    (awaits : outlook.AwaitsOperand (some token))
    (misplaced : Parser.startsFactor token = false) :
    outlook.fault (some token) = .missingOperand token := by
  rcases outlook with ⟨expected, groups⟩
  rcases awaits with due | ⟨-, takes⟩
  · cases due
    rfl
  · cases token with
    | number value => cases misplaced
    | openParen => cases misplaced
    | _ => cases takes

/-- What a minus sign can apply to has its place behind one. -/
theorem exists_next?_of_takesMinus {token : Token} (takes : Parser.takesMinus (some token) = true)
    (groups : List Bool) : ∃ next, next? ⟨.negatedOperand, groups⟩ token = some next := by
  cases token with
  | number value => exact ⟨_, rfl⟩
  | openParen => exact ⟨_, rfl⟩
  | _ => cases takes

theorem refuses_dangling {found : Option Token} (takes : Parser.takesMinus found = false)
    (groups : List Bool) : Refuses ⟨.negatedOperand, groups⟩ found := by
  cases found with
  | none => nofun
  | some token => cases token <;> first | rfl | cases takes

/-- Behind a complete operand only an operator goes on, and the end of a group that is
open. -/
theorem refuses_of_not_offers {found : Option Token} {groups : List Bool}
    (noOperator : ∀ precedence, ¬ Parser.Offers precedence found)
    (notClosed : found = some .closeParen → groups = [])
    (notEnded : found = none → groups ≠ []) :
    Refuses ⟨.operator, groups⟩ found := by
  cases found with
  | none =>
      intro complete
      cases complete
      exact notEnded rfl rfl
  | some token =>
      cases token with
      | operator operator => exact absurd ⟨operator, rfl, rfl⟩ (noOperator operator.precedence)
      | closeParen =>
          rw [notClosed rfl]
          rfl
      | _ => rfl

end Outlook

end Reckon
