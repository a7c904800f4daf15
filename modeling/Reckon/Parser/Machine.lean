import Reckon.Grammar
import Reckon.Parser.Rules
import Mathlib.Logic.Relation

/-!
Contract: the rules of the parser as calls of each other, run one step at a time.

A call works until it returns or calls a rule itself. While that call runs, a frame holds
what the caller has found so far, and the frames of all callers stand in a list, the
innermost first. There is no bound on the recursion here: a run goes on until the list is
empty.

A level is left as soon as the call returns for which it was entered, before anything is
made of the result, so it is left whether there is a tree or an error.

Owns:
- the frames, and the part of each rule between two calls;
- the step of a run, and the machines that a run reaches;
- the discipline that the runs of a rule keep.

Does not own: that they keep it.
-/

set_option autoImplicit false

namespace Reckon

namespace Parser

/-! ### Calls -/

/-- The rules that call each other. -/
inductive Rule where
  | expression
  | term
  | factor
  /-- Called with the cursor on the opening parenthesis. -/
  | group
deriving DecidableEq, Repr

namespace Rule

def parser : Rule → Parser Tree
  | expression => Parser.expression
  | term => Parser.term
  | factor => Parser.factor
  | group => Parser.group

/-- The tokens that the tree accounts for. The parentheses of a group do not show in the
tree of the expression between them. -/
def tokens : Rule → Tree → List Token
  | group, tree => .openParen :: (tree.yield ++ [.closeParen])
  | _, tree => tree.yield

/-- The chains of one precedence. -/
def chain : Precedence → Rule
  | .additive => expression
  | .multiplicative => term

def operand : Precedence → Rule
  | .additive => term
  | .multiplicative => factor

def symbol : Rule → Symbol
  | expression => .expression
  | term => .term
  | factor => .factor
  | group => .expression

end Rule

/-- What a caller has found so far. -/
inductive Frame where
  /-- A chain waits for its first operand. -/
  | firstOperand (precedence : Precedence)
  /-- A chain waits for the operand after the operator. -/
  | nextOperand (precedence : Precedence) (first : Tree) (links : List (Token × Tree))
      (operator : Token)
  /-- A group waits for the expression between its parentheses. -/
  | inside
  /-- A factor waits for its group. -/
  | grouped
  /-- A factor waits for the operand of its minus sign. -/
  | negated
deriving Repr

/-- How a call goes on: it returns a tree, or it calls a rule and waits. -/
inductive Turn where
  | result (tree : Tree)
  | call (rule : Rule) (frame : Frame)
deriving Repr

/-- Goes one level deeper, unless that exceeds the limit. -/
def enter : Parser Unit := fun state =>
  if state.depth < state.limit then .ok () state.enter
  else .error (.nestedTooDeep state.limit) state

/-- Calls a rule one level deeper, behind the current token. -/
def descend (rule : Rule) (frame : Frame) : Parser Turn := do
  enter
  advance
  return .call rule frame

/-- A call up to its return, or to the first call that it makes. -/
def Rule.begin : Rule → Parser Turn
  | expression => return .call .term (.firstOperand .additive)
  | term => return .call .factor (.firstOperand .multiplicative)
  | factor => do
      match ← current? with
      | some (.number value) =>
          advance
          return .result (Tree.factor (Tree.terminal (.number value)))
      | some .openParen => return .call .group .grouped
      | some (.operator .subtract) =>
          if takesMinus (← upcoming?) then descend .factor .negated
          else refuseAhead 1 .danglingMinus
      | some token => refuse (.missingOperand token)
      | none => refuse .unexpectedEnd
  | group => descend .expression .inside

/-- A chain behind its first operand and so many links. -/
def extend (precedence : Precedence) (first : Tree) (links : List (Token × Tree)) :
    Parser Turn := do
  match ← accept? precedence with
  | some operator =>
      return .call (Rule.operand precedence) (.nextOperand precedence first links operator)
  | none => return .result (Tree.chain (Rule.chain precedence).symbol first links)

namespace Frame

/-- A call from the return of a tree that it waits for, up to its own return or to the
next call that it makes. -/
def resume (tree : Tree) : Frame → Parser Turn
  | firstOperand precedence => extend precedence tree []
  | nextOperand precedence first links operator =>
      extend precedence first (links ++ [(operator, tree)])
  | inside => do
      match ← current? with
      | some .closeParen =>
          advance
          return .result tree
      | found => refuse (.missingClose found)
  | grouped => return .result (Tree.factor tree)
  | negated => return .result (Tree.factor (Tree.negative (.operator .subtract) tree))

/-- The caller has entered a level for the call that it waits for. -/
def isNested : Frame → Bool
  | inside => true
  | negated => true
  | _ => false

/-- The state in which the caller goes on. -/
def unwind (frame : Frame) (state : State) : State :=
  if frame.isNested then state.leave else state

end Frame

/-! ### Runs -/

inductive Status where
  | called (rule : Rule)
  | returned (result : Except ParseError Tree)
deriving Repr

structure Machine where
  status : Status
  frames : List Frame
  state : State
deriving Repr

namespace Machine

def start (rule : Rule) (state : State) : Machine :=
  ⟨.called rule, [], state⟩

/-- The machine behind the return of a call. -/
def ofResult (frames : List Frame) : EStateM.Result ParseError State Tree → Machine
  | .ok tree state => ⟨.returned (.ok tree), frames, state⟩
  | .error error state => ⟨.returned (.error error), frames, state⟩

/-- The machine behind a part of a call. -/
def ofTurn (frames : List Frame) : EStateM.Result ParseError State Turn → Machine
  | .ok (.result tree) state => ⟨.returned (.ok tree), frames, state⟩
  | .ok (.call rule frame) state => ⟨.called rule, frame :: frames, state⟩
  | .error error state => ⟨.returned (.error error), frames, state⟩

/-- An error goes through every caller. -/
def step : Machine → Option Machine
  | ⟨.called rule, frames, state⟩ => some (ofTurn frames (rule.begin state))
  | ⟨.returned (.ok tree), frame :: frames, state⟩ =>
      some (ofTurn frames (frame.resume tree (frame.unwind state)))
  | ⟨.returned (.error error), frame :: frames, state⟩ =>
      some ⟨.returned (.error error), frames, frame.unwind state⟩
  | ⟨.returned _, [], _⟩ => none

def Steps (machine next : Machine) : Prop :=
  machine.step = some next

/-- The run from the one machine comes to the other. -/
def Reaches : Machine → Machine → Prop :=
  Relation.ReflTransGen Steps

/-- The next step leaves a level. -/
inductive Leaves : Machine → Prop where
  | intro {result : Except ParseError Tree} {frame : Frame} {frames : List Frame}
      {state : State} :
      frame.isNested = true → Leaves ⟨.returned result, frame :: frames, state⟩

end Machine

/-! ### Discipline -/

/-- The state behind the rule, whether it succeeds or fails. -/
def Rule.stateAfter (rule : Rule) (before : State) : State :=
  match rule.parser before with
  | .ok _ after => after
  | .error _ after => after

/-- What the run of a rule makes of a state. -/
structure Rule.Disciplined (rule : Rule) (before : State) : Prop where
  /-- The run comes to the result of the parser. -/
  ends : (Machine.start rule before).Reaches (.ofResult [] (rule.parser before))
  stops : (Machine.ofResult [] (rule.parser before)).step = none
  within : ∀ machine, (Machine.start rule before).Reaches machine →
    machine.state.depth ≤ before.limit
  /-- There is a level wherever one is left. -/
  leaves : ∀ machine, (Machine.start rule before).Reaches machine → machine.Leaves →
    1 ≤ machine.state.depth
  tokens_eq : (rule.stateAfter before).cursor.tokens = before.cursor.tokens
  limit_eq : (rule.stateAfter before).limit = before.limit
  depth_eq : (rule.stateAfter before).depth = before.depth
  position_le : before.cursor.position ≤ (rule.stateAfter before).cursor.position
  position_le_length :
    (rule.stateAfter before).cursor.position ≤ before.cursor.tokens.length
  position_lt : ∀ tree after, rule.parser before = .ok tree after →
    before.cursor.position < after.cursor.position
  /-- The tokens between the two positions are those of the tree. -/
  extract_eq : ∀ tree after, rule.parser before = .ok tree after →
    before.cursor.tokens.extract before.cursor.position after.cursor.position =
      rule.tokens tree

end Parser

end Reckon
