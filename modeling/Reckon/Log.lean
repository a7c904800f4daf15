import Reckon.Error
import Reckon.Text.Quoted

/-!
Contract: what a calculation reports about itself.

Owns: the records, the level, the stage and the wording of each, and computations
that leave records behind whether they succeed or fail.

Does not own: which records a calculation leaves.
-/

set_option autoImplicit false

namespace Reckon

inductive Level where
  | trace
  | debug
deriving DecidableEq, Repr

/-- The part of a calculation that reports. -/
inductive Stage where
  | scanning
  | parsing
  | evaluating
  | calculating
deriving DecidableEq, Repr

inductive Record where
  /-- Text between lexemes that is more than blanks. -/
  | skipped (text : String)
  | tokenized (input : String) (tokens : Nat)
  | parsed (tokens nodes : Nat)
  | evaluated (nodes : Nat) (value : Float)
  | calculated (input : String) (value : Float)
  | failed (input : String) (error : CalculationError)
deriving DecidableEq, Repr

namespace Record

def stage : Record → Stage
  | skipped _ => .scanning
  | tokenized _ _ => .scanning
  | parsed _ _ => .parsing
  | evaluated _ _ => .evaluating
  | calculated _ _ => .calculating
  | failed _ _ => .calculating

def level : Record → Level
  | skipped _ => .debug
  | tokenized _ _ => .trace
  | parsed _ _ => .debug
  | evaluated _ _ => .trace
  | calculated _ _ => .debug
  | failed _ _ => .debug

def message : Record → String
  | skipped text => "tokenizer skipped unrecognized input " ++ Text.quote text
  | tokenized input tokens =>
      "tokenized " ++ Text.quote input ++ " into " ++ Nat.repr tokens ++ " tokens"
  | parsed tokens nodes =>
      "parsed " ++ Nat.repr tokens ++ " tokens into " ++ Nat.repr nodes ++ " nodes"
  | evaluated nodes value =>
      "evaluated tree of " ++ Nat.repr nodes ++ " nodes to " ++ numeral value
  | calculated input value => Text.quote input ++ " = " ++ numeral value
  | failed input error => Text.quote input ++ " failed: " ++ error.message

end Record

/-- An outcome together with the records left on the way to it. -/
structure Traced (ε α : Type) where
  records : List Record
  outcome : Except ε α

namespace Traced

variable {ε ε' α β : Type}

def ofExcept (outcome : Except ε α) : Traced ε α :=
  ⟨[], outcome⟩

def emit (record : Record) : Traced ε Unit :=
  ⟨[record], .ok ()⟩

def map (change : α → β) (first : Traced ε α) : Traced ε β :=
  ⟨first.records, first.outcome.map change⟩

/-- Records of both parts in order; a failure of the first part skips the second. -/
def bind (first : Traced ε α) (next : α → Traced ε β) : Traced ε β :=
  match first.outcome with
  | .error error => ⟨first.records, .error error⟩
  | .ok value => ⟨first.records ++ (next value).records, (next value).outcome⟩

instance : Monad (Traced ε) where
  pure value := ofExcept (.ok value)
  map := map
  bind := bind

def mapError (change : ε → ε') (first : Traced ε α) : Traced ε' α :=
  ⟨first.records, first.outcome.mapError change⟩

/-- One more record, chosen by the outcome. -/
def conclude (record : Except ε α → Record) (first : Traced ε α) : Traced ε α :=
  ⟨first.records ++ [record first.outcome], first.outcome⟩

end Traced

end Reckon
