import Reckon.Log

/-!
Contract: the two sides of computations that leave records.

Owns: the outcome and the records of each way to build such a computation.

Does not own: which records a particular computation leaves.
-/

set_option autoImplicit false

namespace Reckon

namespace Traced

variable {ε ε' α β : Type}

/-! ### Outcomes -/

@[simp] theorem outcome_ofExcept (outcome : Except ε α) : (ofExcept outcome).outcome = outcome :=
  rfl

@[simp] theorem outcome_pure (value : α) : (pure value : Traced ε α).outcome = .ok value := rfl

@[simp] theorem outcome_emit (record : Record) :
    (emit record : Traced ε Unit).outcome = .ok () := rfl

@[simp] theorem outcome_bind (first : Traced ε α) (next : α → Traced ε β) :
    (first >>= next).outcome = first.outcome.bind fun value => (next value).outcome := by
  change (Traced.bind first next).outcome = _
  unfold Traced.bind
  cases first.outcome <;> rfl

@[simp] theorem outcome_map (change : α → β) (first : Traced ε α) :
    (change <$> first).outcome = first.outcome.map change := rfl

@[simp] theorem outcome_mapError (change : ε → ε') (first : Traced ε α) :
    (first.mapError change).outcome = first.outcome.mapError change := rfl

@[simp] theorem outcome_conclude (record : Except ε α → Record) (first : Traced ε α) :
    (conclude record first).outcome = first.outcome := rfl

/-! ### Records -/

@[simp] theorem records_ofExcept (outcome : Except ε α) : (ofExcept outcome).records = [] := rfl

@[simp] theorem records_pure (value : α) : (pure value : Traced ε α).records = [] := rfl

@[simp] theorem records_emit (record : Record) :
    (emit record : Traced ε Unit).records = [record] := rfl

/-- What a failure skips leaves no records. -/
theorem records_bind_of_error {first : Traced ε α} {error : ε} (next : α → Traced ε β)
    (failed : first.outcome = .error error) : (first >>= next).records = first.records := by
  change (Traced.bind first next).records = _
  rw [Traced.bind, failed]

theorem records_bind_of_ok {first : Traced ε α} {value : α} (next : α → Traced ε β)
    (succeeded : first.outcome = .ok value) :
    (first >>= next).records = first.records ++ (next value).records := by
  change (Traced.bind first next).records = _
  rw [Traced.bind, succeeded]

@[simp] theorem records_map (change : α → β) (first : Traced ε α) :
    (change <$> first).records = first.records := rfl

@[simp] theorem records_mapError (change : ε → ε') (first : Traced ε α) :
    (first.mapError change).records = first.records := rfl

@[simp] theorem records_conclude (record : Except ε α → Record) (first : Traced ε α) :
    (conclude record first).records = first.records ++ [record first.outcome] := rfl

end Traced

end Reckon
