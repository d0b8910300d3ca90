/-!
# Results that may be errors

When a computation that may fail succeeds. A sequence succeeds exactly if its steps do, and a change
of the error changes no success.
-/

namespace FleetOperator

variable {ε δ α β : Type}

/-- Results are compared by their values or their errors. -/
instance exceptDecidableEq [DecidableEq ε] [DecidableEq α] : DecidableEq (Except ε α)
  | .ok a, .ok b => decidable_of_iff (a = b) (by simp)
  | .error a, .error b => decidable_of_iff (a = b) (by simp)
  | .ok _, .error _ => isFalse (by simp)
  | .error _, .ok _ => isFalse (by simp)

/-- A step followed by another one succeeds exactly if both do. -/
theorem bind_eq_ok {step : Except ε α} {next : α → Except ε β} {value : β} :
    step >>= next = .ok value ↔ ∃ found, step = .ok found ∧ next found = .ok value := by
  cases step with
  | error error =>
      have hbind : (.error error : Except ε α) >>= next = .error error := rfl
      simp [hbind]
  | ok found =>
      have hbind : (.ok found : Except ε α) >>= next = next found := rfl
      simp [hbind]

/-- A step whose error is changed succeeds exactly if the step does. -/
theorem mapError_eq_ok {f : ε → δ} {step : Except ε α} {value : α} :
    step.mapError f = .ok value ↔ step = .ok value := by
  cases step with
  | error error =>
      have hmap : (.error error : Except ε α).mapError f = .error (f error) := rfl
      simp [hmap]
  | ok found =>
      have hmap : (.ok found : Except ε α).mapError f = .ok found := rfl
      simp [hmap]

/-- A mapped step succeeds exactly if the step does. -/
theorem map_eq_ok {f : α → β} {step : Except ε α} {value : β} :
    step.map f = .ok value ↔ ∃ found, step = .ok found ∧ f found = value := by
  cases step with
  | error error =>
      have hmap : (.error error : Except ε α).map f = .error error := rfl
      simp [hmap]
  | ok found =>
      have hmap : (.ok found : Except ε α).map f = .ok (f found) := rfl
      simp [hmap]

end FleetOperator
