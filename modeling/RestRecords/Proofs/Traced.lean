import RestRecords.Event
/-!
# Results of reporting computations

When a computation that reports has a result, and which. The events are left aside.
-/

namespace RestRecords.Traced

variable {α β : Type}

theorem outcome_bind_eq_ok_iff {x : Traced α} {f : α → Traced β} {b : β} :
    (x >>= f).outcome = .ok b ↔ ∃ a, x.outcome = .ok a ∧ (f a).outcome = .ok b := by
  rw [outcome_bind]
  cases x.outcome with
  | ok a => simp [Except.bind]
  | error e => simp [Except.bind]

theorem outcome_bind_of_ok {x : Traced α} {f : α → Traced β} {a : α} (h : x.outcome = .ok a) :
    (x >>= f).outcome = (f a).outcome := by
  rw [outcome_bind, h]
  rfl

theorem outcome_bind_eq_error_iff {x : Traced α} {f : α → Traced β} {failure : Failure} :
    (x >>= f).outcome = .error failure ↔ x.outcome = .error failure ∨
      ∃ a, x.outcome = .ok a ∧ (f a).outcome = .error failure := by
  rw [outcome_bind]
  cases x.outcome with
  | ok a => simp [Except.bind]
  | error e => simp [Except.bind]

theorem outcome_bind_eq_fail_iff {x : Traced α} {f : α → Traced β} {e : Error} :
    (x >>= f).outcome = Outcome.fail e ↔ x.outcome = Outcome.fail e ∨
      ∃ a, x.outcome = .ok a ∧ (f a).outcome = Outcome.fail e :=
  outcome_bind_eq_error_iff

theorem outcome_mapError_eq_fail_iff {f : Error → Error} {x : Traced α} {e : Error} :
    (x.mapError f).outcome = Outcome.fail e ↔
      ∃ inner, x.outcome = Outcome.fail inner ∧ f inner = e := by
  unfold mapError
  split
  · rename_i inner hinner
    simp [hinner, Outcome.fail]
  · rename_i hother
    exact ⟨fun h => absurd h (hother e), fun ⟨inner, hinner, _⟩ => absurd hinner (hother inner)⟩

theorem outcome_mapError_eq_ok_iff {f : Error → Error} {x : Traced α} {a : α} :
    (x.mapError f).outcome = .ok a ↔ x.outcome = .ok a := by
  unfold mapError
  split
  · rename_i e he
    simp [he]
  · rfl

@[simp] theorem outcome_ok (a : α) : (ok a : Traced α).outcome = .ok a := rfl

@[simp] theorem outcome_fail (e : Error) : (fail e : Traced α).outcome = Outcome.fail e := rfl

@[simp] theorem outcome_abort (a : Abort) : (abort a : Traced α).outcome = .error (.abort a) := rfl

@[simp] theorem outcome_report (e : Event) : (report e).outcome = .ok () := rfl

end RestRecords.Traced
