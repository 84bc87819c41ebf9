import RestRecords.Proofs.Client.Timeline
/-!
# Backoff

The time to wait after a failure is the base, or the base times a power of two that stops at the
largest 32-bit word; the product stops at the longest duration. Whatever policy is made and however
many calls have failed, the time is at least the base, no shorter than after fewer failures, and
exact as long as it can be.
-/

namespace RestRecords

namespace Duration

variable {d : Duration} {j k : Nat}

theorem seconds_lt (h : d ≤ max) : d.seconds < UInt64.size := by
  have hnanos : d.nanos ≤ (UInt64.size - 1) * 1000000000 + 999999999 := h
  have hsize : 0 < UInt64.size := by decide
  unfold seconds
  omega

theorem times_le_max (d : Duration) (k : Nat) : d.times k ≤ max :=
  Nat.min_le_right _ _

theorem times_mono (d : Duration) (h : j ≤ k) : d.times j ≤ d.times k := by
  have hprod : d.nanos * j ≤ d.nanos * k := Nat.mul_le_mul_left _ h
  show Min.min (d.nanos * j) max.nanos ≤ Min.min (d.nanos * k) max.nanos
  omega

theorem le_times (hd : d ≤ max) (hk : 1 ≤ k) : d ≤ d.times k :=
  Nat.le_min.2 ⟨Nat.le_mul_of_pos_right _ hk, hd⟩

theorem times_of_le (h : (⟨d.nanos * k⟩ : Duration) ≤ max) : d.times k = ⟨d.nanos * k⟩ :=
  congrArg Duration.mk (Nat.min_eq_left h)

end Duration

namespace RetryPolicy

/-- The policies that can be made, from bases that are durations. -/
inductive Made : RetryPolicy → Prop where
  | default : Made .default
  | parts {p : RetryPolicy} {calls : Nat} {base : Duration} {exponential : Bool}
    (fits : base ≤ .max) (done : (ofParts calls base exponential).outcome = .ok p) : Made p
  | budget {p q : RetryPolicy} {calls : Nat} (before : Made p)
    (done : (p.withBudget calls).outcome = .ok q) : Made q
  | base {p q : RetryPolicy} {base : Duration} (before : Made p) (fits : base ≤ .max)
    (done : (p.withBase base).outcome = .ok q) : Made q
  | exponential {p : RetryPolicy} (before : Made p) (exponential : Bool) :
    Made (p.withExponential exponential)

/-- Whether a policy allows for a call and has a base of whole seconds that are a 64-bit word. -/
structure IsProper (p : RetryPolicy) : Prop where
  budget : 1 ≤ p.budget
  base : ∃ s, 1 ≤ s ∧ s < UInt64.size ∧ p.base = .ofSeconds s

/-- Whether a policy waits for the base, or for its product with a power of two that stops at the
largest word, as far as that is a duration; never shorter than the base or than after fewer failures,
and with no word out of its range. -/
structure IsBackoff (p : RetryPolicy) : Prop where
  constant : p.exponential = false → ∀ n, p.delay n = p.base
  doubling : p.exponential = true → ∀ n,
    p.delay n = .least ⟨p.base.nanos * min (Nat.pow 2 (max n 1 - 1)) (UInt32.size - 1)⟩ .max
  exact : p.exponential = true → ∀ n, 1 ≤ n → n ≤ 32 →
    (⟨p.base.nanos * Nat.pow 2 (n - 1)⟩ : Duration) ≤ .max →
      p.delay n = ⟨p.base.nanos * Nat.pow 2 (n - 1)⟩
  base_le : ∀ n, p.base ≤ p.delay n
  mono : ∀ m n, m ≤ n → p.delay m ≤ p.delay n
  inRange : ∀ n, multiplier n < UInt32.size ∧ p.delay n ≤ .max

variable {p q : RetryPolicy} {base : Duration} {calls m n : Nat}

/-! ## Making a policy -/

theorem outcome_withBudget_eq_ok_iff :
    (p.withBudget calls).outcome = .ok q ↔ 1 ≤ calls ∧ q = { p with budget := calls } := by
  unfold withBudget
  split
  · rename_i hcalls
    refine iff_of_false nofun fun h => ?_
    omega
  · rename_i hcalls
    rw [and_iff_right (Nat.not_lt.1 hcalls)]
    exact ⟨fun h => (Except.ok.inj h).symm, fun h => congrArg Except.ok h.symm⟩

theorem outcome_withBase_eq_ok_iff :
    (p.withBase base).outcome = .ok q ↔
      1 ≤ base.seconds ∧ q = { p with base := .ofSeconds base.seconds } := by
  unfold withBase
  split
  · rename_i hbase
    refine iff_of_false nofun fun h => ?_
    omega
  · rename_i hbase
    rw [and_iff_right (Nat.not_lt.1 hbase)]
    exact ⟨fun h => (Except.ok.inj h).symm, fun h => congrArg Except.ok h.symm⟩

theorem isProper_default : default.IsProper :=
  ⟨by decide, 1, Nat.le_refl 1, by decide, rfl⟩

theorem IsProper.withBudget (h : p.IsProper) (done : (p.withBudget calls).outcome = .ok q) :
    q.IsProper := by
  obtain ⟨hcalls, rfl⟩ := outcome_withBudget_eq_ok_iff.1 done
  exact ⟨hcalls, h.base⟩

theorem IsProper.withBase (h : p.IsProper) (fits : base ≤ .max)
    (done : (p.withBase base).outcome = .ok q) : q.IsProper := by
  obtain ⟨hseconds, rfl⟩ := outcome_withBase_eq_ok_iff.1 done
  exact ⟨h.budget, base.seconds, hseconds, Duration.seconds_lt fits, rfl⟩

theorem IsProper.withExponential (h : p.IsProper) (exponential : Bool) :
    (p.withExponential exponential).IsProper :=
  ⟨h.budget, h.base⟩

theorem isProper_of_ofParts {exponential : Bool} (fits : base ≤ .max)
    (done : (ofParts calls base exponential).outcome = .ok p) : p.IsProper := by
  obtain ⟨first, hfirst, done⟩ := Traced.outcome_bind_eq_ok_iff.1 done
  obtain ⟨second, hsecond, done⟩ := Traced.outcome_bind_eq_ok_iff.1 done
  cases done
  exact ((isProper_default.withBudget hfirst).withBase fits hsecond).withExponential exponential

theorem Made.isProper (h : p.Made) : p.IsProper := by
  induction h with
  | default => exact isProper_default
  | parts fits done => exact isProper_of_ofParts fits done
  | budget _ done ih => exact ih.withBudget done
  | base _ fits done ih => exact ih.withBase fits done
  | exponential _ exponential ih => exact ih.withExponential exponential

theorem IsProper.base_le_max (h : p.IsProper) : p.base ≤ .max := by
  obtain ⟨s, -, hs, hbase⟩ := h.base
  rw [hbase]
  exact Duration.ofSeconds_le_max hs

/-! ## The factor -/

theorem one_le_multiplier (n : Nat) : 1 ≤ multiplier n := by
  have hpow : 0 < Nat.pow 2 (n - 1) := Nat.pow_pos Nat.two_pos
  have hsize : 1 < UInt32.size := by decide
  rw [multiplier_eq_min]
  omega

theorem multiplier_lt (n : Nat) : multiplier n < UInt32.size := by
  have hsize : 1 < UInt32.size := by decide
  rw [multiplier_eq_min]
  omega

theorem multiplier_mono (h : m ≤ n) : multiplier m ≤ multiplier n := by
  have hpow : Nat.pow 2 (m - 1) ≤ Nat.pow 2 (n - 1) :=
    Nat.pow_le_pow_right Nat.two_pos (by omega)
  rw [multiplier_eq_min, multiplier_eq_min]
  omega

theorem multiplier_of_le (h : n ≤ 32) : multiplier n = Nat.pow 2 (n - 1) :=
  if_pos (by omega)

/-! ## The time to wait -/

theorem delay_of_constant (h : p.exponential = false) (n : Nat) : p.delay n = p.base := by
  rw [delay, h, if_neg Bool.false_ne_true]

theorem delay_of_exponential (h : p.exponential = true) (n : Nat) :
    p.delay n = p.base.times (multiplier n) := by
  rw [delay, if_pos h]

theorem delay_eq_least (h : p.exponential = true) (n : Nat) :
    p.delay n = .least ⟨p.base.nanos * min (Nat.pow 2 (max n 1 - 1)) (UInt32.size - 1)⟩ .max := by
  have hfirst : max n 1 - 1 = n - 1 := by omega
  rw [delay_eq_backoff, backoff, if_pos h, hfirst]

theorem base_le_delay (h : p.base ≤ .max) (n : Nat) : p.base ≤ p.delay n := by
  cases hmode : p.exponential with
  | false =>
    rw [delay_of_constant hmode]
    exact Nat.le_refl _
  | true =>
    rw [delay_of_exponential hmode]
    exact Duration.le_times h (one_le_multiplier n)

theorem delay_mono (p : RetryPolicy) (h : m ≤ n) : p.delay m ≤ p.delay n := by
  cases hmode : p.exponential with
  | false =>
    rw [delay_of_constant hmode, delay_of_constant hmode]
    exact Nat.le_refl _
  | true =>
    rw [delay_of_exponential hmode, delay_of_exponential hmode]
    exact Duration.times_mono p.base (multiplier_mono h)

theorem delay_le_max (h : p.base ≤ .max) (n : Nat) : p.delay n ≤ .max := by
  cases hmode : p.exponential with
  | false =>
    rw [delay_of_constant hmode]
    exact h
  | true =>
    rw [delay_of_exponential hmode]
    exact Duration.times_le_max _ _

theorem delay_of_le (h : p.exponential = true) (hn : n ≤ 32)
    (fits : (⟨p.base.nanos * Nat.pow 2 (n - 1)⟩ : Duration) ≤ .max) :
    p.delay n = ⟨p.base.nanos * Nat.pow 2 (n - 1)⟩ := by
  rw [← multiplier_of_le hn] at fits ⊢
  rw [delay_of_exponential h, Duration.times_of_le fits]

/-- Every policy that can be made allows for a call and has a base of whole seconds, and after any
number of failures it waits for as long as its mode says. -/
theorem isBackoff_of_made (h : p.Made) : p.IsProper ∧ p.IsBackoff := by
  have hproper := h.isProper
  have hbase := hproper.base_le_max
  refine ⟨hproper, ?_⟩
  exact {
    constant := delay_of_constant
    doubling := delay_eq_least
    exact := fun hmode _ _ hn => delay_of_le hmode hn
    base_le := base_le_delay hbase
    mono := fun _ _ => delay_mono p
    inRange := fun n => ⟨multiplier_lt n, delay_le_max hbase n⟩ }

end RetryPolicy

namespace Sample

/-- Five calls, and a base of `2 ^ 40` seconds that doubles. -/
def steep : RetryPolicy := ⟨5, .ofSeconds 1099511627776, true⟩

theorem made_steep : steep.Made := by
  have hfits : Duration.ofSeconds 1099511627776 ≤ .max := by decide
  have hdone : (RetryPolicy.ofParts 5 (.ofSeconds 1099511627776) true).outcome = .ok steep := rfl
  exact .parts hfits hdone

end Sample

open Sample in
/-- The last product that is a duration, and the times after the next failure and after the
largest number that is a word. -/
theorem RetryPolicy.isBackoff_of_made_steep :
    steep.Made ∧ steep.delay 24 = .ofSeconds 9223372036854775808 ∧ steep.delay 25 = .max ∧
      steep.delay 4294967295 = .max := by
  obtain ⟨-, h⟩ := isBackoff_of_made made_steep
  have hlimit : steep.delay 25 = .max := by
    rw [h.doubling rfl]
    decide
  refine ⟨made_steep, ?_, hlimit, ?_⟩
  · rw [h.exact rfl 24 (by decide) (by decide) (by decide)]
    rfl
  · have hlow : Duration.max ≤ steep.delay 4294967295 := hlimit ▸ h.mono 25 _ (by decide)
    have hhigh : steep.delay 4294967295 ≤ .max := (h.inRange _).2
    exact congrArg Duration.mk (Nat.le_antisymm hhigh hlow)

end RestRecords
