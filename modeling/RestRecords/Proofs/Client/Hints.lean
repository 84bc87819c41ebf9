import RestRecords.Proofs.Client.Retry
import RestRecords.Proofs.Time.HttpDates
/-!
# Answers that end a run

Every answer can be told to the caller but one: a failure whose headers say that the window ends at
an instant that cannot be told. All other numbers in headers lead to hints that are in range, and to
a time to wait that is within the limit.
-/

namespace RestRecords

open Text

namespace Headers

/-- The end of the current window, in seconds from 1 January 1970: the first number that one of the
two headers for it gives. -/
def reset? (headers : Headers) : Option Nat :=
  ((headers.lookup? "x-ratelimit-reset").bind fun value => readUnsigned64? value.toList).or
    ((headers.lookup? "ratelimit-reset").bind fun value => readUnsigned64? value.toList)

/-- Whether the window ends beyond the last instant. -/
def ResetsTooLate (headers : Headers) : Prop :=
  ∃ n, headers.reset? = some n ∧ RateLimit.lastInstant < n

end Headers

/-- Whether hints are in the range of the numbers they are kept as. -/
structure RateLimit.Fits (r : RateLimit) : Prop where
  retryAfter : ∀ d, r.retryAfter = some d → d ≤ Duration.max
  resetAt : ∀ n, r.resetAt = some n → n ≤ lastInstant
  remaining : ∀ n, r.remaining = some n → n < UInt64.size

theorem Text.lt_of_readUnsigned64? {cs : List Char} {n : Nat} (h : readUnsigned64? cs = some n) :
    n < UInt64.size := by
  obtain ⟨-, hlt⟩ := Option.filter_eq_some_iff.1 h
  exact of_decide_eq_true hlt

theorem Duration.ofSeconds_le_max {n : Nat} (h : n < UInt64.size) : ofSeconds n ≤ max := by
  show n * 1000000000 ≤ (UInt64.size - 1) * 1000000000 + 999999999
  omega

namespace RateLimit

theorem ofHeaders?_eq (now : Duration) (headers : Headers) :
    ofHeaders? now headers =
      if headers.reset?.any (lastInstant < ·) then none
      else some
        { retryAfter := (headers.lookup? "retry-after").bind (readWait? now)
          resetAt := headers.reset?
          remaining := (headers.lookup? "x-ratelimit-remaining").bind fun value =>
            readUnsigned64? value.toList } :=
  rfl

theorem any_reset?_iff {headers : Headers} :
    (headers.reset?.any (lastInstant < ·)) = true ↔ headers.ResetsTooLate := by
  simp only [Headers.ResetsTooLate, Option.any_eq_true, decide_eq_true_eq]

theorem ofHeaders?_eq_none_iff (now : Duration) {headers : Headers} :
    ofHeaders? now headers = none ↔ headers.ResetsTooLate := by
  rw [ofHeaders?_eq, ← any_reset?_iff]
  split
  · rename_i h
    exact iff_of_true rfl h
  · rename_i h
    exact iff_of_false nofun h

theorem left?_eq_some_iff {now d : Duration} {second : Nat} :
    left? now second = some d ↔ now.plus d = .ofSeconds second := by
  unfold left?
  split
  · rename_i h
    have hle : now.nanos ≤ (Duration.ofSeconds second).nanos := h
    rw [Option.some.injEq, eq_comm]
    simp only [Duration.ext_iff, Duration.minus, Duration.plus]
    omega
  · rename_i h
    have hlt : ¬now.nanos ≤ (Duration.ofSeconds second).nanos := h
    refine iff_of_false nofun fun heq => hlt ?_
    rw [← heq]
    exact Nat.le_add_right _ _

theorem left?_le {now d : Duration} {second : Nat} (h : left? now second = some d) :
    d ≤ .ofSeconds second := by
  rw [← left?_eq_some_iff.1 h]
  exact Nat.le_add_left _ _

theorem readWait?_le {now : Duration} {value : String} {d : Duration}
    (h : readWait? now value = some d) : d ≤ Duration.max := by
  unfold readWait? at h
  split at h
  · rename_i n hn
    cases h
    exact Duration.ofSeconds_le_max (lt_of_readUnsigned64? hn)
  · obtain ⟨second, hread, hleft⟩ := Option.bind_eq_some_iff.1 h
    have hlt := HttpDate.lt_of_read? hread
    have hsize : Nat.pow 10 12 < UInt64.size := by decide
    exact Nat.le_trans (left?_le hleft) (Duration.ofSeconds_le_max (by omega))

theorem waitHint_le {r : RateLimit} {now cap d : Duration}
    (h : r.waitHint now cap = some d) : d ≤ cap := by
  obtain ⟨wait, -, rfl⟩ := Option.map_eq_some_iff.1 h
  dsimp only [Duration.least]
  split
  · assumption
  · exact Nat.le_refl _

theorem fits_of_ofHeaders? {now : Duration} {headers : Headers} {r : RateLimit}
    (h : ofHeaders? now headers = some r) : r.Fits := by
  rw [ofHeaders?_eq] at h
  split at h
  · cases h
  rename_i hreset
  cases h
  refine ⟨fun d hd => ?_, fun n hn => ?_, fun n hn => ?_⟩
  · obtain ⟨value, -, hwait⟩ := Option.bind_eq_some_iff.1 hd
    exact readWait?_le hwait
  · exact Nat.le_of_not_lt fun hlt => hreset (any_reset?_iff.2 ⟨n, hn, hlt⟩)
  · obtain ⟨value, -, hvalue⟩ := Option.bind_eq_some_iff.1 hn
    exact lt_of_readUnsigned64? hvalue

end RateLimit

/-! ## Errors for answers -/

theorem Error.ofResponse_eq_abort_iff {now : Duration} {status : Status} {body : String}
    {headers : Headers} : ofResponse now status body headers = .error (.abort .clockOverflow) ↔
      headers.ResetsTooLate := by
  rw [← RateLimit.ofHeaders?_eq_none_iff now, ofResponse]
  split
  · rename_i h
    exact iff_of_true rfl h
  · rename_i h
    simp [h]

/-- Every other answer has an error, whose hints are in range and ask to wait within the limit. -/
theorem Error.exists_ofResponse {now : Duration} {headers : Headers} (h : ¬headers.ResetsTooLate)
    (status : Status) (body : String) : ∃ hints,
      ofResponse now status body headers = .ok (.api status body headers hints) ∧
        ∀ r, hints = some r → r.Fits ∧ ∀ later cap d, r.waitHint later cap = some d → d ≤ cap := by
  cases hheaders : RateLimit.ofHeaders? now headers with
  | none => exact absurd ((RateLimit.ofHeaders?_eq_none_iff now).1 hheaders) h
  | some r =>
    refine ⟨if r.isPresent then some r else none, by rw [ofResponse, hheaders], fun r' hr' => ?_⟩
    have hsame : r' = r := by
      split at hr'
      · exact (Option.some.inj hr').symm
      · cases hr'
    rw [hsame]
    exact ⟨RateLimit.fits_of_ofHeaders? hheaders, fun later cap d => RateLimit.waitHint_le⟩

/-! ## Requests -/

/-- Whether a reply is a failure whose window ends beyond the last instant. -/
def Reply.ResetsTooLate (r : Reply) : Prop :=
  ∃ answer, r.outcome = .ok answer ∧ 400 ≤ answer.status.code ∧ answer.headers.ResetsTooLate

theorem Reply.not_isReadable_iff (now : Duration) {r : Reply} :
    ¬r.IsReadable now ↔ r.ResetsTooLate := by
  unfold IsReadable ResetsTooLate
  simp only [← RateLimit.ofHeaders?_eq_none_iff now, Classical.not_forall,
    Option.not_isSome_iff_eq_none, exists_prop]

namespace Client

variable {c : Client} {env : Environment} {shown : Nat → Option Showing} {method uri : String}
  {options : RequestOptions} {start : Duration} {left attempt : Nat} {s : Session}

theorem not_isReadable_of_abort {call : Call} {a : Abort}
    (h : (send env call s).outcome = .error (.abort a)) :
    ¬(env.send s.sent call).IsReadable env.date := by
  rcases outcome_send_cases env call s with
    ⟨hunreadable, -⟩ | ⟨-, ⟨_, hok, -⟩ | ⟨_, hfails, -⟩⟩
  · exact hunreadable
  · rw [hok] at h
    cases h
  · rw [hfails] at h
    cases h

theorem Tried.exists_of_abort {ts : List Turn} {r : Run Response}
    (h : c.Tried env shown method uri options start left attempt s ts r) {a : Abort}
    (ha : r.outcome = .error (.abort a)) : ∃ call n, n ≤ left ∧
      (∀ i ≤ n, c.composeShown (shown (attempt + i)) method uri options = .ok (call i)) ∧
      (∀ i < n,
        (replies env call s i).IsTransient ∧ (replies env call s i).IsReadable env.date) ∧
      ¬(replies env call s n).IsReadable env.date := by
  induction h with
  | unsent => cases ha
  | @last left attempt s call composed stops =>
    have habort : (send env call s).outcome = .error (.abort a) := by
      cases houtcome : (send env call s).outcome with
      | ok response =>
        rw [finish, houtcome] at ha
        cases ha
      | error failure =>
        rw [finish, houtcome] at ha
        exact ha
    refine ⟨fun _ => call, 0, Nat.zero_le left, fun i hi => ?_,
      fun i hi => absurd hi (Nat.not_lt_zero i), not_isReadable_of_abort habort⟩
    rw [Nat.le_zero.1 hi]
    exact composed
  | @next left attempt s call e ts rest composed failed transient goes ih =>
    obtain ⟨hreadable, hiff, -⟩ := gives_of_outcome_send failed
    obtain ⟨calls, n, hn, hcomposed, hbefore, hunreadable⟩ := ih ha
    have hreplies : ∀ i, replies env calls
        ((send env call s).session.wait (c.retryWait env e attempt)) i =
          env.send (s.sent + (i + 1)) (calls i) := by
      intro i
      rw [replies, Session.wait, sent_send, Nat.add_assoc, Nat.add_comm 1]
    simp only [hreplies] at hbefore hunreadable
    refine ⟨fun i => i.casesOn call calls, n + 1, Nat.succ_le_succ hn, fun i hi => ?_,
      fun i hi => ?_, hunreadable⟩
    · cases i with
      | zero => exact composed
      | succ i =>
        rw [← Nat.add_assoc, Nat.add_right_comm]
        exact hcomposed i (Nat.le_of_succ_le_succ hi)
    · cases i with
      | zero => exact ⟨hiff.1 transient, hreadable⟩
      | succ i => exact hbefore i (Nat.lt_of_succ_lt_succ hi)

/-- A request ends without an outcome exactly if it comes to a reply that cannot be read. -/
theorem aborts_iff (c : Client) (env : Environment) (shown : Nat → Option Showing)
    (method uri : String) (options : RequestOptions) (start : Duration) (left attempt : Nat)
    (s : Session) :
    (∃ a, (c.executeFromShown env shown method uri options start left attempt s).outcome =
      .error (.abort a)) ↔ ∃ call n, n ≤ left ∧
        (∀ i ≤ n, c.composeShown (shown (attempt + i)) method uri options = .ok (call i)) ∧
        (∀ i < n,
          (replies env call s i).IsTransient ∧ (replies env call s i).IsReadable env.date) ∧
        ¬(replies env call s n).IsReadable env.date := by
  constructor
  · rintro ⟨a, ha⟩
    exact (c.tried env shown method uri options start left attempt s).exists_of_abort ha
  · rintro ⟨call, n, hn, hcomposed, hbefore, hunreadable⟩
    exact ⟨_, (executeFromShown_of_unreadable hcomposed hbefore hn hunreadable).1⟩

end Client

/-- The one thing that ends a run without an outcome is a failure whose headers name the end of a
window beyond the last instant. Every other answer has its error, with hints in range and a time to
wait within the limit; and a request gets a response or an error unless it comes to such a failure
within its budget, behind replies that are expected to pass, however its client waits and whatever its
credentials show. -/
theorem aborts_iff_resetsTooLate (now : Duration) (status : Status) (body : String) (headers : Headers)
    (c : Client) (env : Environment) (method uri : String) (options : RequestOptions)
    (s : Session) :
    (Error.ofResponse now status body headers = .error (.abort .clockOverflow) ↔
      headers.ResetsTooLate) ∧
    (¬headers.ResetsTooLate → ∃ hints,
      Error.ofResponse now status body headers = .ok (.api status body headers hints) ∧
        ∀ r, hints = some r → r.Fits ∧
          ∀ later cap d, r.waitHint later cap = some d → d ≤ cap) ∧
    c.execute env method uri options s =
      c.executeShown env (fun _ => s.credentials.map Credentials.showing) method uri options s ∧
    ∀ shown : Nat → Option Showing,
      (∃ a, (c.executeShown env shown method uri options s).outcome = .error (.abort a)) ↔
        ∃ call n, n ≤ c.policy.budget - 1 ∧
          (∀ i ≤ n, c.composeShown (shown (i + 1)) method uri options = .ok (call i)) ∧
          (∀ i < n, (Client.replies env call s i).IsTransient ∧
            ¬(Client.replies env call s i).ResetsTooLate) ∧
          (Client.replies env call s n).ResetsTooLate := by
  refine ⟨Error.ofResponse_eq_abort_iff, fun h => Error.exists_ofResponse h status body,
    c.execute_eq_shown env method uri options s, fun shown => ?_⟩
  have haborts := c.aborts_iff env shown method uri options s.now (c.policy.budget - 1) 1 s
  simp only [Nat.add_comm 1, ← Reply.not_isReadable_iff env.date, Classical.not_not] at haborts ⊢
  exact haborts

namespace Sample

def lost (headers : Headers) : Environment where
  date := .zero
  send _ _ := ⟨.zero, .ok ⟨⟨404⟩, headers, "missing"⟩⟩

/-- The hint that a window ends at the last instant. -/
def lastReset : Headers :=
  Headers.empty.insert "x-ratelimit-reset" "9223372036854775807"

/-- No requests are left in a window that ends one second later. -/
def spent : Headers :=
  lateReset.append "x-ratelimit-remaining" "0"

theorem not_resetsTooLate_lastReset : ¬lastReset.ResetsTooLate := by
  have hreset : lastReset.reset? = some RateLimit.lastInstant := by decide
  rintro ⟨n, hn, hlt⟩
  cases hreset.symm.trans hn
  exact Nat.lt_irrefl _ hlt

end Sample

open Sample in
theorem aborts_iff_resetsTooLate_lastReset :
    (∃ hints, Error.ofResponse .zero ⟨404⟩ "missing" lastReset =
      .ok (.api ⟨404⟩ "missing" lastReset hints)) ∧
    ¬∃ a, (Client.execute {} (lost lastReset) "GET" "mock://api/orders" {} idle).outcome =
      .error (.abort a) := by
  obtain ⟨-, hanswered, hshown, hrequest⟩ := aborts_iff_resetsTooLate .zero ⟨404⟩ "missing" lastReset
    {} (lost lastReset) "GET" "mock://api/orders" {} idle
  obtain ⟨hints, hhints, -⟩ := hanswered not_resetsTooLate_lastReset
  refine ⟨⟨hints, hhints⟩, fun h => ?_⟩
  rw [hshown] at h
  obtain ⟨call, n, -, -, -, answer, hanswer, -, hlate⟩ := (hrequest _).1 h
  cases hanswer
  exact not_resetsTooLate_lastReset hlate

open Sample in
/-- A window that ends one second later ends the run. -/
theorem aborts_of_spent :
    Error.ofResponse .zero ⟨404⟩ "missing" spent = .error (.abort .clockOverflow) ∧
    ∃ a, (Client.execute {} (lost spent) "GET" "mock://api/orders" {} idle).outcome =
      .error (.abort a) := by
  have hlate : spent.ResetsTooLate :=
    ⟨9223372036854775808, by decide, by decide⟩
  refine ⟨Error.ofResponse_eq_abort_iff.2 hlate, ?_⟩
  obtain ⟨call, hcall⟩ :
      ∃ call, Client.composeShown {} none "GET" "mock://api/orders" {} = .ok call := ⟨_, rfl⟩
  have hfirst : (Client.replies (lost spent) (fun _ => call) idle 0).ResetsTooLate :=
    ⟨_, rfl, by decide, hlate⟩
  rw [Client.execute_eq_shown]
  exact (Client.aborts_iff _ _ _ _ _ _ _ _ _ _).2 ⟨fun _ => call, 0, Nat.zero_le _,
    fun _ _ => hcall, fun i hi => absurd hi (Nat.not_lt_zero i), (Reply.not_isReadable_iff _).2 hfirst⟩

end RestRecords
