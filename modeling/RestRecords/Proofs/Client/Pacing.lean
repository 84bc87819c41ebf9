import RestRecords.Proofs.Traced
import RestRecords.Proofs.Client.Attempts
import Mathlib.Logic.Function.Basic
/-!
# When calls are made

A call is made as soon as its request is ready to go and the interval since the last call of its
client has passed. This holds for everything that is done with a client and its copies, whatever
becomes of the calls, and whatever other clients do in the meantime: they only take time.
-/

namespace RestRecords

def Duration.latest (d e : Duration) : Duration :=
  ⟨Max.max d.nanos e.nanos⟩

/-- When a call that is ready may be made: not before the interval since the last one has passed. -/
def Pacer.due (interval : Duration) (last : Option Duration) (ready : Duration) : Duration :=
  match last with
  | some last => ready.latest (last.plus interval)
  | none => ready

theorem Pacer.plus_wait {p : Pacer} {now : Duration} (h : ∀ t ∈ p.last, t ≤ now) :
    now.plus (p.wait now) = due p.interval p.last now := by
  unfold wait due
  cases hlast : p.last with
  | none => rfl
  | some last =>
    have hpast : last.nanos ≤ now.nanos := h last hlast
    simp only [Duration.plus, Duration.minus, Duration.latest, Duration.mk.injEq]
    omega

/-! ## Turns of a client -/

/-- Whether calls are made one after the other, each when it is due: the first one after a call at
`last`, and up to a call at `final`. -/
inductive Paced (interval : Duration) : Option Duration → List Turn → Option Duration → Prop where
  | done (last : Option Duration) : Paced interval last [] last
  | turn {last final : Option Duration} {t : Turn} {ts : List Turn}
    (time : t.sent.time = Pacer.due interval last t.ready)
    (rest : Paced interval (some t.sent.time) ts final) : Paced interval last (t :: ts) final

theorem Paced.append {interval : Duration} {first middle final : Option Duration}
    {ts us : List Turn} (hts : Paced interval first ts middle)
    (hus : Paced interval middle us final) : Paced interval first (ts ++ us) final := by
  induction hts with
  | done => exact hus
  | turn time _ ih => exact .turn time (ih hus)

theorem Paced.time_of_first {interval : Duration} {final : Option Duration} {ts : List Turn}
    (h : Paced interval none ts final) {t : Turn} (ht : ts[0]? = some t) :
    t.sent.time = t.ready := by
  cases h with
  | done => cases ht
  | turn time =>
    cases ht
    exact time

theorem Paced.time_of_next {interval : Duration} {last final : Option Duration} {ts : List Turn}
    (h : Paced interval last ts final) {i : Nat} {t u : Turn} (ht : ts[i]? = some t)
    (hu : ts[i + 1]? = some u) : u.sent.time = u.ready.latest (t.sent.time.plus interval) := by
  induction h generalizing i with
  | done => cases ht
  | turn _ rest ih =>
    cases i with
    | zero =>
      cases ht
      cases rest with
      | done => cases hu
      | turn time =>
        cases hu
        exact time
    | succ i => exact ih ht hu

/-- The pacer of a session: its interval, and its last call, which is not still to come. -/
structure Session.Keeps (s : Session) (interval : Duration) (last : Option Duration) : Prop where
  interval_eq : s.pacer.interval = interval
  last_eq : s.pacer.last = last
  past : ∀ t ∈ last, t ≤ s.now

theorem Session.Keeps.wait {s : Session} {interval : Duration} {last : Option Duration}
    (h : s.Keeps interval last) (d : Duration) : (s.wait d).Keeps interval last := by
  refine ⟨h.interval_eq, h.last_eq, fun t ht => ?_⟩
  have hpast : t.nanos ≤ s.now.nanos := h.past t ht
  exact Nat.le_add_right_of_le hpast

namespace Client

variable {c : Client} {env : Environment} {method uri : String} {options : RequestOptions}

/-- The turn of a request that is sent once, where the credentials show `shown`; none if it is not well
formed. -/
def dispatchTurns (c : Client) (env : Environment) (shown : Option Showing) (method uri : String)
    (options : RequestOptions) (s : Session) : List Turn :=
  (c.dispatchShown env shown method uri options s).calls.map fun sent => ⟨s.now, sent⟩

/-- What a client goes through from one session to another: time passes, its credentials are
changed, and requests are dispatched, which have their turns, whatever the credentials then show. -/
inductive Course (c : Client) (env : Environment) : Session → List Turn → Session → Prop where
  | stay (s : Session) : Course c env s [] s
  | pass {s s' : Session} {ts : List Turn} (d : Duration) (rest : Course c env (s.wait d) ts s') :
    Course c env s ts s'
  | authenticate {s s' : Session} {ts : List Turn} (credentials : Option Credentials)
    (rest : Course c env (s.setCredentials credentials).session ts s') : Course c env s ts s'
  | dispatch {s s' : Session} {ts : List Turn} (shown : Option Showing) (method uri : String)
    (options : RequestOptions)
    (rest : Course c env (c.dispatchShown env shown method uri options s).session ts s') :
    Course c env s (c.dispatchTurns env shown method uri options s ++ ts) s'

theorem Course.append {s s' s'' : Session} {ts us : List Turn} (hts : Course c env s ts s')
    (hus : Course c env s' us s'') : Course c env s (ts ++ us) s'' := by
  induction hts with
  | stay => exact hus
  | pass d _ ih => exact .pass d (ih hus)
  | authenticate credentials _ ih => exact .authenticate credentials (ih hus)
  | dispatch shown method uri options _ ih =>
    rw [List.append_assoc]
    exact .dispatch shown method uri options (ih hus)

theorem dispatchTurns_of_error {shown : Option Showing} {e : Error}
    (h : c.composeShown shown method uri options = .error e) (env : Environment) (s : Session) :
    c.dispatchTurns env shown method uri options s = [] := by
  rw [dispatchTurns, dispatchShown_of_error h, List.map_nil]

theorem dispatchTurns_of_ok {shown : Option Showing} {call : Call}
    (h : c.composeShown shown method uri options = .ok call) (env : Environment) (s : Session) :
    c.dispatchTurns env shown method uri options s = [turn call s] := by
  rw [dispatchTurns, dispatchShown_of_ok h, calls_send]
  rfl

theorem sent_dispatchTurns (shown : Option Showing) (s : Session) :
    (c.dispatchTurns env shown method uri options s).map Turn.sent =
      (c.dispatchShown env shown method uri options s).calls := by
  rw [dispatchTurns, List.map_map]
  exact List.map_id _

theorem Course.call {shown : Option Showing} {call : Call} {s s' : Session} {ts : List Turn}
    (h : c.composeShown shown method uri options = .ok call)
    (rest : Course c env (send env call s).session ts s') : Course c env s (turn call s :: ts) s' := by
  rw [← dispatchShown_of_ok h] at rest
  have hcourse := Course.dispatch shown method uri options rest
  rwa [dispatchTurns_of_ok h] at hcourse

theorem course_dispatch (shown : Option Showing) (s : Session) :
    Course c env s (c.dispatchTurns env shown method uri options s)
      (c.dispatchShown env shown method uri options s).session := by
  rw [← List.append_nil (c.dispatchTurns env shown method uri options s)]
  exact .dispatch shown method uri options (.stay _)

theorem Tried.course {shown : Nat → Option Showing} {start : Duration} {left attempt : Nat}
    {s : Session} {ts : List Turn} {r : Run Response}
    (h : c.Tried env shown method uri options start left attempt s ts r) :
    Course c env s ts r.session := by
  induction h with
  | unsent => exact .stay _
  | last composed => exact .call composed (.stay _)
  | next composed _ _ _ ih => exact .call composed (.pass _ ih)

/-- A call is made when it is due, and is then the last one, whatever the reply. -/
theorem send_paced (env : Environment) (call : Call) {s : Session} {interval : Duration}
    {last : Option Duration} (h : s.Keeps interval last) :
    (turn call s).sent.time = Pacer.due interval last s.now ∧
      (send env call s).session.Keeps interval (some (Pacer.due interval last s.now)) := by
  have htime : s.now.plus (s.pacer.wait s.now) = Pacer.due interval last s.now := by
    rw [Pacer.plus_wait (h.last_eq ▸ h.past), h.interval_eq, h.last_eq]
  have hpast : ∀ (now d : Duration), ∀ t ∈ some now, t ≤ now.plus d := by
    rintro now d t ⟨⟩
    exact Nat.le_add_right _ _
  refine ⟨htime, ?_⟩
  unfold send
  dsimp only
  rw [htime]
  split
  · exact ⟨h.interval_eq, rfl, hpast _ _⟩
  · have hsent : Session.Keeps
        { s with
          now := (Pacer.due interval last s.now).plus (env.send s.sent call).delay
          pacer := s.pacer.record (Pacer.due interval last s.now)
          sent := s.sent + 1 } interval (some (Pacer.due interval last s.now)) :=
      ⟨h.interval_eq, rfl, hpast _ _⟩
    exact hsent.wait _

theorem now_le_send (env : Environment) (call : Call) (s : Session) :
    s.now ≤ (send env call s).session.now := by
  unfold send
  dsimp only
  split
  all_goals
    simp only [Session.wait, Duration.plus]
    show s.now.nanos ≤ _
    dsimp only
    omega

theorem dispatch_paced (shown : Option Showing) {s : Session} {interval : Duration}
    {last : Option Duration} (h : s.Keeps interval last) :
    ∃ final, Paced interval last (c.dispatchTurns env shown method uri options s) final ∧
      (c.dispatchShown env shown method uri options s).session.Keeps interval final := by
  cases hcompose : c.composeShown shown method uri options with
  | error e =>
    rw [dispatchTurns_of_error hcompose, dispatchShown_of_error hcompose]
    exact ⟨last, .done last, h⟩
  | ok call =>
    obtain ⟨htime, hkeeps⟩ := send_paced env call h
    rw [dispatchTurns_of_ok hcompose, dispatchShown_of_ok hcompose]
    refine ⟨_, .turn htime (.done _), ?_⟩
    rwa [htime]

/-- Every turn in the course of a client is taken when it is due. -/
theorem Course.paced {s s' : Session} {ts : List Turn} (h : Course c env s ts s')
    {interval : Duration} {last : Option Duration} (hs : s.Keeps interval last) :
    ∃ final, Paced interval last ts final ∧ s'.Keeps interval final := by
  induction h generalizing last with
  | stay => exact ⟨last, .done last, hs⟩
  | pass d _ ih => exact ih (hs.wait d)
  | authenticate _ _ ih => exact ih ⟨hs.interval_eq, hs.last_eq, hs.past⟩
  | dispatch shown method uri options _ ih =>
    obtain ⟨middle, hfirst, hmiddle⟩ := dispatch_paced shown hs
    obtain ⟨final, hrest, hfinal⟩ := ih hmiddle
    exact ⟨final, hfirst.append hrest, hfinal⟩

theorem Course.now_le {s s' : Session} {ts : List Turn} (h : Course c env s ts s') :
    s.now ≤ s'.now := by
  induction h with
  | stay => exact Nat.le_refl _
  | pass d _ ih => exact Nat.le_trans (Nat.le_add_right _ _) ih
  | authenticate _ _ ih => exact ih
  | @dispatch s _ _ shown method uri options _ ih =>
    refine Nat.le_trans ?_ ih
    cases hcompose : c.composeShown shown method uri options with
    | error e => exact Nat.le_of_eq (by rw [dispatchShown_of_error hcompose])
    | ok call =>
      rw [dispatchShown_of_ok hcompose]
      exact now_le_send env call s

end Client

end RestRecords
