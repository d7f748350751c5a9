import SoftMessageBus.ServiceManager
import SoftMessageBus.QosWait

/-!
# Waiting for a service

A caller waits until a service is registered, with a timeout.
-/
namespace SoftMessageBus
open StepRuns

/-- A call of `zoo_smb_service_manager_get_service_wait`; `start` is its `start_time`. -/
structure ServiceWait where
  serviceName : CString
  timeoutMs : UInt32
  start : UInt64

inductive GetPhase where
  | entering
  | waiting (expiry : ℕ)
  | timedOut
  | returned (service : Option ℕ)
  deriving DecidableEq

namespace GetPhase

def wake : GetPhase→GetPhase
  | waiting _=>entering
  | phase=>phase

def expire (clock : UInt64) : GetPhase→GetPhase
  | waiting expiry=>if expiry≤clock.toNat then timedOut else waiting expiry
  | phase=>phase

def Running (phase : GetPhase) : Prop:=∀ service, phase≠returned service

end GetPhase

structure GetState where
  clock : UInt64
  manager : ServiceManager
  update : Option Bool
  phase : GetPhase

/-- Time passes, services change, the waiting call wakes up, times out or gets the lock. -/
inductive GetEvent where
  | advance (now : UInt64)
  | change (op : ServiceOp)
  | finish
  | wake
  | expire
  | resume (now : UInt64)

/-- Whether an operation ends with `ZOO_COND_BROADCAST`. -/
def ServiceManager.broadcasts (m : ServiceManager) : ServiceOp→Bool
  | .register type name _ _=>!decide (m.Listed type name.text)
  | .unregister _ _=>true

namespace ServiceWait
variable (w : ServiceWait)

/-- `service_index_find_locked` for the name of the call. -/
def indexed (m : ServiceManager) : Option ℕ:=m.getService w.serviceName .registration

/-- The loop of `zoo_smb_service_manager_get_service_wait` after a look at the index, up to the
next wait. -/
def nextPhase (clock : UInt64) : Option ℕ→GetPhase
  | some service=>.returned (some service)
  | none=>
    if w.timeoutMs.toNat≤(clock-w.start).toNat then .returned none
    else .waiting (clock.toNat+(w.timeoutMs.toNat-(clock-w.start).toNat))

def step (w : ServiceWait) (s : GetState) : GetEvent→GetState
  | .advance now=>{s with clock:=laterTime s.clock now}
  | .change op=>
    if s.update=none then
      {s with manager:=s.manager.step op, update:=some (s.manager.broadcasts op)}
    else s
  | .finish=>
    {s with
      update:=none
      phase:=if s.update=some true then s.phase.wake else s.phase}
  | .wake=>{s with phase:=s.phase.wake}
  | .expire=>{s with phase:=s.phase.expire s.clock}
  | .resume now=>
    if s.update=none then
      match s.phase with
      | .entering=>
        {s with
          clock:=laterTime s.clock now
          phase:=w.nextPhase (laterTime s.clock now) (w.indexed s.manager)}
      -- the wait has failed, so the loop is left
      | .timedOut=>{s with phase:=.returned none}
      | .waiting _ | .returned _=>s
    else s

def enter (m : ServiceManager) : GetState:=⟨w.start,m,none,.entering⟩

variable (s : GetState)

def run (events : List GetEvent) : GetState:=events.foldl w.step s
def deadline : ℕ:=w.start.toNat+w.timeoutMs.toNat

def NullOnlyLate (event : GetEvent) : Prop:=
  s.phase.Running→(w.step s event).phase = .returned none→
    w.indexed (w.step s event).manager=none ∧ w.deadline≤(w.step s event).clock.toNat

def FoundIfRegistered (events : List GetEvent) : Prop:=
  ∀ service, s.phase.Running→s.clock.toNat<w.deadline→
    (∀ n, w.indexed (w.run s (events.take n)).manager=some service)→
    (∃ n now, events[n]?=some (.resume now) ∧ (w.run s (events.take n)).update=none)→
      (w.run s events).phase = .returned (some service)

/-- NULL is returned only for a missing service, and a service registered in time is returned. -/
def Exact (m : ServiceManager) (events : List GetEvent) : Prop:=
  Along w.step w.NullOnlyLate (w.enter m) events ∧
    ∀ before after, events=before++after→w.FoundIfRegistered (w.run (w.enter m) before) after

/-- If the call gets the lock after its timer has run out, then the service is not in the
index. -/
def MissingAtTimeout : GetEvent→Prop
  | .resume _=>s.update=none→s.phase = .timedOut→w.indexed s.manager=none
  | _=>True

end ServiceWait
namespace GetPhase

lemma wake_ne_waiting (phase : GetPhase) (expiry : ℕ) : phase.wake≠waiting expiry:=by
  cases phase <;> exact GetPhase.noConfusion

variable {phase : GetPhase}

lemma eq_of_wake_eq_timedOut (h : phase.wake=timedOut) : phase=timedOut:=by
  cases phase with
  | waiting expiry=>cases h
  | entering | timedOut | returned service=>exact h

lemma eq_of_expire_eq_waiting {clock : UInt64} {expiry : ℕ}
    (h : phase.expire clock=waiting expiry) : phase=waiting expiry:=by
  cases phase with
  | waiting other=>
    rw [expire] at h
    split at h
    · cases h
    · exact h
  | entering | timedOut | returned service=>exact h

lemma expire_eq_timedOut {clock : UInt64} (h : phase.expire clock=timedOut) :
    phase=timedOut ∨ ∃ expiry, phase=waiting expiry ∧ expiry≤clock.toNat:=by
  cases phase with
  | waiting expiry=>
    rw [expire] at h
    split at h
    · exact .inr ⟨expiry,rfl,‹_›⟩
    · cases h
  | entering | timedOut | returned service=>exact .inl h

lemma Running.wake (h : phase.Running) : phase.wake.Running:=by
  cases phase with
  | waiting expiry=>exact fun _=>GetPhase.noConfusion
  | entering | timedOut | returned service=>exact h

lemma Running.expire (h : phase.Running) (clock : UInt64) : (phase.expire clock).Running:=by
  cases phase with
  | waiting expiry=>
    rw [GetPhase.expire]
    split
    · exact fun _=>GetPhase.noConfusion
    · exact h
  | entering | timedOut | returned service=>exact h

end GetPhase

lemma ServiceManager.step_of_not_broadcasts {m : ServiceManager} {op : ServiceOp}
    (h : m.broadcasts op=false) : m.step op=m:=by
  cases op with
  | register type name serviceAlloc indexAlloc=>
    have hlisted : m.Listed type name.text:=by simpa [broadcasts] using h
    rw [step,registerService,if_pos hlisted]
  | unregister type service=>cases h

namespace ServiceWait
variable {w : ServiceWait} {s : GetState} {event : GetEvent} {clock : UInt64}

lemma toNat_elapsed (h : w.start≤clock) : (clock-w.start).toNat=clock.toNat-w.start.toNat:=UInt64.toNat_sub_of_le _ _ h

lemma nextPhase_eq_null {found : Option ℕ} (hstart : w.start≤clock)
    (h : w.nextPhase clock found = .returned none) : found=none ∧ w.deadline≤clock.toNat:=by
  cases found with
  | some service=>cases h
  | none=>
    rw [nextPhase] at h
    split at h
    next hel=>
      rw [toNat_elapsed hstart] at hel
      have hle:=UInt64.le_iff_toNat_le.1 hstart
      refine ⟨rfl,?_⟩
      unfold deadline
      omega
    · cases h

lemma nextPhase_eq_waiting {found : Option ℕ} {expiry : ℕ} (hstart : w.start≤clock)
    (h : w.nextPhase clock found = .waiting expiry) : found=none ∧ w.deadline=expiry:=by
  cases found with
  | some service=>cases h
  | none=>
    rw [nextPhase] at h
    split at h
    · cases h
    rename_i hel
    rw [toNat_elapsed hstart] at hel h
    cases h
    have hle:=UInt64.le_iff_toNat_le.1 hstart
    refine ⟨rfl,?_⟩
    unfold deadline
    omega

lemma nextPhase_ne_timedOut (clock : UInt64) (found : Option ℕ) : w.nextPhase clock found ≠ .timedOut:=by
  cases found with
  | some service=>exact GetPhase.noConfusion
  | none=>
    rw [nextPhase]
    split <;> exact GetPhase.noConfusion

structure Waits (w : ServiceWait) (s : GetState) : Prop where
  start_le : w.start ≤ s.clock
  expiry : ∀ expiry, s.phase = .waiting expiry→w.deadline=expiry
  unseen : ∀ expiry, s.phase = .waiting expiry→s.update≠some true→w.indexed s.manager=none
  late : s.phase = .timedOut→w.deadline ≤ s.clock.toNat

lemma waits_enter (w : ServiceWait) (m : ServiceManager) : w.Waits (w.enter m) where
  start_le:=UInt64.le_refl _
  expiry _ h:=GetPhase.noConfusion h
  unseen _ h:=GetPhase.noConfusion h
  late h:=GetPhase.noConfusion h

namespace Waits

section
variable (h : w.Waits s)
include h

lemma advance (now : UInt64) : w.Waits (w.step s (.advance now)) where
  start_le:=UInt64.le_trans h.start_le (le_laterTime _ _)
  expiry:=h.expiry
  unseen:=h.unseen
  late hphase:=(h.late hphase).trans (UInt64.le_iff_toNat_le.1 (le_laterTime _ _))

lemma change (op : ServiceOp) : w.Waits (w.step s (.change op)):=by
  rw [step]
  split
  next hfree=>
    refine ⟨h.start_le,h.expiry,fun e he hquiet=>?_,h.late⟩
    have hbroad:=Bool.eq_false_iff.2 fun hb=>hquiet (congrArg some hb)
    dsimp only
    rw [ServiceManager.step_of_not_broadcasts hbroad]
    exact h.unseen e he (by simp [hfree])
  · exact h

lemma finish : w.Waits (w.step s .finish):=by
  rw [step]
  by_cases hbroadcast : s.update=some true
  · rw [if_pos hbroadcast]
    exact ⟨h.start_le,fun e he=>absurd he (s.phase.wake_ne_waiting e),
      fun e he=>absurd he (s.phase.wake_ne_waiting e),fun he=>h.late (GetPhase.eq_of_wake_eq_timedOut he)⟩
  · rw [if_neg hbroadcast]
    exact ⟨h.start_le,h.expiry,fun e he _=>h.unseen e he hbroadcast,h.late⟩

lemma wake : w.Waits (w.step s .wake) where
  start_le:=h.start_le
  expiry e he:=absurd he (s.phase.wake_ne_waiting e)
  unseen e he:=absurd he (s.phase.wake_ne_waiting e)
  late he:=h.late (GetPhase.eq_of_wake_eq_timedOut he)

lemma expire : w.Waits (w.step s .expire) where
  start_le:=h.start_le
  expiry e he:=h.expiry e (GetPhase.eq_of_expire_eq_waiting he)
  unseen e he:=h.unseen e (GetPhase.eq_of_expire_eq_waiting he)
  late he:=by
    rcases GetPhase.expire_eq_timedOut he with hphase | ⟨expiry,hphase,hle⟩
    · exact h.late hphase
    · exact (h.expiry expiry hphase).le.trans hle

lemma resume (now : UInt64) : w.Waits (w.step s (.resume now)):=by
  rw [step]
  split
  next hfree=>
    split
    · have hstart:=UInt64.le_trans h.start_le (le_laterTime s.clock now)
      exact ⟨hstart,fun e he=>(nextPhase_eq_waiting hstart he).2,
        fun e he _=>(nextPhase_eq_waiting hstart he).1,fun he=>absurd he (nextPhase_ne_timedOut _ _)⟩
    · exact ⟨h.start_le,fun _ he=>GetPhase.noConfusion he,fun _ he=>GetPhase.noConfusion he,
        fun he=>GetPhase.noConfusion he⟩
    · exact h
    · exact h
  · exact h

lemma step (event : GetEvent) : w.Waits (w.step s event):=by
  cases event with
  | advance now=>exact h.advance now
  | change op=>exact h.change op
  | finish=>exact h.finish
  | wake=>exact h.wake
  | expire=>exact h.expire
  | resume now=>exact h.resume now

lemma run (events : List GetEvent) : w.Waits (w.run s events):=by
  induction events generalizing s with
  | nil=>exact h
  | cons event events ih=>exact ih (h.step event)

end
end Waits

lemma running_step (h : s.phase.Running) (hevent : ∀ now, event ≠ .resume now) :
    (w.step s event).phase.Running:=by
  cases event with
  | advance now=>exact h
  | change op=>
    rw [step]
    split <;> exact h
  | finish=>
    rw [step]
    dsimp only
    split
    · exact h.wake
    · exact h
  | wake=>exact h.wake
  | expire=>exact h.expire s.clock
  | resume now=>exact absurd rfl (hevent now)

lemma nullOnlyLate_iff (h : w.Waits s) (event : GetEvent) :
    w.NullOnlyLate s event ↔ w.MissingAtTimeout s event:=by
  by_cases hevent : ∃ now, event = .resume now
  · obtain ⟨now,rfl⟩:=hevent
    constructor
    · intro hnull hfree hphase
      rw [NullOnlyLate,step,if_pos hfree,hphase] at hnull
      exact (hnull (fun _=>GetPhase.noConfusion) rfl).1
    · intro hmissing hrunning hnull
      rw [step] at hnull ⊢
      split at hnull
      next hfree=>
        rw [if_pos hfree]
        split at hnull
        next hphase=>exact nextPhase_eq_null (UInt64.le_trans h.start_le (le_laterTime _ _)) hnull
        next hphase=>exact ⟨hmissing hfree hphase,h.late hphase⟩
        · exact absurd hnull (hrunning none)
        · exact absurd hnull (hrunning none)
      · exact absurd hnull (hrunning none)
  · rw [not_exists] at hevent
    constructor
    · intro _
      cases event with
      | resume now=>exact absurd rfl (hevent now)
      | _=>trivial
    · exact fun _ hrunning hnull=>absurd hnull (running_step hrunning hevent none)

lemma step_returned {service : Option ℕ} (h : s.phase = .returned service) (event : GetEvent) :
    (w.step s event).phase = .returned service:=by
  cases event with
  | advance now=>exact h
  | change op=>
    rw [step]
    split <;> exact h
  | finish=>
    rw [step,h]
    exact ite_self _
  | wake | expire=>
    rw [step,h]
    rfl
  | resume now=>
    rw [step]
    split
    · simp only [h]
    · exact h

lemma run_returned {service : Option ℕ} (h : s.phase = .returned service)
    (events : List GetEvent) : (w.run s events).phase = .returned service:=by
  induction events generalizing s with
  | nil=>exact h
  | cons event events ih=>exact ih (step_returned h event)

lemma step_registered {service : ℕ} (h : w.Waits s) (hrunning : s.phase.Running)
    (hmissing : w.MissingAtTimeout s event) (hfound : w.indexed s.manager=some service) :
    (w.step s event).phase = .returned (some service) ∨
      (w.step s event).phase.Running ∧ ∀ now, event = .resume now→s.update≠none:=by
  by_cases hevent : ∃ now, event = .resume now
  · obtain ⟨now,rfl⟩:=hevent
    by_cases hfree : s.update=none
    · refine .inl ?_
      rw [step,if_pos hfree]
      cases hphase : s.phase with
      | entering=>
        dsimp only
        rw [hfound]
        rfl
      | timedOut=>
        have hnone:=hmissing hfree hphase
        rw [hfound] at hnone
        cases hnone
      | waiting expiry=>
        have hnone:=h.unseen expiry hphase (by simp [hfree])
        rw [hfound] at hnone
        cases hnone
      | returned other=>exact absurd hphase (hrunning other)
    · rw [step,if_neg hfree]
      exact .inr ⟨hrunning,fun _ _=>hfree⟩
  · rw [not_exists] at hevent
    exact .inr ⟨running_step hrunning hevent,fun now he=>absurd he (hevent now)⟩

lemma run_registered {service : ℕ} {events : List GetEvent} (h : w.Waits s)
    (hrunning : s.phase.Running) (hmissing : Along w.step w.MissingAtTimeout s events)
    (hfound : ∀ n, w.indexed (w.run s (events.take n)).manager=some service)
    (hres : ∃ n now, events[n]?=some (.resume now) ∧ (w.run s (events.take n)).update=none) :
    (w.run s events).phase = .returned (some service):=by
  induction events generalizing s with
  | nil=>
    obtain ⟨n,now,hget,-⟩:=hres
    cases hget
  | cons event events ih=>
    rcases step_registered h hrunning hmissing.1 (hfound 0) with hret | ⟨hrun,hblocked⟩
    · exact run_returned hret events
    · refine ih (h.step event) hrun hmissing.2 (fun n=>hfound (n+1)) ?_
      obtain ⟨n,now,hget,hfree⟩:=hres
      cases n with
      | zero=>
        cases hget
        exact absurd hfree (hblocked now rfl)
      | succ n=>exact ⟨n,now,hget,hfree⟩

/-- A call waits exactly when the service is missing whenever its timer has run out. -/
theorem exact_iff_missingAtTimeout (w : ServiceWait) (m : ServiceManager) (events : List GetEvent) :
    w.Exact m events ↔ Along w.step w.MissingAtTimeout (w.enter m) events:=by
  have hnull : Along w.step w.NullOnlyLate (w.enter m) events ↔
      Along w.step w.MissingAtTimeout (w.enter m) events:=
    along_iff_of_invariant w.Waits (fun _ event h _=>h.step event)
      (fun _ event h=>nullOnlyLate_iff h event) (w.waits_enter m) events
  constructor
  · exact fun h=>hnull.1 h.1
  · intro hmissing
    refine ⟨hnull.2 hmissing,fun before after heq service hrunning _ hfound hresume=>?_⟩
    subst heq
    exact run_registered ((w.waits_enter m).run before) hrunning hmissing.append_right hfound hresume

/-- A service registered in time is missed, as the timer runs out before the broadcast. -/
theorem registered_service_missed :
    let name : ServiceName:=⟨CString.ofMemory [97],by decide⟩
    let w : ServiceWait:=⟨name.text,1,0⟩
    let events : List GetEvent:=
      [.resume 0,.change (.register .registration name true true),.advance 1,.expire,.finish, .resume 1]
    (w.run (w.enter (.create true)) (events.take 2)).clock.toNat<w.deadline ∧
      w.indexed (w.run (w.enter (.create true)) (events.take 2)).manager=some 1 ∧
      w.indexed (w.run (w.enter (.create true)) events).manager=some 1 ∧
      (w.run (w.enter (.create true)) events).phase = .returned none ∧
      ¬w.Exact (.create true) events:=by
  intro name w events
  have hindexed : w.indexed (w.run (w.enter (.create true)) events).manager=some 1:=by decide +kernel
  have hreturned : (w.run (w.enter (.create true)) events).phase = .returned none:=by decide +kernel
  have htimedOut : (w.run (w.enter (.create true)) (events.take 5)).phase = .timedOut:=by decide +kernel
  refine ⟨by decide +kernel,by decide +kernel,hindexed,hreturned,?_⟩
  intro h
  have hlast : w.NullOnlyLate (w.run (w.enter (.create true)) (events.take 5)) (.resume 1):=h.1.2.2.2.2.2.1
  have hmissing:=(hlast (by rw [htimedOut]; exact fun _=>GetPhase.noConfusion) hreturned).1
  exact absurd (hindexed.symm.trans hmissing) (by decide)

end ServiceWait
end SoftMessageBus
