import SoftMessageBus.QosContext

/-!
# Waiting for a QoS status

A caller waits until a request has a status, with a timeout.
-/
namespace SoftMessageBus
open List

def qosEntityGetEffectiveWaitTimeoutMs (policy : QosPolicy) : UInt32:=
  if policy.reliabilityEnabled && decide (0<policy.reliability.maxBlockingTimeMs) then
    policy.reliability.maxBlockingTimeMs.toUInt32
  else if policy.deadlineEnabled && decide (0<policy.deadline.deadlineDurationMs) then
    policy.deadline.deadlineDurationMs.toUInt32
  else 5000

def laterTime (a b : UInt64) : UInt64:=if a≤b then b else a

lemma le_laterTime (a b : UInt64) : a≤laterTime a b:=by
  unfold laterTime
  split
  · assumption
  · exact UInt64.le_refl a

/-- A call of `zoo_smb_qos_ctx_wait_for_status`; `start` is its `start_time`. -/
structure QosWait where
  requestId : UInt64
  status : MsgStatus
  timeoutMs : UInt32
  start : UInt64

inductive WaitPhase where
  | entering
  | waiting (expiry : ℕ)
  | returned (result : Bool)
  deriving DecidableEq

def WaitPhase.wake : WaitPhase→WaitPhase
  | waiting _=>entering
  | phase=>phase

def WaitPhase.expire (clock : UInt64) : WaitPhase→WaitPhase
  | waiting expiry=>if expiry≤clock.toNat then returned false else waiting expiry
  | phase=>phase

structure WaitState where
  clock : UInt64
  ctx : QosCtx
  update : Option Bool
  phase : WaitPhase

inductive WaitEvent where
  | advance (now : UInt64)
  | update (now : UInt64) (alloc : Bool) (op : QosOp)
  | finish
  | wake
  | expire
  | check (now : UInt64)

namespace QosWait

def waitMs (policy : QosPolicy) (remaining : ℕ) : ℕ:=
  if policy.reliabilityEnabled && decide (0<policy.reliability.retryIntervalMs) &&
      decide (policy.reliability.retryIntervalMs.toNat < remaining) then
    policy.reliability.retryIntervalMs.toNat
  else remaining

variable (w : QosWait)

/-- The body of the loop of `zoo_smb_qos_ctx_wait_for_status` after pruning. -/
def nextPhase (policy : QosPolicy) (clock : UInt64) (found : Option MsgStatus) : WaitPhase:=
  if found=some w.status then .returned true
  else if found=some .failed ∨ found=some .timeout then .returned false
  else if w.timeoutMs.toNat≤(clock-w.start).toNat then .returned false
  else .waiting (clock.toNat+waitMs policy (w.timeoutMs.toNat-(clock-w.start).toNat))

def found (ctx : QosCtx) : Option MsgStatus:=(ctx.findState w.requestId).map QosState.status

variable (s : WaitState)

def step : WaitEvent→WaitState
  | .advance now=>{s with clock:=laterTime s.clock now}
  | .update now alloc op=>
    let call : QosCall:=⟨s.clock,laterTime s.clock now,alloc⟩
    if s.update=none then
      {s with
        clock:=laterTime s.clock now
        ctx:=s.ctx.perform call op
        update:=some (s.ctx.broadcasts call op)}
    else s
  | .finish=>
    {s with
      update:=none
      phase:=if s.update=some true then s.phase.wake else s.phase}
  | .wake=>{s with phase:=s.phase.wake}
  | .expire=>{s with phase:=s.phase.expire s.clock}
  | .check now=>
    let ctx:=s.ctx.pruneExpired s.clock
    if s.update=none ∧ s.phase = .entering then
      {s with
        clock:=laterTime s.clock now
        ctx:=ctx
        phase:=w.nextPhase ctx.qosPolicy (laterTime s.clock now) (w.found ctx)}
    else s

def enter (ctx : QosCtx) : WaitState:=⟨w.start,ctx,none,.entering⟩
def run (events : List WaitEvent) : WaitState:=events.foldl w.step s

lemma run_append (before after : List WaitEvent) : w.run s (before++after)=w.run (w.run s before) after:=foldl_append

def deadline : ℕ:=w.start.toNat+w.timeoutMs.toNat
def Ended : Prop:=(w.found s.ctx=some .failed ∨ w.found s.ctx=some .timeout) ∧ w.found s.ctx≠some w.status

end QosWait

def QosCtx.after (policy : QosPolicy) (calls : List (QosCall × QosOp)) : QosCtx:=
  calls.foldl (fun ctx call=>ctx.perform call.1 call.2) (QosCtx.create policy)

namespace QosWait
variable (policy : QosPolicy)

/-- The call returns false only when the timeout has passed or the request has failed or timed
out. -/
def FalseOnlyLate (w : QosWait) : Prop:=
  ∀ (calls : List (QosCall × QosOp)) (events : List WaitEvent),
    let s:=w.enter (QosCtx.after policy calls)
    (w.run s events).phase = .returned false→
      w.deadline≤(w.run s events).clock.toNat ∨ ∃ n, w.Ended (w.run s (events.take n))

/-- No false return if the status is set before the deadline and stays. -/
def TrueIfSet (w : QosWait) : Prop:=
  ∀ (calls : List (QosCall × QosOp)) (before after : List WaitEvent),
    let s:=w.enter (QosCtx.after policy calls)
    let s':=w.run s before
    (∀ n, ¬w.Ended (w.run s (before.take n)))→s'.clock.toNat<w.deadline→
      (∀ n, w.found (w.run s' (after.take n)).ctx=some w.status)→(w.run s' after).phase ≠ .returned false

/-- A true return if the status is announced before the deadline and stays. -/
def TrueIfAnnounced (w : QosWait) : Prop:=
  ∀ (calls : List (QosCall × QosOp)) (before after : List WaitEvent),
    let s:=w.enter (QosCtx.after policy calls)
    let s':=w.run s before
    (∀ n, ¬w.Ended (w.run s (before.take n)))→s'.clock.toNat<w.deadline→
      s'.update=none→
      (∀ n, w.found (w.run s' (after.take n)).ctx=some w.status)→
      (∃ n now, after[n]?=some (.check now) ∧ (w.run s' (after.take n)).update=none)→
        (w.run s' after).phase = .returned true

end QosWait

def RetryShorter (policy : QosPolicy) (timeoutMs : UInt32) : Prop:=
  policy.reliabilityEnabled=true ∧ 0<policy.reliability.retryIntervalMs ∧
    policy.reliability.retryIntervalMs.toNat<timeoutMs.toNat

namespace WaitPhase

lemma wake_ne_waiting (phase : WaitPhase) (expiry : ℕ) : phase.wake≠waiting expiry:=by
  cases phase <;> exact WaitPhase.noConfusion

variable {phase : WaitPhase}

lemma eq_of_wake_eq_returned {result : Bool} (h : phase.wake=returned result) : phase=returned result:=by
  cases phase with
  | entering=>cases h
  | waiting expiry=>cases h
  | returned other=>exact h

lemma eq_of_expire_eq_waiting {clock : UInt64} {expiry : ℕ}
    (h : phase.expire clock=waiting expiry) : phase=waiting expiry:=by
  cases phase with
  | entering=>cases h
  | waiting other=>
    rw [expire] at h
    split at h
    · cases h
    · exact h
  | returned result=>cases h

lemma expire_eq_false {clock : UInt64} (h : phase.expire clock=returned false) :
    phase=returned false ∨ ∃ expiry, phase=waiting expiry ∧ expiry≤clock.toNat:=by
  cases phase with
  | entering=>cases h
  | waiting expiry=>
    rw [expire] at h
    split at h
    · exact .inr ⟨expiry,rfl,‹_›⟩
    · cases h
  | returned result=>exact .inl h

end WaitPhase

lemma QosCtx.consistent_after (policy : QosPolicy) (calls : List (QosCall × QosOp)) :
    (QosCtx.after policy calls).Consistent ∧ (QosCtx.after policy calls).qosPolicy=policy:=by
  have hrun : ∀ ctx : QosCtx, ctx.Consistent→ctx.qosPolicy=policy→
      (calls.foldl (fun ctx call=>ctx.perform call.1 call.2) ctx).Consistent ∧
      (calls.foldl (fun ctx call=>ctx.perform call.1 call.2) ctx).qosPolicy=policy:=by
    induction calls with
    | nil=>exact fun ctx hctx hpol=>⟨hctx,hpol⟩
    | cons call calls ih=>
      exact fun ctx hctx hpol=>ih _ (hctx.perform call.1 call.2) ((ctx.qosPolicy_perform call.1 call.2).trans hpol)
  exact hrun _ (QosCtx.consistent_create policy) rfl

namespace QosWait
variable {w : QosWait} {policy : QosPolicy} {reached : Prop} {s : WaitState}

lemma waitMs_eq {timeoutMs : UInt32} (h : ¬RetryShorter policy timeoutMs) {remaining : ℕ}
    (hle : remaining≤timeoutMs.toNat) : waitMs policy remaining=remaining:=by
  unfold waitMs
  split
  next hshort=>
    simp only [Bool.and_eq_true,decide_eq_true_eq] at hshort
    exact absurd ⟨hshort.1.1,hshort.1.2,hshort.2.trans_le hle⟩ h
  · rfl

variable {clock : UInt64}

lemma toNat_elapsed (h : w.start≤clock) : (clock-w.start).toNat=clock.toNat-w.start.toNat:=UInt64.toNat_sub_of_le _ _ h

lemma nextPhase_eq_false {found : Option MsgStatus} (hstart : w.start≤clock)
    (h : w.nextPhase policy clock found = .returned false) :
    (found=some .failed ∨ found=some .timeout) ∧ found≠some w.status ∨ w.deadline≤clock.toNat:=by
  unfold nextPhase at h
  split at h
  · cases h
  rename_i hne
  split at h
  next hended=>exact .inl ⟨hended,hne⟩
  split at h
  next hel=>
    rw [toNat_elapsed hstart] at hel
    have hle:=UInt64.le_iff_toNat_le.1 hstart
    refine .inr ?_
    unfold deadline
    omega
  · cases h

lemma nextPhase_eq_waiting {found : Option MsgStatus} {expiry : ℕ}
    (hretry : ¬RetryShorter policy w.timeoutMs) (hstart : w.start≤clock)
    (h : w.nextPhase policy clock found = .waiting expiry) : found≠some w.status ∧ w.deadline≤expiry:=by
  unfold nextPhase at h
  split at h
  · cases h
  rename_i hne
  split at h
  · cases h
  split at h
  · cases h
  rename_i hel
  refine ⟨hne,?_⟩
  rw [toNat_elapsed hstart] at hel h
  rw [waitMs_eq hretry (Nat.sub_le _ _)] at h
  cases h
  have hle:=UInt64.le_iff_toNat_le.1 hstart
  unfold deadline
  omega

structure Waits (w : QosWait) (policy : QosPolicy) (reached : Prop) (s : WaitState) : Prop where
  start_le : w.start ≤ s.clock
  consistent : s.ctx.Consistent
  qosPolicy : s.ctx.qosPolicy=policy
  expiry : ∀ expiry, s.phase = .waiting expiry→w.deadline≤expiry
  unseen : ∀ expiry, s.phase = .waiting expiry→s.update≠some true→w.found s.ctx≠some w.status
  late : s.phase = .returned false→w.deadline ≤ s.clock.toNat ∨ reached

lemma waits_enter (w : QosWait) (policy : QosPolicy) (reached : Prop)
    (calls : List (QosCall × QosOp)) : w.Waits policy reached (w.enter (.after policy calls)) where
  start_le:=UInt64.le_refl _
  consistent:=(QosCtx.consistent_after policy calls).1
  qosPolicy:=(QosCtx.consistent_after policy calls).2
  expiry _ h:=WaitPhase.noConfusion h
  unseen _ h:=WaitPhase.noConfusion h
  late h:=WaitPhase.noConfusion h

lemma found_of_pruneExpired {ctx : QosCtx} (h : ctx.Consistent) {now : UInt64}
    (hfound : w.found (ctx.pruneExpired now)=some w.status) : w.found ctx=some w.status:=by
  obtain ⟨state,hstate,hstatus⟩:=Option.map_eq_some_iff.1 hfound
  exact Option.map_eq_some_iff.2 ⟨state,h.findState_of_pruneExpired hstate,hstatus⟩

namespace Waits

section
variable (h : w.Waits policy reached s)
include h

lemma late_of_le {clock : UInt64} (hle : s.clock≤clock) (hphase : s.phase = .returned false) :
    w.deadline≤clock.toNat ∨ reached:=
  (h.late hphase).imp_left fun hd=>hd.trans (UInt64.le_iff_toNat_le.1 hle)

lemma advance (now : UInt64) :
    w.Waits policy reached (w.step s (.advance now)) where
  start_le:=UInt64.le_trans h.start_le (le_laterTime _ _)
  consistent:=h.consistent
  qosPolicy:=h.qosPolicy
  expiry:=h.expiry
  unseen:=h.unseen
  late:=h.late_of_le (le_laterTime _ _)

lemma update (now : UInt64) (alloc : Bool) (op : QosOp) :
    w.Waits policy reached (w.step s (.update now alloc op)):=by
  rw [step]
  split
  next hfree=>
    refine ⟨UInt64.le_trans h.start_le (le_laterTime _ _),h.consistent.perform _ op,
      (s.ctx.qosPolicy_perform _ op).trans h.qosPolicy,h.expiry,fun e he hquiet hfound=>?_,
      h.late_of_le (le_laterTime _ _)⟩
    -- a change without a broadcast only prunes
    have hbroadcasts:=Bool.eq_false_iff.2 fun hb=>hquiet (congrArg some hb)
    dsimp only at hfound
    rw [QosCtx.perform_of_not_broadcasts hbroadcasts] at hfound
    exact h.unseen e he (by simp [hfree]) (found_of_pruneExpired h.consistent hfound)
  · exact h

lemma finish : w.Waits policy reached (w.step s .finish):=by
  rw [step]
  refine ⟨h.start_le,h.consistent,h.qosPolicy,fun e he=>?_,fun e he _=>?_,fun he=>?_⟩
  · dsimp only at he
    split at he
    · exact absurd he (s.phase.wake_ne_waiting e)
    · exact h.expiry e he
  · dsimp only at he
    split at he
    · exact absurd he (s.phase.wake_ne_waiting e)
    · exact h.unseen e he ‹_›
  · dsimp only at he
    split at he
    · exact h.late (WaitPhase.eq_of_wake_eq_returned he)
    · exact h.late he

lemma wake : w.Waits policy reached (w.step s .wake) where
  start_le:=h.start_le
  consistent:=h.consistent
  qosPolicy:=h.qosPolicy
  expiry e he:=absurd he (s.phase.wake_ne_waiting e)
  unseen e he:=absurd he (s.phase.wake_ne_waiting e)
  late he:=h.late (WaitPhase.eq_of_wake_eq_returned he)

lemma expire : w.Waits policy reached (w.step s .expire) where
  start_le:=h.start_le
  consistent:=h.consistent
  qosPolicy:=h.qosPolicy
  expiry e he:=h.expiry e (WaitPhase.eq_of_expire_eq_waiting he)
  unseen e he:=h.unseen e (WaitPhase.eq_of_expire_eq_waiting he)
  late he:=by
    rcases WaitPhase.expire_eq_false he with hphase | ⟨expiry,hphase,hle⟩
    · exact h.late hphase
    · exact .inl ((h.expiry expiry hphase).trans hle)

section
variable (hretry : ¬RetryShorter policy w.timeoutMs)
include hretry

lemma check (now : UInt64) (hreached : w.Ended (w.step s (.check now)) → reached) :
    w.Waits policy reached (w.step s (.check now)):=by
  rw [step] at hreached ⊢
  split
  next hent=>
    rw [if_pos hent] at hreached
    have hstart:=UInt64.le_trans h.start_le (le_laterTime s.clock now)
    have hpol:=(s.ctx.qosPolicy_pruneExpired s.clock).trans h.qosPolicy
    refine ⟨hstart,h.consistent.pruneExpired _,hpol,fun e he=>?_,fun e he _=>?_,fun he=>?_⟩
    · exact (nextPhase_eq_waiting (hpol ▸ hretry) hstart he).2
    · exact (nextPhase_eq_waiting (hpol ▸ hretry) hstart he).1
    · exact (nextPhase_eq_false hstart he).symm.imp_right hreached
  · exact h

lemma step (event : WaitEvent) (hreaches : w.Ended (w.step s event) → reached) :
    w.Waits policy reached (w.step s event):=by
  cases event with
  | advance now=>exact h.advance now
  | update now alloc op=>exact h.update now alloc op
  | finish=>exact h.finish
  | wake=>exact h.wake
  | expire=>exact h.expire
  | check now=>exact h.check hretry now hreaches

lemma run (events : List WaitEvent) (hreaches : ∀ n, w.Ended (w.run s (events.take n)) → reached) :
    w.Waits policy reached (w.run s events):=by
  induction events generalizing s with
  | nil=>exact h
  | cons event events ih=>
    exact ih (h.step hretry event (hreaches 1)) fun n=>hreaches (n+1)

end
end
end Waits

lemma step_returned {result : Bool} (h : s.phase = .returned result) (event : WaitEvent) :
    (w.step s event).phase = .returned result:=by
  cases event with
  | advance now=>exact h
  | update now alloc op=>
    rw [step]
    split <;> exact h
  | finish=>
    rw [step,h]
    exact ite_self _
  | wake | expire=>
    rw [step,h]
    rfl
  | check now=>
    rw [step,if_neg (by simp [h])]
    exact h

lemma run_returned {result : Bool} (h : s.phase = .returned result) (events : List WaitEvent) :
    (w.run s events).phase = .returned result:=by
  induction events generalizing s with
  | nil=>exact h
  | cons event events ih=>exact ih (step_returned h event)

lemma step_entering {event : WaitEvent} (h : s.phase = .entering) (hfound : w.found (w.step s event).ctx=some w.status) :
    (w.step s event).phase = .returned true ∨
      (w.step s event).phase = .entering ∧ ∀ now, event = .check now→s.update≠none:=by
  cases event with
  | advance now=>exact .inr ⟨h,by simp⟩
  | update now alloc op=>
    refine .inr ⟨?_,by simp⟩
    rw [step]
    split <;> exact h
  | finish=>
    refine .inr ⟨?_,by simp⟩
    rw [step,h]
    exact ite_self _
  | wake | expire=>
    refine .inr ⟨?_,by simp⟩
    rw [step,h]
    rfl
  | check now=>
    rw [step] at hfound ⊢
    by_cases hfree : s.update=none
    · rw [if_pos ⟨hfree,h⟩] at hfound ⊢
      exact .inl (if_pos hfound)
    · rw [if_neg fun hlook=>hfree hlook.1]
      exact .inr ⟨h,fun _ _=>hfree⟩

variable {events : List WaitEvent}

lemma run_entering (hphase : s.phase = .entering ∨ s.phase = .returned true)
    (hfound : ∀ n, w.found (w.run s (events.take n)).ctx=some w.status)
    (hlook : ∃ n now, events[n]?=some (.check now) ∧ (w.run s (events.take n)).update=none) :
    (w.run s events).phase = .returned true:=by
  induction events generalizing s with
  | nil=>
    obtain ⟨n,now,hget,-⟩:=hlook
    cases hget
  | cons event events ih=>
    rcases hphase with hphase | hphase
    · rcases step_entering hphase (hfound 1) with hreturned | ⟨hent,hblocked⟩
      · exact run_returned hreturned events
      · refine ih (.inl hent) (fun n=>hfound (n+1)) ?_
        obtain ⟨n,now,hget,hfree⟩:=hlook
        cases n with
        | zero=>
          cases hget
          exact absurd hfree (hblocked now rfl)
        | succ n=>exact ⟨n,now,hget,hfree⟩
    · exact run_returned (step_returned hphase event) events

lemma falseOnlyLate_of_not_retryShorter (hretry : ¬RetryShorter policy w.timeoutMs) :
    w.FalseOnlyLate policy:=by
  intro calls events s hphase
  exact ((w.waits_enter policy _ calls).run hretry events fun n hn=>⟨n,hn⟩).late hphase

lemma trueIfAnnounced_of_not_retryShorter (hretry : ¬RetryShorter policy w.timeoutMs) :
    w.TrueIfAnnounced policy:=by
  intro calls before after s s' hended hclock hfree hfound hlook
  have h : w.Waits policy False s':=(w.waits_enter policy False calls).run hretry before hended
  refine run_entering ?_ hfound hlook
  cases hphase : s'.phase with
  | entering=>exact .inl rfl
  | waiting expiry=>
    exact absurd (hfound 0) (h.unseen expiry hphase (by simp [hfree]))
  | returned result=>
    cases result with
    | true=>exact .inr rfl
    | false=>exact absurd ((h.late hphase).resolve_right id) (Nat.not_le.2 hclock)

lemma trueIfSet_of_timeout_zero (hzero : w.timeoutMs=0) : w.TrueIfSet policy:=by
  intro calls before after s s' hended hclock
  have hretry : ¬RetryShorter policy w.timeoutMs:=fun h=>Nat.not_lt_zero _ (hzero ▸ h.2.2)
  have h : w.Waits policy False s':=(w.waits_enter policy False calls).run hretry before hended
  rw [deadline,hzero] at hclock
  exact absurd (UInt64.le_iff_toNat_le.1 h.start_le) (Nat.not_le.2 hclock)

lemma found_of_messages_nil {ctx : QosCtx} (h : ctx.messages=[]) : w.found ctx=none:=by
  rw [found,QosCtx.findState,BucketIndex.lookup,h]
  cases BucketIndex.find qosStateBucketOf ctx.stateIndexBuckets w.requestId <;> rfl

lemma not_ended_of_messages_nil (h : s.ctx.messages=[]) : ¬w.Ended s:=by
  rintro ⟨hended,-⟩
  rw [found_of_messages_nil h] at hended
  rcases hended with hended | hended <;> cases hended

def Quiet (event : WaitEvent) : Prop:=∀ now alloc op, event ≠ .update now alloc op

lemma messages_run_nil (h : s.ctx.messages=[]) (hquiet : ∀ event∈events, Quiet event) :
    (w.run s events).ctx.messages=[]:=by
  induction events generalizing s with
  | nil=>exact h
  | cons event events ih=>
    obtain ⟨hevent,hrest⟩:=forall_mem_cons.1 hquiet
    refine ih ?_ hrest
    cases event with
    | update now alloc op=>exact absurd rfl (hevent now alloc op)
    | check now=>
      rw [step]
      split
      · exact QosCtx.messages_pruneExpired_nil h _
      · exact h
    | _=>exact h

lemma not_ended_of_quiet (h : s.ctx.messages=[]) (hquiet : ∀ event∈events, Quiet event)
    (n : ℕ) : ¬w.Ended (w.run s (events.take n)):=
  not_ended_of_messages_nil (messages_run_nil h fun event he=>hquiet event (mem_of_mem_take he))

lemma not_ended_take {quiet rest : List WaitEvent} (h : s.ctx.messages=[]) (hquiet : ∀ event∈quiet, Quiet event)
    (hset : ∀ n, w.found (w.run s (quiet++rest.take (n+1))).ctx=some w.status) (n : ℕ) :
    ¬w.Ended (w.run s ((quiet++rest).take n)):=by
  rw [take_append]
  cases hn : n-quiet.length with
  | zero=>
    rw [take_zero,append_nil]
    exact not_ended_of_quiet h hquiet n
  | succ m=>
    rw [take_of_length_le (by omega)]
    exact fun hended=>hended.2 (hset m)

lemma laterTime_zero_left (time : UInt64) : laterTime 0 time=time:=if_pos (UInt64.le_iff_toNat_le.2 (Nat.zero_le _))

lemma laterTime_zero_right (time : UInt64) : laterTime time 0=time:=by
  unfold laterTime
  split
  next h=>exact UInt64.le_antisymm (UInt64.le_iff_toNat_le.2 (Nat.zero_le _)) h
  · rfl

def lookedAt (policy : QosPolicy) : QosCtx:=(QosCtx.create policy).pruneExpired 0
def setEvent (w : QosWait) : WaitEvent:=.update 0 true (.setState w.requestId w.status none)

def setAt (w : QosWait) (policy : QosPolicy) (clock : UInt64) : QosCtx:=
  (lookedAt policy).perform ⟨clock,clock,true⟩ (.setState w.requestId w.status none)

lemma run_firstLook (policy : QosPolicy) (hstart : w.start=0) (hpos : 0<w.timeoutMs.toNat) :
    w.run (w.enter (QosCtx.after policy [])) [.check 0]=
      ⟨0,lookedAt policy,none,.waiting (waitMs policy w.timeoutMs.toNat)⟩:=by
  have hfound : w.found (lookedAt policy)=none:=found_of_messages_nil rfl
  rw [enter,hstart,run,foldl_cons,foldl_nil,step,if_pos ⟨rfl,rfl⟩]
  change WaitState.mk (laterTime 0 0) (lookedAt policy) none
    (w.nextPhase policy (laterTime 0 0) (w.found (lookedAt policy)))=_
  rw [hfound,laterTime_zero_left,nextPhase,hstart,if_neg (by simp),if_neg (by simp),if_neg (by simpa using hpos.ne')]
  simp

lemma waitMs_of_retryShorter {timeoutMs : UInt32} (h : RetryShorter policy timeoutMs) :
    waitMs policy timeoutMs.toNat=policy.reliability.retryIntervalMs.toNat:=by
  rw [waitMs,if_pos]
  simp [h.1,h.2.1,h.2.2]

lemma waitMs_pos (policy : QosPolicy) {remaining : ℕ} (h : 0 < remaining) : 0<waitMs policy remaining:=by
  unfold waitMs
  split
  next hshort=>
    simp only [Bool.and_eq_true,decide_eq_true_eq] at hshort
    exact UInt64.lt_iff_toNat_lt.1 hshort.1.2
  · exact h

lemma waitMs_le (policy : QosPolicy) (remaining : ℕ) : waitMs policy remaining≤remaining:=by
  unfold waitMs
  split
  next hshort=>
    simp only [Bool.and_eq_true,decide_eq_true_eq] at hshort
    exact hshort.2.le
  · exact le_rfl

lemma found_setAt (w : QosWait) (policy : QosPolicy) (clock : UInt64) :
    w.found (w.setAt policy clock)=some w.status:=by
  have hnew:=(QosCtx.consistent_create policy).pruneExpired 0
  have hmessages : ((lookedAt policy).pruneExpired clock).messages=[]:=QosCtx.messages_pruneExpired_nil rfl clock
  have hbuckets : ((lookedAt policy).pruneExpired clock).stateIndexBuckets=fun _=>[]:=by
    unfold QosCtx.pruneExpired
    split <;> rfl
  refine (hnew.findState_setState ⟨clock,clock,true⟩ w.requestId w.status none).2
    (.inr ⟨rfl,?_,?_⟩)
  · change ((lookedAt policy).pruneExpired clock).messages.length<_
    rw [hmessages]
    exact QosCtx.capacity_pos _
  · change (((lookedAt policy).pruneExpired clock).stateIndexBuckets _).length<_
    rw [hbuckets]
    exact Nat.zero_lt_succ _

lemma run_setEvent {phase : WaitPhase} (h : w.run s events=⟨clock,lookedAt policy,none,phase⟩) :
    w.run s (events++[w.setEvent])=⟨clock,w.setAt policy clock,some true,phase⟩:=by
  rw [run_append,h,run,foldl_cons,foldl_nil,setEvent,step,if_pos rfl,laterTime_zero_right]
  rfl

section
variable (hstart : w.start=0) (hretry : RetryShorter policy w.timeoutMs)
include hstart hretry

def retryEvents (policy : QosPolicy) : List WaitEvent:=[.check 0,.advance policy.reliability.retryIntervalMs,.expire]

omit hstart hretry in
lemma quiet_retryEvents (policy : QosPolicy) : ∀ event∈retryEvents policy, Quiet event:=by
  simp [retryEvents,Quiet]

lemma run_retryEvents : w.run (w.enter (QosCtx.after policy [])) (retryEvents policy)=
    ⟨policy.reliability.retryIntervalMs,lookedAt policy,none,.returned false⟩:=by
  rw [retryEvents,← singleton_append,run_append,
    run_firstLook policy hstart (Nat.zero_lt_of_lt hretry.2.2),waitMs_of_retryShorter hretry]
  simp only [run,foldl_cons,foldl_nil,step,laterTime_zero_left,WaitPhase.expire, le_refl,if_true]

lemma retryInterval_lt_deadline : policy.reliability.retryIntervalMs.toNat<w.deadline:=by
  rw [deadline,hstart,UInt64.toNat_zero,Nat.zero_add]
  exact hretry.2.2

lemma not_falseOnlyLate : ¬w.FalseOnlyLate policy:=by
  intro h
  have hrun:=run_retryEvents hstart hretry
  rcases h [] (retryEvents policy) (congrArg WaitState.phase hrun) with hlate | ⟨n,hended⟩
  · rw [hrun] at hlate
    exact Nat.not_le.2 (retryInterval_lt_deadline hstart hretry) hlate
  · exact not_ended_of_quiet rfl (quiet_retryEvents policy) n hended

lemma not_trueIfAnnounced : ¬w.TrueIfAnnounced policy:=by
  intro h
  have hfound:=w.found_setAt policy policy.reliability.retryIntervalMs
  have hset:=run_setEvent (run_retryEvents hstart hretry)
  have hfin : w.run (w.enter (QosCtx.after policy []))
      (retryEvents policy++[w.setEvent,.finish])=⟨policy.reliability.retryIntervalMs,
        w.setAt policy policy.reliability.retryIntervalMs,none,.returned false⟩:=by
    rw [append_cons,run_append,hset]
    rfl
  have hret:=h [] (retryEvents policy++[w.setEvent,.finish]) [.check 0]
  simp only [hfin] at hret
  have hfalse:=hret (not_ended_take rfl (quiet_retryEvents policy) fun n=>?_)
    (retryInterval_lt_deadline hstart hretry) trivial (fun n=>?_) ⟨0,0,rfl,rfl⟩
  · rw [run_returned rfl] at hfalse
    cases hfalse
  · cases n with
    | zero=>
      rw [take_succ_cons,take_zero,hset]
      exact hfound
    | succ n=>
      rw [take_succ_cons,take_succ_cons,take_nil,hfin]
      exact hfound
  · -- a call that has returned leaves the context alone
    cases n with
    | zero=>exact hfound
    | succ n=>
      rw [take_succ_cons,take_nil,run,foldl_cons,foldl_nil,step,if_neg (by simp)]
      exact hfound

end

lemma not_trueIfSet (hstart : w.start=0) (hpos : 0<w.timeoutMs.toNat) : ¬w.TrueIfSet policy:=by
  intro h
  obtain ⟨m,hm⟩ : ∃ m, waitMs policy w.timeoutMs.toNat=m+1:=Nat.exists_eq_succ_of_ne_zero (waitMs_pos policy hpos).ne'
  have hle : m+1≤w.timeoutMs.toNat:=hm ▸ waitMs_le policy _
  have hsize : m+1<UInt64.size:=lt_of_le_of_lt hle (w.timeoutMs.toNat_lt.trans (by decide))
  have hlast:=UInt64.toNat_ofNat_of_lt' hsize
  have hbefore:=UInt64.toNat_ofNat_of_lt' (Nat.lt_of_succ_lt hsize)
  have hlook : w.run (w.enter (QosCtx.after policy [])) [.check 0,.advance (UInt64.ofNat m)]=
      ⟨UInt64.ofNat m,lookedAt policy,none,.waiting (m+1)⟩:=by
    rw [← singleton_append,run_append,run_firstLook policy hstart hpos,hm]
    simp only [run,foldl_cons,foldl_nil,step,laterTime_zero_left]
  have hfound:=w.found_setAt policy (UInt64.ofNat m)
  have hset:=run_setEvent hlook
  have hret:=h [] ([.check 0,.advance (UInt64.ofNat m)]++[w.setEvent]) [.advance (UInt64.ofNat (m+1)),.expire]
  simp only [hset] at hret
  refine hret (not_ended_take rfl (by simp [Quiet]) fun n=>?_) ?_ (fun n=>?_) ?_
  · rw [take_succ_cons,take_nil,hset]
    exact hfound
  · rw [hbefore,deadline]
    omega
  · match n with
    | 0=>exact hfound
    | 1=>exact hfound
    | n+2=>
      rw [take_of_length_le (by simp)]
      exact hfound
  · have hlater : laterTime (UInt64.ofNat m) (UInt64.ofNat (m+1))=UInt64.ofNat (m+1):=
      if_pos (UInt64.le_iff_toNat_le.2 (by omega))
    simp only [run,foldl_cons,foldl_nil,step,hlater,WaitPhase.expire,hlast,le_refl,if_true]

/-- The call keeps to its timeout exactly if the retry interval does not cut it short. -/
theorem waitForStatus_iff (policy : QosPolicy) (requestId : UInt64) (status : MsgStatus) (timeoutMs : UInt32) :
    ((∀ start, FalseOnlyLate policy ⟨requestId,status,timeoutMs,start⟩) ↔ ¬RetryShorter policy timeoutMs) ∧
    ((∀ start, TrueIfAnnounced policy ⟨requestId,status,timeoutMs,start⟩) ↔ ¬RetryShorter policy timeoutMs) ∧
    ((∀ start, TrueIfSet policy ⟨requestId,status,timeoutMs,start⟩) ↔ timeoutMs=0):=by
  refine ⟨⟨?_,?_⟩,⟨?_,?_⟩,?_,?_⟩
  · exact fun h hretry=>not_falseOnlyLate rfl hretry (h 0)
  · exact fun hretry _=>falseOnlyLate_of_not_retryShorter hretry
  · exact fun h hretry=>not_trueIfAnnounced rfl hretry (h 0)
  · exact fun hretry _=>trueIfAnnounced_of_not_retryShorter hretry
  · intro h
    by_contra hne
    refine not_trueIfSet rfl (Nat.pos_of_ne_zero fun hzero=>hne ?_) (h 0)
    exact UInt32.toNat_inj.1 hzero
  · exact fun hzero _=>trueIfSet_of_timeout_zero hzero

/-- With the default policy a wait of five seconds gives up after one. -/
theorem default_wait_gives_up :
    let w : QosWait:=⟨5,.acked,qosEntityGetEffectiveWaitTimeoutMs defaultQosPolicy,0⟩
    let s:=w.run (w.enter (QosCtx.create defaultQosPolicy)) [.check 0,.advance 1000,.expire]
    w.timeoutMs=5000 ∧ s.clock=1000 ∧ s.phase = .returned false ∧ w.found s.ctx=none:=by
  decide +kernel

end QosWait
end SoftMessageBus
