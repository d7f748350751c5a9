import SoftMessageBus.SubscriberRuntime

/-!
# Backing off and pending work

A session whose negotiation fails is given a time before which it is not to be tried
again.
-/
namespace SoftMessageBus
open List

def sampleEntity : SubscriberEntity:=
  ⟨(sampleSubscriber sampleTarget).node,defaultQosPolicy, (sampleSubscriber sampleTarget).policyMemory⟩

def sampleSessionCall (requestId : UInt64) (sendResult : ErrorType) : SessionCall:=
  let call : QosCall:=⟨0,0,true⟩
  ⟨requestId,sampleEnvironment,sendResult,call,call,call,call,call,call⟩

def samplePass (requestId : UInt64) (sendResult : ErrorType) : SubscriberEvent:=
  .reconcile true (fun _=>⟨0,0,true⟩) fun _=>sampleSessionCall requestId sendResult

namespace SubscriberRuntime
variable {s : SubscriberRuntime} {handler : ℕ} {session : Session}

lemma clockMs_step {event : SubscriberEvent} (hservice : event.KeepsService) :
    s.clockMs≤(s.step event).clockMs:=by
  cases event with
  | elapse ms=>exact Nat.le_add_right _ ms
  | subscribe | unsubscribe=>cases hservice
  | suback requestId matched=>
    change s.clockMs≤(s.onSuback requestId matched).clockMs
    unfold onSuback
    split <;> exact le_rfl
  | _=>exact le_rfl

variable {events : List SubscriberEvent}

lemma clockMs_le_of_mem_sends (hservice : ∀ event∈events, event.KeepsService) :
    ∀ sub∈s.sends events, s.clockMs ≤ sub.atMs:=by
  induction events generalizing s with
  | nil=>exact fun _ hsub=>absurd hsub not_mem_nil
  | cons event events ih=>
    intro sub hsub
    obtain ⟨hevent,hev⟩:=forall_mem_cons.1 hservice
    rcases mem_append.1 hsub with hsub | hsub
    · exact (atMs_of_mem_sentBy hsub).2.ge
    · exact (clockMs_step hevent).trans (ih hev sub hsub)

lemma handler_ne_of_settled (h : s.WellFormed) (hfind : s.findByHandler handler=some session)
    (hsettled : session.Settled) (hservice : ∀ event∈events, event.KeepsService) :
    ∀ sub∈s.sends events, sub.handler≠handler:=by
  induction events generalizing s session with
  | nil=>exact fun _ hsub=>absurd hsub not_mem_nil
  | cons event events ih=>
    intro sub hsub
    obtain ⟨hevent,hev⟩:=forall_mem_cons.1 hservice
    obtain ⟨⟨next,hnext,hsettled⟩,hnone⟩:=settled_step h hfind hsettled hevent
    rcases mem_append.1 hsub with hsub | hsub
    · exact hnone sub hsub
    · exact ih (h.step event) hnext hsettled hev sub hsub

/-- The first pass of a run comes before a time and can negotiate for a handler. -/
def FirstPassNegotiates (s : SubscriberRuntime) (events : List SubscriberEvent) (handler timeMs : ℕ) : Prop:=
  ∃ before resets calls rest, events=before ++ .reconcile true resets calls::rest ∧
    (∀ event∈before, ¬event.IsPass) ∧ (s.run before).clockMs<timeMs ∧
    (s.run before).Negotiates resets calls handler

lemma firstPassNegotiates_cons_pass {resets : ℕ→QosCall} {calls : ℕ→SessionCall} {timeMs : ℕ} :
    s.FirstPassNegotiates (.reconcile true resets calls::events) handler timeMs ↔
      s.clockMs<timeMs ∧ s.Negotiates resets calls handler:=by
  constructor
  · rintro ⟨before,resets',calls',rest,heq,hquiet,hbefore⟩
    cases before with
    | nil=>
      cases heq
      exact hbefore
    | cons event before=>
      cases heq
      exact absurd trivial (hquiet _ mem_cons_self)
  · intro hnow
    exact ⟨[],resets,calls,events,rfl,fun _ h=>absurd h not_mem_nil,hnow⟩

lemma firstPassNegotiates_cons_quiet {event : SubscriberEvent} (hpass : ¬event.IsPass) {timeMs : ℕ} :
    s.FirstPassNegotiates (event::events) handler timeMs ↔ (s.step event).FirstPassNegotiates events handler timeMs:=by
  constructor
  · rintro ⟨before,resets,calls,rest,heq,hquiet,hbefore⟩
    cases before with
    | nil=>
      cases heq
      exact absurd trivial hpass
    | cons first before=>
      cases heq
      exact ⟨before,resets,calls,rest,rfl,(forall_mem_cons.1 hquiet).2,hbefore⟩
  · rintro ⟨before,resets,calls,rest,rfl,hquiet,hbefore⟩
    exact ⟨event::before,resets,calls,rest,rfl,forall_mem_cons.2 ⟨hpass,hquiet⟩,hbefore⟩

lemma waits_iff (h : s.WellFormed) (hfind : s.findByHandler handler=some session)
    (hretry : session.Retryable) (timeMs : ℕ) (hservice : ∀ event∈events, event.KeepsService) :
    (∀ sub∈s.sends events, sub.handler=handler→timeMs ≤ sub.atMs) ↔ ¬s.FirstPassNegotiates events handler timeMs:=by
  induction events generalizing s session with
  | nil=>
    refine iff_of_true (fun _ hsub=>absurd hsub not_mem_nil) ?_
    rintro ⟨before,resets,calls,rest,heq,-⟩
    simp at heq
  | cons event events ih=>
    obtain ⟨hevent,hev⟩:=forall_mem_cons.1 hservice
    by_cases hpass : event.IsPass
    · obtain ⟨resets,calls,rfl⟩:=hevent.eq_of_isPass hpass
      rw [firstPassNegotiates_cons_pass,not_and]
      constructor
      · intro hwaits hearly hneg
        obtain ⟨message,-,hsent⟩:=sends_of_negotiates h hfind hretry hneg
        exact absurd (hwaits _ (mem_append_left _ hsent) rfl) (Nat.not_le.2 hearly)
      · intro hnot sub hsub hhandler
        by_cases hearly : s.clockMs<timeMs
        · obtain ⟨⟨next,hnext,hsettled⟩,hnone⟩:=settled_of_not_negotiates h hfind hretry (hnot hearly)
          rcases mem_append.1 hsub with hsub | hsub
          · exact absurd hhandler (hnone sub hsub)
          · exact absurd hhandler (handler_ne_of_settled (h.reconcile true resets calls) hnext hsettled hev sub hsub)
        · exact (Nat.not_lt.1 hearly).trans (clockMs_le_of_mem_sends hservice sub hsub)
    · rw [firstPassNegotiates_cons_quiet hpass]
      obtain ⟨next,hnext,hretry,-⟩:=retryable_step h hfind hretry hevent hpass
      rw [← ih (h.step event) hnext hretry hev]
      have hquiet : s.sentBy event=[]:=by
        cases event with
        | reconcile=>exact absurd trivial hpass
        | _=>rfl
      rw [sends,hquiet,nil_append]

/-- A degraded session is left alone until its retry time exactly when no pass comes before that or
it cannot build or track the message. -/
theorem degraded_waits_iff (entity : SubscriberEntity) (history : List SubscriberEvent)
    {session : Session} (hmem : session∈((create entity).run history).sessions)
    (hdegraded : session.state = .degraded) (events : List SubscriberEvent)
    (hservice : ∀ event∈events, event.KeepsService) :
    (∀ sub∈((create entity).run history).sends events,
        sub.handler=session.handler→session.nextRetryAtMs ≤ sub.atMs) ↔
      ¬((create entity).run history).FirstPassNegotiates events session.handler session.nextRetryAtMs:=by
  have hwell:=(wellFormed_create entity).run history
  exact waits_iff hwell ((findByHandler_eq_some_iff hwell).2 ⟨hmem,rfl⟩) (.inr (.inr hdegraded))
    session.nextRetryAtMs hservice

def sampleFailedSend : List SubscriberEvent:=[.subscribe 5 1 0 true 9 true true,samplePass 1 .sendFailed]
def sampleDegraded : SubscriberRuntime:=(create sampleEntity).run sampleFailedSend
def sampleDegradedSession : Session:=⟨0,5,9,1,0,2000,1,true,.degraded⟩

lemma sampleDegraded_sessions : sampleDegraded.sessions=[sampleDegradedSession]:=by decide +kernel

/-- After two seconds, the session is tried again. -/
theorem degraded_waits_twoSeconds :
    sampleDegradedSession∈sampleDegraded.sessions ∧
      ∀ sub∈sampleDegraded.sends [.elapse 2000,samplePass 2 .ok], sub.handler=1 → 2000 ≤ sub.atMs:=by
  have hmem : sampleDegradedSession∈sampleDegraded.sessions:=by
    rw [sampleDegraded_sessions]
    exact mem_singleton_self _
  refine ⟨hmem,(degraded_waits_iff sampleEntity sampleFailedSend hmem rfl
    [.elapse 2000,samplePass 2 .ok] ?_).2 ?_⟩
  · exact forall_mem_cons.2 ⟨trivial,forall_mem_cons.2 ⟨rfl,nofun⟩⟩
  · rw [firstPassNegotiates_cons_quiet id]
    intro hearly
    exact absurd (firstPassNegotiates_cons_pass.1 hearly).1 (by decide +kernel)

/-- A session to be tried again after two seconds is tried after one millisecond. -/
theorem degraded_retried_at_once :
    sampleDegradedSession∈sampleDegraded.sessions ∧ sampleDegraded.clockMs=0 ∧
      (sampleDegraded.sends [.elapse 1,samplePass 2 .ok]).map (fun sub=>(sub.handler,sub.atMs))=[(1,1)]:=by
  rw [sampleDegraded_sessions]
  exact ⟨mem_singleton_self _,by decide +kernel⟩

end SubscriberRuntime

/-! ## What a reconcile pass reports -/

open KeyedSweep StepRuns Option

namespace Session

def Outstanding (session : Session) : Prop:=session.desiredActive=true ∧ ¬session.Settled

def AttemptFails (entity : SubscriberEntity) (available : Bool) (nowMs : ℕ)
    (calls : ℕ→SessionCall) (pass : Pass) (session : Session) : Prop:=
  session.desiredActive=true ∧ available=true ∧ session.Retryable ∧
    session.nextRetryAtMs≤nowMs ∧
    ¬session.Negotiable entity (calls session.handler) pass.qosCtx

section
variable {entity : SubscriberEntity} {available : Bool} {nowMs : ℕ}
  {calls : ℕ→SessionCall} {session : Session} {pass : Pass}

lemma Move.desiredActive_eq {requestId : UInt64} {session next : Session}
    (h : Move requestId session next) : next.desiredActive=session.desiredActive:=by
  cases h <;> rfl

lemma settled_iff {session : Session} : session.Settled ↔
    (session.state != .active && session.state != .failed && session.state != .cancelled)=false:=by
  unfold Settled
  cases session.state <;> simp

lemma noteRemaining_of_settled (h : session.Settled) (pass : Pass) :
    session.noteRemaining nowMs pass=pass:=by
  rw [noteRemaining,settled_iff.1 h]
  rfl

lemma noteRemaining_of_not_settled (h : ¬session.Settled) (pass : Pass) :
    session.noteRemaining nowMs pass=
      {pass with
        pending:=true
        sleepMs:=
          if nowMs<session.nextRetryAtMs then min (session.nextRetryAtMs-nowMs) pass.sleepMs
          else 0}:=by
  rw [settled_iff,Bool.not_eq_false] at h
  rw [noteRemaining,if_pos h]

lemma awaitSuback_pending (call : SessionCall) (session : Session) (pass : Pass)
    (h : (session.awaitSuback entity available nowMs call pass).1.Settled)
    (hwait : session.state = .waitingSuback) :
    (session.awaitSuback entity available nowMs call pass).2.pending=pass.pending:=by
  revert h
  unfold awaitSuback
  split
  · rintro (h | h | h) <;> cases h
  · dsimp only
    split
    · exact fun _=>rfl
    · split
      · exact fun _=>rfl
      · rintro (h | h | h) <;> cases h
    · split
      · cases available <;> rintro (h | h | h) <;> cases h
      · rintro (h | h | h) <;> cases hwait.symm.trans h

lemma Negotiable.not_settled_send {call : SessionCall} (h : session.Negotiable entity call pass.qosCtx) :
    ¬(session.managerSendSubscription entity nowMs call pass).1.Settled:=by
  obtain ⟨message,hbuild⟩:=isSome_iff_exists.1 h.1
  unfold managerSendSubscription
  rw [hbuild]
  simp only [h.2,ne_eq,not_true_eq_false,if_false]
  split
  · rintro (h | h | h) <;> cases h
  · simp only [retryLater,Settled]
    split <;> rintro (h | h | h) <;> cases h

variable (entity nowMs) in
lemma managerSendSubscription_sleepMs (call : SessionCall) (session : Session) (pass : Pass) :
    (session.managerSendSubscription entity nowMs call pass).2.sleepMs=pass.sleepMs:=by
  simp only [managerSendSubscription]
  split
  · rfl
  · split
    · rfl
    · split <;> rfl

variable (entity available nowMs) in
lemma awaitSuback_sleepMs (call : SessionCall) (session : Session) (pass : Pass) :
    (session.awaitSuback entity available nowMs call pass).2.sleepMs=pass.sleepMs:=by
  simp only [awaitSuback]
  split
  · rfl
  · split
    · rfl
    · split <;> rfl
    · split <;> rfl

variable (entity available nowMs) in
lemma reconcileState_sleepMs (call : SessionCall) (session : Session) (pass : Pass) :
    (session.reconcileState entity available nowMs call pass).2.sleepMs=pass.sleepMs:=by
  rcases session.cases_state with hretry | hwait | hsettled
  · rw [reconcileState_of_retryable hretry]
    split
    · dsimp only
      split
      · exact managerSendSubscription_sleepMs entity nowMs call session pass
      · rfl
    · rfl
  · simp only [reconcileState,hwait]
    exact awaitSuback_sleepMs entity available nowMs call session pass
  · rw [reconcileState_of_settled hsettled]

lemma reconcile_of_desired (h : session.desiredActive=true) (calls : ℕ→SessionCall) (pass : Pass) :
    session.reconcile entity available nowMs calls pass=
      ((session.reconcileState entity available nowMs (calls session.handler) pass).1,
        (session.reconcileState entity available nowMs (calls session.handler)
          pass).1.noteRemaining nowMs
          (session.reconcileState entity available nowMs (calls session.handler) pass).2):=
  if_pos h

lemma reconcile_pending_of_outstanding
    (h : (session.reconcile entity available nowMs calls pass).1.Outstanding) :
    (session.reconcile entity available nowMs calls pass).2.pending=true:=by
  have hmove:=session.move_reconcile entity available nowMs calls pass
  have hdes : session.desiredActive=true:=hmove.desiredActive_eq.symm.trans h.1
  have hsettled:=h.2
  rw [reconcile_of_desired hdes] at hsettled ⊢
  rw [noteRemaining_of_not_settled hsettled]

lemma reconcile_pending_of_attemptFails
    (h : session.AttemptFails entity available nowMs calls pass) :
    (session.reconcile entity available nowMs calls pass).2.pending=false:=by
  obtain ⟨hdes,hservice,hretry,hdue,hnot⟩:=h
  rcases managerSendSubscription_cases entity nowMs (calls session.handler) session pass with
    ⟨-,heq,-⟩ | ⟨message,hbuild,htrack,-,-⟩
  · have hstate : (session.managerSendSubscription entity nowMs (calls session.handler)
        pass).1.state = .failed:=congrArg state heq
    rw [reconcile,if_pos hdes,reconcileState_of_retryable hretry,if_pos hservice, if_pos hdue]
    dsimp only
    rw [noteRemaining_of_settled (Or.inr (Or.inl hstate)),hstate]
    rfl
  · exact absurd ⟨isSome_iff_exists.2 ⟨message,hbuild⟩,htrack⟩ hnot

lemma reconcile_pending_of_not
    (hout : ¬(session.reconcile entity available nowMs calls pass).1.Outstanding)
    (hfails : ¬session.AttemptFails entity available nowMs calls pass) :
    (session.reconcile entity available nowMs calls pass).2.pending=pass.pending:=by
  by_cases hdes : session.desiredActive=true
  · have hmove:=session.move_reconcile entity available nowMs calls pass
    have hsettled : (session.reconcile entity available nowMs calls pass).1.Settled:=by
      by_contra hnot
      exact hout ⟨hmove.desiredActive_eq.trans hdes,hnot⟩
    rw [reconcile_of_desired hdes] at hsettled ⊢
    rw [noteRemaining_of_settled hsettled]
    rcases session.cases_state with hretry | hwait | hold
    · rw [reconcileState_of_retryable hretry] at hsettled
      exfalso
      by_cases hsend : available=true ∧ session.nextRetryAtMs≤nowMs
      · rw [if_pos hsend.1,if_pos hsend.2] at hsettled
        refine hfails ⟨hdes,hsend.1,hretry,hsend.2,fun hneg=>?_⟩
        exact hneg.not_settled_send hsettled
      · have hkept : session.Settled:=by
          split at hsettled
          next hservice=>
            rw [if_neg fun hdue=>hsend ⟨hservice,hdue⟩] at hsettled
            exact hsettled
          · exact hsettled
        exact hkept.not_retryable hretry
    · simp only [reconcileState,hwait] at hsettled ⊢
      exact awaitSuback_pending (calls session.handler) session pass hsettled hwait
    · rw [reconcileState_of_settled hold]
  · rw [reconcile,if_neg hdes]

lemma reconcile_sleepMs_le (session : Session) (pass : Pass) :
    (session.reconcile entity available nowMs calls pass).2.sleepMs≤pass.sleepMs:=by
  by_cases hdes : session.desiredActive=true
  · have hstate:=reconcileState_sleepMs entity available nowMs (calls session.handler) session pass
    rw [reconcile_of_desired hdes,← hstate]
    by_cases hsettled : (session.reconcileState entity available nowMs
        (calls session.handler) pass).1.Settled
    · rw [noteRemaining_of_settled hsettled]
    · rw [noteRemaining_of_not_settled hsettled]
      dsimp only
      split
      · exact min_le_right _ _
      · exact Nat.zero_le _
  · rw [reconcile,if_neg hdes]

lemma reconcile_sleepMs_le_remaining
    (h : (session.reconcile entity available nowMs calls pass).1.Outstanding) :
    (session.reconcile entity available nowMs calls pass).2.sleepMs≤
      (session.reconcile entity available nowMs calls pass).1.nextRetryAtMs-nowMs:=by
  have hmove:=session.move_reconcile entity available nowMs calls pass
  have hdes : session.desiredActive=true:=hmove.desiredActive_eq.symm.trans h.1
  have hsettled:=h.2
  rw [reconcile_of_desired hdes] at hsettled ⊢
  rw [noteRemaining_of_not_settled hsettled]
  dsimp only
  split
  · exact min_le_left _ _
  · exact Nat.zero_le _

end
end Session
namespace SubscriberRuntime
variable {s : SubscriberRuntime} {available : Bool} {calls : ℕ→SessionCall}

/-- The pending work and the sleep that a pass returns are exact. -/
def ReportsPendingWork (s : SubscriberRuntime) (available : Bool) (resets : ℕ→QosCall)
    (calls : ℕ→SessionCall) : Prop:=
  let next:=s.reconcile available resets calls
  (next.hasPendingWork=true ↔ ∃ session∈next.sessions, session.Outstanding) ∧
    ∀ session∈next.sessions, session.Outstanding→next.sleepMs ≤ session.nextRetryAtMs-s.clockMs

def passStep (s : SubscriberRuntime) (available : Bool) (calls : ℕ→SessionCall)
    (pass : Pass) (session : Session) : Pass:=
  (session.reconcile s.entity available s.clockMs calls pass).2

/-- One of the sessions that a pass leaves outstanding has no session behind it whose attempt
fails. -/
def LastOutstandingKept (s : SubscriberRuntime) (available : Bool) (calls : ℕ→SessionCall) : Prop:=
  ∃ before session rest, s.sessions=before++session::rest ∧
    (session.reconcile s.entity available s.clockMs calls
      (before.foldl (s.passStep available calls) s.startPass)).1.Outstanding ∧
    Along (s.passStep available calls)
      (fun pass later=>¬later.AttemptFails s.entity available s.clockMs calls pass)
      ((before++[session]).foldl (s.passStep available calls) s.startPass) rest

lemma pending_sweepSessions_iff (s : SubscriberRuntime) (available : Bool) (calls : ℕ→SessionCall) :
    (s.sweepSessions available calls).2.pending=true ↔ s.LastOutstandingKept available calls:=by
  have hflag:=@flag_foldl_iff _ _ (s.passStep available calls) Pass.pending
    (fun pass session=>(session.reconcile s.entity available s.clockMs calls pass).1.Outstanding)
    (fun pass session=>session.AttemptFails s.entity available s.clockMs calls pass)
    (fun _=>True) (fun _ _ _=>trivial)
    (fun _ _ _ h=>Session.reconcile_pending_of_outstanding h)
    (fun _ _ _ h=>Session.reconcile_pending_of_attemptFails h)
    (fun _ _ _ hout hfails=>Session.reconcile_pending_of_not hout hfails)
    s.startPass trivial s.sessions
  rw [sweepSessions,sweep_snd]
  exact hflag.trans (or_iff_right fun h=>Bool.false_ne_true h.1)

lemma mem_sweepSessions_iff {session : Session} :
    session∈(s.sweepSessions available calls).1 ↔
      ∃ before old rest, s.sessions=before++old::rest ∧
        session=(old.reconcile s.entity available s.clockMs calls
          (before.foldl (s.passStep available calls) s.startPass)).1:=by
  rw [sweepSessions,mem_sweep_iff]
  simp only [sweep_snd]
  rfl

lemma sleepMs_sweepSessions_le {session : Session}
    (hmem : session∈(s.sweepSessions available calls).1) (hout : session.Outstanding) :
    (s.sweepSessions available calls).2.sleepMs ≤ session.nextRetryAtMs-s.clockMs:=by
  rw [sweepSessions,mem_sweep_iff] at hmem
  obtain ⟨before,old,rest,heq,rfl⟩:=hmem
  rw [sweepSessions,heq]
  refine le_trans ?_ (Session.reconcile_sleepMs_le_remaining hout)
  exact le_of_sweep (fun session pass=>session.reconcile_sleepMs_le pass)

/-- A pass reports its pending work exactly if no attempt fails behind an outstanding session. -/
theorem reportsPendingWork_iff (s : SubscriberRuntime) (available : Bool)
    (resets : ℕ→QosCall) (calls : ℕ→SessionCall) :
    s.ReportsPendingWork available resets calls ↔
      ((∃ session∈(s.reconcile available resets calls).sessions, session.Outstanding)→
        (s.onServiceChange available resets).LastOutstandingKept available calls):=by
  set changed:=s.onServiceChange available resets with hchanged
  have hpending:=changed.pending_sweepSessions_iff available calls
  constructor
  · rintro ⟨hexact,-⟩ hout
    exact hpending.1 (hexact.2 hout)
  · intro hkept
    refine ⟨⟨?_,fun hout=>hpending.2 (hkept hout)⟩,?_⟩
    · intro hflag
      obtain ⟨before,old,rest,heq,hout,-⟩:=hpending.1 hflag
      exact ⟨_,mem_sweepSessions_iff.2 ⟨before,old,rest,heq,rfl⟩,hout⟩
    · intro session hmem hout
      exact sleepMs_sweepSessions_le (s:=changed) hmem hout

def sampleTwoSessions : SubscriberRuntime:=
  (create sampleEntity).run [.subscribe 5 1 0 true 9 true true,.subscribe 6 2 0 true 10 true true]

def sampleTwoCalls (handler : ℕ) : SessionCall:=
  if handler=2 then {sampleSessionCall 2 .ok with track:=⟨0,0,false⟩}
  else sampleSessionCall 1 .ok

/-- The pass leaves the first session waiting for its answer and reports no pending work. -/
theorem pending_work_lost :
    let next:=sampleTwoSessions.reconcile true (fun _=>⟨0,0,true⟩) sampleTwoCalls
    next.sessions.map Session.state=[.waitingSuback,.failed] ∧
      next.hasPendingWork=false ∧
      ¬sampleTwoSessions.ReportsPendingWork true (fun _=>⟨0,0,true⟩) sampleTwoCalls:=by
  intro next
  have hflag : next.hasPendingWork=false:=by decide +kernel
  refine ⟨by decide +kernel,hflag,?_⟩
  rintro ⟨hexact,-⟩
  have hout : ∃ session∈next.sessions, session.Outstanding:=by
    simp only [Session.Outstanding,Session.Settled]
    decide +kernel
  exact Bool.false_ne_true (hflag.symm.trans (hexact.2 hout))

end SubscriberRuntime

end SoftMessageBus
