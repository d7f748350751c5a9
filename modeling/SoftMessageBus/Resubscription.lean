import SoftMessageBus.PendingWork

/-!
# Subscribing again

A subscription with a known handler changes the session of the handler.
-/
namespace SoftMessageBus
open KeyedSweep StepRuns List

namespace Session

def KeepsRequest (session next : Session) : Prop:=
  (next.requestId=0 ∧ next.state ≠ .waitingSuback) ∨
    (next.requestId=session.requestId ∧ (next.state = .waitingSuback→session.state = .waitingSuback))

lemma KeepsRequest.trans {first second third : Session} (h₁ : first.KeepsRequest second)
    (h₂ : second.KeepsRequest third) : first.KeepsRequest third:=by
  rcases h₂ with h₂ | ⟨hid,hwait⟩
  · exact .inl h₂
  · rcases h₁ with ⟨hzero,hnot⟩ | ⟨hid₁,hwait₁⟩
    · exact .inl ⟨hid.trans hzero,fun h=>hnot (hwait h)⟩
    · exact .inr ⟨hid.trans hid₁,fun h=>hwait₁ (hwait h)⟩

lemma Move.keepsRequest {requestId : UInt64} {session next : Session}
    (h : Move requestId session next) : session.KeepsRequest next ∨ next.requestId=requestId:=by
  cases h with
  | wait retryAttempts nextRetryAtMs=>exact .inr rfl
  | schedule nextRetryAtMs hinit=>exact .inl (.inr ⟨rfl,fun h=>h⟩)
  | release state retryAttempts nextRetryAtMs hinit hwait hcancel=>exact .inl (.inl ⟨rfl,hwait⟩)
  | answer state retryAttempts nextRetryAtMs hstate=>
    refine .inl (.inr ⟨rfl,fun hwait=>?_⟩)
    rcases hstate with rfl | rfl <;> cases hwait

lemma keepsRequest_onServiceChange (entity : SubscriberEntity) (available : Bool)
    (nowMs : ℕ) (resets : ℕ→QosCall) (session : Session) (pass : QosCtx × Bool) :
    session.KeepsRequest (session.onServiceChange entity available nowMs resets pass).1:=by
  unfold onServiceChange
  split
  · split
    · split <;> exact .inr ⟨rfl,fun h=>h⟩
    · split
      next hfailed=>exact .inl ⟨rfl,by rw [resetRequest,hfailed]; nofun⟩
      · exact .inl ⟨rfl,nofun⟩
  · exact .inr ⟨rfl,fun h=>h⟩

end Session
def SubscriberEvent.newRequestId : SubscriberEvent→ℕ→Option UInt64
  | .reconcile _ _ calls, handler=>some (calls handler).requestId
  | _, _=>none
namespace SubscriberRuntime

section
variable (s : SubscriberRuntime)

/-- `zoo_generate_uuid64` returns identifiers that are not in use. -/
def FreshRequestIds (event : SubscriberEvent) : Prop:=
  ∀ session∈s.sessions, ∀ requestId, event.newRequestId session.handler=some requestId→
    requestId≠0 ∧ ∀ other∈s.sessions, other.requestId≠requestId ∧
      (event.newRequestId other.handler=some requestId → other.handler=session.handler)

structure Identified (s : SubscriberRuntime) : Prop where
  waiting : ∀ session∈s.sessions, session.state = .waitingSuback→session.requestId≠0
  distinct : ∀ session∈s.sessions, ∀ other∈s.sessions, session.requestId≠0→
    session.requestId=other.requestId→session.handler=other.handler

lemma identified_create (entity : SubscriberEntity) : (create entity).Identified:=
  ⟨fun _ h=>absurd h not_mem_nil,fun _ h=>absurd h not_mem_nil⟩

def TracesRequests (s next : SubscriberRuntime) (event : SubscriberEvent) : Prop:=
  ∀ session∈next.sessions, (session.requestId=0 ∧ session.state ≠ .waitingSuback) ∨
    ∃ old∈s.sessions, session.handler=old.handler ∧
      (old.KeepsRequest session ∨ event.newRequestId old.handler=some session.requestId)

lemma Identified.of_tracesRequests {s next : SubscriberRuntime} {event : SubscriberEvent}
    (h : s.Identified) (hfresh : s.FreshRequestIds event) (htraces : s.TracesRequests next event) : next.Identified:=by
  constructor
  · intro session hmem hwait
    rcases htraces session hmem with ⟨-,hnot⟩ | ⟨old,hold,-,hkeeps | hnew⟩
    · exact absurd hwait hnot
    · rcases hkeeps with ⟨-,hnot⟩ | ⟨hid,hwaited⟩
      · exact absurd hwait hnot
      · exact hid ▸ h.waiting old hold (hwaited hwait)
    · exact (hfresh old hold session.requestId hnew).1
  · intro session hmem other hmemO hne heq
    rcases htraces session hmem with ⟨hzero,-⟩ | ⟨old,hold,hhandler,hkeeps⟩
    · exact absurd hzero hne
    rcases htraces other hmemO with ⟨hzero,-⟩ | ⟨old',hold',hhandler',hkeeps'⟩
    · exact absurd (heq.trans hzero) hne
    rw [hhandler,hhandler']
    -- a request that is not kept is new, and differs from every request that is kept
    rcases hkeeps with (⟨hzero,-⟩ | ⟨hid,-⟩) | hnew
    · exact absurd hzero hne
    · rcases hkeeps' with (⟨hzero,-⟩ | ⟨hid',-⟩) | hnew'
      · exact absurd (heq.trans hzero) hne
      · exact h.distinct old hold old' hold' (hid ▸ hne) (hid ▸ hid' ▸ heq)
      · exact absurd (hid.symm.trans heq) ((hfresh old' hold' _ hnew').2 old hold).1
    · rcases hkeeps' with (⟨hzero,-⟩ | ⟨hid',-⟩) | hnew'
      · exact absurd (heq.trans hzero) hne
      · exact absurd (hid'.symm.trans heq.symm) ((hfresh old hold _ hnew).2 old' hold').1
      · exact (((hfresh old' hold' _ hnew').2 old hold).2 (heq ▸ hnew))

lemma tracesRequests_modifySession {s : SubscriberRuntime} {handler : ℕ}
    {f : Session→Session} (hhandler : ∀ session, (f session).handler=session.handler)
    (hkeeps : ∀ session : Session, session.KeepsRequest (f session))
    (event : SubscriberEvent) : s.TracesRequests (s.modifySession handler f) event:=by
  intro session hmem
  obtain ⟨old,hold,rfl⟩:=List.mem_map.1 hmem
  refine .inr ⟨old,hold,?_⟩
  split
  · exact ⟨hhandler old,.inl (hkeeps old)⟩
  · exact ⟨rfl,.inl (.inr ⟨rfl,fun h=>h⟩)⟩

lemma tracesRequests_of_subset {s next : SubscriberRuntime}
    (h : ∀ session∈next.sessions, session∈s.sessions) (event : SubscriberEvent) :
    s.TracesRequests next event:=
  fun session hmem=>.inr ⟨session,h session hmem,rfl,.inl (.inr ⟨rfl,fun h=>h⟩)⟩

lemma tracesRequests_subscribeMessage (msgId : UInt32)
    (handler usrData : ℕ) (withHandle : Bool) (id : UInt32) (available alloc : Bool) (event : SubscriberEvent) :
    s.TracesRequests (s.subscribeMessage msgId handler usrData withHandle id available alloc) event:=by
  unfold subscribeMessage registerSession
  split
  · exact tracesRequests_of_subset (fun _ h=>h) event
  · split
    · split
      · exact tracesRequests_modifySession (s:=s)
          (f:=fun session=>{session with desiredActive:=true}) (fun _=>rfl)
          (fun _=>.inr ⟨rfl,fun h=>h⟩) event
      · exact tracesRequests_of_subset (fun _ h=>h) event
    · split
      next registered hreg=>
        split at hreg
        · split at hreg
          · cases hreg
            exact tracesRequests_modifySession (s:=s)
              (f:=fun session=>{session with
                usrData:=usrData, msgId:=msgId, desiredActive:=true})
              (fun _=>rfl) (fun _=>.inr ⟨rfl,fun h=>h⟩) event
          · split at hreg
            · cases hreg
              intro session hmem
              rcases mem_append.1 hmem with hmem | hmem
              · exact tracesRequests_of_subset (fun _ h=>h) event session hmem
              · rw [mem_singleton.1 hmem]
                exact .inl ⟨rfl,by cases available <;> nofun⟩
            · cases hreg
        · cases hreg
      · exact tracesRequests_of_subset (fun _ h=>h) event

lemma tracesRequests_onServiceChange (available : Bool) (resets : ℕ→QosCall) (event : SubscriberEvent) :
    s.TracesRequests (s.onServiceChange available resets) event:=by
  intro session hmem
  obtain ⟨old,hold,pass,rfl⟩:=exists_of_mem_sweep hmem
  exact .inr ⟨old,hold,(Session.move_onServiceChange s.entity available s.clockMs 0
    resets old pass).handler_eq,.inl (Session.keepsRequest_onServiceChange s.entity
      available s.clockMs resets old pass)⟩

lemma tracesRequests_step (event : SubscriberEvent) : s.TracesRequests (s.step event) event:=by
  cases event with
  | elapse ms=>exact tracesRequests_of_subset (fun _ h=>h) _
  | subscribe msgId handler usrData withHandle id available alloc=>
    exact s.tracesRequests_subscribeMessage msgId handler usrData withHandle id available alloc _
  | unsubscribe id reset=>
    refine tracesRequests_of_subset (fun session hmem=>?_) _
    change session∈(s.unsubscribeMessage id reset).sessions at hmem
    unfold unsubscribeMessage at hmem
    split at hmem
    · exact hmem
    · exact mem_of_mem_eraseP hmem
  | serviceChange isOnline resets=>exact s.tracesRequests_onServiceChange isOnline resets _
  | negotiated requestId matched incompatibilityMask store mark=>
    exact tracesRequests_of_subset (fun _ h=>h) _
  | suback requestId matched=>
    change s.TracesRequests (s.onSuback requestId matched) _
    unfold onSuback
    split
    · exact tracesRequests_of_subset (fun _ h=>h) _
    · refine tracesRequests_modifySession (fun session=>(session.move_onSuback 0 matched).handler_eq) (fun session=>?_) _
      refine .inr ⟨by cases matched <;> rfl,fun hwait=>?_⟩
      rcases session.settled_onSuback matched with h | h | h <;> rw [h] at hwait <;> cases hwait
  | reconcile available resets calls=>
    intro session hmem
    obtain ⟨changed,hchanged,pass,rfl⟩:=exists_of_mem_sweep hmem
    obtain ⟨old,hold,pass',rfl⟩:=exists_of_mem_sweep hchanged
    have hhandler:=(Session.move_onServiceChange s.entity available s.clockMs 0 resets old pass').handler_eq
    have hmove:=Session.move_reconcile s.entity available s.clockMs calls
      (old.onServiceChange s.entity available s.clockMs resets pass').1 pass
    refine .inr ⟨old,hold,hmove.handler_eq.trans hhandler,?_⟩
    rcases hmove.keepsRequest with hkeeps | hnew
    · exact .inl ((Session.keepsRequest_onServiceChange s.entity available s.clockMs
        resets old pass').trans hkeeps)
    · refine .inr (congrArg some ?_)
      rw [hhandler] at hnew
      exact hnew.symm

lemma Identified.run {s : SubscriberRuntime} (h : s.Identified) {events : List SubscriberEvent}
    (hfresh : Along step FreshRequestIds s events) : (s.run events).Identified:=by
  induction events generalizing s with
  | nil=>exact h
  | cons event events ih=>
    exact ih (h.of_tracesRequests hfresh.1 (s.tracesRequests_step event)) hfresh.2

lemma findByHandler_resubscribe {s : SubscriberRuntime} (h : s.WellFormed)
    {session : Session} (hmem : session∈s.sessions) {msgId : UInt32}
    (hmsg : msgId≠session.msgId) (usrData : ℕ) (id : UInt32) (alloc : Bool) :
    (s.step (.subscribe msgId session.handler usrData true id true alloc)).findByHandler
        session.handler=
      some {session with usrData:=usrData, msgId:=msgId, desiredActive:=true} ∧
    (s.step (.subscribe msgId session.handler usrData true id true alloc)).reconcileRequested=true:=by
  have hfind:=(findByHandler_eq_some_iff h).2 ⟨hmem,rfl⟩
  have hhas : s.hasSession msgId session.handler=false:=by
    rw [hasSession,hfind]
    simpa using fun heq=>hmsg heq.symm
  have hstep : s.step (.subscribe msgId session.handler usrData true id true alloc)=
      (s.modifySession session.handler fun session=>
        {session with usrData:=usrData, msgId:=msgId, desiredActive:=true }).requestReconcile true:=by
    rw [step,subscribeMessage,if_neg (h.sound session hmem).handled,hhas,
      if_neg Bool.false_ne_true,registerSession,if_pos rfl,hfind]
  rw [hstep]
  refine ⟨?_,Bool.or_true _⟩
  have hmod:=findByHandler_modifySession (f:=fun session=>
    {session with usrData:=usrData, msgId:=msgId, desiredActive:=true}) (fun _=>rfl) s
    session.handler session.handler
  rw [hfind,Option.map_some,if_pos rfl] at hmod
  exact hmod

variable (schedule : ℕ→SubscriberEvent)

def Fair : Prop:=
  ∀ n, (stateAt step s schedule n).reconcileRequested=true ∨
      (stateAt step s schedule n).hasPendingWork=true→
    ∃ m, n ≤ m ∧ (schedule m).IsPass

def Served (handler : ℕ) : Prop:=
  ∀ n resets calls, schedule n = .reconcile true resets calls→
    ∀ session, (stateAt step s schedule n).findByHandler handler=some session→
      session.Retryable→(stateAt step s schedule n).Negotiates resets calls handler

def EventuallySends (handler : ℕ) (msgId : UInt32) : Prop:=
  ∃ n, ∃ sub∈(stateAt step s schedule n).sentBy (schedule n), sub.handler=handler ∧
    sub.message.header.msgType=MsgType.sub.code ∧ sub.message.header.msgId=msgId

end
section
variable {s : SubscriberRuntime} {handler : ℕ} {session : Session} {schedule : ℕ→SubscriberEvent}

lemma wellFormed_stateAt (h : s.WellFormed) (n : ℕ) : (stateAt step s schedule n).WellFormed:=by
  induction n with
  | zero=>exact h
  | succ n ih=>exact ih.step (schedule n)

def HasRequest (handler : ℕ) (msgId : UInt32) (s : SubscriberRuntime) : Prop:=
  s.WellFormed ∧ ∃ session, s.findByHandler handler=some session ∧ session.Retryable ∧ session.msgId=msgId

lemma HasRequest.step {msgId : UInt32} (h : s.HasRequest handler msgId) {event : SubscriberEvent}
    (hevent : ¬(event.IsPass ∨ ¬event.KeepsService)) : (s.step event).HasRequest handler msgId:=by
  rw [not_or,not_not] at hevent
  obtain ⟨hwell,session,hfind,hretry,hmsg⟩:=h
  obtain ⟨next,hnext,hretry,hmsg'⟩:=retryable_step hwell hfind hretry hevent.2 hevent.1
  exact ⟨hwell.step event,next,hnext,hretry,hmsg'.trans hmsg⟩

lemma HasRequest.eventuallySends {msgId : UInt32} (h : s.HasRequest handler msgId)
    (hrequested : s.reconcileRequested=true) (hservice : ∀ n, (schedule n).KeepsService)
    (hfair : s.Fair schedule) (hserved : s.Served schedule handler) :
    s.EventuallySends schedule handler msgId:=by
  obtain ⟨m,-,hpass⟩:=hfair 0 (.inl hrequested)
  have hstart : (stateAt SubscriberRuntime.step s schedule 0).HasRequest handler msgId:=h
  -- the session keeps its request until the first pass
  obtain ⟨n,-,hnext,hwell,session,hfind,hretry,hmsg⟩:=
    holds_at_next (R:=HasRequest handler msgId) hstart (fun _ _ ht hevent=>ht.step hevent) ⟨m,Nat.zero_le m,.inl hpass⟩
  obtain ⟨resets,calls,heq⟩:=(hservice n).eq_of_isPass (hnext.resolve_right (not_not_intro (hservice n)))
  obtain ⟨message,hbuild,hsent⟩:=sends_of_negotiates hwell hfind hretry (hserved n resets calls heq session hfind hretry)
  have hcreated:=created_of_createMessage hbuild
  exact ⟨n,_,heq ▸ hsent,rfl,hcreated.msgType,hcreated.msgId.trans hmsg⟩

lemma settled_from (h : s.WellFormed) (hservice : ∀ n, (schedule n).KeepsService) {m : ℕ}
    (hfind : (stateAt step s schedule m).findByHandler handler=some session) (hsettled : session.Settled) {n : ℕ} (hn : m≤n) :
    ∃ next, (stateAt step s schedule n).findByHandler handler=some next ∧ next.Settled:=by
  refine holds_from (R:=fun t : SubscriberRuntime=>
    ∃ next, t.findByHandler handler=some next ∧ next.Settled) ⟨session,hfind,hsettled⟩ ?_ hn
  rintro n - ⟨next,hnext,hsettled⟩
  exact (settled_step (wellFormed_stateAt h n) hnext hsettled (hservice n)).1

lemma not_eventuallySends_of_settled (h : s.WellFormed)
    (hfind : s.findByHandler handler=some session) (hsettled : session.Settled)
    (hservice : ∀ n, (schedule n).KeepsService) (msgId : UInt32) : ¬s.EventuallySends schedule handler msgId:=by
  rintro ⟨n,sub,hsub,hhandler,-⟩
  obtain ⟨next,hnext,hsettled⟩:=settled_from h hservice (m:=0) hfind hsettled (Nat.zero_le n)
  exact (settled_step (wellFormed_stateAt h n) hnext hsettled (hservice n)).2 sub hsub hhandler

def answeredSchedule (requestId : UInt64) : ℕ→SubscriberEvent
  | 0=>.negotiated requestId true 0 ⟨0,0,true⟩ ⟨0,0,true⟩
  | 1=>.suback requestId true
  | _+2=>samplePass 1 .ok

lemma answeredSchedule_keepsService (requestId : UInt64) (n : ℕ) :
    (answeredSchedule requestId n).KeepsService:=by
  match n with
  | 0=>trivial
  | 1=>trivial
  | _+2=>rfl

section
variable (h : s.WellFormed) (hids : s.Identified) (hfind : s.findByHandler handler=some session)
include h hids hfind

lemma settled_suback (hwait : session.state = .waitingSuback) :
    ∃ next, (s.onSuback session.requestId true).findByHandler handler=some next ∧ next.Settled:=by
  obtain ⟨hmem,hhandler⟩:=(findByHandler_eq_some_iff h).1 hfind
  have hreq:=hids.waiting session hmem hwait
  have hanswered : ∃ answered, s.findByRequestId session.requestId=some answered:=by
    rw [findByRequestId,if_neg hreq,← Option.isSome_iff_exists,find?_isSome]
    exact ⟨session,hmem,by simp⟩
  obtain ⟨answered,hanswered⟩:=hanswered
  have hsame : handler=answered.handler:=by
    rw [findByRequestId,if_neg hreq] at hanswered
    have hid : answered.requestId=session.requestId:=by simpa using find?_some hanswered
    rw [← hhandler]
    exact hids.distinct session hmem answered (mem_of_find?_eq_some hanswered) hreq hid.symm
  refine ⟨session.onSuback true,?_,session.settled_onSuback true⟩
  rw [onSuback,hanswered]
  dsimp only
  rw [findByHandler_modifySession fun session=>(session.move_onSuback 0 true).handler_eq,hfind,
    Option.map_some,if_pos hsame]

lemma settled_answered (hnot : ¬session.Retryable) :
    ∃ next, (stateAt step s (answeredSchedule session.requestId) 2).findByHandler handler=some next ∧ next.Settled:=by
  have hservice:=answeredSchedule_keepsService session.requestId
  rcases session.cases_state with hretry | hwait | hsettled
  · exact absurd hretry hnot
  · exact settled_suback (s:=s.step (answeredSchedule session.requestId 0)) (h.step _)
      ⟨hids.waiting,hids.distinct⟩ hfind hwait
  · exact settled_from h hservice (m:=0) hfind hsettled (Nat.zero_le 2)

lemma exists_silent_schedule (hnot : ¬session.Retryable) (msgId : UInt32) :
    ∃ schedule : ℕ→SubscriberEvent, (∀ n, (schedule n).KeepsService) ∧ s.Fair schedule ∧
      s.Served schedule handler ∧ ¬s.EventuallySends schedule handler msgId:=by
  have hservice:=answeredSchedule_keepsService session.requestId
  obtain ⟨settled,hsettles,hsettled⟩:=settled_answered h hids hfind hnot
  refine ⟨answeredSchedule session.requestId,hservice,?_,?_,?_⟩
  · exact fun n _=>⟨n+2,Nat.le_add_right n 2,trivial⟩
  · intro n resets calls heq found hfound hretry
    match n with
    | 0=>cases heq
    | 1=>cases heq
    | n+2=>
      obtain ⟨next,hnext,hsettled⟩:=settled_from h hservice hsettles hsettled (Nat.le_add_left 2 n)
      rw [hnext,Option.some_inj] at hfound
      exact absurd (hfound ▸ hretry) hsettled.not_retryable
  · rintro ⟨n,sub,hsub,hhandler,-⟩
    match n with
    | 0=>exact absurd hsub not_mem_nil
    | 1=>exact absurd hsub not_mem_nil
    | n+2=>
      obtain ⟨next,hnext,hsettled⟩:=settled_from h hservice hsettles hsettled (Nat.le_add_left 2 n)
      exact (settled_step (wellFormed_stateAt h (n+2)) hnext hsettled (hservice (n+2))).2 sub hsub hhandler

end
end

/-- A second subscription leads to a SUB message exactly when the session waits. -/
theorem resubscribe_renegotiates_iff (entity : SubscriberEntity) (history : List SubscriberEvent)
    (hfresh : Along step FreshRequestIds (create entity) history) {session : Session}
    (hmem : session∈((create entity).run history).sessions) {msgId : UInt32}
    (hmsg : msgId≠session.msgId) (usrData : ℕ) (id : UInt32) (alloc : Bool) :
    (∀ schedule : ℕ→SubscriberEvent,
      let s:=((create entity).run history).step
        (.subscribe msgId session.handler usrData true id true alloc)
      (∀ n, (schedule n).KeepsService)→s.Fair schedule→s.Served schedule session.handler→
        s.EventuallySends schedule session.handler msgId) ↔ session.Retryable:=by
  have hwell:=(wellFormed_create entity).run history
  have hids : (((create entity).run history).step
      (.subscribe msgId session.handler usrData true id true alloc)).Identified:=by
    refine ((identified_create entity).run hfresh).of_tracesRequests ?_ (tracesRequests_step _ _)
    exact fun _ _ _ hnew=>nomatch hnew
  obtain ⟨hfind,hrequested⟩:=findByHandler_resubscribe hwell hmem hmsg usrData id alloc
  have hwell':=hwell.step (.subscribe msgId session.handler usrData true id true alloc)
  constructor
  · intro halways
    by_contra hnot
    obtain ⟨schedule,hservice,hfair,hserved,hsilent⟩:=exists_silent_schedule hwell' hids hfind hnot msgId
    exact hsilent (halways schedule hservice hfair hserved)
  · intro hretry schedule s hservice hfair hserved
    exact HasRequest.eventuallySends ⟨hwell',_,hfind,hretry,rfl⟩ hrequested hservice hfair hserved

/-- A degraded session renegotiates. -/
theorem resubscribe_renegotiates_degraded :
    sampleDegradedSession∈sampleDegraded.sessions ∧ ∀ schedule : ℕ→SubscriberEvent,
      let s:=sampleDegraded.step (.subscribe 6 1 0 true 9 true true)
      (∀ n, (schedule n).KeepsService)→s.Fair schedule→s.Served schedule 1→s.EventuallySends schedule 1 6:=by
  have hmem : sampleDegradedSession∈sampleDegraded.sessions:=by
    rw [sampleDegraded_sessions]
    exact mem_singleton_self _
  refine ⟨hmem,(resubscribe_renegotiates_iff sampleEntity sampleFailedSend ⟨?_,?_,trivial⟩ hmem
    (by decide) 0 9 true).2 (.inr (.inr rfl))⟩
  · exact fun _ hnone=>absurd hnone not_mem_nil
  · intro session hsession requestId hnew
    have hsessions : ((create sampleEntity).step (.subscribe 5 1 0 true 9 true true)).sessions=
        [⟨0,5,9,1,0,0,0,true,.init⟩]:=by decide +kernel
    have hrequest : requestId=1:=(Option.some.inj hnew).symm
    refine ⟨by rw [hrequest]; decide,fun other hother=>?_⟩
    rw [hsessions,mem_singleton] at hsession hother
    rw [hsession,hother,hrequest]
    exact ⟨by decide,fun _=>rfl⟩

def sampleAnswer (matched : Bool) (incompatibilityMask : UInt32) : List SubscriberEvent:=
  [.subscribe 5 1 0 true 9 true true,samplePass 1 .ok,
    .negotiated 1 matched incompatibilityMask ⟨0,0,true⟩ ⟨0,0,true⟩,.suback 1 matched]

def sampleAnswered (matched : Bool) (incompatibilityMask : UInt32) : SubscriberRuntime:=
  (create sampleEntity).run (sampleAnswer matched incompatibilityMask)

lemma sampleAnswered_silent {matched : Bool} {incompatibilityMask : UInt32} {session : Session}
    (hmem : session∈(sampleAnswered matched incompatibilityMask).sessions)
    (hmsg : 6≠session.msgId) (hsettled : session.Settled) {schedule : ℕ→SubscriberEvent}
    (hservice : ∀ n, (schedule n).KeepsService) :
    ¬((sampleAnswered matched incompatibilityMask).step
      (.subscribe 6 session.handler 0 true 9 true true)).EventuallySends schedule session.handler 6:=by
  have hwell : (sampleAnswered matched incompatibilityMask).WellFormed:=(wellFormed_create sampleEntity).run _
  obtain ⟨hfind,-⟩:=findByHandler_resubscribe hwell hmem hmsg 0 9 true
  exact not_eventuallySends_of_settled (hwell.step _) hfind hsettled hservice 6

/-- Sessions that are active or failed never send a SUB message for the message that is
subscribed to later. -/
theorem resubscribe_active_failed_silent :
    (sampleAnswered true 0).sessions=[⟨0,5,9,1,1,0,0,true,.active⟩] ∧
      (sampleAnswered false 1).sessions=[⟨0,5,9,1,1,5000,1,true,.failed⟩] ∧
      ∀ schedule : ℕ→SubscriberEvent, (∀ n, (schedule n).KeepsService)→
        ¬((sampleAnswered true 0).step
            (.subscribe 6 1 0 true 9 true true)).EventuallySends schedule 1 6 ∧
          ¬((sampleAnswered false 1).step (.subscribe 6 1 0 true 9 true true)).EventuallySends schedule 1 6:=by
  have hactive : (sampleAnswered true 0).sessions=[⟨0,5,9,1,1,0,0,true,.active⟩]:=by decide +kernel
  have hfailed : (sampleAnswered false 1).sessions=[⟨0,5,9,1,1,5000,1,true,.failed⟩]:=by decide +kernel
  refine ⟨hactive,hfailed,fun schedule hservice=>⟨?_,?_⟩⟩
  · have hmem : (⟨0,5,9,1,1,0,0,true,.active⟩ : Session) ∈
        (sampleAnswered true 0).sessions:=by
      rw [hactive]
      exact mem_singleton_self _
    exact sampleAnswered_silent hmem (by decide) (.inl rfl) hservice
  · have hmem : (⟨0,5,9,1,1,5000,1,true,.failed⟩ : Session) ∈
        (sampleAnswered false 1).sessions:=by
      rw [hfailed]
      exact mem_singleton_self _
    exact sampleAnswered_silent hmem (by decide) (.inr (.inl rfl)) hservice

end SubscriberRuntime
end SoftMessageBus
