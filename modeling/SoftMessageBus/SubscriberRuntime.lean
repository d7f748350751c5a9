import SoftMessageBus.KeyedSweep
import SoftMessageBus.StepRuns
import SoftMessageBus.SubscriptionSession

/-!
# Subscribers

Sessions are changed by calls, the service, answers and passes.
-/
namespace SoftMessageBus
open KeyedSweep List

def maxNodeObserverSize : ℕ:=1024

/-- `ZOO_SMB_SUBSCRIBER_STRUCT`. -/
structure SubscriberRuntime where
  entity : SubscriberEntity
  sessions : List Session
  qosCtx : QosCtx
  nodeActive : Bool
  clockMs : ℕ
  reconcileRequested : Bool
  hasPendingWork : Bool
  sleepMs : ℕ

/-- Subscriptions, the service, SUBACK messages and passes of the reconcile task. -/
inductive SubscriberEvent where
  | elapse (ms : ℕ)
  | subscribe (msgId : UInt32) (handler usrData : ℕ) (withHandle : Bool) (id : UInt32)
      (available alloc : Bool)
  | unsubscribe (id : UInt32) (reset : QosCall)
  | serviceChange (isOnline : Bool) (resets : ℕ→QosCall)
  | negotiated (requestId : UInt64) (matched : Bool) (incompatibilityMask : UInt32)
      (store mark : QosCall)
  | suback (requestId : UInt64) (matched : Bool)
  | reconcile (available : Bool) (resets : ℕ→QosCall) (calls : ℕ→SessionCall)

namespace SubscriberEvent

/-- Events while the target service stays available and the application makes no call. -/
def KeepsService : SubscriberEvent→Prop
  | .elapse _ | .negotiated .. | .suback .. => True
  | .serviceChange isOnline _=>isOnline=true
  | .reconcile available _ _=>available=true
  | .subscribe .. | .unsubscribe .. => False

def IsPass : SubscriberEvent→Prop
  | .reconcile .. => True
  | _=>False

lemma KeepsService.eq_of_isPass {event : SubscriberEvent} (h : event.KeepsService)
    (hpass : event.IsPass) : ∃ resets calls, event = .reconcile true resets calls:=by
  cases event with
  | reconcile available resets calls=>
    cases h
    exact ⟨resets,calls,rfl⟩
  | _=>cases hpass

end SubscriberEvent
namespace SubscriberRuntime

/-- `zoo_smb_create_subscriber`, when its allocations succeed. -/
def create (entity : SubscriberEntity) : SubscriberRuntime:=⟨entity,[],.create entity.policy,false,0,false,false,0⟩

section
variable (s : SubscriberRuntime)

def findByHandler (handler : ℕ) : Option Session:=s.sessions.find? fun session=>session.handler=handler
def findById (id : UInt32) : Option Session:=s.sessions.find? fun session=>session.id=id

def findByRequestId (requestId : UInt64) : Option Session:=
  if requestId=0 then none
  else s.sessions.find? fun session=>session.requestId=requestId

def modifySession (handler : ℕ) (f : Session→Session) : SubscriberRuntime:=
  {s with
    sessions:=s.sessions.map fun session=>if session.handler=handler then f session else session}

section
variable (available : Bool)

/-- `subscriber_request_reconcile`, when the target service is available. -/
def requestReconcile : SubscriberRuntime:={s with reconcileRequested:=s.reconcileRequested || available}

/-- `subscriber_register_session`. -/
def registerSession (msgId : UInt32) (handler usrData : ℕ) (withHandle : Bool)
    (id : UInt32) (available alloc : Bool) : Option SubscriberRuntime:=
  if withHandle then
    match s.findByHandler handler with
    | some _=>some (s.modifySession handler fun session=>
        {session with usrData:=usrData, msgId:=msgId, desiredActive:=true})
    | none=>
      if alloc && decide (s.sessions.length < maxNodeObserverSize) then
        some {s with
          sessions:=s.sessions++[.create msgId handler usrData id s.clockMs available]}
      else none
  else none

def hasSession (msgId : UInt32) (handler : ℕ) : Bool:=(s.findByHandler handler).any fun session=>session.msgId=msgId

def subscribeMessage (msgId : UInt32) (handler usrData : ℕ) (withHandle : Bool)
    (id : UInt32) (available alloc : Bool) : SubscriberRuntime:=
  if handler=0 then s
  else if s.hasSession msgId handler then
    let kept:=
      if withHandle then
        s.modifySession handler fun session=>{session with desiredActive:=true}
      else s
    kept.requestReconcile available
  else match s.registerSession msgId handler usrData withHandle id available alloc with
    | some registered=>registered.requestReconcile available
    | none=>s

/-- `zoo_smb_unsubscribe_message`. -/
def unsubscribeMessage (id : UInt32) (reset : QosCall) : SubscriberRuntime:=
  match s.findById id with
  | none=>s
  | some session=>
    {s with
      sessions:=s.sessions.eraseP fun other=>other.handler=session.handler
      qosCtx:=session.dropRequest s.qosCtx reset}

def onServiceChange (s : SubscriberRuntime) (available : Bool) (resets : ℕ→QosCall) :
    SubscriberRuntime:=
  let swept:=sweep
    (fun session=>session.onServiceChange s.entity available s.clockMs resets)
    s.sessions (s.qosCtx,s.nodeActive)
  {s with sessions:=swept.1, qosCtx:=swept.2.1, nodeActive:=swept.2.2}

def startPass : Pass where
  qosCtx:=s.qosCtx
  nodeActive:=s.nodeActive
  sent:=[]
  pending:=false
  sleepMs:=managerGetRetryIntervalMs s.entity.policy

/-- The loop of `zoo_smb_subscription_session_manager_reconcile`. -/
def sweepSessions (calls : ℕ→SessionCall) : List Session × Pass:=
  sweep (fun session=>session.reconcile s.entity available s.clockMs calls) s.sessions s.startPass

/-- A turn of `subscriber_reconcile_task`. -/
def reconcile (resets : ℕ→QosCall) (calls : ℕ→SessionCall) : SubscriberRuntime:=
  let changed:=s.onServiceChange available resets
  let swept:=changed.sweepSessions available calls
  {changed with
    sessions:=swept.1
    qosCtx:=swept.2.qosCtx
    nodeActive:=swept.2.nodeActive
    reconcileRequested:=false
    hasPendingWork:=swept.2.pending
    sleepMs:=swept.2.sleepMs}

end

/-- What `subscriber_on_handle_SUBACK_msg_cb` does to the context. -/
def negotiated (requestId : UInt64) (matched : Bool)
    (incompatibilityMask : UInt32) (store mark : QosCall) : SubscriberRuntime:=
  {s with
    qosCtx:=(s.qosCtx.setMatchResult store requestId matched incompatibilityMask).2.setMsgStatus
      mark requestId (if matched then .acked else .failed)}

def onSuback (s : SubscriberRuntime) (requestId : UInt64) (matched : Bool) : SubscriberRuntime:=
  match s.findByRequestId requestId with
  | none=>s
  | some session=>s.modifySession session.handler fun session=>session.onSuback matched

def step : SubscriberEvent→SubscriberRuntime
  | .elapse ms=>{s with clockMs:=s.clockMs+ms}
  | .subscribe msgId handler usrData withHandle id available alloc=>
    s.subscribeMessage msgId handler usrData withHandle id available alloc
  | .unsubscribe id reset=>s.unsubscribeMessage id reset
  | .serviceChange isOnline resets=>(s.onServiceChange isOnline resets).requestReconcile true
  | .negotiated requestId matched incompatibilityMask store mark=>
    s.negotiated requestId matched incompatibilityMask store mark
  | .suback requestId matched=>s.onSuback requestId matched
  | .reconcile available resets calls=>s.reconcile available resets calls

def sentBy : SubscriberEvent→List SentSub
  | .reconcile available resets calls=>
    ((s.onServiceChange available resets).sweepSessions available calls).2.sent
  | _=>[]

def run (events : List SubscriberEvent) : SubscriberRuntime:=events.foldl step s

end

def sends : SubscriberRuntime→List SubscriberEvent→List SentSub
  | _, []=>[]
  | s, event::events=>s.sentBy event++sends (s.step event) events

/-- Each handler has one session, and each session is sound. -/
structure WellFormed (s : SubscriberRuntime) : Prop where
  handlers : (s.sessions.map Session.handler).Nodup
  sound : ∀ session∈s.sessions, session.Sound s.clockMs

lemma wellFormed_create (entity : SubscriberEntity) : (create entity).WellFormed:=
  ⟨nodup_nil,fun _ h=>absurd h not_mem_nil⟩

lemma findByHandler_eq_some_iff {s : SubscriberRuntime} (h : s.WellFormed) {handler : ℕ} {session : Session} :
    s.findByHandler handler=some session ↔ session∈s.sessions ∧ session.handler=handler:=by
  constructor
  · intro hfind
    exact ⟨mem_of_find?_eq_some hfind,by simpa using find?_some hfind⟩
  · rintro ⟨hmem,rfl⟩
    exact KeyedList.find?_key_of_mem h.handlers hmem

section
variable {s : SubscriberRuntime} {handler : ℕ}

section
variable {f : Session→Session} (hf : ∀ session, (f session).handler=session.handler) (s : SubscriberRuntime)
include hf

lemma map_handler_modifySession (handler : ℕ) :
    (s.modifySession handler f).sessions.map Session.handler=s.sessions.map Session.handler:=by
  simp only [modifySession,List.map_map]
  refine map_congr_left fun session _=>?_
  simp only [Function.comp_apply]
  split
  · exact hf session
  · rfl

lemma findByHandler_modifySession (changed handler : ℕ) :
    (s.modifySession changed f).findByHandler handler=
      (s.findByHandler handler).map fun session=>if handler=changed then f session else session:=by
  unfold findByHandler modifySession
  induction s.sessions with
  | nil=>rfl
  | cons session sessions ih=>
    have hhandler : (if session.handler=changed then f session else session).handler=
        session.handler:=by
      split
      · exact hf session
      · rfl
    by_cases hk : session.handler=handler
    · rw [map_cons,find?_cons_of_pos (by simpa [hhandler] using hk),find?_cons_of_pos (by simpa using hk),Option.map_some,hk]
    · rw [map_cons,find?_cons_of_neg (by simpa [hhandler] using hk),find?_cons_of_neg (by simpa using hk),ih]

end

lemma findByHandler_onServiceChange (s : SubscriberRuntime) (available : Bool)
    (resets : ℕ→QosCall) (handler : ℕ) :
    (s.onServiceChange available resets).findByHandler handler=
      (s.findByHandler handler).map fun session=>
        (session.onServiceChange s.entity available s.clockMs resets
          (stateBefore (fun session=>
              session.onServiceChange s.entity available s.clockMs resets)
            Session.handler handler s.sessions (s.qosCtx,s.nodeActive))).1:=
  find?_sweep (fun session pass=>(Session.move_onServiceChange s.entity
    available s.clockMs 0 resets session pass).handler_eq) handler s.sessions _

lemma findByHandler_onServiceChange_available (h : s.WellFormed) (resets : ℕ→QosCall) (handler : ℕ) :
    (s.onServiceChange true resets).findByHandler handler=(s.findByHandler handler).map (Session.wake s.clockMs):=by
  rw [findByHandler_onServiceChange]
  cases hfind : s.findByHandler handler with
  | none=>rfl
  | some session=>
    have hdes:=(h.sound session ((findByHandler_eq_some_iff h).1 hfind).1).desired
    rw [Option.map_some,Option.map_some,Session.onServiceChange_available hdes]

end
namespace WellFormed
variable {s : SubscriberRuntime}

section
variable (h : s.WellFormed)
include h

lemma modifySession (handler : ℕ) {f : Session→Session}
    (hhand : ∀ session, (f session).handler=session.handler)
    (hsound : ∀ session, session.Sound s.clockMs→(f session).Sound s.clockMs) :
    (s.modifySession handler f).WellFormed:=by
  refine ⟨?_,?_⟩
  · rw [map_handler_modifySession hhand]
    exact h.handlers
  · intro session hmem
    obtain ⟨old,hold,rfl⟩:=List.mem_map.1 hmem
    split
    · exact hsound old (h.sound old hold)
    · exact h.sound old hold

variable (available : Bool)

lemma requestReconcile : (s.requestReconcile available).WellFormed:=⟨h.handlers,h.sound⟩

lemma onServiceChange (resets : ℕ→QosCall) : (s.onServiceChange available resets).WellFormed:=by
  have hmove:=Session.move_onServiceChange s.entity available s.clockMs 0 resets
  refine ⟨?_,forall_mem_sweep (fun session pass hsound=>hsound.move (hmove session pass)) h.sound _⟩
  have hkeys:=map_key_sweep (fun session pass=>(hmove session pass).handler_eq) s.sessions (s.qosCtx,s.nodeActive)
  exact hkeys ▸ h.handlers

lemma reconcile (resets : ℕ→QosCall) (calls : ℕ→SessionCall) :
    (s.reconcile available resets calls).WellFormed:=by
  have hchanged:=h.onServiceChange available resets
  have hmove:=Session.move_reconcile s.entity available s.clockMs calls
  refine ⟨?_,forall_mem_sweep (fun session pass hsound=>hsound.move (hmove session pass)) hchanged.sound _⟩
  have hkeys:=map_key_sweep (fun session pass=>(hmove session pass).handler_eq)
    (s.onServiceChange available resets).sessions
    (s.onServiceChange available resets).startPass
  exact hkeys ▸ hchanged.handlers

lemma registerSession {msgId : UInt32} {handler usrData : ℕ}
    (hhand : handler≠0) {withHandle : Bool} {id : UInt32} {available alloc : Bool} {registered : SubscriberRuntime}
    (hreg : s.registerSession msgId handler usrData withHandle id available alloc=
      some registered) : registered.WellFormed:=by
  unfold SubscriberRuntime.registerSession at hreg
  split at hreg
  · split at hreg
    · cases hreg
      refine h.modifySession handler (fun _=>rfl) fun session hsound=>?_
      exact ⟨hsound.handled,rfl,hsound.listed,hsound.idle,hsound.due⟩
    next hnone=>
      split at hreg
      · cases hreg
        have hfresh : handler∉s.sessions.map Session.handler:=by
          intro hmem
          obtain ⟨session,hsession,hsame⟩:=List.mem_map.1 hmem
          have hfind:=(findByHandler_eq_some_iff h).2 ⟨hsession,hsame⟩
          rw [hnone] at hfind
          cases hfind
        refine ⟨?_,?_⟩
        · rw [map_append,nodup_append]
          refine ⟨h.handlers,nodup_singleton _,?_⟩
          rintro a ha b hb rfl
          rw [map_singleton,mem_singleton] at hb
          exact hfresh (hb.subst ha)
        · intro session hmem
          rcases mem_append.1 hmem with hmem | hmem
          · exact h.sound session hmem
          · rw [mem_singleton.1 hmem]
            exact Session.sound_create msgId hhand usrData id s.clockMs available
      · cases hreg
  · cases hreg

lemma subscribeMessage (msgId : UInt32) (handler usrData : ℕ) (withHandle : Bool) (id : UInt32)
    (available alloc : Bool) :
    (s.subscribeMessage msgId handler usrData withHandle id available alloc).WellFormed:=by
  unfold SubscriberRuntime.subscribeMessage
  split
  · exact h
  next hhand=>
    split
    · refine requestReconcile ?_ available
      split
      · refine h.modifySession handler (fun _=>rfl) fun session hsound=>?_
        exact ⟨hsound.handled,rfl,hsound.listed,hsound.idle,hsound.due⟩
      · exact h
    · split
      next registered hreg=>exact (h.registerSession hhand hreg).requestReconcile available
      · exact h

lemma unsubscribeMessage (id : UInt32) (reset : QosCall) : (s.unsubscribeMessage id reset).WellFormed:=by
  unfold SubscriberRuntime.unsubscribeMessage
  split
  · exact h
  · refine ⟨h.handlers.sublist (eraseP_sublist.map _),fun session hmem=>?_⟩
    exact h.sound session (mem_of_mem_eraseP hmem)

lemma onSuback (requestId : UInt64) (matched : Bool) : (s.onSuback requestId matched).WellFormed:=by
  have hmove:=Session.move_onSuback 0 matched
  unfold SubscriberRuntime.onSuback
  split
  · exact h
  · exact h.modifySession _ (fun session=>(hmove session).handler_eq) fun session hsound=>hsound.move (hmove session)

lemma step (event : SubscriberEvent) : (s.step event).WellFormed:=by
  cases event with
  | elapse ms=>
    refine ⟨h.handlers,fun session hmem=>?_⟩
    have hsound:=h.sound session hmem
    exact ⟨hsound.handled,hsound.desired,hsound.listed,hsound.idle,
      fun hinit=>(hsound.due hinit).trans (Nat.le_add_right _ ms)⟩
  | subscribe msgId handler usrData withHandle id available alloc=>
    exact h.subscribeMessage msgId handler usrData withHandle id available alloc
  | unsubscribe id reset=>exact h.unsubscribeMessage id reset
  | serviceChange isOnline resets=>exact (h.onServiceChange isOnline resets).requestReconcile true
  | negotiated requestId matched incompatibilityMask store mark=>exact ⟨h.handlers,h.sound⟩
  | suback requestId matched=>exact h.onSuback requestId matched
  | reconcile available resets calls=>exact h.reconcile available resets calls

lemma run (events : List SubscriberEvent) : (s.run events).WellFormed:=by
  induction events generalizing s with
  | nil=>exact h
  | cons event events ih=>exact ih (h.step event)

end
end WellFormed
section
variable {s : SubscriberRuntime} {handler : ℕ} {session : Session}

def passBefore (s : SubscriberRuntime) (resets : ℕ→QosCall) (calls : ℕ→SessionCall) (handler : ℕ) : Pass:=
  stateBefore (fun session=>session.reconcile s.entity true s.clockMs calls)
    Session.handler handler (s.onServiceChange true resets).sessions
    (s.onServiceChange true resets).startPass

def Negotiates (s : SubscriberRuntime) (resets : ℕ→QosCall) (calls : ℕ→SessionCall) (handler : ℕ) : Prop:=
  ∃ session, s.findByHandler handler=some session ∧
    session.Negotiable s.entity (calls handler) (s.passBefore resets calls handler).qosCtx

lemma findByHandler_reconcile_available (h : s.WellFormed) (resets : ℕ→QosCall) (calls : ℕ→SessionCall) (handler : ℕ) :
    (s.reconcile true resets calls).findByHandler handler=
      (s.findByHandler handler).map fun session=>
        ((session.wake s.clockMs).reconcile s.entity true s.clockMs calls (s.passBefore resets calls handler)).1:=by
  have hsweep:=find?_sweep (fun session pass=>(Session.move_reconcile s.entity
    true s.clockMs calls session pass).handler_eq) handler (s.onServiceChange true resets).sessions
    (s.onServiceChange true resets).startPass
  have hchanged:=findByHandler_onServiceChange_available h resets handler
  unfold findByHandler at hchanged ⊢
  rw [hchanged,Option.map_map] at hsweep
  exact hsweep

lemma sentBy_reconcile_available (h : s.WellFormed) (hfind : s.findByHandler handler=some session)
    (resets : ℕ→QosCall) (calls : ℕ→SessionCall) :
    (s.sentBy (.reconcile true resets calls)).filter (fun sub=>sub.handler=handler)=
      (session.wake s.clockMs).subs s.entity true s.clockMs calls (s.passBefore resets calls handler):=by
  have hchanged:=findByHandler_onServiceChange_available h resets handler
  rw [hfind,Option.map_some] at hchanged
  exact filter_out_sweep Pass.sent SentSub.handler
    (Session.reconcile_sent s.entity true s.clockMs calls)
    (fun _ _ _ hsub=>(Session.handler_of_mem_subs hsub).1)
    (h.onServiceChange true resets).handlers hchanged (s.onServiceChange true resets).startPass

variable {event : SubscriberEvent}

lemma atMs_of_mem_sentBy {sub : SentSub} (hsub : sub∈s.sentBy event) : event.IsPass ∧ sub.atMs=s.clockMs:=by
  cases event with
  | reconcile available resets calls=>
    refine ⟨trivial,?_⟩
    exact forall_mem_out_sweep Pass.sent
      (Session.reconcile_sent s.entity available s.clockMs calls)
      (fun _ _ _ hnew=>(Session.handler_of_mem_subs hnew).2)
      (s.onServiceChange available resets).sessions
      (fun _ hmem=>absurd hmem not_mem_nil) sub hsub
  | _=>exact absurd hsub not_mem_nil

section
variable (h : s.WellFormed)
include h

section
variable (hfind : s.findByHandler handler=some session)
include hfind

lemma findByHandler_onSuback (requestId : UInt64) (matched : Bool) :
    (s.onSuback requestId matched).findByHandler handler=some session ∨
      session.requestId≠0 ∧ (s.onSuback requestId matched).findByHandler handler=some (session.onSuback matched):=by
  unfold onSuback
  split
  · exact .inl hfind
  next answered hanswered=>
    rw [findByHandler_modifySession fun session=>
      (Session.move_onSuback 0 matched session).handler_eq,hfind,Option.map_some]
    unfold findByRequestId at hanswered
    split at hanswered
    · cases hanswered
    next hreq=>
      by_cases hhandler : handler=answered.handler
      · have hmem:=mem_of_find?_eq_some hanswered
        have hsame:=(findByHandler_eq_some_iff h).2 ⟨hmem,hhandler.symm⟩
        rw [hfind,Option.some_inj] at hsame
        refine .inr ⟨?_,by rw [if_pos hhandler]⟩
        have hid : answered.requestId=requestId:=by simpa using find?_some hanswered
        rw [hsame,hid]
        exact hreq
      · exact .inl (by rw [if_neg hhandler])

lemma settled_step (hsettled : session.Settled) (hservice : event.KeepsService) :
    (∃ next, (s.step event).findByHandler handler=some next ∧ next.Settled) ∧ ∀ sub∈s.sentBy event, sub.handler≠handler:=by
  cases event with
  | elapse | negotiated=>
    exact ⟨⟨session,hfind,hsettled⟩,fun _ hsub=>absurd hsub not_mem_nil⟩
  | subscribe | unsubscribe=>cases hservice
  | serviceChange isOnline resets=>
    cases hservice
    refine ⟨⟨session.wake s.clockMs,?_,Session.wake_settled.2 hsettled⟩,fun _ hsub=>absurd hsub not_mem_nil⟩
    have hchanged:=findByHandler_onServiceChange_available h resets handler
    rwa [hfind] at hchanged
  | suback requestId matched=>
    refine ⟨?_,fun _ hsub=>absurd hsub not_mem_nil⟩
    rcases findByHandler_onSuback h hfind requestId matched with hkept | ⟨-,hnext⟩
    · exact ⟨session,hkept,hsettled⟩
    · exact ⟨_,hnext,session.settled_onSuback matched⟩
  | reconcile available resets calls=>
    cases hservice
    have hwoken : (session.wake s.clockMs).Settled:=Session.wake_settled.2 hsettled
    obtain ⟨hsame,hnone⟩:=Session.reconcile_of_settled s.entity true s.clockMs
      hwoken calls (s.passBefore resets calls handler)
    refine ⟨⟨session.wake s.clockMs,?_,hwoken⟩,?_⟩
    · have hpass:=findByHandler_reconcile_available h resets calls handler
      rw [hfind,Option.map_some,hsame] at hpass
      exact hpass
    · intro sub hsub hhandler
      have hsent:=sentBy_reconcile_available h hfind resets calls
      rw [hnone,filter_eq_nil_iff] at hsent
      exact hsent sub hsub (by simpa using hhandler)

lemma retryable_step (hretry : session.Retryable) (hservice : event.KeepsService) (hpass : ¬event.IsPass) :
    ∃ next, (s.step event).findByHandler handler=some next ∧ next.Retryable ∧ next.msgId=session.msgId:=by
  cases event with
  | elapse | negotiated=>exact ⟨session,hfind,hretry,rfl⟩
  | subscribe | unsubscribe=>cases hservice
  | serviceChange isOnline resets=>
    cases hservice
    refine ⟨session.wake s.clockMs,?_,Session.wake_retryable.2 hretry,session.wake_msgId⟩
    have hchanged:=findByHandler_onServiceChange_available h resets handler
    rwa [hfind] at hchanged
  | suback requestId matched=>
    rcases findByHandler_onSuback h hfind requestId matched with hkept | ⟨hreq,-⟩
    · exact ⟨session,hkept,hretry,rfl⟩
    · have hsound:=h.sound session ((findByHandler_eq_some_iff h).1 hfind).1
      exact absurd (hsound.idle hretry) hreq
  | reconcile=>exact absurd trivial hpass

section
variable (hretry : session.Retryable) {resets : ℕ→QosCall} {calls : ℕ→SessionCall}
include hretry

lemma sends_of_negotiates (hneg : s.Negotiates resets calls handler) :
    ∃ message, session.buildMsg s.entity (calls handler)=some message ∧
      ⟨handler,message,s.clockMs⟩∈s.sentBy (.reconcile true resets calls):=by
  obtain ⟨hmem,hhandler⟩:=(findByHandler_eq_some_iff h).1 hfind
  obtain ⟨found,hfound,hneg⟩:=hneg
  rw [hfind,Option.some_inj] at hfound
  subst hfound
  have hsound:=h.sound session hmem
  have hwoken : (session.wake s.clockMs).handler=handler:=by rw [Session.wake_handler,hhandler]
  have hnegotiable : (session.wake s.clockMs).Negotiable s.entity
      (calls (session.wake s.clockMs).handler) (s.passBefore resets calls handler).qosCtx:=by
    rw [hwoken]
    exact Session.wake_negotiable.2 hneg
  obtain ⟨message,hbuild,hsubs⟩:=Session.subs_of_negotiable
    (session.wake_desiredActive.trans hsound.desired)
    (Session.wake_retryable.2 hretry) (hsound.wake_due hretry) hnegotiable
  have hsent:=sentBy_reconcile_available h hfind resets calls
  rw [hsubs,hwoken] at hsent
  refine ⟨message,?_,mem_of_mem_filter (hsent ▸ mem_singleton_self _)⟩
  rw [hwoken] at hbuild
  simpa only [Session.buildMsg,Session.wake_msgId] using hbuild

lemma settled_of_not_negotiates (hneg : ¬s.Negotiates resets calls handler) :
    (∃ next, (s.reconcile true resets calls).findByHandler handler=some next ∧ next.Settled) ∧
      ∀ sub∈s.sentBy (.reconcile true resets calls), sub.handler≠handler:=by
  obtain ⟨hmem,hhandler⟩:=(findByHandler_eq_some_iff h).1 hfind
  have hsound:=h.sound session hmem
  have hwoken : (session.wake s.clockMs).handler=handler:=by rw [Session.wake_handler,hhandler]
  have hnot : ¬(session.wake s.clockMs).Negotiable s.entity
      (calls (session.wake s.clockMs).handler) (s.passBefore resets calls handler).qosCtx:=by
    rw [hwoken,Session.wake_negotiable]
    exact fun hnegotiable=>hneg ⟨session,hfind,hnegotiable⟩
  constructor
  · have hfailed:=Session.reconcile_of_not_negotiable
      (session.wake_desiredActive.trans hsound.desired)
      (Session.wake_retryable.2 hretry) (hsound.wake_due hretry) hnot
    refine ⟨_,?_,.inr (.inl hfailed)⟩
    rw [findByHandler_reconcile_available h,hfind,Option.map_some]
  · intro sub hsub hsubH
    have hsent:=sentBy_reconcile_available h hfind resets calls
    have hmemS : sub∈(session.wake s.clockMs).subs s.entity true s.clockMs calls
        (s.passBefore resets calls handler):=by
      rw [← hsent]
      exact mem_filter.2 ⟨hsub,by simpa using hsubH⟩
    unfold Session.subs at hmemS
    split at hmemS
    next hsend=>
      obtain ⟨message,hmessage,-⟩:=List.mem_map.1 hmemS
      refine hnot ⟨?_,hsend.2.2.2.2⟩
      rw [Option.mem_toList.1 hmessage]
      rfl
    · exact absurd hmemS not_mem_nil

end
end
end
end

/-- In every run a handler finds its only session, and a session that waits has no request open. -/
theorem run_sessions_sound (entity : SubscriberEntity) (events : List SubscriberEvent) :
    let s:=(create entity).run events
    (∀ handler session, s.findByHandler handler=some session ↔ session∈s.sessions ∧ session.handler=handler) ∧
    ∀ session∈s.sessions, session.desiredActive=true ∧ session.state ≠ .cancelled ∧
      (session.Retryable→session.requestId=0):=by
  have h:=(wellFormed_create entity).run events
  refine ⟨fun _ _=>findByHandler_eq_some_iff h,fun session hmem=>?_⟩
  obtain ⟨-,hdesired,hlisted,hidle,-⟩:=h.sound session hmem
  exact ⟨hdesired,hlisted,hidle⟩

end SubscriberRuntime
end SoftMessageBus
