import SoftMessageBus.Publisher

/-!
# Subscription sessions

A subscriber keeps one session for each message handler.
-/
namespace SoftMessageBus
open List

/-- `ZOO_SMB_SUBSCRIPTION_SESSION_STATE_ENUM`. -/
inductive SessionState where
  | init | pendingService | waitingSuback | active | degraded | failed | cancelled
  deriving DecidableEq

/-- `ZOO_SMB_SUBSCRIPTION_SESSION_STRUCT`, with what its negotiation needs. -/
structure Session where
  usrData : ℕ
  msgId : UInt32
  id : UInt32
  handler : ℕ
  requestId : UInt64
  nextRetryAtMs : ℕ
  retryAttempts : UInt32
  desiredActive : Bool
  state : SessionState
  deriving DecidableEq

/-- The node of a subscriber and its QoS entity: the policy and the memory that holds it. -/
structure SubscriberEntity where
  node : Node
  policy : QosPolicy
  policyMemory : Bytes

def SubscriberEntity.subscriber (entity : SubscriberEntity) : Subscriber:=⟨entity.node,entity.policyMemory,[]⟩

/-- A SUB message that is handed to `zoo_smb_send_message`, the handler of its session and the
time. -/
structure SentSub where
  handler : ℕ
  message : Message
  atMs : ℕ

/-- What the calls for one session find in their surroundings. -/
structure SessionCall where
  requestId : UInt64
  message : MessageEnvironment
  sendResult : ErrorType
  reset : QosCall
  track : QosCall
  mark : QosCall
  undo : QosCall
  status : QosCall
  mask : QosCall

structure Pass where
  qosCtx : QosCtx
  nodeActive : Bool
  sent : List SentSub
  pending : Bool
  sleepMs : ℕ

def managerGetRetryIntervalMs (policy : QosPolicy) : ℕ:=
  if 0<policy.reliability.retryIntervalMs then
    policy.reliability.retryIntervalMs.toUInt32.toNat
  else 1000

def managerGetWaitTimeoutMs (policy : QosPolicy) : ℕ:=
  if 0<policy.reliability.maxBlockingTimeMs then
    policy.reliability.maxBlockingTimeMs.toUInt32.toNat
  else 5000

def managerGetBackoffDelayMs (policy : QosPolicy) (retryAttempts : UInt32) : ℕ:=
  let multiplier:=if 0 < retryAttempts then 2^min retryAttempts.toNat 3 else 1
  min (managerGetRetryIntervalMs policy*multiplier) (managerGetWaitTimeoutMs policy)

/-- The status that `zoo_smb_qos_ctx_get_msg_status` returns. -/
def QosCtx.getMsgStatus (ctx : QosCtx) (call : QosCall) (requestId : UInt64) : MsgStatus:=
  (((ctx.pruneExpired call.pruneNow).findState requestId).map QosState.status).getD .unknown

/-- The mask that `zoo_smb_qos_ctx_get_incompatibility_mask` returns. -/
def QosCtx.getIncompatibilityMask (ctx : QosCtx) (call : QosCall) (requestId : UInt64) : UInt32:=
  (((ctx.pruneExpired call.pruneNow).findState requestId).map QosState.incompatibilityMask).getD 0
namespace Session

/-- `zoo_smb_subscription_session_create`, when its allocation succeeds. -/
def create (msgId : UInt32) (handler usrData : ℕ) (id : UInt32) (nowMs : ℕ)
    (available : Bool) : Session where
  usrData:=usrData
  msgId:=msgId
  id:=id
  handler:=handler
  requestId:=0
  nextRetryAtMs:=nowMs
  retryAttempts:=0
  desiredActive:=true
  state:=if available then .init else .pendingService

section
variable (session : Session)

def Retryable : Prop:=
  session.state = .init ∨ session.state = .pendingService ∨ session.state = .degraded
  deriving Decidable

def Settled : Prop:=session.state = .active ∨ session.state = .failed ∨ session.state = .cancelled

/-- `manager_reset_session_request` on the session. -/
def resetRequest : Session:={session with requestId:=0}

/-- `manager_reset_session_request` on the context. -/
def dropRequest (ctx : QosCtx) (call : QosCall) : QosCtx:=
  if session.requestId=0 then ctx else ctx.removeState call session.requestId

end
section
variable (entity : SubscriberEntity)

/-- The SUB message that `zoo_smb_qos_build_msg` builds for a session. -/
def buildMsg (call : SessionCall) (session : Session) : Option Message:=
  entity.subscriber.buildSub call.message session.msgId call.requestId

/-- What `zoo_smb_qos_ctx_set_state` does for the new request of a session. -/
def trackRequest (call : SessionCall) (session : Session) (ctx : QosCtx) : ErrorType × QosCtx:=
  (session.dropRequest ctx call.reset).setState call.track call.requestId .sending none

def waitSuback (nowMs : ℕ) (requestId : UInt64) (session : Session) : Session:=
  {session with
    requestId:=requestId
    state:=.waitingSuback
    retryAttempts:=session.retryAttempts+1
    nextRetryAtMs:=nowMs+managerGetWaitTimeoutMs entity.policy}

def retryLater (nowMs : ℕ) (state : SessionState) (session : Session) : Session:=
  {session.resetRequest with
    state:=state
    nextRetryAtMs:=nowMs+managerGetBackoffDelayMs entity.policy session.retryAttempts}

def managerSendSubscription (nowMs : ℕ) (call : SessionCall)
    (session : Session) (pass : Pass) : Session × Pass:=
  match session.buildMsg entity call with
  | none=>
    ({session.resetRequest with state:=.failed}, {pass with qosCtx:=session.dropRequest pass.qosCtx call.reset})
  | some message=>
    let tracked:=session.trackRequest call pass.qosCtx
    if tracked.1 ≠ .ok then
      ({session.resetRequest with state:=.failed},{pass with qosCtx:=tracked.2})
    else
      let waiting:=session.waitSuback entity nowMs call.requestId
      let sending : Pass:=
        {pass with
          qosCtx:=tracked.2.setMsgStatus call.mark call.requestId .waitingAck
          sent:=pass.sent++[⟨session.handler,message,nowMs⟩]}
      if call.sendResult = .ok then (waiting,sending)
      else
        (waiting.retryLater entity nowMs
            (if call.sendResult = .serviceNotFound then .pendingService else .degraded),
          {sending with
            qosCtx:=waiting.dropRequest sending.qosCtx call.undo
            nodeActive:=false})

variable (available : Bool)

variable (nowMs : ℕ)

def awaitSuback (call : SessionCall) (session : Session) (pass : Pass) : Session × Pass:=
  if session.requestId=0 then
    ({session with
        state:=.degraded
        nextRetryAtMs:=nowMs+managerGetRetryIntervalMs entity.policy},
      {pass with pending:=true})
  else
    let read : Pass:={pass with qosCtx:=pass.qosCtx.pruneExpired call.status.pruneNow}
    match pass.qosCtx.getMsgStatus call.status session.requestId with
    | .acked=>
      ({session.resetRequest with state:=.active, retryAttempts:=0},
        {read with qosCtx:=session.dropRequest read.qosCtx call.reset})
    | .failed=>
      let dropped:=session.dropRequest (read.qosCtx.pruneExpired call.mask.pruneNow) call.reset
      if read.qosCtx.getIncompatibilityMask call.mask session.requestId≠0 then
        ({session.resetRequest with state:=.failed},{read with qosCtx:=dropped})
      else
        (session.retryLater entity nowMs .degraded,{read with qosCtx:=dropped, pending:=true})
    | _=>
      if session.nextRetryAtMs≤nowMs then
        (session.retryLater entity nowMs (if available then .degraded else .pendingService),
          {read with
            qosCtx:=session.dropRequest read.qosCtx call.reset
            pending:=true})
      else (session,{read with pending:=true})

/-- The switch of `zoo_smb_subscription_session_manager_reconcile`. -/
def reconcileState (call : SessionCall) (session : Session) (pass : Pass) : Session × Pass:=
  match session.state with
  | .init | .pendingService | .degraded=>
    if available then
      let sent:=
        if session.nextRetryAtMs≤nowMs then
          session.managerSendSubscription entity nowMs call pass
        else (session,pass)
      (sent.1,{sent.2 with pending:=sent.1.state != .active && sent.1.state != .failed})
    else (session,{pass with pending:=true})
  | .waitingSuback=>session.awaitSuback entity available nowMs call pass
  | .active | .failed | .cancelled=>(session,pass)

def noteRemaining (session : Session) (pass : Pass) : Pass:=
  if session.state != .active && session.state != .failed && session.state != .cancelled then
    {pass with
      pending:=true
      sleepMs:=
        if nowMs<session.nextRetryAtMs then min (session.nextRetryAtMs-nowMs) pass.sleepMs
        else 0}
  else pass

/-- The body of the loop of `zoo_smb_subscription_session_manager_reconcile`. -/
def reconcile (calls : ℕ→SessionCall) (session : Session) (pass : Pass) : Session × Pass:=
  if session.desiredActive then
    let next:=session.reconcileState entity available nowMs (calls session.handler) pass
    (next.1,next.1.noteRemaining nowMs next.2)
  else (session,pass)

/-- The body of the loop of `zoo_smb_subscription_session_manager_on_service_change`. -/
def onServiceChange
    (resets : ℕ→QosCall) (session : Session) (pass : QosCtx × Bool) : Session × (QosCtx × Bool):=
  if session.desiredActive then
    if available then
      if session.state = .pendingService ∨ session.state = .degraded then
        ({session with nextRetryAtMs:=nowMs},pass)
      else (session,pass)
    else
      let dropped:=session.dropRequest pass.1 (resets session.handler)
      if session.state = .failed then (session.resetRequest,dropped,false)
      else
        ({session.resetRequest with
            state:=.degraded
            nextRetryAtMs:=nowMs+managerGetRetryIntervalMs entity.policy},
          dropped, false)
  else (session,pass)

/-- `zoo_smb_subscription_session_manager_on_suback` on the session of the request. -/
def onSuback (matched : Bool) (session : Session) : Session:=
  if matched then {session with state:=.active, retryAttempts:=0, nextRetryAtMs:=0}
  else {session with state:=.failed}

def Negotiable (call : SessionCall) (session : Session) (ctx : QosCtx) : Prop:=
  (session.buildMsg entity call).isSome ∧ (session.trackRequest call ctx).1 = .ok

def subs (calls : ℕ→SessionCall) (session : Session) (pass : Pass) : List SentSub:=
  if session.desiredActive ∧ available ∧ session.Retryable ∧
      session.nextRetryAtMs≤nowMs ∧
      (session.trackRequest (calls session.handler) pass.qosCtx).1 = .ok then
    (session.buildMsg entity (calls session.handler)).toList.map fun message=>⟨session.handler,message,nowMs⟩
  else []

end

inductive Move (requestId : UInt64) (session : Session) : Session→Prop
  | wait (retryAttempts : UInt32) (nextRetryAtMs : ℕ) :
    Move requestId session
      {session with
        requestId:=requestId
        state:=.waitingSuback
        retryAttempts:=retryAttempts
        nextRetryAtMs:=nextRetryAtMs}
  | schedule (nextRetryAtMs : ℕ)
      (hinit : session.state = .init→nextRetryAtMs=session.nextRetryAtMs) :
    Move requestId session {session with nextRetryAtMs:=nextRetryAtMs}
  | release (state : SessionState) (retryAttempts : UInt32) (nextRetryAtMs : ℕ)
      (hinit : state ≠ .init) (hwait : state ≠ .waitingSuback) (hcancel : state ≠ .cancelled) :
    Move requestId session
      {session with
        requestId:=0
        state:=state
        retryAttempts:=retryAttempts
        nextRetryAtMs:=nextRetryAtMs}
  | answer (state : SessionState) (retryAttempts : UInt32) (nextRetryAtMs : ℕ)
      (hstate : state = .active ∨ state = .failed) :
    Move requestId session
      {session with
        state:=state
        retryAttempts:=retryAttempts
        nextRetryAtMs:=nextRetryAtMs}

lemma Move.refl (requestId : UInt64) (session : Session) : Move requestId session session:=
  .schedule session.nextRetryAtMs fun _=>rfl

variable {session next : Session}

lemma Move.handler_eq {requestId : UInt64} (h : Move requestId session next) :
    next.handler=session.handler:=by
  cases h <;> rfl

structure Sound (clockMs : ℕ) (session : Session) : Prop where
  handled : session.handler≠0
  desired : session.desiredActive=true
  listed : session.state ≠ .cancelled
  idle : session.Retryable→session.requestId=0
  due : session.state = .init→session.nextRetryAtMs≤clockMs

lemma sound_create (msgId : UInt32) {handler : ℕ} (hhandler : handler≠0) (usrData : ℕ)
    (id : UInt32) (nowMs : ℕ) (available : Bool) :
    (create msgId handler usrData id nowMs available).Sound nowMs where
  handled:=hhandler
  desired:=rfl
  listed:=by cases available <;> nofun
  idle _:=rfl
  due _:=le_rfl

lemma Sound.move {clockMs : ℕ} {requestId : UInt64} (h : session.Sound clockMs)
    (hmove : Move requestId session next) : next.Sound clockMs:=by
  cases hmove with
  | wait retryAttempts nextRetryAtMs=>
    exact ⟨h.handled,h.desired,nofun,fun hretry=>by simp [Retryable] at hretry,nofun⟩
  | schedule nextRetryAtMs hinit=>
    exact ⟨h.handled,h.desired,h.listed,h.idle,fun hstate=>(hinit hstate).trans_le (h.due hstate)⟩
  | release state retryAttempts nextRetryAtMs hinit hwait hcancel=>
    exact ⟨h.handled,h.desired,hcancel,fun _=>rfl,fun hstate=>absurd hstate hinit⟩
  | answer state retryAttempts nextRetryAtMs hstate=>
    rcases hstate with rfl | rfl <;> exact ⟨h.handled,h.desired,nofun,fun hretry=>by simp [Retryable] at hretry,nofun⟩

section
variable {entity : SubscriberEntity} {available : Bool} {nowMs : ℕ}

lemma settled_onSuback (matched : Bool) (session : Session) : (session.onSuback matched).Settled:=by
  cases matched with
  | true=>exact .inl rfl
  | false=>exact .inr (.inl rfl)

lemma move_onSuback (requestId : UInt64) (matched : Bool) (session : Session) :
    Move requestId session (session.onSuback matched):=by
  cases matched with
  | true=>exact .answer .active 0 0 (.inl rfl)
  | false=>exact .answer .failed session.retryAttempts session.nextRetryAtMs (.inr rfl)

variable (entity available nowMs) in
lemma move_onServiceChange (requestId : UInt64) (resets : ℕ→QosCall) (session : Session) (pass : QosCtx × Bool) :
    Move requestId session (session.onServiceChange entity available nowMs resets pass).1:=by
  unfold onServiceChange
  split
  · split
    · split
      next hstate=>
        refine .schedule nowMs fun hinit=>?_
        rw [hinit] at hstate
        simp at hstate
      · exact .refl requestId session
    · split
      next hfailed=>
        have hmove : Move requestId session {session.resetRequest with state:=.failed}:=
          .release .failed session.retryAttempts session.nextRetryAtMs nofun nofun nofun
        rwa [← hfailed] at hmove
      · exact .release .degraded session.retryAttempts _ nofun nofun nofun
  · exact .refl requestId session

def wake (nowMs : ℕ) (session : Session) : Session:=
  if session.state = .pendingService ∨ session.state = .degraded then
    {session with nextRetryAtMs:=nowMs}
  else session

section
variable (session : Session)

@[simp] lemma wake_handler : (session.wake nowMs).handler=session.handler:=by
  unfold wake
  split <;> rfl

@[simp] lemma wake_msgId : (session.wake nowMs).msgId=session.msgId:=by
  unfold wake
  split <;> rfl

@[simp] lemma wake_state : (session.wake nowMs).state=session.state:=by
  unfold wake
  split <;> rfl

@[simp] lemma wake_desiredActive : (session.wake nowMs).desiredActive=session.desiredActive:=by
  unfold wake
  split <;> rfl

end

variable {session : Session}

lemma wake_retryable : (session.wake nowMs).Retryable ↔ session.Retryable:=by
  unfold Retryable
  rw [wake_state]

lemma wake_settled : (session.wake nowMs).Settled ↔ session.Settled:=by
  unfold Settled
  rw [wake_state]

lemma wake_negotiable {call : SessionCall} {ctx : QosCtx} :
    (session.wake nowMs).Negotiable entity call ctx ↔ session.Negotiable entity call ctx:=by
  unfold wake
  split <;> exact Iff.rfl

lemma onServiceChange_available (hdes : session.desiredActive=true) (resets : ℕ→QosCall) (pass : QosCtx × Bool) :
    session.onServiceChange entity true nowMs resets pass=(session.wake nowMs,pass):=by
  rw [onServiceChange,if_pos hdes,if_pos rfl,wake]
  split <;> rfl

lemma Sound.wake_due (h : session.Sound nowMs) (hretry : session.Retryable) :
    (session.wake nowMs).nextRetryAtMs≤nowMs:=by
  unfold wake
  split
  · exact le_rfl
  next hstate=>exact h.due (hretry.resolve_right hstate)

variable (entity nowMs) in
lemma managerSendSubscription_cases (call : SessionCall) (session : Session) (pass : Pass) :
    (¬session.Negotiable entity call pass.qosCtx ∧
        (session.managerSendSubscription entity nowMs call pass).1= {session.resetRequest with state:=.failed} ∧
        (session.managerSendSubscription entity nowMs call pass).2.sent=pass.sent) ∨
      ∃ message, session.buildMsg entity call=some message ∧
        (session.trackRequest call pass.qosCtx).1 = .ok ∧
        Move call.requestId session (session.managerSendSubscription entity nowMs call pass).1 ∧
        (session.managerSendSubscription entity nowMs call pass).2.sent=pass.sent++[⟨session.handler,message,nowMs⟩]:=by
  unfold managerSendSubscription
  cases hbuild : session.buildMsg entity call with
  | none=>exact .inl ⟨fun h=>by simp [Negotiable,hbuild] at h,rfl,rfl⟩
  | some message=>
    by_cases htrack : (session.trackRequest call pass.qosCtx).1 = .ok
    · refine .inr ⟨message,rfl,htrack,?_⟩
      simp only [htrack,ne_eq,not_true_eq_false,if_false]
      split
      · exact ⟨.wait _ _,rfl⟩
      · refine ⟨.release _ _ _ ?_ ?_ ?_,rfl⟩ <;> split <;> nofun
    · refine .inl ⟨fun h=>htrack h.2,?_⟩
      simp only [ne_eq,htrack,not_false_eq_true,if_true,and_self]

lemma awaitSuback_spec (call : SessionCall) (session : Session) (pass : Pass) :
    Move call.requestId session
        (session.awaitSuback entity available nowMs call pass).1 ∧
      (session.awaitSuback entity available nowMs call pass).2.sent=pass.sent:=by
  unfold awaitSuback
  split
  next hzero=>
    have hmove : Move call.requestId session {session with
        requestId:=0
        state:=.degraded
        nextRetryAtMs:=nowMs+managerGetRetryIntervalMs entity.policy}:=
      .release .degraded session.retryAttempts _ nofun nofun nofun
    rw [← hzero] at hmove
    exact ⟨hmove,rfl⟩
  · dsimp only
    split
    · exact ⟨.release .active 0 _ nofun nofun nofun,rfl⟩
    · split
      · exact ⟨.release .failed _ _ nofun nofun nofun,rfl⟩
      · exact ⟨.release .degraded _ _ nofun nofun nofun,rfl⟩
    · split
      · refine ⟨.release _ _ _ ?_ ?_ ?_,rfl⟩ <;> split <;> nofun
      · exact ⟨.refl _ session,rfl⟩

@[simp] lemma noteRemaining_sent (session : Session) (pass : Pass) :
    (session.noteRemaining nowMs pass).sent=pass.sent:=by
  unfold noteRemaining
  split <;> rfl

lemma reconcileState_of_retryable (h : session.Retryable) (call : SessionCall) (pass : Pass) :
    session.reconcileState entity available nowMs call pass=
      if available then
        let sent:=
          if session.nextRetryAtMs≤nowMs then
            session.managerSendSubscription entity nowMs call pass
          else (session,pass)
        (sent.1,{sent.2 with pending:=sent.1.state != .active && sent.1.state != .failed})
      else (session,{pass with pending:=true}):=by
  rcases h with h | h | h <;> simp only [reconcileState,h]

lemma reconcileState_of_settled (h : session.Settled) (call : SessionCall) (pass : Pass) :
    session.reconcileState entity available nowMs call pass=(session,pass):=by
  rcases h with h | h | h <;> simp only [reconcileState,h]

lemma cases_state (session : Session) :
    session.Retryable ∨ session.state = .waitingSuback ∨ session.Settled:=by
  unfold Retryable Settled
  cases session.state <;> simp

lemma Settled.not_retryable (h : session.Settled) : ¬session.Retryable:=by
  unfold Retryable
  rcases h with h | h | h <;> simp [h]

variable (entity available nowMs) in
lemma move_reconcile (calls : ℕ→SessionCall) (session : Session) (pass : Pass) :
    Move (calls session.handler).requestId session (session.reconcile entity available nowMs calls pass).1:=by
  unfold reconcile
  split
  · rcases session.cases_state with hretry | hwait | hsettled
    · rw [reconcileState_of_retryable hretry]
      split
      · split
        · rcases managerSendSubscription_cases entity nowMs (calls session.handler) session
            pass with ⟨-,heq,-⟩ | ⟨message,-,-,hmove,-⟩
          · rw [heq]
            exact .release .failed _ _ nofun nofun nofun
          · exact hmove
        · exact .refl _ session
      · exact .refl _ session
    · simp only [reconcileState,hwait]
      exact (session.awaitSuback_spec (calls session.handler) pass).1
    · rw [reconcileState_of_settled hsettled]
      exact .refl _ session
  · exact .refl _ session

variable (entity available nowMs) in
lemma reconcile_sent (calls : ℕ→SessionCall) (session : Session) (pass : Pass) :
    (session.reconcile entity available nowMs calls pass).2.sent=
      pass.sent++session.subs entity available nowMs calls pass:=by
  unfold reconcile
  by_cases hdes : session.desiredActive=true
  · rw [if_pos hdes,noteRemaining_sent]
    rcases session.cases_state with hretry | hwait | hsettled
    · rw [reconcileState_of_retryable hretry]
      by_cases hsend : available=true ∧ session.nextRetryAtMs≤nowMs
      · rw [if_pos hsend.1,if_pos hsend.2]
        rcases managerSendSubscription_cases entity nowMs (calls session.handler) session
          pass with ⟨hnot,-,hsent⟩ | ⟨message,hbuild,htrack,-,hsent⟩
        · simp only [hsent,subs]
          rw [self_eq_append_right,ite_eq_right_iff]
          intro h
          rw [map_eq_nil_iff,Option.toList_eq_nil_iff,← Option.not_isSome_iff_eq_none]
          exact fun hsome=>hnot ⟨hsome,h.2.2.2.2⟩
        · simp only [hsent,subs,hbuild]
          rw [if_pos ⟨hdes,hsend.1,hretry,hsend.2,htrack⟩]
          rfl
      · have hnone : session.subs entity available nowMs calls pass=[]:=if_neg fun h=>hsend ⟨h.2.1,h.2.2.2.1⟩
        rw [hnone,append_nil]
        split
        · rw [if_neg fun h=>hsend ⟨‹_›,h⟩]
        · rfl
    · have hnone : session.subs entity available nowMs calls pass=[]:=if_neg fun h=>by simp [Retryable,hwait] at h
      simp only [reconcileState,hwait,hnone,append_nil]
      exact (session.awaitSuback_spec (calls session.handler) pass).2
    · have hnone : session.subs entity available nowMs calls pass=[]:=if_neg fun h=>hsettled.not_retryable h.2.2.1
      rw [reconcileState_of_settled hsettled,hnone,append_nil]
  · rw [if_neg hdes,subs,if_neg fun h=>hdes h.1,append_nil]

variable {calls : ℕ→SessionCall} {pass : Pass}

lemma handler_of_mem_subs {sub : SentSub} (h : sub∈session.subs entity available nowMs calls pass) :
    sub.handler=session.handler ∧ sub.atMs=nowMs:=by
  unfold subs at h
  split at h
  · obtain ⟨message,-,rfl⟩:=List.mem_map.1 h
    exact ⟨rfl,rfl⟩
  · exact absurd h not_mem_nil

variable (entity available nowMs) in
lemma reconcile_of_settled (h : session.Settled) (calls : ℕ→SessionCall) (pass : Pass) :
    (session.reconcile entity available nowMs calls pass).1=session ∧
      session.subs entity available nowMs calls pass=[]:=by
  refine ⟨?_,if_neg fun hsend=>h.not_retryable hsend.2.2.1⟩
  unfold reconcile
  split
  · rw [reconcileState_of_settled h]
  · rfl

section
variable (hdes : session.desiredActive=true) (hretry : session.Retryable) (hdue : session.nextRetryAtMs≤nowMs)
include hdes hretry hdue

lemma reconcile_of_not_negotiable (hnot : ¬session.Negotiable entity (calls session.handler) pass.qosCtx) :
    (session.reconcile entity true nowMs calls pass).1.state = .failed:=by
  rw [reconcile,if_pos hdes,reconcileState_of_retryable hretry,if_pos rfl,if_pos hdue]
  rcases managerSendSubscription_cases entity nowMs (calls session.handler) session
    pass with ⟨-,heq,-⟩ | ⟨message,hbuild,htrack,-,-⟩
  · simp only [heq]
  · exact absurd ⟨by rw [hbuild]; rfl,htrack⟩ hnot

lemma subs_of_negotiable (h : session.Negotiable entity (calls session.handler) pass.qosCtx) :
    ∃ message, session.buildMsg entity (calls session.handler)=some message ∧
      session.subs entity true nowMs calls pass=[⟨session.handler,message,nowMs⟩]:=by
  obtain ⟨message,hbuild⟩:=Option.isSome_iff_exists.1 h.1
  refine ⟨message,hbuild,?_⟩
  rw [subs,if_pos ⟨hdes,rfl,hretry,hdue,h.2⟩,hbuild]
  rfl

end
end
end Session
end SoftMessageBus
