import SoftMessageBus.ProtocolCodec
import SoftMessageBus.QosContext
import SoftMessageBus.RouteDispatch

/-!
# The memory of reliable messages

A reliable message is recorded and not deleted after sending.
-/
namespace SoftMessageBus
open List

inductive MemoryBlock (κ : Type*) where
  | message (message : ℕ)
  | state (context : κ) (addr : ℕ)
  deriving DecidableEq

structure Exchange (κ : Type*) where
  message : ℕ
  requestId : UInt64
  contexts : List κ

structure ReliableNodes (κ : Type*) where
  engine : RouteEngine
  contexts : κ→QosCtx
  exchanges : List (Exchange κ)
  freedStates : List (κ × ℕ)

structure Submission (κ : Type*) where
  reliabilityEnabled : Bool
  message : Message
  qosCalls : κ→QosCall
  call : SendCall

/-- Nodes send and use contexts, and the engine sends and dispatches. -/
inductive ReliableEvent (κ : Type*) where
  | sendRequest (context : κ) (submission : Submission κ)
  | sendReply (context : κ) (submission : Submission κ)
  | publish (subscribers : List (Option κ)) (submission : Submission κ)
  | qos (context : κ) (call : QosCall) (op : QosOp)
  | destroyContext (context : κ) (qosPolicy : QosPolicy)
  | engine (event : RouteEvent)

namespace ReliableNodes
variable {κ : Type*} [DecidableEq κ]

def create (maxQueueSize : ℕ) (policies : κ→QosPolicy) : ReliableNodes κ:=
  ⟨.create maxQueueSize,fun k=>.create (policies k),[],[]⟩

section
variable (s : ReliableNodes κ)

def useContext (context : κ) (call : QosCall) (op : QosOp) : ReliableNodes κ:=
  {s with
    contexts:=Function.update s.contexts context ((s.contexts context).perform call op)
    freedStates:=s.freedStates ++ ((s.contexts context).freedStates call op).map (Prod.mk context)}

def recordOp (submission : Submission κ) : QosOp:=
  .setState submission.message.header.requestId .created (some submission.message)

def records (submission : Submission κ) (context : κ) : Bool:=
  ((s.contexts context).setState (submission.qosCalls context)
    submission.message.header.requestId .created (some submission.message)).1 == .ok

def record (contexts : List κ) (submission : Submission κ) : ReliableNodes κ:=
  contexts.foldl (fun s k=>s.useContext k (submission.qosCalls k) (recordOp submission)) s

/-- The end of a send: a tracked message is recorded and kept. -/
def submit (tracked : Bool) (contexts : List κ) (submission : Submission κ) : ReliableNodes κ:=
  let call:={submission.call with deleteAfterSend:=!tracked}
  if tracked then
    {s.record contexts submission with
      engine:=s.engine.send call
      exchanges:=s.exchanges++[⟨s.engine.nextMessage,submission.message.header.requestId,
        contexts.filter (s.records submission)⟩]}
  else {s with engine:=s.engine.send call}

/-- `zoo_smb_client_send_request`, once its message is created. -/
def sendRequest (context : κ) (submission : Submission κ) : ReliableNodes κ:=
  s.submit submission.reliabilityEnabled [context] submission

/-- `zoo_smb_server_send_reply`, once its message is created. -/
def sendReply (context : κ) (submission : Submission κ) : ReliableNodes κ:=
  s.submit submission.reliabilityEnabled [context] submission

/-- `zoo_smb_publish_message`, once its message is created; not every subscriber has a
context. -/
def publish (subscribers : List (Option κ)) (submission : Submission κ) : ReliableNodes κ:=
  s.submit (submission.reliabilityEnabled && !subscribers.isEmpty) (subscribers.filterMap id) submission

def step (s : ReliableNodes κ) : ReliableEvent κ→ReliableNodes κ
  | .sendRequest context submission=>s.sendRequest context submission
  | .sendReply context submission=>s.sendReply context submission
  | .publish subscribers submission=>s.publish subscribers submission
  | .qos context call op=>s.useContext context call op
  | .destroyContext context qosPolicy=>
    {s with
      contexts:=Function.update s.contexts context (.create qosPolicy)
      freedStates:=s.freedStates++(s.contexts context).messages.map fun state=>(context,state.addr)}
  | .engine event=>{s with engine:=s.engine.step event}

def freed (s : ReliableNodes κ) : List (MemoryBlock κ):=
  s.engine.log.filterMap (fun
    | .use _=>none
    | .destroy message=>some (.message message))++
  s.freedStates.map fun freed=>.state freed.1 freed.2

/-- The request of an exchange has been acknowledged, removed or pruned in every context that
recorded it. -/
def finished (e : Exchange κ) : Bool:=
  !e.contexts.isEmpty && e.contexts.all fun k=>((s.contexts k).findState e.requestId).all fun state=>state.status == .acked

/-- The message of every finished exchange has been freed exactly once. -/
def Releases : Prop:=
  (∀ e∈s.exchanges, s.finished e→s.freed.count (.message e.message)=1) ∧
    (s.exchanges.filter fun e=>!s.freed.contains (.message e.message)).length≤
      (s.exchanges.filter fun e=>!s.finished e).length

end

structure Kept (s : ReliableNodes κ) : Prop where
  accounted : s.engine.Accounted
  message_lt : ∀ e∈s.exchanges, e.message<s.engine.nextMessage
  flag : ∀ e∈s.exchanges, ∀ context∈s.engine.contexts, context.message=e.message→ context.deleteMessageFlag=false

omit [DecidableEq κ] in
lemma kept_create (maxQueueSize : ℕ) (policies : κ→QosPolicy) :
    (create maxQueueSize policies).Kept where
  accounted:=RouteEngine.accounted_create maxQueueSize
  message_lt _ h:=absurd h not_mem_nil
  flag _ h:=absurd h not_mem_nil

namespace Kept
variable {s s' : ReliableNodes κ}

omit [DecidableEq κ] in
lemma congr (h : s.Kept) (heng : s'.engine=s.engine)
    (hexchanges : s'.exchanges=s.exchanges) : s'.Kept where
  accounted:=heng ▸ h.accounted
  message_lt:=by
    rw [heng,hexchanges]
    exact h.message_lt
  flag:=by
    rw [heng,hexchanges]
    exact h.flag

omit [DecidableEq κ] in
lemma send (h : s.Kept) (call : SendCall) : {s with engine:=s.engine.send call}.Kept:=by
  refine ⟨h.accounted.send call,fun e he=>?_,fun e he context hc heq=>?_⟩
  · exact s.engine.nextMessage_send call ▸ Nat.lt_succ_of_lt (h.message_lt e he)
  · rcases s.engine.mem_contexts_send hc with ⟨hmessage,-⟩ | hc
    · exact absurd (hmessage.symm.trans heq) (Nat.ne_of_gt (h.message_lt e he))
    · exact h.flag e he context hc heq

omit [DecidableEq κ] in
lemma engineStep (h : s.Kept) (event : RouteEvent) : {s with engine:=s.engine.step event}.Kept:=by
  rcases s.engine.step_cases event with ⟨call,rfl⟩ | ⟨dropped,hmoves⟩
  · exact h.send call
  · refine ⟨h.accounted.of_moves hmoves,fun e he=>?_,fun e he context hc=>?_⟩
    · exact hmoves.nextMessage ▸ h.message_lt e he
    · exact h.flag e he context (hmoves.contexts_subset hc)

lemma submit (h : s.Kept) (tracked : Bool) (contexts : List κ) (submission : Submission κ) :
    (s.submit tracked contexts submission).Kept:=by
  have hsend:=h.send {submission.call with deleteAfterSend:=!tracked}
  unfold ReliableNodes.submit
  split
  next htracks=>
    refine ⟨hsend.accounted,fun e he=>?_,fun e he context hc heq=>?_⟩
    · rcases mem_append.1 he with he | he
      · exact hsend.message_lt e he
      · rw [mem_singleton.1 he]
        exact s.engine.nextMessage_send _ ▸ Nat.lt_succ_self _
    · rcases mem_append.1 he with he | he
      · exact hsend.flag e he context hc heq
      · rw [mem_singleton.1 he] at heq
        rcases s.engine.mem_contexts_send hc with ⟨-,hflag⟩ | hc
        · rw [hflag,htracks]
          rfl
        · exact absurd heq (Nat.ne_of_lt (h.accounted.lt_next context hc))
  · exact hsend

lemma step (h : s.Kept) (event : ReliableEvent κ) : (s.step event).Kept:=by
  cases event with
  | sendRequest | sendReply | publish=>exact h.submit _ _ _
  | qos | destroyContext=>exact h.congr rfl rfl
  | engine event=>exact h.engineStep event

lemma run (h : s.Kept) (events : List (ReliableEvent κ)) : (events.foldl ReliableNodes.step s).Kept:=by
  induction events generalizing s with
  | nil=>exact h
  | cons event events ih=>exact ih (h.step event)

omit [DecidableEq κ] in
lemma not_freed (h : s.Kept) {e : Exchange κ} (he : e∈s.exchanges) :
    MemoryBlock.message e.message∉s.freed:=by
  intro hmem
  rcases mem_append.1 hmem with hmem | hmem
  · obtain ⟨action,hact,heq⟩:=mem_filterMap.1 hmem
    cases action with
    | use message=>cases heq
    | destroy message=>
      cases heq
      obtain ⟨context,hc,hmessage,hflag⟩:=RouteEngine.exists_context_of_destroy_mem_log hact
      rw [h.flag e he context hc hmessage] at hflag
      cases hflag
  · obtain ⟨freed,-,heq⟩:=List.mem_map.1 hmem
    cases heq

end Kept

/-- Reliable messages are released as their exchanges finish only as long as no exchange
finishes. -/
theorem run_releases_iff (maxQueueSize : ℕ) (policies : κ→QosPolicy) (events : List (ReliableEvent κ)) :
    (events.foldl step (create maxQueueSize policies)).Releases ↔
      ∀ e∈(events.foldl step (create maxQueueSize policies)).exchanges,
        ¬(events.foldl step (create maxQueueSize policies)).finished e:=by
  have h:=(kept_create maxQueueSize policies).run events
  generalize events.foldl step (create maxQueueSize policies)=s at h
  constructor
  · rintro ⟨hfreed,-⟩ e he hfinished
    have hcount:=hfreed e he hfinished
    rw [count_eq_zero_of_not_mem (h.not_freed he)] at hcount
    cases hcount
  · intro hnone
    refine ⟨fun e he hfinished=>absurd hfinished (hnone e he),?_⟩
    have hall : (s.exchanges.filter fun e=>!s.finished e)=s.exchanges:=filter_eq_self.2 fun e he=>by simpa using hnone e he
    rw [hall]
    exact length_filter_le _ _

/-- A published message is acknowledged and never freed. -/
theorem acknowledged_publication_not_freed :
    let call : QosCall:=⟨0,0,true⟩
    let s:=[ReliableEvent.engine .start,
      .publish [some ()] ⟨true,samplePublication,fun _=>call,RouteEngine.sampleSend⟩,
      .engine (.attempt 0 true),.engine (.dispatch .ok),
      .qos () call (.setState samplePublication.header.requestId .acked none)].foldl step
      (create 1 fun _=>defaultQosPolicy)
    s.exchanges.map Exchange.message=[0] ∧ (∀ e∈s.exchanges, s.finished e=true) ∧
      s.engine.handled.map (fun h=>h.1.message)=[0] ∧ s.freed=[]:=by decide +kernel

end ReliableNodes
end SoftMessageBus
