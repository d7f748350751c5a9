import SoftMessageBus.Node
import SoftMessageBus.QosContext

/-!
# Publishers and subscribers

A publisher registers matching subscribers and tracks its messages for each.
-/
namespace SoftMessageBus
open ByteEncoding BucketIndex List

def maxSubscriberNumber : ℕ:=1024

/-- The size of the lists that `zoo_smb_create_publisher` creates for its buckets. -/
def subscriberBucketCapacity : ℕ:=8

/-- `ZOO_SMB_SUBSCRIBER_QOS_CTX_STRUCT`. -/
structure SubscriberQosCtx where
  addr : ℕ
  subscriberName : CString
  qosPolicy : Option QosPolicy
  qosCtx : Option QosCtx
  matched : Bool
  incompatibilityMask : UInt32

/-- `ZOO_SMB_PUBLISHER_STRUCT`. -/
structure Publisher where
  node : Node
  qosPolicy : QosPolicy
  subscribers : List SubscriberQosCtx
  subscriberIndexBuckets : Index CString 257
  nextAddr : ℕ

def subscriberIndexHash (name : CString) : Fin 257:=nameIndexHash name

/-- The allocations of `publisher_register_or_update_subscriber_qos_ctx` that succeed. -/
structure RegisterAllocations where
  subscriberCtx : Bool
  qosPolicy : Bool
  qosCtx : Bool
  indexEntry : Bool

namespace Publisher

/-- `zoo_smb_create_publisher`, when its allocations succeed. -/
def create (node : Node) (qosPolicy : QosPolicy) : Publisher:=⟨node,qosPolicy,[],fun _=>[],0⟩

variable (p : Publisher)

def findSubscriberCtxByName (name : CString) : Option SubscriberQosCtx:=
  lookup subscriberIndexHash SubscriberQosCtx.addr p.subscriberIndexBuckets p.subscribers name

def modifySubscriber (addr : ℕ) (f : SubscriberQosCtx→SubscriberQosCtx) : Publisher:=
  {p with subscribers:=modifyAt SubscriberQosCtx.addr p.subscribers addr f}

section
variable (alloc : RegisterAllocations)

/-- `publisher_register_or_update_subscriber_qos_ctx` for an unknown subscriber with a
compatible policy. -/
def registerSubscriber (subscriberName : CString)
    (subscriberQosPolicy : QosPolicy) (matchResult : QosMatchResult) : ErrorType × Publisher:=
  if !(alloc.subscriberCtx && alloc.qosPolicy && alloc.qosCtx) then (.outOfMemory,p)
  else if maxSubscriberNumber≤p.subscribers.length then (.listFull,p)
  else match upsert subscriberIndexHash subscriberBucketCapacity alloc.indexEntry
      p.subscriberIndexBuckets (subscriberName.truncate 31) p.nextAddr with
    | some index=>
      (.ok, {p with
        subscribers:=p.subscribers++[{
          addr:=p.nextAddr
          subscriberName:=subscriberName.truncate 31
          qosPolicy:=some subscriberQosPolicy
          qosCtx:=some (QosCtx.create subscriberQosPolicy)
          matched:=matchResult.compatible
          incompatibilityMask:=matchResult.incompatibleMask}]
        subscriberIndexBuckets:=index
        nextAddr:=p.nextAddr+1})
    | none=>(.outOfMemory,p)

/-- `publisher_register_or_update_subscriber_qos_ctx` for a known subscriber that matches. -/
def updateSubscriber (ctx : SubscriberQosCtx)
    (subscriberQosPolicy : QosPolicy) (matchResult : QosMatchResult) : ErrorType × Publisher:=
  if ctx.qosPolicy=some subscriberQosPolicy then
    (.ok, p.modifySubscriber ctx.addr fun ctx=>
      {ctx with
        matched:=matchResult.compatible
        incompatibilityMask:=matchResult.incompatibleMask})
  else if !(alloc.qosPolicy && alloc.qosCtx) then
    (.outOfMemory, p.modifySubscriber ctx.addr fun ctx=>{ctx with qosPolicy:=none, qosCtx:=none})
  else
    let index:=(upsert subscriberIndexHash subscriberBucketCapacity alloc.indexEntry
      p.subscriberIndexBuckets ctx.subscriberName ctx.addr).getD p.subscriberIndexBuckets
    (.ok, {p with subscriberIndexBuckets:=index}.modifySubscriber ctx.addr fun ctx=>
      {ctx with
        qosPolicy:=some subscriberQosPolicy
        qosCtx:=some (QosCtx.create subscriberQosPolicy)
        matched:=matchResult.compatible
        incompatibilityMask:=matchResult.incompatibleMask})

/-- `publisher_register_or_update_subscriber_qos_ctx` for an incompatible policy. -/
def dropSubscriber (ctx : SubscriberQosCtx) : Publisher:=
  {p with
    subscribers:=p.subscribers.eraseP fun s=>s.addr=ctx.addr
    subscriberIndexBuckets:=remove subscriberIndexHash p.subscriberIndexBuckets ctx.subscriberName}

def registerOrUpdateSubscriberQosCtx
    (subscriberName : CString) (subscriberQosPolicy : QosPolicy) (matchResult : QosMatchResult) :
    ErrorType × Publisher:=
  match p.findSubscriberCtxByName subscriberName with
  | none=>
    if !matchResult.compatible then (.publicationQosViolation,p)
    else p.registerSubscriber alloc subscriberName subscriberQosPolicy matchResult
  | some ctx=>
    if !matchResult.compatible then (.publicationQosViolation,p.dropSubscriber ctx)
    else p.updateSubscriber alloc ctx subscriberQosPolicy matchResult

end

/-- The bytes of a `ZOO_SMB_QOS_NEGOTIATION_RESULT_STRUCT`. -/
def negotiationResult (e : Endian) (matchResult : QosMatchResult) : Bytes:=
  [if matchResult.compatible then 1 else 0,0,0,0]++store e matchResult.incompatibleMask

def sendAck (e : Endian) (env : MessageEnvironment) (message : Message) (matchResult : QosMatchResult) : List Send:=
  ((createMessage env .suback p.node.target p.node.topic (negotiationResult e matchResult)
    message.header.msgId message.header.requestId).map fun ack=>
      {message:=ack, receiver:=message.sender, deleteAfterSend:=true}).toList

def requestedPolicy (e : Endian) (message : Message) : Option QosPolicy:=
  if 0 < message.header.payloadSize then message.payload.map (QosPolicy.ofMemory e) else none

/-- `publisher_on_handle_SUB_message_cb`. -/
def onHandleSub (e : Endian) (env : MessageEnvironment)
    (alloc : RegisterAllocations) (message : Message) : Publisher × List Send:=
  match requestedPolicy e message with
  | some policy=>
    let matchResult:=qosPolicyMatch p.qosPolicy policy
    ((p.registerOrUpdateSubscriberQosCtx alloc message.sender policy matchResult).2, p.sendAck e env message matchResult)
  | none=>(p,p.sendAck e env message ⟨true,0⟩)

def onHandlePuback (call : QosCall) (message : Message) : Publisher:=
  match p.findSubscriberCtxByName message.sender with
  | none=>p
  | some ctx=>p.modifySubscriber ctx.addr fun ctx=>
      {ctx with qosCtx:=ctx.qosCtx.map fun qosCtx=>(qosCtx.setState call message.header.requestId .acked none).2}

/-- `publisher_set_all_subscribers_qos_msg_status`. -/
def setAllSubscribersQosMsgStatus (calls : ℕ→QosCall) (requestId : UInt64)
    (status : MsgStatus) (msg : Message) : Publisher:=
  {p with subscribers:=p.subscribers.map fun ctx=>
      {ctx with qosCtx:=ctx.qosCtx.map fun qosCtx=>(qosCtx.setState (calls ctx.addr) requestId status (some msg)).2} }

/-- The receiver that `zoo_smb_publish_message` chooses. -/
def publishReceiver : CString:=
  match p.subscribers.find? fun s=>s.matched && !s.subscriberName.bytes.isEmpty with
  | some s=>s.subscriberName
  | none=>smbMulticast

/-- `zoo_smb_publish_message`. -/
def publishMessage (env : MessageEnvironment) (calls : ℕ→QosCall)
    (sendResult : ErrorType) (msgId : UInt32) (payload : Bytes) (requestId : UInt64) :
    ErrorType × Publisher × List Send:=
  match createMessage env .pub p.node.target p.node.topic payload msgId requestId with
  | none=>(.outOfMemory,p,[])
  | some message=>
    let tracked:=p.qosPolicy.reliabilityEnabled && !p.subscribers.isEmpty
    let p':=if tracked then p.setAllSubscribersQosMsgStatus calls requestId .created message
      else p
    (sendResult, p', [{message, receiver:=p'.publishReceiver, deleteAfterSend:=!tracked}])

end Publisher

structure SubscriptionSession where
  msgId : UInt32
  handler : Option ℕ
  deriving DecidableEq

/-- `ZOO_SMB_SUBSCRIBER_STRUCT`. -/
structure Subscriber where
  node : Node
  policyMemory : Bytes
  sessions : List SubscriptionSession

namespace Subscriber

def qosPolicy (e : Endian) (s : Subscriber) : QosPolicy:=QosPolicy.ofMemory e s.policyMemory

/-- The subscription that `manager_send_subscription` builds with `zoo_smb_qos_build_msg`. -/
def buildSub (s : Subscriber) (env : MessageEnvironment) (msgId : UInt32) (requestId : UInt64) :
    Option Message:=
  createMessage env .sub s.node.name s.node.topic (s.policyMemory.take qosPolicySize) msgId requestId

def sendAck (s : Subscriber) (env : MessageEnvironment) (msgId : UInt32) (requestId : UInt64)
    (receiver : CString) : List Send:=
  ((createMessage env .puback s.node.target s.node.topic [] msgId requestId).map fun ack=>
    {message:=ack, receiver, deleteAfterSend:=true}).toList

/-- `subscriber_on_handle_PUB_msg_cb`. -/
def onHandlePub (s : Subscriber) (e : Endian) (env : MessageEnvironment) (message : Message) :
    List Send × List ℕ:=
  (if (s.qosPolicy e).reliabilityEnabled then
      s.sendAck env message.header.msgId message.header.requestId message.sender
    else [],
   s.sessions.filterMap fun session=>if session.msgId=message.header.msgId then session.handler else none)

end Subscriber

structure Publisher.Consistent (p : Publisher) : Prop where
  agrees : Agrees subscriberIndexHash SubscriberQosCtx.subscriberName SubscriberQosCtx.addr
    p.subscriberIndexBuckets p.subscribers
  addr_lt : ∀ s∈p.subscribers, s.addr<p.nextAddr
  contexts : ∀ s∈p.subscribers, ∀ qosCtx∈s.qosCtx, qosCtx.Consistent

namespace Publisher

lemma consistent_create (node : Node) (qosPolicy : QosPolicy) :
    (create node qosPolicy).Consistent where
  agrees:=.empty
  addr_lt _ h:=absurd h not_mem_nil
  contexts _ h:=absurd h not_mem_nil

namespace Consistent
variable {p : Publisher} {ctx : SubscriberQosCtx}

section
variable (h : p.Consistent)
include h

lemma findSubscriberCtxByName_eq_some_iff {name : CString} :
    p.findSubscriberCtxByName name=some ctx ↔ ctx∈p.subscribers ∧ ctx.subscriberName=name:=
  h.agrees.lookup_eq_some_iff

lemma mapSubscribers {f : SubscriberQosCtx→SubscriberQosCtx}
    (hname : ∀ s, (f s).subscriberName=s.subscriberName) (haddr : ∀ s, (f s).addr=s.addr)
    (hctx : ∀ s∈p.subscribers, ∀ qosCtx∈(f s).qosCtx, qosCtx.Consistent) :
    {p with subscribers:=p.subscribers.map f}.Consistent where
  agrees:=h.agrees.map hname haddr
  addr_lt:=by
    intro s hs
    obtain ⟨t,ht,rfl⟩:=List.mem_map.1 hs
    rw [haddr]
    exact h.addr_lt t ht
  contexts:=by
    intro s hs
    obtain ⟨t,ht,rfl⟩:=List.mem_map.1 hs
    exact hctx t ht

lemma modifySubscriber (addr : ℕ) {f : SubscriberQosCtx→SubscriberQosCtx}
    (hname : ∀ s, (f s).subscriberName=s.subscriberName) (haddr : ∀ s, (f s).addr=s.addr)
    (hctx : ∀ s∈p.subscribers, ∀ qosCtx∈(f s).qosCtx, qosCtx.Consistent) :
    (p.modifySubscriber addr f).Consistent:=by
  apply h.mapSubscribers
  · intro s
    split
    · exact hname s
    · rfl
  · intro s
    split
    · exact haddr s
    · rfl
  · intro s hs
    split
    · exact hctx s hs
    · exact h.contexts s hs

section
variable (alloc : RegisterAllocations)

lemma registerSubscriber {name : CString} (policy : QosPolicy)
    (matchResult : QosMatchResult) (hlen : name.bytes.length≤31) (hnone : p.findSubscriberCtxByName name=none) :
    (p.registerSubscriber alloc name policy matchResult).2.Consistent:=by
  have hkeys:=h.agrees.lookup_eq_none_iff.1 hnone
  unfold Publisher.registerSubscriber
  rw [CString.truncate_eq_self hlen,upsert,h.agrees.find_eq_none_iff.2 hkeys]
  split
  · exact h
  · split
    · exact h
    · split
      case h_2=>exact h
      case h_1 index hpush=>
        dsimp only at hpush
        split at hpush
        case isFalse=>cases hpush
        case isTrue=>
          obtain ⟨hagr,hlt⟩:=h.agrees.push_next
            (r:=⟨p.nextAddr,name,some policy,some (QosCtx.create policy),
              matchResult.compatible,matchResult.incompatibleMask⟩) hkeys h.addr_lt hpush
          refine ⟨hagr,hlt,?_⟩
          intro s hs qosCtx hq
          rcases mem_append.1 hs with hold | hnew
          · exact h.contexts s hold qosCtx hq
          · rw [mem_singleton.1 hnew] at hq
            cases hq
            exact QosCtx.consistent_create policy

lemma dropSubscriber (hctx : ctx∈p.subscribers) :
    (p.dropSubscriber ctx).Consistent where
  agrees:=h.agrees.remove hctx
  addr_lt s hs:=h.addr_lt s (mem_of_mem_eraseP hs)
  contexts s hs:=h.contexts s (mem_of_mem_eraseP hs)

lemma updateSubscriber (hctx : ctx∈p.subscribers) (policy : QosPolicy) (matchResult : QosMatchResult) :
    (p.updateSubscriber alloc ctx policy matchResult).2.Consistent:=by
  unfold Publisher.updateSubscriber
  split
  · exact h.modifySubscriber ctx.addr (fun _=>rfl) (fun _=>rfl) h.contexts
  · split
    · refine h.modifySubscriber ctx.addr (fun _=>rfl) (fun _=>rfl) ?_
      intro s hs qosCtx hq
      cases hq
    · rw [upsert,h.agrees.find_of_mem hctx]
      simp only [Option.getD_some,h.agrees.replace_eq_self hctx]
      refine h.modifySubscriber ctx.addr (fun _=>rfl) (fun _=>rfl) ?_
      intro s hs qosCtx hq
      cases hq
      exact QosCtx.consistent_create policy

lemma registerOrUpdate {name : CString} (policy : QosPolicy)
    (matchResult : QosMatchResult) (hlen : name.bytes.length≤31) :
    (p.registerOrUpdateSubscriberQosCtx alloc name policy matchResult).2.Consistent:=by
  unfold registerOrUpdateSubscriberQosCtx
  split
  case h_1 hnone=>
    split
    · exact h
    · exact h.registerSubscriber alloc policy matchResult hlen hnone
  case h_2 ctx hsome=>
    have hctx:=(h.findSubscriberCtxByName_eq_some_iff.1 hsome).1
    split
    · exact h.dropSubscriber hctx
    · exact h.updateSubscriber alloc hctx policy matchResult

end

lemma onHandleSub (e : Endian) (env : MessageEnvironment) (alloc : RegisterAllocations)
    {message : Message} (hlen : message.sender.bytes.length≤31) :
    (p.onHandleSub e env alloc message).1.Consistent:=by
  unfold Publisher.onHandleSub
  split
  · exact h.registerOrUpdate alloc _ _ hlen
  · exact h

lemma onHandlePuback (call : QosCall) (message : Message) : (p.onHandlePuback call message).Consistent:=by
  unfold Publisher.onHandlePuback
  split
  · exact h
  · refine h.modifySubscriber _ (fun _=>rfl) (fun _=>rfl) ?_
    intro s hs qosCtx hq
    obtain ⟨old,hold,rfl⟩:=Option.mem_map.1 hq
    exact (h.contexts s hs old hold).setState call _ _ _

lemma publishMessage (env : MessageEnvironment) (calls : ℕ→QosCall) (sendResult : ErrorType)
    (msgId : UInt32) (payload : Bytes) (requestId : UInt64) :
    (p.publishMessage env calls sendResult msgId payload requestId).2.1.Consistent:=by
  unfold Publisher.publishMessage
  split
  · exact h
  · dsimp only
    split
    · refine h.mapSubscribers (fun _=>rfl) (fun _=>rfl) ?_
      intro s hs qosCtx hq
      obtain ⟨old,hold,rfl⟩:=Option.mem_map.1 hq
      exact (h.contexts s hs old hold).setState _ _ _ _
    · exact h

end
end Consistent
end Publisher

/-- What can happen to a publisher. -/
inductive PublisherEvent where
  | sub (env : MessageEnvironment) (alloc : RegisterAllocations) (message : Message)
  | puback (call : QosCall) (message : Message)
  | publish (env : MessageEnvironment) (calls : ℕ→QosCall) (sendResult : ErrorType)
      (msgId : UInt32) (payload : Bytes) (requestId : UInt64)

def PublisherEvent.Terminated : PublisherEvent→Prop
  | .sub _ _ message=>message.sender.bytes.length≤31
  | _=>True

instance (event : PublisherEvent) : Decidable event.Terminated:=by
  cases event <;> dsimp only [PublisherEvent.Terminated] <;> infer_instance

namespace Publisher

def step (e : Endian) (p : Publisher) : PublisherEvent→Publisher
  | .sub env alloc message=>(p.onHandleSub e env alloc message).1
  | .puback call message=>p.onHandlePuback call message
  | .publish env calls sendResult msgId payload requestId=>
    (p.publishMessage env calls sendResult msgId payload requestId).2.1

lemma Consistent.step {p : Publisher} (h : p.Consistent) (e : Endian) {event : PublisherEvent}
    (hevent : event.Terminated) : (p.step e event).Consistent:=by
  cases event with
  | sub env alloc message=>exact h.onHandleSub e env alloc hevent
  | puback call message=>exact h.onHandlePuback call message
  | publish env calls sendResult msgId payload requestId=>
    exact h.publishMessage env calls sendResult msgId payload requestId

def run (e : Endian) (p : Publisher) (events : List PublisherEvent) : Publisher:=events.foldl (Publisher.step e) p

lemma Consistent.run {p : Publisher} (h : p.Consistent) (e : Endian)
    {events : List PublisherEvent} (hev : ∀ event∈events, event.Terminated) : (p.run e events).Consistent:=by
  induction events generalizing p with
  | nil=>exact h
  | cons event events ih=>
    obtain ⟨hevent,hev⟩:=forall_mem_cons.1 hev
    exact ih (h.step e hevent) hev

end Publisher

/-! ## Delivery of publications -/

section
variable (transportType : TransportType)

/-- The receivers that the transport of the given type reads as a group. -/
def isGroup (receiver : CString) : Bool:=
  match transportType with
  | .udp=>receiver=smbMulticast || receiver=smbBroadcast
  | .udpBroadcast=>true
  | .tcp | .shm=>false

def addresses (receiver name : CString) : Bool:=receiver=name || isGroup transportType receiver

def copiesSent (requestId : UInt64) (name : CString) (sends : List Send) : ℕ:=
  sends.countP fun send=>send.message.header.requestId == requestId && addresses transportType send.receiver name

end
namespace Publisher
variable (p : Publisher)

def SoleMatchedName : Prop:=∃ name, name≠CString.empty ∧ ∀ s∈p.subscribers, s.matched=true→s.subscriberName=name

lemma publishReceiver_eq_iff :
    (∀ s∈p.subscribers, s.matched=true→p.publishReceiver=s.subscriberName) ↔ p.SoleMatchedName:=by
  unfold publishReceiver
  cases hfind : p.subscribers.find? fun s=>s.matched && !s.subscriberName.bytes.isEmpty with
  | none=>
    rw [find?_eq_none] at hfind
    constructor
    · intro hall
      exact ⟨smbMulticast,by decide,fun s hs hm=>(hall s hs hm).symm⟩
    · rintro ⟨name,hname,hall⟩ s hs hm
      have hempty : s.subscriberName=CString.empty:=by
        rw [← CString.isEmpty_bytes_iff]
        simpa [hm] using hfind s hs
      exact absurd ((hall s hs hm).symm.trans hempty) hname
  | some first=>
    have hmem:=mem_of_find?_eq_some hfind
    have hfirst:=find?_some hfind
    rw [Bool.and_eq_true,Bool.not_eq_true'] at hfirst
    constructor
    · intro hall
      refine ⟨first.subscriberName,?_,fun s hs hm=>(hall s hs hm).symm⟩
      intro hempty
      rw [CString.isEmpty_bytes_iff.2 hempty] at hfirst
      exact Bool.noConfusion hfirst.2
    · rintro ⟨name,-,hall⟩ s hs hm
      exact (hall first hmem hfirst.1).trans (hall s hs hm).symm

lemma publishReceiver_setAll (calls : ℕ→QosCall) (requestId : UInt64) (status : MsgStatus) (msg : Message) :
    (p.setAllSubscribersQosMsgStatus calls requestId status msg).publishReceiver=p.publishReceiver:=by
  simp only [publishReceiver,setAllSubscribersQosMsgStatus,find?_map,Function.comp_def]
  cases p.subscribers.find? fun s=>s.matched && !s.subscriberName.bytes.isEmpty <;> rfl

lemma publishMessage_sends {p : Publisher} {env : MessageEnvironment} {calls : ℕ→QosCall}
    {sendResult : ErrorType} {msgId : UInt32} {payload : Bytes} {requestId : UInt64}
    (hok : (p.publishMessage env calls sendResult msgId payload requestId).1 = .ok) :
    ∃ send : Send, (p.publishMessage env calls sendResult msgId payload requestId).2.2=[send] ∧
      send.message.header.requestId=requestId ∧ send.receiver=p.publishReceiver:=by
  unfold publishMessage at hok ⊢
  cases hmsg : createMessage env .pub p.node.target p.node.topic payload msgId requestId with
  | none=>
    rw [hmsg] at hok
    cases hok
  | some message=>
    refine ⟨_,rfl,(created_of_createMessage hmsg).requestId,?_⟩
    dsimp only
    split
    · exact publishReceiver_setAll p _ _ _ _
    · rfl

/-- A publication reaches every matched subscriber once exactly when its receiver is a group or the
matched subscribers share one name. -/
theorem publish_fan_out_iff (env : MessageEnvironment) (calls : ℕ→QosCall)
    (sendResult : ErrorType) (msgId : UInt32) (payload : Bytes) (requestId : UInt64)
    (hok : (p.publishMessage env calls sendResult msgId payload requestId).1 = .ok) :
    (∀ s∈p.subscribers, s.matched=true→
      copiesSent p.node.transportType requestId s.subscriberName
        (p.publishMessage env calls sendResult msgId payload requestId).2.2=1) ↔
    isGroup p.node.transportType p.publishReceiver=true ∨ p.SoleMatchedName:=by
  obtain ⟨send,hsends,hid,hreceiver⟩:=publishMessage_sends hok
  have hcopies (name : CString) :
      copiesSent p.node.transportType requestId name [send]=1 ↔
        p.publishReceiver=name ∨ isGroup p.node.transportType p.publishReceiver=true:=by
    rw [or_iff_not_imp_left]
    simp [copiesSent,hid,hreceiver,addresses]
  rw [hsends]
  simp only [hcopies]
  cases hgroup : isGroup p.node.transportType p.publishReceiver with
  | true=>simp
  | false=>
    simp only [Bool.false_eq_true,or_false,false_or]
    exact p.publishReceiver_eq_iff

end Publisher

def sampleEnvironment : MessageEnvironment:=⟨none,fun _=>true,⟨0,0,0,0,0,0,0,0,0,0,.replicate 32 0,.replicate 32 0⟩,0⟩

def sampleSubscriber (name : CString) : Subscriber where
  node:=createNode name ⟨[115],by decide⟩ ⟨[116],by decide⟩ .subscriber .tcp
  policyMemory:=replicate 8 0++1::replicate 7 0++1::replicate 159 0
  sessions:=[]

def sampleSubscriptions (names : List CString) : List PublisherEvent:=
  (names.filterMap fun name=>(sampleSubscriber name).buildSub sampleEnvironment 7 1).map
    (.sub sampleEnvironment ⟨true,true,true,true⟩)

def samplePublisher : Publisher:=
  Publisher.create
    (createNode ⟨[112],by decide⟩ ⟨[115],by decide⟩ ⟨[116],by decide⟩ .publisher .tcp)
    defaultQosPolicy

def sampleName : CString:=⟨[97],by decide⟩
def otherSampleName : CString:=⟨[98],by decide⟩

/-- A single subscriber receives its copy. -/
theorem Publisher.publish_fan_out_iff_single :
    let p:=samplePublisher.run .little (sampleSubscriptions [sampleName])
    p.subscribers.map (fun s=>(s.subscriberName,s.matched))=[(sampleName,true)] ∧
      ∀ s∈p.subscribers, s.matched=true→
        copiesSent p.node.transportType 5 s.subscriberName
          (p.publishMessage sampleEnvironment (fun _=>⟨0,0,true⟩) .ok 7 [1,2] 5).2.2=1:=
  ⟨by decide +kernel,
    (publish_fan_out_iff (samplePublisher.run .little (sampleSubscriptions [sampleName]))
      sampleEnvironment (fun _=>⟨0,0,true⟩) .ok 7 [1,2] 5 (by decide +kernel)).2
      (.inr ⟨sampleName,by decide,by decide +kernel⟩)⟩

/-- Two matched subscribers are registered; the publication succeeds and goes to the first
one only. -/
theorem Publisher.publish_skips_second_subscriber :
    let p:=samplePublisher.run .little (sampleSubscriptions [sampleName,otherSampleName])
    let result:=p.publishMessage sampleEnvironment (fun _=>⟨0,0,true⟩) .ok 7 [1,2] 5
    p.subscribers.map (fun s=>(s.subscriberName,s.matched))=[(sampleName,true),(otherSampleName,true)] ∧
    result.1 = .ok ∧
    copiesSent .tcp 5 sampleName result.2.2=1 ∧
    copiesSent .tcp 5 otherSampleName result.2.2=0:=by decide +kernel

lemma Subscriber.ack_of_onHandlePub {s : Subscriber} {e : Endian} {env : MessageEnvironment}
    {pub : Message} {ack : Send} (h : (s.onHandlePub e env pub).1=[ack]) :
    ack.message.sender=s.node.target.truncate 31 ∧ ack.message.header.requestId=pub.header.requestId:=by
  unfold onHandlePub at h
  split at h
  case isFalse=>cases h
  case isTrue=>
    unfold sendAck at h
    cases hmsg : createMessage env .puback s.node.target s.node.topic [] pub.header.msgId pub.header.requestId with
    | none=>
      rw [hmsg] at h
      cases h
    | some message=>
      rw [hmsg] at h
      cases h
      exact ⟨(created_of_createMessage hmsg).sender,(created_of_createMessage hmsg).requestId⟩

namespace Publisher

def recordStatus (p : Publisher) (name : CString) (requestId : UInt64) : Option MsgStatus:=
  (p.findSubscriberCtxByName name).bind fun ctx=>
    ctx.qosCtx.bind fun qosCtx=>(qosCtx.findState requestId).map QosState.status

/-- The pruned context of a subscriber has a record of the request or room for one. -/
def canRecord (p : Publisher) (call : QosCall) (name : CString) (requestId : UInt64) : Bool:=
  (p.findSubscriberCtxByName name).any fun ctx=>ctx.qosCtx.any fun qosCtx=>
    let pruned:=qosCtx.pruneExpired call.pruneNow
    (pruned.findState requestId).isSome || decide (pruned.HasRoom call.alloc requestId)

lemma findSubscriberCtxByName_modifySubscriber (p : Publisher) (addr : ℕ) (name : CString)
    {f : SubscriberQosCtx→SubscriberQosCtx} (haddr : ∀ s, (f s).addr=s.addr) :
    (p.modifySubscriber addr f).findSubscriberCtxByName name=
      (p.findSubscriberCtxByName name).map fun s=>if s.addr=addr then f s else s:=
  lookup_modifyAt subscriberIndexHash p.subscriberIndexBuckets p.subscribers name addr haddr

variable {p : Publisher}

lemma Consistent.findSubscriberCtxByName_onHandlePuback (h : p.Consistent) (call : QosCall)
    (message : Message) (name : CString) :
    (p.onHandlePuback call message).findSubscriberCtxByName name=
      (p.findSubscriberCtxByName name).map fun ctx=>
        if message.sender=name then
          {ctx with qosCtx:=ctx.qosCtx.map fun qosCtx=>(qosCtx.setState call message.header.requestId .acked none).2}
        else ctx:=by
  unfold Publisher.onHandlePuback
  cases hsender : p.findSubscriberCtxByName message.sender with
  | none=>
    cases hname : p.findSubscriberCtxByName name with
    | none=>rfl
    | some ctx=>
      have hne : message.sender≠name:=by
        rintro rfl
        rw [hsender] at hname
        cases hname
      simp [hne]
  | some other=>
    obtain ⟨hother,hoth⟩:=h.findSubscriberCtxByName_eq_some_iff.1 hsender
    refine (findSubscriberCtxByName_modifySubscriber p other.addr name ?_).trans ?_
    · exact fun _=>rfl
    cases hname : p.findSubscriberCtxByName name with
    | none=>rfl
    | some ctx=>
      obtain ⟨hctx,hctxname⟩:=h.findSubscriberCtxByName_eq_some_iff.1 hname
      have haddr : ctx.addr=other.addr ↔ message.sender=name:=by
        rw [← hoth,← hctxname]
        exact ⟨fun ha=>congrArg _ (h.agrees.eq_of_addr_eq hother hctx ha.symm),
          fun hn=>congrArg _ (h.agrees.eq_of_key_eq hctx hother hn.symm)⟩
      simp [haddr]

lemma Consistent.recordStatus_onHandlePuback (h : p.Consistent) (call : QosCall) (message : Message) :
    (p.onHandlePuback call message).recordStatus message.sender message.header.requestId=
        some .acked ↔
      p.canRecord call message.sender message.header.requestId=true:=by
  rw [recordStatus,h.findSubscriberCtxByName_onHandlePuback,canRecord]
  cases hfind : p.findSubscriberCtxByName message.sender with
  | none=>simp
  | some ctx=>
    have hmem:=(h.findSubscriberCtxByName_eq_some_iff.1 hfind).1
    cases hq : ctx.qosCtx with
    | none=>simp [hq]
    | some qosCtx=>
      have hctx:=h.contexts ctx hmem qosCtx hq
      simpa [hq] using hctx.findState_setState call message.header.requestId .acked none

lemma Consistent.recordStatus_onHandlePuback_of_ne (h : p.Consistent) (call : QosCall)
    {message : Message} {name : CString} (hne : message.sender≠name) (requestId : UInt64) :
    (p.onHandlePuback call message).recordStatus name requestId=p.recordStatus name requestId:=by
  rw [recordStatus,h.findSubscriberCtxByName_onHandlePuback,recordStatus]
  simp [hne]

/-- A publication is recorded as acknowledged exactly when its subscriber is its own target and can
be recorded, or has another target and had acknowledged before. -/
theorem puback_recorded_iff (e : Endian) (node : Node) (qosPolicy : QosPolicy)
    (events : List PublisherEvent) (hevents : ∀ event∈events, event.Terminated)
    (s : Subscriber) (env : MessageEnvironment) (msgId : UInt32) (subscription : UInt64)
    (sub : Message) (hsub : s.buildSub env msgId subscription=some sub)
    (pub : Message) (ackEnv : MessageEnvironment) (ack : Send)
    (hack : (s.onHandlePub e ackEnv pub).1=[ack]) (call : QosCall) :
    (((create node qosPolicy).run e events).onHandlePuback call ack.message).recordStatus sub.sender
        pub.header.requestId=some .acked ↔
      if s.node.target.truncate 31=s.node.name.truncate 31 then
        ((create node qosPolicy).run e events).canRecord call sub.sender pub.header.requestId=true
      else
        ((create node qosPolicy).run e events).recordStatus sub.sender pub.header.requestId=some .acked:=by
  have h:=(consistent_create node qosPolicy).run e hevents
  have hsubSender:=(created_of_createMessage hsub).sender
  obtain ⟨hackSender,hackId⟩ : ack.message.sender=s.node.target.truncate 31 ∧
      ack.message.header.requestId=pub.header.requestId:=Subscriber.ack_of_onHandlePub hack
  split
  case isTrue hname=>
    have hsame : ack.message.sender=sub.sender:=by rw [hackSender,hsubSender,hname]
    rw [← hsame,← hackId]
    exact h.recordStatus_onHandlePuback call ack.message
  case isFalse hname=>
    have hne : ack.message.sender≠sub.sender:=by rwa [hackSender,hsubSender]
    rw [h.recordStatus_onHandlePuback_of_ne call hne]

end Publisher

def publishedSample (name : CString) : List PublisherEvent:=
  sampleSubscriptions [name]++[.publish sampleEnvironment (fun _=>⟨0,0,true⟩) .ok 7 [1,2] 5]

def samplePublished (name : CString) : List Send:=
  ((samplePublisher.run .little (sampleSubscriptions [name])).publishMessage sampleEnvironment
    (fun _=>⟨0,0,true⟩) .ok 7 [1,2] 5).2.2

def sampleTarget : CString:=⟨[115],by decide⟩
def sampleSub : Message:=((sampleSubscriber sampleTarget).buildSub sampleEnvironment 7 1).get (by decide +kernel)
def samplePub : Message:=((samplePublished sampleTarget).head (by decide +kernel)).message

def sampleAck : Send:=
  ((sampleSubscriber sampleTarget).onHandlePub .little sampleEnvironment samplePub).1.head (by decide +kernel)

/-- The acknowledgement of a subscriber with the name of the service is recorded. -/
theorem Publisher.puback_recorded_iff_own_target :
    ((samplePublisher.run .little (publishedSample sampleTarget)).onHandlePuback ⟨0,0,true⟩
      sampleAck.message).recordStatus sampleSub.sender samplePub.header.requestId=
      some .acked:=
  (puback_recorded_iff .little samplePublisher.node defaultQosPolicy
    (publishedSample sampleTarget) (by decide +kernel) (sampleSubscriber sampleTarget)
    sampleEnvironment 7 1 sampleSub (Option.some_get _).symm samplePub sampleEnvironment sampleAck
    (by decide +kernel) ⟨0,0,true⟩).2 (by decide +kernel)

/-- The status of a publication once its acknowledgement has been delivered. -/
def acknowledgedSample (name : CString) : List (Option MsgStatus):=
  (samplePublished name).flatMap fun send=>
    ((sampleSubscriber name).onHandlePub .little sampleEnvironment send.message).1.map fun ack=>
      ((samplePublisher.run .little (publishedSample name)).onHandlePuback ⟨0,0,true⟩ ack.message).recordStatus name 5

/-- The acknowledgement of a subscriber with a name of its own is not recorded for it. -/
theorem Publisher.puback_not_recorded : acknowledgedSample sampleName=[some .created]:=by decide +kernel

end SoftMessageBus
