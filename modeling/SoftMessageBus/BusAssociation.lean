import SoftMessageBus.RoutingEngine

/-!
# Associating nodes with the bus

A node associates with the bus by making and preparing a rule.
-/
namespace SoftMessageBus
open List

inductive TransportHandler where
  | routing
  | other (id : ℕ)
  deriving DecidableEq

/-- The rules, and the observers that are registered with each transport. -/
structure Bus where
  ruleManager : RuleManager
  transports : ℕ→DataObservers TransportHandler ℕ

/-- A call of `make_node_associate_with_bus` with the outcome of what it calls. -/
structure AssociateCall where
  nodeAddr : ℕ
  node : Node
  serviceFound : Bool
  transport : Option ℕ
  ruleAlloc : Bool
  indexAlloc : Bool
  observerAlloc : Bool
  started : Bool

/-- A call of `zoo_smb_routing_engine_prepare_rule`. -/
structure PrepareCall where
  addr : ℕ
  observerAlloc : Bool
  started : Bool

namespace Bus

def empty : Bus:=⟨RuleManager.create,fun _=>DataObservers.empty⟩

def prepareRule (b : Bus) (observerAlloc started : Bool) (addr : ℕ) : ErrorType × Bus:=
  match b.ruleManager.ruleAt addr with
  | none=>(.invalidParam,b)
  | some rule=>
    (if started then .ok else .transportStartFailed,
      if observerAlloc then
        {b with
          transports:=Function.update b.transports rule.transport ((b.transports rule.transport).add ⟨.routing,addr⟩)}
      else b)

def prepare (b : Bus) (call : PrepareCall) : Bus:=(b.prepareRule call.observerAlloc call.started call.addr).2
def prepareAll (b : Bus) (calls : List PrepareCall) : Bus:=calls.foldl prepare b

def usesTransport (b : Bus) (transport : ℕ) (call : PrepareCall) : Bool:=
  (b.ruleManager.ruleAt call.addr).any fun rule=>rule.transport=transport

def makeNodeAssociateWithBus (b : Bus) (call : AssociateCall) : ErrorType × Bus:=
  if !call.serviceFound then (.serviceNotFound,b)
  else match b.ruleManager.makeRule call.ruleAlloc call.indexAlloc call.node call.transport
      call.nodeAddr with
    | (none,ruleManager)=>(.invalidParam,{b with ruleManager})
    | (some addr,ruleManager)=>
      match {b with ruleManager}.prepareRule call.observerAlloc call.started addr with
      | (.ok,b)=>(.ok,b)
      | (_,b)=>(.routingRulePrepareFailed,b)

def run (b : Bus) (calls : List AssociateCall) : Bus:=calls.foldl (fun b call=>(b.makeNodeAssociateWithBus call).2) b

/-- The associations of a run that succeed. -/
def associated : Bus→List AssociateCall→List AssociateCall
  | _, []=>[]
  | b, call::calls=>
    let rest:=associated (b.makeNodeAssociateWithBus call).2 calls
    if (b.makeNodeAssociateWithBus call).1 = .ok then call::rest else rest

/-- One observer of a transport: ingress queues the message for the observers of the rule. -/
def handleData (b : Bus) (observersOf : ℕ→List NodeObserver) (env : IngressEnvironment)
    (o : DataObserver TransportHandler ℕ) (message : Message) : List (ℕ × NodeObserver):=
  match o.handler, b.ruleManager.ruleAt o.userData, handleTransportIncomingData env message with
  | .routing, some rule, .ok copy=>
    (processMessageAndNotifyObserver (observersOf rule.incomingDataObservers) copy).map fun called=>
      (rule.incomingDataObservers,called)
  | _, _, _=>[]

/-- The node observers that are called for a message arriving on a transport. -/
def deliver (b : Bus) (observersOf : ℕ→List NodeObserver) (env : IngressEnvironment)
    (transport : ℕ) (message : Message) : List (ℕ × NodeObserver):=
  ((b.transports transport).notify message).flatMap fun call=>b.handleData observersOf env call.1 call.2

/-- The node for which the rule registered with a transport was made. -/
def owner (b : Bus) (transport : ℕ) : Option ℕ:=
  ((b.transports transport).items.find? fun o=>o.handler = .routing).bind fun o=>
    (b.ruleManager.ruleAt o.userData).map RoutingRule.incomingDataObservers

lemma find?_routing_eq_some_iff (os : DataObservers TransportHandler ℕ) {o : DataObserver TransportHandler ℕ} :
    os.items.find? (fun o=>o.handler = .routing)=some o ↔ o∈os.items ∧ o.handler = .routing:=by
  constructor
  · intro h
    exact ⟨mem_of_find?_eq_some h,by simpa using find?_some h⟩
  · rintro ⟨hmem,hrouting⟩
    rw [← hrouting]
    exact KeyedList.find?_key_of_mem os.nodup hmem

variable {nodeAddr : ℕ}

lemma owner_eq_some_iff (b : Bus) {transport : ℕ} :
    b.owner transport=some nodeAddr ↔
      ∃ o∈(b.transports transport).items, o.handler = .routing ∧
        ∃ rule, b.ruleManager.ruleAt o.userData=some rule ∧ rule.incomingDataObservers=nodeAddr:=by
  simp only [owner,Option.bind_eq_some_iff,Option.map_eq_some_iff,find?_routing_eq_some_iff,and_assoc]

section
variable (b : Bus) (observersOf : ℕ→List NodeObserver) {env : IngressEnvironment}
  {message copy : Message} (haccept : handleTransportIncomingData env message = .ok copy)
include copy haccept

lemma mem_handleData_iff {d : DataObserver TransportHandler ℕ} {o : NodeObserver} :
    (nodeAddr,o)∈b.handleData observersOf env d message ↔
      (d.handler = .routing ∧ ∃ rule, b.ruleManager.ruleAt d.userData=some rule ∧ rule.incomingDataObservers=nodeAddr) ∧
      o∈observersOf nodeAddr ∧ o.Observes message.header:=by
  have hheader:=header_handleTransportIncomingData haccept
  cases hhandler : d.handler with
  | other id=>simp [handleData,hhandler]
  | routing=>
    cases hrule : b.ruleManager.ruleAt d.userData with
    | none=>simp [handleData,hhandler,hrule]
    | some rule=>
      simp only [handleData,hhandler,hrule,haccept,processMessageAndNotifyObserver,hheader,List.mem_map,mem_filter,
        decide_eq_true_eq,Prod.mk.injEq,true_and,Option.some.injEq,exists_eq_left']
      constructor
      · rintro ⟨called,hcalled,rfl,rfl⟩
        exact ⟨rfl,hcalled⟩
      · rintro ⟨rfl,ho⟩
        exact ⟨o,ho,rfl,rfl⟩

lemma mem_deliver_iff {transport : ℕ} {o : NodeObserver} :
    (nodeAddr,o)∈b.deliver observersOf env transport message ↔
      b.owner transport=some nodeAddr ∧ o∈observersOf nodeAddr ∧ o.Observes message.header:=by
  simp only [deliver,DataObservers.notify,flatMap_map,mem_flatMap,owner_eq_some_iff,
    b.mem_handleData_iff observersOf haccept]
  constructor
  · rintro ⟨d,hd,hrouting,ho⟩
    exact ⟨⟨d,hd,hrouting⟩,ho⟩
  · rintro ⟨⟨d,hd,hrouting⟩,ho⟩
    exact ⟨d,hd,hrouting,ho⟩

end

section
variable (b : Bus) (call : PrepareCall)

@[simp] lemma ruleManager_prepare : (b.prepare call).ruleManager=b.ruleManager:=by
  unfold prepare prepareRule
  split
  · rfl
  · cases call.observerAlloc <;> rfl

lemma transports_prepare (transport : ℕ) :
    (b.prepare call).transports transport=
      if call.observerAlloc && b.usesTransport transport call then
        (b.transports transport).add ⟨.routing,call.addr⟩
      else b.transports transport:=by
  unfold prepare prepareRule usesTransport
  cases hrule : b.ruleManager.ruleAt call.addr with
  | none=>simp
  | some rule=>
    cases call.observerAlloc with
    | false=>simp
    | true=>
      by_cases htrans : rule.transport=transport
      · subst htrans
        simp
      · simp [htrans,Function.update_of_ne (Ne.symm htrans)]

end

/-- The rule that an association makes or finds, and the rules after it. -/
def associatedRule (m : RuleManager) (call : AssociateCall) : Option ℕ × RuleManager:=
  if !call.serviceFound then (none,m)
  else m.makeRule call.ruleAlloc call.indexAlloc call.node call.transport call.nodeAddr

/-- The node for which the rule was made that the first association to register with a transport
uses. -/
def firstOwner (transport : ℕ) : RuleManager→List AssociateCall→Option ℕ
  | _, []=>none
  | m, call::calls=>
    let (addr,m):=associatedRule m call
    match (addr.bind m.ruleAt).filter fun rule=>call.observerAlloc ∧ rule.transport=transport with
    | some rule=>some rule.incomingDataObservers
    | none=>firstOwner transport m calls

/-- Associations keep the rules that were made before. -/
lemma ruleAt_associatedRule {m : RuleManager} {addr : ℕ} {rule : RoutingRule}
    (h : m.ruleAt addr=some rule) (call : AssociateCall) : (associatedRule m call).2.ruleAt addr=some rule:=by
  unfold associatedRule
  split
  · exact h
  · exact RuleManager.ruleAt_makeRule h

/-- An association prepares the rule that it makes or finds. -/
lemma snd_makeNodeAssociateWithBus (b : Bus) (call : AssociateCall) :
    (b.makeNodeAssociateWithBus call).2=
      match associatedRule b.ruleManager call with
      | (none,m)=>⟨m,b.transports⟩
      | (some addr,m)=>prepare ⟨m,b.transports⟩ ⟨addr,call.observerAlloc,call.started⟩:=by
  unfold makeNodeAssociateWithBus associatedRule
  split
  · rfl
  · split
    · rfl
    · dsimp only [prepare]
      split <;> simp [*]

lemma owner_makeNodeAssociateWithBus {b : Bus} {transport : ℕ} (h : b.owner transport=some nodeAddr)
    (call : AssociateCall) : (b.makeNodeAssociateWithBus call).2.owner transport=some nodeAddr:=by
  obtain ⟨o,ho,hrouting,rule,hrule,hnode⟩:=b.owner_eq_some_iff.1 h
  have hkept:=ruleAt_associatedRule hrule call
  rw [snd_makeNodeAssociateWithBus]
  cases hmade : associatedRule b.ruleManager call with
  | mk made m=>
    rw [hmade] at hkept
    cases made with
    | none=>exact (owner_eq_some_iff _).2 ⟨o,ho,hrouting,rule,hkept,hnode⟩
    | some addr=>
      refine (owner_eq_some_iff _).2 ⟨o,?_,hrouting,rule,?_,hnode⟩
      · rw [transports_prepare]
        split
        · exact DataObservers.mem_add ho _
        · exact ho
      · rw [ruleManager_prepare]
        exact hkept

/-- The owner of a transport never changes. -/
lemma owner_run {b : Bus} {transport : ℕ} (h : b.owner transport=some nodeAddr)
    (calls : List AssociateCall) : (b.run calls).owner transport=some nodeAddr:=by
  induction calls generalizing b with
  | nil=>exact h
  | cons call calls ih=>exact ih (owner_makeNodeAssociateWithBus h call)

/-- The first association that registers with a transport decides its owner. -/
lemma owner_run_first {b : Bus} {transport : ℕ} (h : b.transports transport=DataObservers.empty)
    (calls : List AssociateCall) : (b.run calls).owner transport=firstOwner transport b.ruleManager calls:=by
  induction calls generalizing b with
  | nil=>
    change b.owner transport=none
    rw [owner,h]
    rfl
  | cons call calls ih=>
    change ((b.makeNodeAssociateWithBus call).2.run calls).owner transport=_
    rw [firstOwner,snd_makeNodeAssociateWithBus]
    rcases associatedRule b.ruleManager call with ⟨made,m⟩
    cases made with
    | none=>exact ih h
    | some addr=>
      let call' : PrepareCall:=⟨addr,call.observerAlloc,call.started⟩
      have htransports:=transports_prepare ⟨m,b.transports⟩ call' transport
      have hmanager:=ruleManager_prepare ⟨m,b.transports⟩ call'
      dsimp only [Option.bind_some]
      split
      next rule hrule=>
        obtain ⟨hrule,hregisters⟩:=Option.filter_eq_some_iff.1 hrule
        rw [if_pos (by simpa [call',usesTransport,hrule] using hregisters)] at htransports
        refine owner_run ((owner_eq_some_iff _).2 ⟨⟨.routing,addr⟩,?_,rfl,rule,hmanager ▸ hrule,rfl⟩) calls
        rw [htransports,h]
        exact mem_singleton_self _
      next hnone=>
        refine (ih (htransports.trans ((if_neg fun huses=>?_).trans h))).trans (by rw [hmanager])
        simp only [call',usesTransport,Bool.and_eq_true,Option.any_eq_true_iff_get] at huses
        obtain ⟨hobserver,hsome,htransport⟩:=huses
        exact Option.filter_eq_none_iff.1 hnone _ (Option.some_get hsome).symm (by simpa [hobserver] using htransport)

/-- A message reaches all observers of the associated nodes exactly when only the node that owns
the transport by the first association to register with it has such observers. -/
theorem association_delivers_iff (calls : List AssociateCall)
    (observersOf : ℕ→List NodeObserver) (env : IngressEnvironment) (message copy : Message)
    (haccept : handleTransportIncomingData env message = .ok copy) (transport : ℕ)
    (target topic : CString) (transportType : TransportType) :
    (∀ call∈associated empty calls, call.node.target=target→call.node.topic=topic→
        call.node.transportType=transportType→
        ∀ o∈observersOf call.nodeAddr, o.Observes message.header→
          (call.nodeAddr,o)∈(empty.run calls).deliver observersOf env transport message) ↔
    ∀ call∈associated empty calls, call.node.target=target→call.node.topic=topic→
      call.node.transportType=transportType→
      (∃ o∈observersOf call.nodeAddr, o.Observes message.header)→
      firstOwner transport RuleManager.create calls=some call.nodeAddr:=by
  have howner : (empty.run calls).owner transport=firstOwner transport RuleManager.create calls:=
    owner_run_first rfl calls
  simp only [mem_deliver_iff _ observersOf haccept,howner]
  constructor
  · rintro h call hcall htarget htopic htype ⟨o,ho,hobs⟩
    exact (h call hcall htarget htopic htype o ho hobs).1
  · intro h call hcall htarget htopic htype o ho hobs
    exact ⟨h call hcall htarget htopic htype ⟨o,ho,hobs⟩,ho,hobs⟩

end Bus

/-- The association of a node at an address with the service "s" and the topic "t". -/
def sampleAssociation (nodeAddr : ℕ) (name : CString) : AssociateCall where
  nodeAddr:=nodeAddr
  node:=createNode name (.ofMemory [115]) (.ofMemory [116]) .subscriber .tcp
  serviceFound:=true
  transport:=some 0
  ruleAlloc:=true
  indexAlloc:=true
  observerAlloc:=true
  started:=true

def sampleObservers (nodeAddr : ℕ) : List NodeObserver:=[⟨1,.pub,some 0,nodeAddr⟩]
def sampleIngress : IngressEnvironment:=⟨true,none,none,0,0,16,fun _=>true,true⟩

/-- A node that associates alone receives the messages. -/
theorem Bus.association_delivers_iff_single :
    let calls:=[sampleAssociation 1 ⟨[97],by decide⟩]
    (associated empty calls).map AssociateCall.nodeAddr=[1] ∧
      ∀ call∈associated empty calls,
        call.node.target=⟨[115],by decide⟩→call.node.topic=⟨[116],by decide⟩→
        call.node.transportType = .tcp→
        ∀ o∈sampleObservers call.nodeAddr, o.Observes samplePublication.header→
          (call.nodeAddr,o)∈(empty.run calls).deliver sampleObservers sampleIngress 0 samplePublication:=
  ⟨by decide +kernel,
    (association_delivers_iff [sampleAssociation 1 ⟨[97],by decide⟩] sampleObservers sampleIngress
      samplePublication samplePublication (by decide +kernel) 0 ⟨[115],by decide⟩
      ⟨[116],by decide⟩ .tcp).2 (by decide +kernel)⟩

/-- Of two nodes with one target, topic and type only the first is served. -/
theorem Bus.association_skips_second_node :
    let calls:=[sampleAssociation 1 ⟨[97],by decide⟩,sampleAssociation 2 ⟨[98],by decide⟩]
    (associated empty calls).map AssociateCall.nodeAddr=[1,2] ∧
    (∀ o∈sampleObservers 1++sampleObservers 2, o.Observes samplePublication.header) ∧
    (empty.run calls).deliver sampleObservers sampleIngress 0 samplePublication=[(1,⟨1,.pub,some 0,1⟩)]:=by
  decide +kernel

namespace Bus

/-- The rules that a sequence of calls prepares successfully on a transport. -/
def prepared (transport : ℕ) : Bus→List PrepareCall→List ℕ
  | _, []=>[]
  | b, call::calls=>
    let rest:=prepared transport (b.prepare call) calls
    if (b.prepareRule call.observerAlloc call.started call.addr).1 = .ok ∧
        b.usesTransport transport call then call.addr::rest else rest

/-- The messages with which the ingress is called for a rule when a message arrives on a
transport. -/
def handedTo (b : Bus) (transport addr : ℕ) (message : Message) : List Message:=
  (((b.transports transport).notify message).filter fun call=>
    call.1.handler = .routing ∧ call.1.userData=addr).map Prod.snd

def routingRule (b : Bus) (transport : ℕ) : Option ℕ:=
  ((b.transports transport).items.find? fun o=>o.handler = .routing).map DataObserver.userData

/-- The rule that a transport keeps through a sequence of calls. -/
def keptRule (b : Bus) (transport : ℕ) (calls : List PrepareCall) : Option ℕ:=
  match b.routingRule transport with
  | some addr=>some addr
  | none=>
    if (b.transports transport).items.length < maxTransportDataObserverSize then
      (calls.find? fun call=>call.observerAlloc && b.usesTransport transport call).map PrepareCall.addr
    else none

variable (b : Bus)

lemma routingRule_eq_some_iff {transport addr : ℕ} :
    b.routingRule transport=some addr ↔
      (⟨.routing,addr⟩ : DataObserver TransportHandler ℕ)∈(b.transports transport).items:=by
  simp only [routingRule,Option.map_eq_some_iff,find?_routing_eq_some_iff]
  constructor
  · rintro ⟨⟨handler,userData⟩,⟨hmem,hhandler⟩,hus⟩
    cases hhandler
    cases hus
    exact hmem
  · intro hmem
    exact ⟨_,⟨hmem,rfl⟩,rfl⟩

lemma routingRule_eq_none_iff {transport : ℕ} :
    b.routingRule transport=none ↔ TransportHandler.routing∉(b.transports transport).items.map DataObserver.handler:=by
  simp [routingRule]

@[simp] lemma keptRule_nil (transport : ℕ) : b.keptRule transport []=b.routingRule transport:=by
  unfold keptRule
  split <;> simp [*]

variable (call : PrepareCall) (transport : ℕ)

@[simp] lemma usesTransport_prepare : (b.prepare call).usesTransport transport=b.usesTransport transport:=by
  funext other
  rw [usesTransport,ruleManager_prepare,usesTransport]

lemma keptRule_prepare (calls : List PrepareCall) :
    (b.prepare call).keptRule transport calls=b.keptRule transport (call::calls):=by
  have htransports:=b.transports_prepare call transport
  cases hadds : call.observerAlloc && b.usesTransport transport call with
  | false=>
    rw [hadds,if_neg Bool.false_ne_true] at htransports
    simp [keptRule,routingRule,htransports,hadds]
  | true=>
    rw [hadds,if_pos rfl] at htransports
    cases hrule : b.routingRule transport with
    | some addr=>
      have hkept : (b.prepare call).routingRule transport=some addr:=by
        rw [routingRule_eq_some_iff,htransports]
        exact DataObservers.mem_add ((b.routingRule_eq_some_iff).1 hrule) _
      simp [keptRule,hrule,hkept]
    | none=>
      have hnew:=(b.routingRule_eq_none_iff).1 hrule
      by_cases hroom : (b.transports transport).items.length < maxTransportDataObserverSize
      · have hkept : (b.prepare call).routingRule transport=some call.addr:=by
          rw [routingRule_eq_some_iff,htransports,DataObservers.add,dif_neg hnew,dif_pos hroom]
          exact mem_append_right _ (mem_singleton_self _)
        simp [keptRule,hrule,hkept,hroom,hadds]
      · rw [DataObservers.add,dif_neg hnew,dif_neg hroom] at htransports
        have hkept : (b.prepare call).routingRule transport=none:=by
          rw [routingRule,htransports]
          exact hrule
        simp [keptRule,hrule,hkept,htransports,hroom]

lemma routingRule_prepareAll (calls : List PrepareCall) :
    (b.prepareAll calls).routingRule transport=b.keptRule transport calls:=by
  induction calls generalizing b with
  | nil=>exact (b.keptRule_nil transport).symm
  | cons call calls ih=>
    rw [← keptRule_prepare]
    exact ih (b.prepare call)

lemma handedTo_eq_singleton_iff (transport addr : ℕ) (message : Message) :
    b.handedTo transport addr message=[message] ↔ b.routingRule transport=some addr:=by
  rw [routingRule_eq_some_iff]
  constructor
  · intro h
    have hmem : message∈b.handedTo transport addr message:=h ▸ mem_singleton_self _
    simp only [handedTo,DataObservers.notify,List.mem_map,mem_filter,decide_eq_true_eq] at hmem
    obtain ⟨_,⟨⟨⟨handler,userData⟩,ho,rfl⟩,hhandler,hus⟩,-⟩:=hmem
    cases hhandler
    cases hus
    exact ho
  · intro hmem
    have hrec:=received_notify hmem message
    have hfilter : ((b.transports transport).notify message).filter (fun call=>
        call.1.handler = .routing ∧ call.1.userData=addr)=
        ((b.transports transport).notify message).filter fun call=>call.1.handler = .routing:=by
      refine filter_congr fun call hcall=>?_
      obtain ⟨o,ho,rfl⟩:=List.mem_map.1 hcall
      refine decide_eq_decide.2 ⟨And.left,fun hhandler=>⟨hhandler,?_⟩⟩
      have hkey:=(find?_routing_eq_some_iff _).2 ⟨ho,hhandler⟩
      rw [(find?_routing_eq_some_iff _).2 ⟨hmem,rfl⟩,Option.some.injEq] at hkey
      rw [← hkey]
    rw [handedTo,hfilter]
    exact hrec

/-- All prepared rules are handed a message exactly when they are the rule that is kept. -/
theorem prepared_handedTo_iff (b : Bus) (calls : List PrepareCall) (transport : ℕ) (message : Message) :
    (∀ addr∈prepared transport b calls,
        (b.prepareAll calls).handedTo transport addr message=[message]) ↔
      ∀ addr∈prepared transport b calls, b.keptRule transport calls=some addr:=by
  simp only [handedTo_eq_singleton_iff,routingRule_prepareAll]

/-- Of two rules prepared on one transport only the first is handed a publication. -/
theorem prepared_second_rule_skipped :
    let m:=(RuleManager.create.addRule true ⟨[97],by decide⟩ 0 1).addRule true
      ⟨[98],by decide⟩ 0 2
    let b : Bus:=⟨m,fun _=>DataObservers.empty⟩
    let calls:=[⟨0,true,true⟩,⟨1,true,true⟩]
    prepared 0 b calls=[0,1] ∧
      (b.prepareAll calls).handedTo 0 0 samplePublication=[samplePublication] ∧
      (b.prepareAll calls).handedTo 0 1 samplePublication=[]:=by decide +kernel

end Bus

/-! ## The policy of the ingress -/

/-- The message carries the time at which `zoo_smb_create_message` has written a header. -/
def Message.CreatedAt (message : Message) (createdMs : ℕ) : Prop:=
  ∃ env msgType sender topic payload msgId requestId original,
    createMessage env msgType sender topic payload msgId requestId=some original ∧
      env.now.toNat=createdMs ∧ message.header.timestamp=original.header.timestamp

lemma Message.CreatedAt.timestamp {message : Message} {createdMs : ℕ}
    (h : message.CreatedAt createdMs) : message.header.timestamp.toNat=createdMs:=by
  obtain ⟨env,msgType,sender,topic,payload,msgId,requestId,original,hcreate,hnow, htime⟩:=h
  unfold createMessage at hcreate
  split at hcreate
  · cases hcreate
  · split at hcreate
    · cases hcreate
      rw [htime]
      exact hnow
    · cases hcreate

lemma Message.sender_eq_empty_iff (message : Message) :
    message.sender = .empty ↔ message.header.sender.head=0:=by
  obtain ⟨b,bs,hcons⟩:=message.header.sender.exists_eq_cons
  rw [Message.sender,hcons,List.Vector.head_cons,CString.ext_iff]
  change (b::bs.toList).takeWhile (fun b=>decide (b≠0))=[] ↔ b=0
  rw [takeWhile_cons]
  by_cases hb : b=0
  · rw [if_neg (by simpa using hb)]
    exact iff_of_true rfl hb
  · rw [if_pos (by simpa using hb)]
    exact iff_of_false (cons_ne_nil _ _) hb

namespace IngressEnvironment

/-- Ingress at a time of the clock, of which `ZOO_TIME_GET` returns the seconds. -/
def atTime (env : IngressEnvironment) (clockMs : ℕ) : IngressEnvironment:={env with now:=(clockMs/1000 : ℕ)}

def withoutAgeLimit (env : IngressEnvironment) : IngressEnvironment:=
  {env with config:=env.config.map fun config=>{config with maxTimeout:=0} }

/-- What the configuration demands of a message that arrives at a time of the clock. -/
structure KeepsPolicy (env : IngressEnvironment) (clockMs : ℕ) (message : Message) : Prop where
  header : isHeaderValid env.transportBufferSize message.header=true
  sender : ∀ config∈env.config, config.requireSenderIdentity=true→message.sender ≠ .empty
  encrypted : ∀ config∈env.config, config.enforceEncryptedMessages=true→ message.header.flags &&& msgFlagEncrypt≠0
  age : ∀ config∈env.config, 0<config.maxTimeout→∀ createdMs, message.CreatedAt createdMs→
    createdMs≤clockMs→(clockMs : ℤ)-createdMs≤config.maxTimeout

/-- The message is young enough, or so old that the clock in seconds catches it. -/
def AgeCaught (clockMs createdMs : ℕ) (config : IngressConfig) : Prop:=
  (clockMs : ℤ)-createdMs≤config.maxTimeout ∨ 0<createdMs ∧ createdMs+config.maxTimeout<(clockMs/1000 : ℕ)

variable {env : IngressEnvironment} {clockMs : ℕ} {message : Message}

lemma ite_some_eq_none_iff {α : Type*} {c : Prop} [Decidable c] {a : α} {rest : Option α} :
    (if c then some a else rest)=none ↔ ¬c ∧ rest=none:=by
  by_cases hc : c
  · rw [if_pos hc]
    exact iff_of_false (Option.some_ne_none a) fun h=>h.1 hc
  · rw [if_neg hc]
    exact (and_iff_right hc).symm

lemma ite_error_eq_ok_iff {ε α : Type*} {c : Prop} [Decidable c] {error : ε} {a : α}
    {rest : Except ε α} : (if c then .error error else rest) = .ok a ↔ ¬c ∧ rest = .ok a:=by
  by_cases hc : c
  · rw [if_pos hc]
    exact iff_of_false (fun h=>nomatch h) fun h=>h.1 hc
  · rw [if_neg hc]
    exact (and_iff_right hc).symm

lemma check_eq_none_iff {header : MessageHeader} :
    env.check header=none ↔
      env.isRunning=true ∧ isHeaderValid env.transportBufferSize header=true ∧
      (∀ config∈env.config, config.requireSenderIdentity=true→header.sender.head≠0) ∧
      (∀ config∈env.config, config.enforceEncryptedMessages=true→header.flags &&& msgFlagEncrypt≠0) ∧
      ∀ config∈env.config, env.isStale config header=false:=by
  simp only [check,ite_some_eq_none_iff]
  cases env.config with
  | none=>simp
  | some config=>simp

variable {copy : Message}

lemma handleTransportIncomingData_eq_ok_iff :
    handleTransportIncomingData env message = .ok copy ↔
      env.check message.header=none ∧ ¬env.highWatermark<env.inFlight+1 ∧
        env.alloc messageStructSize=true ∧ copyMessage env.alloc message=some copy ∧
        env.queueAccepts=true:=by
  unfold handleTransportIncomingData
  cases env.check message.header with
  | some drop=>exact iff_of_false (fun h=>nomatch h) fun h=>nomatch h.1
  | none=>
    simp only [ite_error_eq_ok_iff,true_and,Bool.not_eq_true',Bool.not_eq_false]
    refine and_congr_right fun _=>and_congr_right fun _=>?_
    cases copyMessage env.alloc message with
    | none=>exact iff_of_false (fun h=>nomatch h) fun h=>nomatch h.1
    | some copied=>
      cases env.queueAccepts with
      | false=>exact iff_of_false (fun h=>nomatch h) fun h=>nomatch h.2
      | true=>simp

lemma isStale_atTime_iff {config : IngressConfig} {header : MessageHeader} :
    (env.atTime clockMs).isStale config header=true ↔
      0<config.maxTimeout ∧ 0<header.timestamp.toNat ∧ header.timestamp.toNat+config.maxTimeout<(clockMs/1000 : ℕ):=by
  have hnow : (env.atTime clockMs).now=(clockMs/1000 : ℕ):=rfl
  simp only [isStale,hnow,Bool.and_eq_true,decide_eq_true_eq,UInt64.lt_iff_toNat_lt,UInt64.toNat_zero]
  omega

lemma handle_atTime_iff :
    handleTransportIncomingData (env.atTime clockMs) message = .ok copy ↔
      handleTransportIncomingData (env.withoutAgeLimit.atTime clockMs) message = .ok copy ∧
        ∀ config∈env.config, (env.atTime clockMs).isStale config message.header=false:=by
  have hnever (config : IngressConfig) : (env.withoutAgeLimit.atTime clockMs).isStale
      {config with maxTimeout:=0} message.header=false:=by simp [isStale]
  rw [handleTransportIncomingData_eq_ok_iff,handleTransportIncomingData_eq_ok_iff,check_eq_none_iff,check_eq_none_iff]
  have hconf : (env.withoutAgeLimit.atTime clockMs).config=env.config.map fun config=>{config with maxTimeout:=0}:=rfl
  simp only [hconf,Option.mem_map,forall_exists_index,and_imp,forall_apply_eq_imp_iff₂, hnever]
  tauto

lemma keepsPolicy_iff (hacc : handleTransportIncomingData (env.atTime clockMs) message = .ok copy) :
    env.KeepsPolicy clockMs message ↔
      ∀ config∈env.config, 0<config.maxTimeout→∀ createdMs,
        message.CreatedAt createdMs→createdMs≤clockMs→(clockMs : ℤ)-createdMs≤config.maxTimeout:=by
  refine ⟨fun h=>h.age,fun hage=>?_⟩
  obtain ⟨-,hheader,hsender,hencrypted,-⟩:=check_eq_none_iff.1 (handleTransportIncomingData_eq_ok_iff.1 hacc).1
  refine ⟨hheader,fun config hconf hreq hempty=>?_,hencrypted,hage⟩
  exact hsender config hconf hreq (message.sender_eq_empty_iff.1 hempty)

end IngressEnvironment
namespace Bus

def Reaches (b : Bus) (observersOf : ℕ→List NodeObserver) (env : IngressEnvironment)
    (transport : ℕ) (message : Message) : Prop:=
  ∃ called, called∈b.deliver observersOf env transport message

lemma reaches_iff (b : Bus) (observersOf : ℕ→List NodeObserver) (env : IngressEnvironment)
    (transport : ℕ) (message : Message) :
    b.Reaches observersOf env transport message ↔
      (∃ copy, handleTransportIncomingData env message = .ok copy) ∧
        ∃ nodeAddr o, b.owner transport=some nodeAddr ∧ o∈observersOf nodeAddr ∧ o.Observes message.header:=by
  cases hacc : handleTransportIncomingData env message with
  | error drop=>
    refine iff_of_false ?_ fun h=>?_
    · rintro ⟨called,hcalled⟩
      rw [deliver,DataObservers.notify,flatMap_map] at hcalled
      obtain ⟨d,-,hd⟩:=mem_flatMap.1 hcalled
      rw [handleData,hacc] at hd
      split at hd
      next hok=>cases hok
      · exact not_mem_nil hd
    · obtain ⟨copy,hcopy⟩:=h.1
      cases hcopy
  | ok copy=>
    constructor
    · rintro ⟨⟨nodeAddr,o⟩,hcalled⟩
      exact ⟨⟨copy,rfl⟩,nodeAddr,o,(b.mem_deliver_iff observersOf hacc).1 hcalled⟩
    · rintro ⟨-,nodeAddr,o,hcalled⟩
      exact ⟨(nodeAddr,o),(b.mem_deliver_iff observersOf hacc).2 hcalled⟩

/-- A message that reaches an observer keeps the policy exactly if its age is caught. -/
theorem reaches_policy_iff (b : Bus) (observersOf : ℕ→List NodeObserver)
    (env : IngressEnvironment) (clockMs transport : ℕ) (message : Message) :
    (b.Reaches observersOf (env.atTime clockMs) transport message→
        env.KeepsPolicy clockMs message) ↔
      (b.Reaches observersOf (env.withoutAgeLimit.atTime clockMs) transport message→
        ∀ config∈env.config, 0<config.maxTimeout→∀ createdMs,
          message.CreatedAt createdMs→createdMs≤clockMs→ IngressEnvironment.AgeCaught clockMs createdMs config):=by
  rw [reaches_iff,reaches_iff]
  constructor
  · rintro h ⟨⟨copy,haccept⟩,hobserved⟩ config hconfig hlimit createdMs hcreated hle
    by_cases hstale : (env.atTime clockMs).isStale config message.header=true
    · obtain ⟨-,hstamped,hold⟩:=IngressEnvironment.isStale_atTime_iff.1 hstale
      rw [hcreated.timestamp] at hstamped hold
      exact .inr ⟨hstamped,hold⟩
    · have hall : ∀ other∈env.config,
          (env.atTime clockMs).isStale other message.header=false:=by
        intro other hother
        cases Option.mem_unique hother hconfig
        exact Bool.eq_false_iff.2 hstale
      have hpolicy:=h ⟨⟨copy,IngressEnvironment.handle_atTime_iff.2 ⟨haccept,hall⟩⟩,hobserved⟩
      exact .inl (hpolicy.age config hconfig hlimit createdMs hcreated hle)
  · rintro h ⟨⟨copy,haccept⟩,hobserved⟩
    obtain ⟨hwithout,hall⟩:=IngressEnvironment.handle_atTime_iff.1 haccept
    rw [IngressEnvironment.keepsPolicy_iff haccept]
    intro config hconfig hlimit createdMs hcreated hle
    rcases h ⟨⟨copy,hwithout⟩,hobserved⟩ config hconfig hlimit createdMs hcreated hle with
      hyoung | ⟨hstamped,hold⟩
    · exact hyoung
    · have hfresh:=hall config hconfig
      rw [IngressEnvironment.isStale_atTime_iff.2] at hfresh
      · cases hfresh
      · rw [hcreated.timestamp]
        exact ⟨hlimit,hstamped,hold⟩

def agedIngress : IngressEnvironment:={sampleIngress with config:=some ⟨false,false,5000⟩}

def agedPublication : Option Message:=
  createMessage ⟨none,fun _=>true,samplePublication.header,1700000000000⟩ .pub
    (.ofMemory [97]) (.ofMemory [116]) [1,2,3] 1 1

/-- An hour later it still reaches the observer of a node. -/
theorem aged_publication_reaches :
    ∃ message, agedPublication=some message ∧ message.CreatedAt 1700000000000 ∧
      (empty.run [sampleAssociation 1 ⟨[97],by decide⟩]).Reaches sampleObservers
        (agedIngress.atTime 1700003600000) 0 message ∧
      ¬agedIngress.KeepsPolicy 1700003600000 message:=by
  obtain ⟨message,hmessage⟩ : ∃ message, agedPublication=some message:=Option.isSome_iff_exists.1 (by decide +kernel)
  have hcreated : message.CreatedAt 1700000000000:=⟨_,_,_,_,_,_,_,message,hmessage,rfl,rfl⟩
  refine ⟨message,hmessage,hcreated,⟨(1,⟨1,.pub,some 0,1⟩),?_⟩,fun hpolicy=>?_⟩
  · have hdelivered : agedPublication.map (fun message=>
        (empty.run [sampleAssociation 1 ⟨[97],by decide⟩]).deliver sampleObservers
          (agedIngress.atTime 1700003600000) 0 message)=some [(1,⟨1,.pub,some 0,1⟩)]:=by
      decide +kernel
    rw [hmessage,Option.map_some,Option.some.injEq] at hdelivered
    rw [hdelivered]
    exact mem_singleton_self _
  · exact absurd (hpolicy.age ⟨false,false,5000⟩ rfl (by decide) 1700000000000 hcreated (by decide)) (by decide)

end Bus

end SoftMessageBus
