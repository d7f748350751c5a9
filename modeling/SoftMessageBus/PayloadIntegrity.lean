import SoftMessageBus.BusAssociation
import SoftMessageBus.DiscoveryParse
import SoftMessageBus.ReceivePaths

/-!
# Integrity of payloads from end to end

A message is built with the checksum of its payload.
-/
namespace SoftMessageBus
open List

/-- The surroundings of a sender. -/
structure SenderEnvironment extends MessageEnvironment where
  config_lt : ∀ size∈config, size<2^32

/-- A message is made by `zoo_smb_create_message` or as an announcement. -/
inductive Origin where
  | plain (msgType : MsgType) (sender topic : CString) (payload : Bytes) (msgId : UInt32)
    (requestId : UInt64)
  | announcement (textAlloc : ℕ→Bool) (localAddress : Option CString) (service : AnnouncedService)

def Origin.message (env : SenderEnvironment) : Origin→Option Message
  | .plain msgType sender topic payload msgId requestId=>
    createMessage env.toMessageEnvironment msgType sender topic payload msgId requestId
  | .announcement textAlloc localAddress service=>
    broadcastSingleService env.toMessageEnvironment textAlloc localAddress service

/-- A text whose checksum differs from that of no payload was filled in behind the checksum. -/
def Origin.Stale : Origin→Prop
  | .plain .. => False
  | .announcement textAlloc localAddress service=>
    ∃ text, discoveryText (service.info localAddress)=some text ∧ textAlloc (text.length+1)=true ∧ calcCrc32 text≠0

lemma SenderEnvironment.length_lt (env : SenderEnvironment) {size : ℕ}
    (h : ¬smbEffectiveMaxPayloadSize env.config<size) : size<2^32:=by
  have hconf:=env.config_lt
  have hdef : defaultMaxTransportBufferSize<2^32:=by decide
  unfold smbEffectiveMaxPayloadSize at h
  cases hc : env.config with
  | none=>
    rw [hc] at h
    dsimp only at h
    split at h <;> omega
  | some limit=>
    have hlimit:=hconf limit hc
    rw [hc] at h
    dsimp only at h
    split at h <;> split at h <;> omega

lemma crc32_createMessage {env : SenderEnvironment} {msgType : MsgType} {sender topic : CString}
    {payload : Bytes} {msgId : UInt32} {requestId : UInt64} {m : Message}
    (h : createMessage env.toMessageEnvironment msgType sender topic payload msgId requestId=
      some m) : m.payloadBytes=payload ∧ m.header.crc32=calcMessageCrc32 payload:=by
  unfold createMessage at h
  split at h
  · cases h
  rename_i hsize
  split at h
  · cases h
    refine ⟨?_,rfl⟩
    have hann : (UInt32.ofNat payload.length).toNat=payload.length:=UInt32.toNat_ofNat_of_lt' (env.length_lt hsize)
    by_cases hnil : payload=[]
    · simp [Message.payloadBytes,hnil]
    · simp only [Message.payloadBytes,initMessageHeader,hnil,if_false,hann,Option.getD_some,take_length]
  · cases h

lemma makeDiscoveryPayloadMessageEx2_cases (alloc : ℕ→Bool) {msg : Message}
    (hempty : msg.payloadBytes=[]) (info : DiscoveryInfo) :
    (makeDiscoveryPayloadMessageEx2 alloc msg info).2.header.crc32=msg.header.crc32 ∧
      ((∃ text, discoveryText info=some text ∧ alloc (text.length+1)=true ∧
          (makeDiscoveryPayloadMessageEx2 alloc msg info).2.payloadBytes=text) ∨
        (¬∃ text, discoveryText info=some text ∧ alloc (text.length+1)=true) ∧
          (makeDiscoveryPayloadMessageEx2 alloc msg info).2.payloadBytes=[]):=by
  unfold makeDiscoveryPayloadMessageEx2
  cases htext : discoveryText info with
  | none=>exact ⟨rfl,.inr ⟨by simp,hempty⟩⟩
  | some text=>
    dsimp only
    by_cases halloc : alloc (text.length+1)=true
    · rw [if_pos halloc]
      refine ⟨rfl,.inl ⟨text,rfl,halloc,?_⟩⟩
      have hlt : text.length<512:=(fitsBuffer_discoveryText htext).2
      have hann : (UInt32.ofNat text.length).toNat=text.length:=UInt32.toNat_ofNat_of_lt' (hlt.trans (by decide))
      simp only [Message.payloadBytes,hann,Option.getD_some,take_left]
    · rw [if_neg halloc]
      exact ⟨rfl,.inr ⟨by simpa using halloc,by simp [Message.payloadBytes]⟩⟩

lemma crc32_eq_iff {env : SenderEnvironment} {origin : Origin} {m : Message}
    (h : origin.message env=some m) : m.header.crc32=calcMessageCrc32 m.payloadBytes ↔ ¬origin.Stale:=by
  cases origin with
  | plain msgType sender topic payload msgId requestId=>
    obtain ⟨hpayload,hcrc⟩:=crc32_createMessage h
    rw [hpayload]
    exact ⟨fun _=>nofun,fun _=>hcrc⟩
  | announcement textAlloc localAddress service=>
    obtain ⟨base,hbase,rfl⟩:=Option.map_eq_some_iff.1 h
    obtain ⟨hempty,hcrc⟩:=crc32_createMessage hbase
    obtain ⟨hkept,hcases⟩:=makeDiscoveryPayloadMessageEx2_cases textAlloc hempty (service.info localAddress)
    rw [hkept,hcrc]
    obtain ⟨text,htext,halloc,hbytes⟩ | ⟨hnone,hbytes⟩:=hcases
    · have hpos:=(fitsBuffer_discoveryText htext).1
      have hstale : Origin.Stale (.announcement textAlloc localAddress service) ↔
          calcCrc32 text≠0:=by
        simp only [Origin.Stale,htext,Option.some.injEq,exists_eq_left',halloc,true_and]
      have hne : text≠[]:=ne_nil_of_length_pos hpos
      rw [hbytes,hstale,not_ne_iff,calcMessageCrc32,calcMessageCrc32,if_pos rfl,if_neg hne]
      generalize calcCrc32 text=crc
      constructor
      · intro heq
        exact (UInt32.xor_right_inj (~~~0)).1 (heq.symm.trans (UInt32.xor_zero).symm)
      · rintro rfl
        exact UInt32.xor_zero.symm
    · rw [hbytes]
      refine ⟨fun _ hstale=>hnone ?_,fun _=>rfl⟩
      obtain ⟨text,htext,halloc,-⟩:=hstale
      exact ⟨text,htext,halloc⟩

section
variable {message message' : Message}

lemma header_copyMessage_eq (alloc : ℕ→Bool) (message : Message) :
    (copyMessage alloc message).map Message.header=
      if message.header.payloadSize.toNat=0 ∨
          (message.payload.isSome=true ∧ alloc message.header.payloadSize.toNat=true) then
        some message.header
      else none:=by
  unfold copyMessage
  split
  next hzero=>
    rw [if_pos (.inl hzero)]
    rfl
  next hpos=>
    split
    next hnone=>
      rw [if_neg (by simp [hpos,hnone])]
      rfl
    next bytes hsome=>
      split
      next halloc=>
        rw [if_pos (.inr ⟨by simp [hsome],halloc⟩)]
        rfl
      next halloc=>
        rw [if_neg (by simp [hpos,halloc])]
        rfl

lemma header_handleTransportIncomingData_congr (h : message.envelope=message'.envelope) (env : IngressEnvironment) :
    (handleTransportIncomingData env message).toOption.map Message.header=
      (handleTransportIncomingData env message').toOption.map Message.header:=by
  obtain ⟨hheader,hpayload⟩:=Prod.mk.inj h
  have hcopy : (copyMessage env.alloc message).map Message.header=
      (copyMessage env.alloc message').map Message.header:=by
    rw [header_copyMessage_eq,header_copyMessage_eq,hheader,hpayload]
  unfold handleTransportIncomingData
  rw [hheader]
  split
  · rfl
  split
  · rfl
  split
  · rfl
  cases hc : copyMessage env.alloc message with
  | none=>
    cases hc' : copyMessage env.alloc message' with
    | none=>rfl
    | some copy'=>simp [hc,hc'] at hcopy
  | some copy=>
    cases hc' : copyMessage env.alloc message' with
    | none=>simp [hc,hc'] at hcopy
    | some copy'=>
      have heq : copy.header=copy'.header:=by simpa [hc,hc'] using hcopy
      cases env.queueAccepts with
      | false=>rfl
      | true=>exact congrArg some heq

namespace Bus

lemma handleData_congr (b : Bus) (observersOf : ℕ→List NodeObserver)
    (h : message.envelope=message'.envelope) (env : IngressEnvironment) (o : DataObserver TransportHandler ℕ) :
    b.handleData observersOf env o message=b.handleData observersOf env o message':=by
  have hheader:=header_handleTransportIncomingData_congr h env
  unfold handleData
  cases o.handler with
  | other id=>rfl
  | routing=>
    cases b.ruleManager.ruleAt o.userData with
    | none=>rfl
    | some rule=>
      cases hm : handleTransportIncomingData env message with
      | error drop=>
        cases hm' : handleTransportIncomingData env message' with
        | error drop'=>rfl
        | ok copy'=>simp [hm,hm',Except.toOption] at hheader
      | ok copy=>
        cases hm' : handleTransportIncomingData env message' with
        | error drop'=>simp [hm,hm',Except.toOption] at hheader
        | ok copy'=>
          have heq : copy.header=copy'.header:=by simpa [hm,hm',Except.toOption] using hheader
          simp only [processMessageAndNotifyObserver,heq]

def observersCalled (b : Bus) (observersOf : ℕ→List NodeObserver) (env : IngressEnvironment)
    (transport : ℕ) (message : Message) : List (TransportHandler ⊕ ℕ × NodeObserver):=
  ((b.transports transport).notify message).flatMap fun call=>
    .inl call.1.handler::(b.handleData observersOf env call.1 call.2).map .inr

/-- The observers that are called when a transport takes the next message from an inbox. -/
def observersReached (b : Bus) (observersOf : ℕ→List NodeObserver) (env : IngressEnvironment)
    (transport : ℕ) (receiver : ReceiveEnvironment) (inbox : Inbox) :
    List (TransportHandler ⊕ ℕ × NodeObserver):=
  (inbox.received receiver (b.transports transport).items.length).toList.flatMap
    (b.observersCalled observersOf env transport)

variable (b : Bus) (observersOf : ℕ→List NodeObserver)

lemma observersCalled_congr (h : message.envelope=message'.envelope) (env : IngressEnvironment) (transport : ℕ) :
    b.observersCalled observersOf env transport message=b.observersCalled observersOf env transport message':=by
  rw [observersCalled,observersCalled,DataObservers.notify,DataObservers.notify,flatMap_map,flatMap_map]
  simp only [b.handleData_congr observersOf h env]

lemma observersReached_congr (env : IngressEnvironment) (transport : ℕ) (receiver : ReceiveEnvironment)
    {inbox inbox' : Inbox}
    (h : (inbox.received receiver (b.transports transport).items.length).map Message.envelope=
      (inbox'.received receiver (b.transports transport).items.length).map Message.envelope) :
    b.observersReached observersOf env transport receiver inbox=
      b.observersReached observersOf env transport receiver inbox':=by
  unfold observersReached
  cases hr : inbox.received receiver (b.transports transport).items.length with
  | none=>
    cases hr' : inbox'.received receiver (b.transports transport).items.length with
    | none=>rfl
    | some m'=>simp [hr,hr'] at h
  | some m=>
    cases hr' : inbox'.received receiver (b.transports transport).items.length with
    | none=>simp [hr,hr'] at h
    | some m'=>
      have heq : m.envelope=m'.envelope:=by simpa [hr,hr'] using h
      simp only [Option.toList_some,flatMap_singleton,b.observersCalled_congr observersOf heq env transport]

end Bus
end

/-- Damage by a burst is kept from the observers exactly in a ring or when there are none, and the
checksum of an undamaged message holds exactly when no text was filled in behind it. -/
theorem Bus.payload_integrity_iff (sender : SenderEnvironment) (origin : Origin) (m : Message)
    (hm : origin.message sender=some m) :
    (∀ (b : Bus) (observersOf : ℕ→List NodeObserver) (env : IngressEnvironment) (transport : ℕ)
        (receiver : ReceiveEnvironment) (payload : Bytes) (sent damaged : Inbox),
      Burst32 m.payloadBytes payload→Damaged receiver.endian m payload sent damaged→
        (b.observersReached observersOf env transport receiver damaged=[] ↔
          sent.InRing ∨ b.observersReached observersOf env transport receiver sent=[])) ∧
    (m.header.crc32=calcMessageCrc32 m.payloadBytes ↔ ¬origin.Stale):=by
  refine ⟨?_,crc32_eq_iff hm⟩
  intro b observersOf env transport receiver payload sent damaged hburst hdamaged
  rcases Inbox.envelope_received hdamaged hburst (b.transports transport).items.length with
    ⟨hring,hnone⟩ | ⟨hring,henvelope⟩
  · rw [observersReached,hnone]
    exact ⟨fun _=>.inl hring,fun _=>rfl⟩
  · rw [b.observersReached_congr observersOf env transport receiver henvelope]
    exact ⟨.inr,fun h=>h.resolve_left hring⟩

/-- A sender that gets all its memory. -/
def sampleSender : SenderEnvironment where
  config:=none
  alloc _:=true
  block:=samplePublication.header
  now:=1000
  config_lt:=nofun

def samplePlain : Origin:=.plain .pub (.ofMemory [97]) (.ofMemory [116]) [1,2,3] 7 42

def sampleAnnouncement : Origin:=
  .announcement (fun _=>true) none ⟨.ofMemory [115],.ofMemory [116],.ofMemory [97],80,.empty,0,.tcp,0,.empty⟩

def sampleReceiver : ReceiveEnvironment:=⟨.little,none,fun _=>true,true,true,false⟩

lemma burst32_first_bit : Burst32 [1,2,3] [0,2,3]:=⟨rfl,1,0,by decide,by decide,by decide⟩

/-- Without observers a damaged publication is handed to nobody. -/
theorem Bus.payload_integrity_unobserved :
    ∃ m, samplePlain.message sampleSender=some m ∧
      Bus.empty.observersReached sampleObservers sampleIngress 0 sampleReceiver (.udp (m.header.memory .big++[0,2,3]))=[] ∧
      m.header.crc32=calcMessageCrc32 m.payloadBytes:=by
  obtain ⟨m,hm⟩ : ∃ m, samplePlain.message sampleSender=some m:=⟨_,rfl⟩
  have hbytes : m.payloadBytes=[1,2,3]:=(crc32_createMessage hm).1
  obtain ⟨hdelivery,hcrc⟩:=payload_integrity_iff sampleSender samplePlain m hm
  refine ⟨m,hm,?_,hcrc.2 nofun⟩
  refine (hdelivery empty sampleObservers sampleIngress 0 sampleReceiver [0,2,3] _ _
    (hbytes ▸ burst32_first_bit) .udp).2 (.inr ?_)
  unfold observersReached
  generalize Inbox.received sampleReceiver _ _=received
  cases received with
  | none=>rfl
  | some message=>rfl

/-- A damaged datagram reaches an observer, and an announcement lacks its checksum. -/
theorem Bus.payload_integrity_fails :
    (∃ m, samplePlain.message sampleSender=some m ∧ Burst32 m.payloadBytes [0,2,3] ∧
      Damaged sampleReceiver.endian m [0,2,3] (.udp m.wire) (.udp (m.header.memory .big++[0,2,3])) ∧
      ((Bus.empty.run [sampleAssociation 1 ⟨[97],by decide⟩]).observersReached sampleObservers
        sampleIngress 0 sampleReceiver (.udp (m.header.memory .big++[0,2,3]))).filterMap
          Sum.getRight?=[(1,⟨1,.pub,some 0,1⟩)]) ∧
    ∃ m∈sampleAnnouncement.message sampleSender, m.header.crc32≠calcMessageCrc32 m.payloadBytes:=by
  refine ⟨?_,by decide +kernel⟩
  obtain ⟨m,hm⟩ : ∃ m, samplePlain.message sampleSender=some m:=⟨_,rfl⟩
  have hbytes : m.payloadBytes=[1,2,3]:=(crc32_createMessage hm).1
  have hreached : ∀ m∈samplePlain.message sampleSender,
      ((Bus.empty.run [sampleAssociation 1 ⟨[97],by decide⟩]).observersReached sampleObservers
        sampleIngress 0 sampleReceiver (.udp (m.header.memory .big++[0,2,3]))).filterMap
          Sum.getRight?=[(1,⟨1,.pub,some 0,1⟩)]:=by decide +kernel
  exact ⟨m,hm,hbytes ▸ burst32_first_bit,.udp,hreached m hm⟩

end SoftMessageBus
