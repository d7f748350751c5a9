import SoftMessageBus.ShmTransport
import SoftMessageBus.KeyedList

/-!
# The clients of a shared-memory server

Which clients the server keeps, and where it sends to the name of a sender.
-/
namespace SoftMessageBus
open ByteEncoding KeyedList List StepRuns

/-- `TRANSPORT_CONNECTION_STATE_ENUM`. -/
inductive ConnectionState where
  | disconnected
  | connecting
  | connected
  | reconnecting
  deriving DecidableEq

/-- `SHM_CLIENT_INFO_STRUCT` of the server, with the records in its ring and whether the client
has shut down. -/
structure ServerClient where
  id : ℕ
  name : CString
  state : ConnectionState
  lastHeartbeat : ℤ
  rxRing : List Bytes
  departed : Bool

structure SenderMapping where
  senderName : CString
  client : ℕ

/-- The lists of the server, the heartbeats in the memory of the clients, and from which clients
the server has heard which senders, the latest first. -/
structure ServerClients where
  clients : List ServerClient
  mappings : List SenderMapping
  nextId : ℕ
  heartbeats : ℕ→ℤ
  heard : List SenderMapping

inductive ClientEvent where
  | register (name : CString) (now : ℤ)
  | send (client : ℕ) (message : Message)
  | heartbeat (client : ℕ) (now : ℤ)
  | shutdown (client : ℕ) (now : UInt64)
  | process (client : ℕ) (now : ℤ) (alloc : ℕ→Bool) (mappingAlloc : Bool) (behind : Bytes)
  | setState (client : ℕ) (state : ConnectionState)
  | cleanup (now : ℤ)

def heartbeatTimeoutSeconds : ℤ:=30

namespace MessageHeader
variable (h : MessageHeader)

def senderName : CString:=CString.ofArray h.sender

/-- The string that the server reads at the sender, which runs on into the topic and the memory
behind the header if the field has no terminator. -/
def senderText (behind : Bytes) : CString:=CString.ofMemory (h.sender.toList++(h.topic.toList++behind))

lemma senderText_of_mem {h : MessageHeader} (hnul : 0∈h.sender.toList) (behind : Bytes) :
    h.senderText behind=h.senderName:=
  CString.ofMemory_append_of_mem hnul _

lemma truncate_senderName {h : MessageHeader} (hnul : 0∈h.sender.toList) : h.senderName.truncate 31=h.senderName:=by
  have hlt:=CString.length_ofMemory_lt hnul
  rw [List.Vector.toList_length] at hlt
  exact CString.truncate_eq_self (Nat.le_of_lt_succ hlt)

end MessageHeader

def disconnectHeader (name : CString) (now : UInt64) : MessageHeader:=
  ⟨msgMagicNumber,0,MsgType.hb.code,0,0,0,0,0,now,0,CString.copyTo (.replicate 32 0) name, .replicate 32 0⟩

/-- The record that `client_cleanup_all_resources` writes: a header in host order. -/
def disconnectRecord (e : Endian) (name : CString) (now : UInt64) : Bytes:=(disconnectHeader name now).memory e

/-- `shm_register_sender_mapping`: the first mapping of the name is changed, or a new one added
with the first 31 characters of it. -/
def shmRegisterSenderMapping (name : CString) (client : ℕ) (room : Bool) :
    List SenderMapping→List SenderMapping
  | []=>if room then [⟨name.truncate 31,client⟩] else []
  | m::rest=>
    if m.senderName=name then ⟨name,client⟩::rest
    else m::shmRegisterSenderMapping name client room rest

def ServerClient.needCleanup (now : ℤ) (c : ServerClient) : Bool:=
  c.state = .disconnected || (0<c.lastHeartbeat && heartbeatTimeoutSeconds<now-c.lastHeartbeat)

lemma ServerClient.needCleanup_iff {now : ℤ} {c : ServerClient} : c.needCleanup now=true ↔
    c.state = .disconnected ∨ 0<c.lastHeartbeat ∧ heartbeatTimeoutSeconds<now-c.lastHeartbeat:=by
  simp [needCleanup]

/-- The loop of `shm_server_cleanup_disconnected_clients`. -/
def cleanupLoop (now : ℤ) :
    List ServerClient→List SenderMapping→List ServerClient × List SenderMapping
  | [], mappings=>([],mappings)
  | c::rest, mappings=>
    if c.needCleanup now then cleanupLoop now rest (mappings.filter fun m=>m.client≠c.id)
    else
      let (clients,mappings):=cleanupLoop now rest mappings
      (c::clients,mappings)

namespace ServerClients

def initial : ServerClients:=⟨[],[],0,fun _=>0,[]⟩

section
variable (s : ServerClients)

def modifyClient (id : ℕ) (f : ServerClient→ServerClient) : ServerClients:=
  {s with clients:=s.clients.map fun c=>if c.id=id then f c else c}

def findMapping (name : CString) : Option SenderMapping:=s.mappings.find? fun m=>m.senderName=name

/-- The message in the next record of a client, if the deserializer accepts it. -/
def nextMessage (e : Endian) (s : ServerClients) (id : ℕ) (alloc : ℕ→Bool) : Option Message:=
  ((s.clients.find? fun c=>c.id=id).bind fun c=>c.rxRing.head?).bind fun record=>
    (deserialize e alloc (some record) (some clearedMessage) messageStructSize).toOption

def step (e : Endian) (s : ServerClients) : ClientEvent→ServerClients
  | .register name now=>
    if s.clients.length<shmMaxClients then
      {s with
        clients:=s.clients++[⟨s.nextId,name,.connected,now,[],false⟩]
        nextId:=s.nextId+1}
    else s
  | .send id message=>s.modifyClient id fun c=>{c with rxRing:=c.rxRing++[message.wire]}
  | .heartbeat id now=>{s with heartbeats:=Function.update s.heartbeats id now}
  | .shutdown id now=>s.modifyClient id fun c=>
      {c with rxRing:=c.rxRing++[disconnectRecord e c.name now], departed:=true}
  | .process id now alloc mappingAlloc behind=>
    let next:=s.modifyClient id fun c=>{c with rxRing:=c.rxRing.tail}
    match s.nextMessage e id alloc with
    | none=>next
    | some message=>
      {next.modifyClient id fun c=>{c with lastHeartbeat:=now} with
        mappings:=shmRegisterSenderMapping (message.header.senderText behind) id
          (mappingAlloc && s.mappings.length<shmMaxClients*4) s.mappings
        heard:=⟨message.header.senderName,id⟩::s.heard}
  | .setState id state=>s.modifyClient id fun c=>{c with state:=state}
  | .cleanup now=>
    let (clients,mappings):=cleanupLoop now s.clients s.mappings
    {s with clients:=clients, mappings:=mappings}

def connectedClient (m : SenderMapping) : Option ServerClient:=s.clients.find? fun c=>c.id=m.client ∧ c.state = .connected

def shmFindTargetClient (receiver : CString) : Option ServerClient:=
  ((s.findMapping receiver).bind s.connectedClient).or (s.clients.find? fun c=>c.state = .connected ∧ c.name=receiver)

/-- The mapping of the client that the sender was heard from last. -/
def lastHeard (name : CString) : Option SenderMapping:=s.heard.find? fun m=>m.senderName=name

end

structure MappingsValid (s : ServerClients) : Prop where
  live : ∀ m∈s.mappings, m.client∈s.clients.map ServerClient.id
  unique : (s.mappings.map SenderMapping.senderName).Nodup
  lookup : ∀ receiver, s.shmFindTargetClient receiver=
    ((s.lastHeard receiver).bind s.connectedClient).or (s.clients.find? fun c=>c.state = .connected ∧ c.name=receiver)

/-- The sender of a message is terminated, and a new mapping is allocated and has room in the list. -/
def Stores (e : Endian) (s : ServerClients) : ClientEvent→Prop
  | .process id _ alloc mappingAlloc _=>∀ message∈s.nextMessage e id alloc, 0∈message.header.sender.toList ∧
      ((s.findMapping message.header.senderName).isSome ∨ (mappingAlloc && s.mappings.length<shmMaxClients*4)=true)
  | _=>True

/-- The mappings are those of the clients heard from last, as long as they are in the list. -/
structure Sound (s : ServerClients) : Prop where
  ids_lt : ∀ id∈s.clients.map ServerClient.id, id<s.nextId
  nodup : (s.clients.map ServerClient.id).Nodup
  unique : (s.mappings.map SenderMapping.senderName).Nodup
  heard_lt : ∀ m∈s.heard, m.client<s.nextId
  mem_find_iff : ∀ name, ∀ m, m∈s.findMapping name ↔ m∈s.lastHeard name ∧ m.client∈s.clients.map ServerClient.id

end ServerClients
section
variable {name : CString} {client : ℕ} {room : Bool} {l : List SenderMapping}

lemma find?_shmRegisterSenderMapping (hname : name.truncate 31=name)
    (h : (l.find? fun m=>m.senderName=name).isSome ∨ room=true) (other : CString) :
    (shmRegisterSenderMapping name client room l).find? (fun m=>m.senderName=other)=
      if name=other then some ⟨name,client⟩ else l.find? fun m=>m.senderName=other:=by
  induction l with
  | nil=>
    rw [shmRegisterSenderMapping,hname,if_pos (h.resolve_left Bool.false_ne_true),find?_singleton]
    simp
  | cons m l ih=>
    rw [shmRegisterSenderMapping]
    split
    next heq=>
      rw [find?_cons,find?_cons,heq]
      by_cases hname : name=other <;> simp [hname]
    next hne=>
      rw [find?_cons_of_neg (by simpa using hne)] at h
      rw [find?_cons,find?_cons,ih h]
      by_cases hother : m.senderName=other
      · simp [hother,Ne.symm (hother ▸ hne)]
      · simp [hother]

lemma names_shmRegisterSenderMapping (hname : name.truncate 31=name) :
    (shmRegisterSenderMapping name client room l).map SenderMapping.senderName=
        l.map SenderMapping.senderName ∨
      name∉l.map SenderMapping.senderName ∧
        (shmRegisterSenderMapping name client room l).map SenderMapping.senderName=
          l.map SenderMapping.senderName++[name]:=by
  induction l with
  | nil=>
    cases room with
    | true=>exact .inr ⟨not_mem_nil,congrArg (fun n=>[n]) hname⟩
    | false=>exact .inl rfl
  | cons m l ih=>
    rw [shmRegisterSenderMapping]
    split
    next heq=>exact .inl (by simp [heq])
    next hne=>
      rcases ih with heq | ⟨hnew,heq⟩
      · exact .inl (by simp [heq])
      · exact .inr ⟨by simpa [Ne.symm hne] using hnew,by simp [heq]⟩

lemma cleanupLoop_eq (now : ℤ) (clients : List ServerClient) (mappings : List SenderMapping) :
    cleanupLoop now clients mappings=
      (clients.filter fun c=>!c.needCleanup now,
        mappings.filter fun m=>∀ c∈clients, c.needCleanup now=true→m.client≠c.id):=by
  induction clients generalizing mappings with
  | nil=>simp [cleanupLoop]
  | cons c clients ih=>
    rw [cleanupLoop]
    split
    next h=>
      rw [ih,filter_filter,filter_cons_of_neg (by simp [h])]
      simp [h,Bool.and_comm]
    next h=>simp [ih,h]

end
namespace ServerClients
variable {e : Endian} {s : ServerClients}

lemma ids_modifyClient (s : ServerClients) (id : ℕ) {f : ServerClient→ServerClient} (hf : ∀ c, (f c).id=c.id) :
    (s.modifyClient id f).clients.map ServerClient.id=s.clients.map ServerClient.id:=by
  rw [modifyClient,List.map_map]
  refine map_congr_left fun c _=>?_
  rw [Function.comp_apply,apply_ite ServerClient.id,hf,ite_self]

lemma Sound.modifyClient (h : s.Sound) (id : ℕ) {f : ServerClient→ServerClient}
    (hf : ∀ c, (f c).id=c.id) : (s.modifyClient id f).Sound where
  ids_lt:=s.ids_modifyClient id hf ▸ h.ids_lt
  nodup:=s.ids_modifyClient id hf ▸ h.nodup
  unique:=h.unique
  heard_lt:=h.heard_lt
  mem_find_iff:=s.ids_modifyClient id hf ▸ h.mem_find_iff

lemma mem_ids_of_nextMessage {id : ℕ} {alloc : ℕ→Bool} {message : Message}
    (h : message∈s.nextMessage e id alloc) : id∈s.clients.map ServerClient.id:=by
  obtain ⟨record,hrec,-⟩:=Option.bind_eq_some_iff.1 h
  obtain ⟨c,hc,-⟩:=Option.bind_eq_some_iff.1 hrec
  exact List.mem_map.2 ⟨c,mem_of_find?_eq_some hc,by simpa using find?_some hc⟩

lemma mem_ids_filter_iff (hnodup : (s.clients.map ServerClient.id).Nodup) (now : ℤ) (id : ℕ) :
    id∈(s.clients.filter fun c=>!c.needCleanup now).map ServerClient.id ↔
      id∈s.clients.map ServerClient.id ∧ ∀ c∈s.clients, c.needCleanup now=true→id≠c.id:=by
  constructor
  · intro hid
    obtain ⟨c,hc,rfl⟩:=List.mem_map.1 hid
    obtain ⟨hc,hkept⟩:=mem_filter.1 hc
    refine ⟨List.mem_map_of_mem hc,fun c' hc' hclean heq=>?_⟩
    rw [inj_on_of_nodup_map hnodup hc hc' heq,hclean] at hkept
    cases hkept
  · rintro ⟨hid,hkept⟩
    obtain ⟨c,hc,rfl⟩:=List.mem_map.1 hid
    refine List.mem_map_of_mem (mem_filter.2 ⟨hc,?_⟩)
    simpa using fun hclean=>hkept c hc hclean rfl

lemma Sound.register (h : s.Sound) (name : CString) (now : ℤ) :
    Sound {s with
      clients:=s.clients++[⟨s.nextId,name,.connected,now,[],false⟩]
      nextId:=s.nextId+1}:=by
  refine ⟨?_,?_,h.unique,fun m hm=>(h.heard_lt m hm).trans (Nat.lt_succ_self _),fun other m=>?_⟩
  · rw [map_append,forall_mem_append]
    exact ⟨fun id hid=>(h.ids_lt id hid).trans (Nat.lt_succ_self _),by simp⟩
  · rw [map_append,map_singleton,← concat_eq_append,nodup_concat]
    exact ⟨fun hmem=>Nat.lt_irrefl _ (h.ids_lt _ hmem),h.nodup⟩
  · refine (h.mem_find_iff other m).trans (and_congr_right fun hm=>?_)
    rw [map_append,mem_append]
    -- the new client has not been heard from
    refine (or_iff_left fun hnew=>?_).symm
    exact (h.heard_lt m (mem_of_find?_eq_some hm)).ne (mem_singleton.1 hnew)

lemma Sound.hear (h : s.Sound) {name : CString} {id : ℕ} {room : Bool}
    (hid : id∈s.clients.map ServerClient.id) (hname : name.truncate 31=name)
    (hstores : (s.findMapping name).isSome ∨ room=true) :
    Sound {s with
      mappings:=shmRegisterSenderMapping name id room s.mappings
      heard:=⟨name,id⟩::s.heard}:=by
  refine ⟨h.ids_lt,h.nodup,?_,forall_mem_cons.2 ⟨h.ids_lt id hid,h.heard_lt⟩,fun other m=>?_⟩
  · rcases names_shmRegisterSenderMapping hname with heq | ⟨hnew,heq⟩
    · rw [heq]
      exact h.unique
    · rw [heq,← concat_eq_append,nodup_concat]
      exact ⟨hnew,h.unique⟩
  · rw [findMapping,find?_shmRegisterSenderMapping hname hstores,lastHeard,find?_cons]
    by_cases hother : name=other
    · simp only [hother,if_true,decide_true]
      refine (and_iff_left_of_imp ?_).symm
      rintro ⟨⟩
      exact hid
    · simp only [hother,if_false,decide_false]
      exact h.mem_find_iff other m

lemma Sound.step (h : s.Sound) (event : ClientEvent) (hstores : s.Stores e event) : (s.step e event).Sound:=by
  cases event with
  | register name now=>
    rw [ServerClients.step]
    split
    · exact h.register name now
    · exact h
  | send id message=>exact h.modifyClient id fun _=>rfl
  | heartbeat id now=>exact ⟨h.ids_lt,h.nodup,h.unique,h.heard_lt,h.mem_find_iff⟩
  | shutdown id now=>exact h.modifyClient id fun _=>rfl
  | process id now alloc mappingAlloc behind=>
    have hnext:=h.modifyClient id (f:=fun c=>{c with rxRing:=c.rxRing.tail}) fun _=>rfl
    rw [ServerClients.step]
    split
    next=>exact hnext
    next message hmessage=>
      have hbeat:=hnext.modifyClient id (f:=fun c=>{c with lastHeartbeat:=now}) fun _=>rfl
      obtain ⟨hnul,hroom⟩:=hstores message hmessage
      rw [MessageHeader.senderText_of_mem hnul]
      refine hbeat.hear ?_ (MessageHeader.truncate_senderName hnul) hroom
      rw [ids_modifyClient,ids_modifyClient]
      · exact mem_ids_of_nextMessage hmessage
      all_goals exact fun _=>rfl
  | setState id state=>exact h.modifyClient id fun _=>rfl
  | cleanup now=>
    simp only [ServerClients.step,cleanupLoop_eq]
    refine ⟨fun id hid=>h.ids_lt id ((mem_ids_filter_iff h.nodup now id).1 hid).1,
      h.nodup.sublist (filter_sublist.map _),h.unique.sublist (filter_sublist.map _),h.heard_lt,
      fun name m=>?_⟩
    rw [mem_ids_filter_iff h.nodup,← and_assoc]
    refine Iff.trans ?_ (and_congr_left' (h.mem_find_iff name m))
    rw [findMapping,find?_filter_key h.unique,Option.mem_filter_iff,decide_eq_true_eq]
    rfl

lemma Sound.mappingsValid (h : s.Sound) : s.MappingsValid:=by
  refine ⟨fun m hm=>?_,h.unique,fun receiver=>?_⟩
  · exact ((h.mem_find_iff m.senderName m).1 (find?_key_of_mem h.unique hm)).2
  · rw [shmFindTargetClient]
    congr 1
    ext c
    simp only [Option.bind_eq_some_iff]
    refine exists_congr fun m=>?_
    rw [← Option.mem_def,h.mem_find_iff,and_assoc]
    refine and_congr_right fun _=>and_iff_right_of_imp fun hc=>?_
    have hmatch : c.id=m.client ∧ c.state = .connected:=by simpa using find?_some hc
    exact List.mem_map.2 ⟨c,mem_of_find?_eq_some hc,hmatch.1⟩

/-- The mappings stay valid as long as the senders are terminated and the list does not overflow. -/
theorem sender_mappings_valid (e : Endian) (events : List ClientEvent)
    (h : Along (step e) (Stores e) initial events) : (events.foldl (step e) initial).MappingsValid:=
  (h.foldl Sound (fun _ event hs hstores=>hs.step event hstores)
    ⟨by simp [initial],nodup_nil,nodup_nil,by simp [initial],by simp [initial,findMapping,lastHeard]⟩
    ).mappingsValid

/-- A sender moves from one client to another, and the first is lost. -/
def sampleTalk : List ClientEvent:=
  [.register (CString.ofMemory [97]) 1,.register (CString.ofMemory [98]) 1,.send 0 samplePublication,
    .process 0 2 (fun _=>true) true [],.send 1 samplePublication,.process 1 3 (fun _=>true) true [],
    .setState 0 .disconnected,.cleanup 4]

instance (e : Endian) (s : ServerClients) (event : ClientEvent) : Decidable (s.Stores e event):=by
  unfold Stores
  split <;> infer_instance

theorem sender_mappings_valid_talking :
    (sampleTalk.foldl (step .little) initial).clients.map ServerClient.id=[1] ∧
      (sampleTalk.foldl (step .little) initial).mappings.map SenderMapping.client=[1] ∧
      Along (step .little) (Stores .little) initial sampleTalk ∧
      (sampleTalk.foldl (step .little) initial).MappingsValid:=by
  have h : Along (step .little) (Stores .little) initial sampleTalk:=by decide +kernel
  exact ⟨by decide +kernel,by decide +kernel,h,sender_mappings_valid _ _ h⟩

/-- Two messages under a name that fills the field give two mappings of its first 31 characters. -/
theorem sender_mapped_twice :
    let message : Message:={samplePublication with header:={samplePublication.header with sender:=.replicate 32 120}}
    let events : List ClientEvent:=[.register (CString.ofMemory []) 1,.send 0 message,
      .process 0 2 (fun _=>true) true [],.send 0 message,.process 0 3 (fun _=>true) true []]
    ¬(events.foldl (step .little) initial).MappingsValid:=by
  intro message events hvalid
  exact absurd hvalid.unique (by decide +kernel)

/-- Records that clients place are accepted, and clients that have shut down are removed when
their records are processed. -/
def Recognises (e : Endian) (s : ServerClients) : ClientEvent→Prop
  | .send _ message=>
    message.HasPayload→message.header.magic=msgMagicNumber→Accepts message.wire
  | .shutdown id now=>∀ c∈s.clients, c.id=id→Accepts (disconnectRecord e c.name now)
  | .cleanup now=>∀ c∈s.clients, c.departed=true→c.rxRing=[]→
      c∉(s.step e (.cleanup now)).clients ∧ ∀ m∈(s.step e (.cleanup now)).mappings, m.client≠c.id
  | _=>True

/-- The host order is the wire order where a client shuts down, and the server has lost the
clients that have shut down by other means. -/
def Noticed (e : Endian) (s : ServerClients) : ClientEvent→Prop
  | .shutdown id _=>∀ c∈s.clients, c.id=id→e = .big
  | .cleanup now=>∀ c∈s.clients, c.departed=true→c.rxRing=[]→
      c.state = .disconnected ∨ 0<c.lastHeartbeat ∧ heartbeatTimeoutSeconds<now-c.lastHeartbeat
  | _=>True

lemma accepts_disconnectRecord_iff (e : Endian) (name : CString) (now : UInt64) :
    Accepts (disconnectRecord e name now) ↔ e = .big:=by
  constructor
  · rintro ⟨hlen,hmagic,-⟩
    rw [← MessageHeader.ofMemory_magic,← swapHeader_ofMemory e hlen,disconnectRecord,
      ← append_nil (MessageHeader.memory e _),MessageHeader.ofMemory_memory_append] at hmagic
    cases e with
    | big=>rfl
    | little=>
      have hswapped : htobe .little msgMagicNumber=msgMagicNumber:=hmagic
      exact absurd hswapped (by decide)
  · rintro rfl
    have h:=accepts_wire_append (m:=.withoutPayload (disconnectHeader name now))
      (fun hpos=>absurd hpos (Nat.lt_irrefl 0)) rfl []
    rwa [append_nil,Message.wire,Message.payloadBytes,Message.payload_withoutPayload,
      Option.getD_none,take_nil,append_nil] at h

lemma mem_step_cleanup_iff {now : ℤ} {c : ServerClient} (hc : c∈s.clients) :
    c∈(s.step e (.cleanup now)).clients ↔ c.needCleanup now=false:=by simp [step,cleanupLoop_eq,hc]

lemma recognises_iff (s : ServerClients) (event : ClientEvent) :
    s.Recognises e event ↔ s.Noticed e event:=by
  cases event with
  | send id message=>
    refine iff_of_true (fun hpayload hmagic=>?_) trivial
    rw [← append_nil message.wire]
    exact accepts_wire_append hpayload hmagic []
  | shutdown id now=>
    exact forall₃_congr fun c _ _=>accepts_disconnectRecord_iff e c.name now
  | cleanup now=>
    refine forall₄_congr fun c hc _ _=>?_
    rw [mem_step_cleanup_iff hc,Bool.not_eq_false,← ServerClient.needCleanup_iff,and_iff_left_iff_imp]
    intro hclean m hm
    simp only [step,cleanupLoop_eq,mem_filter,decide_eq_true_eq] at hm
    exact hm.2 c hc hclean
  | register name now | heartbeat id now | process id now alloc mappingAlloc behind | setState id state=>
    exact Iff.rfl

lemma exists_of_mem_modifyClient {id : ℕ} {f : ServerClient→ServerClient} {c : ServerClient}
    (hc : c∈(s.modifyClient id f).clients) : ∃ old∈s.clients, c=f old ∧ old.id=id ∨ c=old:=by
  obtain ⟨old,hold,rfl⟩:=List.mem_map.1 hc
  refine ⟨old,hold,?_⟩
  split
  next heq=>exact .inl ⟨rfl,heq⟩
  · exact .inr rfl

/-- The heartbeat of a client is the time when it registered or its last message was processed. -/
lemma lastHeartbeat_step (event : ClientEvent) {c : ServerClient} (hc : c∈(s.step e event).clients) :
    (∃ old∈s.clients, c.id=old.id ∧ c.lastHeartbeat=old.lastHeartbeat) ∨
      (∃ name, event = .register name c.lastHeartbeat) ∨
      ∃ alloc mappingAlloc behind, event = .process c.id c.lastHeartbeat alloc mappingAlloc behind ∧
        (s.nextMessage e c.id alloc).isSome:=by
  have hkept {id : ℕ} {f : ServerClient→ServerClient} {c : ServerClient} (hc : c∈(s.modifyClient id f).clients)
      (hf : ∀ c, (f c).id=c.id ∧ (f c).lastHeartbeat=c.lastHeartbeat) :
      ∃ old∈s.clients, c.id=old.id ∧ c.lastHeartbeat=old.lastHeartbeat:=by
    obtain ⟨old,hold,⟨rfl,-⟩ | rfl⟩:=exists_of_mem_modifyClient hc
    · exact ⟨old,hold,hf old⟩
    · exact ⟨c,hold,rfl,rfl⟩
  cases event with
  | register name now=>
    rw [step] at hc
    split at hc
    · rcases mem_append.1 hc with hc | hc
      · exact .inl ⟨c,hc,rfl,rfl⟩
      · rw [mem_singleton.1 hc]
        exact .inr (.inl ⟨name,rfl⟩)
    · exact .inl ⟨c,hc,rfl,rfl⟩
  | heartbeat id now=>exact .inl ⟨c,hc,rfl,rfl⟩
  | send | shutdown | setState=>exact .inl (hkept hc fun _=>⟨rfl,rfl⟩)
  | process id now alloc mappingAlloc behind=>
    rw [step] at hc
    split at hc
    · exact .inl (hkept hc fun _=>⟨rfl,rfl⟩)
    next message hmessage=>
      obtain ⟨old,hold,⟨rfl,rfl⟩ | rfl⟩:=exists_of_mem_modifyClient hc
      · exact .inr (.inr ⟨alloc,mappingAlloc,behind,rfl,hmessage ▸ rfl⟩)
      · exact .inl (hkept hold fun _=>⟨rfl,rfl⟩)
  | cleanup now=>
    simp only [step,cleanupLoop_eq,mem_filter] at hc
    exact .inl ⟨c,hc.1,rfl,rfl⟩

/-- `CLIENT_HEARTBEAT_INTERVAL_CYCLES`, in seconds. -/
def clientHeartbeatSeconds : ℤ:=5

def Beats (s : ServerClients) (now : ℤ) (c : ServerClient) : Prop:=
  c.state = .connected ∧ c.departed=false ∧ now-s.heartbeats c.id≤clientHeartbeatSeconds

/-- A pass of the server keeps the connected clients that keep performing their heartbeat. -/
def KeepsLive (e : Endian) (s : ServerClients) : ClientEvent→Prop
  | .cleanup now=>∀ c∈s.clients, s.Beats now c→c∈(s.step e (.cleanup now)).clients
  | _=>True

/-- The server has processed a message of those clients before the timeout. -/
def HeardInTime (s : ServerClients) : ClientEvent→Prop
  | .cleanup now=>∀ c∈s.clients, s.Beats now c→
      c.lastHeartbeat≤0 ∨ now-c.lastHeartbeat≤heartbeatTimeoutSeconds
  | _=>True

lemma keepsLive_iff (s : ServerClients) (event : ClientEvent) :
    s.KeepsLive e event ↔ s.HeardInTime event:=by
  cases event with
  | cleanup now=>
    refine forall₃_congr fun c hc hbeats=>?_
    rw [mem_step_cleanup_iff hc,← Bool.not_eq_true,ServerClient.needCleanup_iff,hbeats.1,not_or,not_and_or,not_lt,not_lt]
    exact and_iff_right (by simp)
  | register name now | send id message | heartbeat id now | shutdown id now
  | process id now alloc mappingAlloc behind | setState id state=>exact Iff.rfl

theorem live_clients_kept_iff (e : Endian) (events : List ClientEvent) :
    Along (step e) (KeepsLive e) initial events ↔ Along (step e) HeardInTime initial events:=
  along_iff_of_invariant (fun _=>True) (fun _ _ _ _=>trivial) (fun s event _=>keepsLive_iff s event) trivial events

theorem live_client_dropped : ¬Along (step .little) (KeepsLive .little) initial
    [.register ⟨[],by simp⟩ 1,.heartbeat 0 6,.heartbeat 0 11,.heartbeat 0 16,.heartbeat 0 21,
      .heartbeat 0 26,.heartbeat 0 31,.cleanup 32]:=by
  rintro ⟨-,-,-,-,-,-,-,hkept,-⟩
  have hmem:=hkept _ (mem_singleton_self _) ⟨rfl,rfl,by decide⟩
  rw [mem_step_cleanup_iff (mem_singleton_self _)] at hmem
  cases hmem

end ServerClients
end SoftMessageBus
