import SoftMessageBus.DiscoveryParse

/-!
# The services that discovery knows

The records of the service manager with all their fields.
-/
namespace SoftMessageBus
open BucketIndex List

/-- `ZOO_SMB_SERVICE_STRUCT`. -/
structure ServiceInfo where
  serviceType : ServiceType
  topic : CString
  address : CString
  port : UInt32
  multicastAddress : CString
  multicastPort : UInt32
  transportType : UInt32
  hostFingerprint : CString
  transportCapabilities : UInt32
  shmEndpoint : CString
  lastSeen : ℕ
  isOnline : Bool
  isServer : Bool
  broadcastIntervalMs : UInt32

/-- `DISCOVERY_PARSED_SERVICE_STRUCT`. -/
structure ParsedService where
  name : ServiceName
  topic : CString
  address : CString
  port : UInt16
  multicastAddr : CString
  multicastPort : UInt16
  transportType : UInt32
  hostFingerprint : CString
  transportCapabilities : UInt32
  shmEndpoint : CString

/-- A name in an array of `MAX_SERVICE_NAME_LENGTH` bytes. -/
def ServiceName.ofCString (s : CString) : ServiceName:=⟨s.truncate 63,CString.length_truncate_le 63 s⟩

def ParsedService.ofOutput (out : DiscoveryOutput) : ParsedService where
  name:=.ofCString (CString.ofMemory out.serviceName)
  topic:=CString.ofMemory out.topic
  address:=CString.ofMemory out.address
  port:=out.port
  multicastAddr:=CString.ofMemory (out.multicastAddr.getD [])
  multicastPort:=out.multicastPort.getD 0
  transportType:=out.transportType
  hostFingerprint:=CString.ofMemory (out.hostFingerprint.getD [])
  transportCapabilities:=out.transportCapabilities.getD 0
  shmEndpoint:=CString.ofMemory (out.shmEndpoint.getD [])

def defaultCapabilityBitsFromTransport (transportType : UInt32) : UInt32:=
  if transportType=TransportType.shm.code.toUInt32 then (1 : UInt32) <<< 0
  else if transportType=TransportType.tcp.code.toUInt32 then (1 : UInt32) <<< 1
  else if transportType=TransportType.udp.code.toUInt32 ∨
      transportType=TransportType.udpBroadcast.code.toUInt32 then (1 : UInt32) <<< 2
  else 0

def effectiveIntervalMs (intervalMs : UInt32) : UInt32:=if intervalMs<1000 then 1000 else intervalMs

/-- `zoo_smb_create_service`. -/
def createService (serviceType : ServiceType) (name : ServiceName) (topic address : CString)
    (port : UInt32) (multicastAddress : CString) (multicastPort transportType : UInt32)
    (broadcastIntervalMs : UInt32) (now : ℕ) : ServiceInfo where
  serviceType:=serviceType
  topic:=topic.truncate 63
  address:=address.truncate 63
  port:=port
  multicastAddress:=multicastAddress.truncate 63
  multicastPort:=multicastPort
  transportType:=transportType
  hostFingerprint:=.empty
  transportCapabilities:=defaultCapabilityBitsFromTransport transportType
  shmEndpoint:=name.text
  lastSeen:=now
  isOnline:=true
  isServer:=match serviceType with
    | .discovery | .broadcast=>true
    | .registration=>false
  broadcastIntervalMs:=effectiveIntervalMs broadcastIntervalMs

def ServiceInfo.blank : ServiceInfo:=createService .discovery (.ofCString .empty) .empty .empty 0 .empty 0 0 0 0

def ParsedService.discovered (p : ParsedService) (intervalMs : UInt32) (now : ℕ) : ServiceInfo:=
  {createService .registration p.name p.topic p.address p.port.toUInt32 p.multicastAddr
      p.multicastPort.toUInt32 p.transportType (effectiveIntervalMs intervalMs) now with
    hostFingerprint:=p.hostFingerprint.truncate 63
    transportCapabilities:=p.transportCapabilities
    shmEndpoint:=p.shmEndpoint.truncate 63}

def ServiceInfo.announcedChange (info : ServiceInfo) (p : ParsedService) : Bool:=
  decide (info.topic≠p.topic) || decide (info.address≠p.address) ||
    decide (info.multicastAddress≠p.multicastAddr) || decide (info.port≠p.port.toUInt32) ||
    decide (info.multicastPort≠p.multicastPort.toUInt32) ||
    decide (info.transportType≠p.transportType) ||
    decide (info.hostFingerprint≠p.hostFingerprint) ||
    decide (info.transportCapabilities≠p.transportCapabilities) ||
    decide (info.shmEndpoint≠p.shmEndpoint)

def ServiceInfo.refresh (info : ServiceInfo) (p : ParsedService) (intervalMs : UInt32) (now : ℕ) : ServiceInfo:=
  {info with
    topic:=p.topic.truncate 63
    address:=p.address.truncate 63
    multicastAddress:=p.multicastAddr.truncate 63
    port:=p.port.toUInt32
    multicastPort:=p.multicastPort.toUInt32
    transportType:=p.transportType
    hostFingerprint:=p.hostFingerprint.truncate 63
    transportCapabilities:=p.transportCapabilities
    shmEndpoint:=p.shmEndpoint.truncate 63
    isOnline:=true
    lastSeen:=now
    broadcastIntervalMs:=effectiveIntervalMs intervalMs}

structure HeartbeatCall where
  now : ℕ
  createAlloc : Bool
  serviceAlloc : Bool
  indexAlloc : Bool

/-- What `zoo_smb_service_manager_make_service` reads of the configuration. -/
structure ServiceConfig where
  localAddress : CString
  multicastAddress : CString
  multicastPort : UInt32
  broadcastIntervalMs : UInt32

structure MakeServiceCall where
  now : ℕ
  port : UInt32
  alloc : Bool

structure ServiceDirectory where
  manager : ServiceManager
  info : ℕ→ServiceInfo

namespace ServiceDirectory

def registerService (d : ServiceDirectory) (type : ServiceType) (name : ServiceName)
    (info : ServiceInfo) (serviceAlloc indexAlloc : Bool) : ServiceDirectory where
  manager:=d.manager.registerService type name serviceAlloc indexAlloc
  info:=
    if ¬d.manager.Listed type name.text ∧ serviceAlloc=true then
      Function.update d.info d.manager.nextAddr info
    else d.info

section
variable (d : ServiceDirectory)

/-- The part of `handle_received_message_cb` behind the parser. -/
def handleParsed (intervalMs : UInt32) (call : HeartbeatCall) (p : ParsedService) : ServiceDirectory × List ℕ:=
  match d.manager.getService p.name.text .registration with
  | none=>
    if call.createAlloc then
      (d.registerService .registration p.name (p.discovered intervalMs call.now) call.serviceAlloc call.indexAlloc, [])
    else (d,[])
  | some addr=>
    ({d with info:=Function.update d.info addr ((d.info addr).refresh p intervalMs call.now)},
      if !(d.info addr).isOnline || (d.info addr).announcedChange p then [addr] else [])

def handleReceivedMessageCb (intervalMs : UInt32) (parseAlloc : ℕ→Bool)
    (call : HeartbeatCall) (message : Message) : ServiceDirectory × List ℕ:=
  if message.header.msgType≠MsgType.hb.code then (d,[])
  else match parsePayloadMessage parseAlloc message with
    | some (true,out)=>d.handleParsed intervalMs call (.ofOutput out)
    | _=>(d,[])

/-- `manager_find_service`. -/
def managerFindService (type : ServiceType) (serviceName topic : CString) (transportType : UInt32) : Option ℕ:=
  ((d.manager.serviceList type).find? fun s=>
    decide (s.key=serviceName) &&
      (decide (transportType=0) || decide ((d.info s.addr).transportType=transportType)) &&
      decide ((d.info s.addr).topic=topic)).map Service.addr

/-- `zoo_smb_service_manager_make_service`. -/
def makeService (cfg : ServiceConfig) (call : MakeServiceCall) (node : Node) : Option ℕ × ServiceDirectory:=
  match node.nodeType with
  | .server | .publisher=>
    let transportType:=node.transportType.code.toUInt32
    match d.managerFindService .broadcast node.target node.topic transportType with
    | some addr=>(some addr,d)
    | none=>
      if call.alloc then
        let name:=ServiceName.ofCString node.target
        (some d.manager.nextAddr,
          { manager:=d.manager.addService .broadcast name false
            info:=Function.update d.info d.manager.nextAddr
              (createService .broadcast name node.topic cfg.localAddress call.port
                cfg.multicastAddress cfg.multicastPort transportType cfg.broadcastIntervalMs
                call.now)})
      else (none,d)
  | .client | .subscriber=>
    (d.managerFindService .registration node.target node.topic 0,d)
  | .discovery=>(none,d)

section
variable (name : CString)

def listed : Option ℕ:=((d.manager.serviceList .registration).find? fun s=>s.key=name).map Service.addr
def indexed : Option ℕ:=d.manager.getService name .registration
def Records (addr : ℕ) : Prop:=d.listed name=some addr ∨ d.indexed name=some addr

def addRecord (name : ServiceName) (info : ServiceInfo) (indexAlloc : Bool) :
    ServiceDirectory where
  manager:=d.manager.addService .registration name indexAlloc
  info:=Function.update d.info d.manager.nextAddr info

def IndexRoom (indexAlloc : Bool) : Prop:=
  indexAlloc=true ∧ (d.manager.registrationIndexBuckets (serviceIndexHash name)).length<serviceBucketCapacity
  deriving Decidable

end

def ListRoom : Prop:=
  (d.manager.serviceList .registration).length < maxServiceListSize
  deriving Decidable

end

variable {d : ServiceDirectory} {name other : CString} {addr : ℕ}

lemma listed_eq_none_iff : d.listed name=none ↔ ¬d.manager.Listed .registration name:=by
  simp [listed,ServiceManager.Listed]

lemma handleParsed_of_indexed {p : ParsedService} (h : d.indexed p.name.text=some addr)
    (intervalMs : UInt32) (call : HeartbeatCall) :
    d.handleParsed intervalMs call p=
      ({d with
          info:=Function.update d.info addr ((d.info addr).refresh p intervalMs call.now)},
        if !(d.info addr).isOnline || (d.info addr).announcedChange p then [addr] else []):=by
  rw [indexed] at h
  rw [handleParsed,h]

lemma handleParsed_of_not_indexed {p : ParsedService} (h : d.indexed p.name.text=none)
    (intervalMs : UInt32) (call : HeartbeatCall) :
    d.handleParsed intervalMs call p=
      (if d.listed p.name.text=none ∧ call.createAlloc=true ∧ call.serviceAlloc=true then
        d.addRecord p.name (p.discovered intervalMs call.now) call.indexAlloc
      else d, []):=by
  rw [indexed] at h
  rw [handleParsed,h]
  cases hcreate : call.createAlloc with
  | false=>simp
  | true=>
    by_cases hlisted : d.manager.Listed .registration p.name.text
    · simp [registerService,ServiceManager.registerService,listed_eq_none_iff,hlisted]
    · cases hservice : call.serviceAlloc with
      | false=>simp [registerService,ServiceManager.registerService,hlisted]
      | true=>
        simp [registerService,ServiceManager.registerService,listed_eq_none_iff,hlisted, addRecord]

@[simp] lemma info_addRecord_self (d : ServiceDirectory) (name : ServiceName) (info : ServiceInfo) (indexAlloc : Bool) :
    (d.addRecord name info indexAlloc).info d.manager.nextAddr=info:=
  Function.update_self ..

lemma listed_addRecord {name : ServiceName} (hnew : d.listed name.text=none)
    (info : ServiceInfo) (indexAlloc : Bool) (other : CString) :
    (d.addRecord name info indexAlloc).listed other=
      if other=name.text then (if d.ListRoom then some d.manager.nextAddr else none)
      else d.listed other:=by
  rw [listed,Option.map_eq_none_iff] at hnew
  rw [listed,addRecord,ServiceManager.serviceList_addService]
  by_cases hroom : d.ListRoom
  · have hlen : (d.manager.serviceList .registration).length < maxServiceListSize:=hroom
    rw [if_pos hlen,if_pos hroom,find?_append]
    by_cases hname : other=name.text
    · subst hname
      rw [if_pos rfl,hnew]
      simp [Service.key]
    · have hkey : ¬Service.key ⟨d.manager.nextAddr,name⟩=other:=Ne.symm hname
      rw [if_neg hname,find?_cons_of_neg (by simpa using hkey),find?_nil,Option.or_none,listed]
  · have hlen : ¬(d.manager.serviceList .registration).length < maxServiceListSize:=hroom
    rw [if_neg hlen,if_neg hroom]
    by_cases hname : other=name.text
    · subst hname
      rw [if_pos rfl,hnew,Option.map_none]
    · rw [if_neg hname,listed]

lemma indexed_addRecord {name : ServiceName} (hnew : d.indexed name.text=none)
    (info : ServiceInfo) (indexAlloc : Bool) (other : CString) :
    (d.addRecord name info indexAlloc).indexed other=
      if other=name.text then
        (if d.IndexRoom name.text indexAlloc then some d.manager.nextAddr else none)
      else d.indexed other:=by
  have hkey : (Service.key ⟨d.manager.nextAddr,name⟩).truncate 63=name.text:=CString.truncate_eq_self name.length_le
  have hindex : (d.addRecord name info indexAlloc).manager.registrationIndexBuckets=
      (upsert serviceIndexHash serviceBucketCapacity indexAlloc d.manager.registrationIndexBuckets
        name.text d.manager.nextAddr).getD d.manager.registrationIndexBuckets:=by
    rw [addRecord,ServiceManager.addService,if_pos rfl,ServiceManager.indexUpsert,hkey]
  rw [indexed,ServiceManager.getService,hindex]
  cases hups : upsert serviceIndexHash serviceBucketCapacity indexAlloc
      d.manager.registrationIndexBuckets name.text d.manager.nextAddr with
  | none=>
    have hfull : ¬d.IndexRoom name.text indexAlloc:=(upsert_eq_none_iff.1 hups).2
    rw [Option.getD_none,if_neg hfull]
    by_cases hname : other=name.text
    · rw [if_pos hname,hname]
      exact hnew
    · rw [if_neg hname]
      rfl
  | some index=>
    rw [Option.getD_some]
    by_cases hname : other=name.text
    · have hroom : d.IndexRoom name.text indexAlloc:=by
        by_contra hfull
        rw [upsert_eq_none_iff.2 ⟨hnew,hfull⟩] at hups
        cases hups
      rw [if_pos hname,if_pos hroom,hname]
      exact find_upsert_self hups
    · rw [if_neg hname]
      exact find_upsert_of_ne hname hups

lemma records_addRecord {name : ServiceName} (hlisted : d.listed name.text=none)
    (hind : d.indexed name.text=none) (info : ServiceInfo) (indexAlloc : Bool) (other : CString) (addr : ℕ) :
    (d.addRecord name info indexAlloc).Records other addr ↔
      (other=name.text ∧ (d.ListRoom ∨ d.IndexRoom name.text indexAlloc) ∧
        addr=d.manager.nextAddr) ∨ (other≠name.text ∧ d.Records other addr):=by
  rw [Records,listed_addRecord hlisted,indexed_addRecord hind,Records]
  by_cases hname : other=name.text
  · by_cases hlist : d.ListRoom <;> by_cases hindex : d.IndexRoom name.text indexAlloc <;>
      simp [hname,hlist,hindex,eq_comm]
  · simp [hname]

structure Sound (d : ServiceDirectory) : Prop where
  keys_nodup : ((d.manager.serviceList .registration).map Service.key).Nodup
  addrs_nodup : ((d.manager.serviceList .registration).map Service.addr).Nodup
  addr_lt : ∀ name addr, d.Records name addr→addr<d.manager.nextAddr
  name_eq : ∀ name other addr, d.Records name addr→d.Records other addr→name=other
  addr_eq : ∀ name addr other, d.Records name addr→d.Records name other→addr=other

namespace Sound

lemma listed_of_mem (h : d.Sound) {s : Service} (hs : s∈d.manager.serviceList .registration) :
    d.listed s.key=some s.addr:=by
  rw [listed,KeyedList.find?_key_of_mem h.keys_nodup hs,Option.map_some]

lemma info_addRecord (h : d.Sound) (hrec : d.Records other addr) (name : ServiceName)
    (info : ServiceInfo) (indexAlloc : Bool) : (d.addRecord name info indexAlloc).info addr=d.info addr:=
  Function.update_of_ne (h.addr_lt other addr hrec).ne _ _

lemma addRecord (h : d.Sound) {name : ServiceName} (hlisted : d.listed name.text=none)
    (hind : d.indexed name.text=none) (info : ServiceInfo) (indexAlloc : Bool) :
    (d.addRecord name info indexAlloc).Sound:=by
  have hrec:=records_addRecord hlisted hind info indexAlloc
  have hlt : ∀ s∈d.manager.serviceList .registration, s.addr<d.manager.nextAddr:=
    fun s hs=>h.addr_lt _ _ (Or.inl (h.listed_of_mem hs))
  have hnext : (d.addRecord name info indexAlloc).manager.nextAddr=d.manager.nextAddr+1:=rfl
  refine ⟨?_,?_,?_,?_,?_⟩
  · rw [ServiceDirectory.addRecord,ServiceManager.serviceList_addService]
    split
    · rw [map_append,map_singleton,← concat_eq_append,nodup_concat]
      refine ⟨fun hmem=>?_,h.keys_nodup⟩
      exact listed_eq_none_iff.1 hlisted (List.mem_map.1 hmem)
    · exact h.keys_nodup
  · rw [ServiceDirectory.addRecord,ServiceManager.serviceList_addService]
    split
    · rw [map_append,map_singleton,← concat_eq_append,nodup_concat]
      refine ⟨fun hmem=>?_,h.addrs_nodup⟩
      obtain ⟨s,hs,haddr⟩:=List.mem_map.1 hmem
      exact (hlt s hs).ne haddr
    · exact h.addrs_nodup
  · intro other addr hother
    rw [hnext]
    rcases (hrec other addr).1 hother with ⟨-,-,rfl⟩ | ⟨-,hold⟩
    · exact Nat.lt_succ_self _
    · exact Nat.lt_succ_of_lt (h.addr_lt other addr hold)
  · intro one two addr hone htwo
    rcases (hrec one addr).1 hone with ⟨rfl,-,rfl⟩ | ⟨-,hone⟩
    · rcases (hrec two _).1 htwo with ⟨rfl,-⟩ | ⟨-,htwo⟩
      · rfl
      · exact absurd (h.addr_lt two _ htwo) (Nat.lt_irrefl _)
    · rcases (hrec two addr).1 htwo with ⟨-,-,rfl⟩ | ⟨-,htwo⟩
      · exact absurd (h.addr_lt one _ hone) (Nat.lt_irrefl _)
      · exact h.name_eq one two addr hone htwo
  · intro one addr addr' haddr haddr'
    rcases (hrec one addr).1 haddr with ⟨rfl,-,rfl⟩ | ⟨hne,hold⟩
    · rcases (hrec _ addr').1 haddr' with ⟨-,-,rfl⟩ | ⟨hne,-⟩
      · rfl
      · exact absurd rfl hne
    · rcases (hrec one addr').1 haddr' with ⟨heq,-⟩ | ⟨-,hold'⟩
      · exact absurd heq hne
      · exact h.addr_eq one addr addr' hold hold'

lemma of_manager_eq (h : d.Sound) {d' : ServiceDirectory} (heq : d'.manager=d.manager) : d'.Sound:=by
  obtain ⟨manager,info⟩:=d'
  cases heq
  exact ⟨h.keys_nodup,h.addrs_nodup,h.addr_lt,h.name_eq,h.addr_eq⟩

lemma handleParsed (h : d.Sound) (intervalMs : UInt32) (call : HeartbeatCall)
    (p : ParsedService) : (d.handleParsed intervalMs call p).1.Sound:=by
  cases hind : d.indexed p.name.text with
  | some addr=>
    rw [handleParsed_of_indexed hind]
    exact h.of_manager_eq rfl
  | none=>
    rw [handleParsed_of_not_indexed hind]
    dsimp only
    split
    next hnew=>exact h.addRecord hnew.1 hind _ _
    · exact h

end Sound

def create (discoveryAlloc : Bool) (info : ℕ→ServiceInfo) : ServiceDirectory:=⟨.create discoveryAlloc,info⟩

variable (discoveryAlloc : Bool) (info : ℕ→ServiceInfo)

lemma not_records_create (name : CString) (addr : ℕ) : ¬(create discoveryAlloc info).Records name addr:=by
  rintro (h | h) <;> cases h

lemma sound_create :
    (create discoveryAlloc info).Sound where
  keys_nodup:=nodup_nil
  addrs_nodup:=nodup_nil
  addr_lt name addr h:=absurd h (not_records_create discoveryAlloc info name addr)
  name_eq name _ addr h:=absurd h (not_records_create discoveryAlloc info name addr)
  addr_eq name addr _ h:=absurd h (not_records_create discoveryAlloc info name addr)

end ServiceDirectory

/-! ## Using announced services -/

open StepRuns

def TransportType.ofCode (code : UInt32) : Option TransportType:=
  [TransportType.udp,.udpBroadcast,.tcp,.shm].find? fun type=>type.code.toUInt32=code

structure Announcement where
  position : ℕ
  env : MessageEnvironment
  textAlloc : ℕ→Bool
  parseAlloc : ℕ→Bool
  call : HeartbeatCall

/-- A node makes its service, or an announcement is received. -/
inductive EndpointEvent where
  | make (call : MakeServiceCall) (node : Node)
  | announce (a : Announcement)

def parsedHeartbeat (parseAlloc : ℕ→Bool) (message : Message) : Option ParsedService:=
  if message.header.msgType≠MsgType.hb.code then none
  else match parsePayloadMessage parseAlloc message with
    | some (true,out)=>some (.ofOutput out)
    | _=>none

namespace ServiceDirectory

def announcedService (d : ServiceDirectory) (s : Service) : AnnouncedService where
  name:=s.key
  topic:=(d.info s.addr).topic
  address:=(d.info s.addr).address
  port:=(d.info s.addr).port
  multicastAddress:=(d.info s.addr).multicastAddress
  multicastPort:=(d.info s.addr).multicastPort
  transportType:=(TransportType.ofCode (d.info s.addr).transportType).getD .udp
  transportCapabilities:=(d.info s.addr).transportCapabilities
  shmEndpoint:=(d.info s.addr).shmEndpoint

def announcing (d : ServiceDirectory) (a : Announcement) : Option Service:=(d.manager.serviceList .broadcast)[a.position]?

def announcement (d : ServiceDirectory) (cfg : ServiceConfig) (a : Announcement) : Option Message:=
  (d.announcing a).bind fun s=>broadcastSingleService a.env a.textAlloc (some cfg.localAddress) (d.announcedService s)

section
variable (cfg : ServiceConfig)

variable (d : ServiceDirectory)

def step : EndpointEvent→ServiceDirectory
  | .make call node=>(d.makeService cfg call node).2
  | .announce a=>
    match d.announcement cfg a with
    | none=>d
    | some message=>
      (d.handleReceivedMessageCb cfg.broadcastIntervalMs a.parseAlloc a.call message).1

/-- Clients and subscribers for the name and the topic get a service with them. -/
def Usable (name topic : CString) : Prop:=
  ∀ call node, node.nodeType = .client ∨ node.nodeType = .subscriber→node.target=name→
    node.topic=topic→
      ∃ addr, (d.makeService cfg call node).1=some addr ∧ d.listed name=some addr ∧ (d.info addr).topic=topic

variable (events : List EndpointEvent)

/-- A service with the name and the topic is announced in a run. -/
def Announced (name topic : CString) : Prop:=
  ∃ before a after s, events=before ++ .announce a::after ∧
    (before.foldl (step cfg) d).announcing a=some s ∧ s.key=name ∧
    ((before.foldl (step cfg) d).info s.addr).topic=topic

def EndpointsUsable : Prop:=
  ∀ name topic, d.Announced cfg events name topic→(events.foldl (step cfg) d).Usable cfg name topic

def StoresRecord (call : HeartbeatCall) (name : CString) : Prop:=
  ((d.indexed name).isSome ∧ (d.listed name).isSome) ∨
    (d.indexed name=none ∧ d.listed name=none ∧ call.createAlloc=true ∧ call.serviceAlloc=true ∧ d.ListRoom)
  deriving Decidable

def stores : EndpointEvent→Option (CString × CString)
  | .make _ _=>none
  | .announce a=>
    ((d.announcement cfg a).bind (parsedHeartbeat a.parseAlloc)).bind fun p=>
      if d.StoresRecord a.call p.name.text then some (p.name.text,p.topic.truncate 63) else none

def Replaces (name topic : CString) (d : ServiceDirectory) (event : EndpointEvent) : Prop:=
  ∃ other, d.stores cfg event=some (name,other) ∧ other≠topic

/-- The name and the topic are stored in a run, and no other topic is stored under the name
afterwards. -/
def StoredLast (name topic : CString) : Prop:=
  ∃ before event after, events=before++event::after ∧
    (before.foldl (step cfg) d).stores cfg event=some (name,topic) ∧
    Along (step cfg) (fun d event=>¬d.Replaces cfg name topic event) ((before++[event]).foldl (step cfg) d) after

end

def listedTopic (d : ServiceDirectory) (name : CString) : Option CString:=(d.listed name).map fun addr=>(d.info addr).topic

variable {d : ServiceDirectory} {cfg : ServiceConfig} {name topic : CString}

lemma handleReceivedMessageCb_eq (d : ServiceDirectory) (intervalMs : UInt32)
    (parseAlloc : ℕ→Bool) (call : HeartbeatCall) (message : Message) :
    d.handleReceivedMessageCb intervalMs parseAlloc call message=
      match parsedHeartbeat parseAlloc message with
      | some p=>d.handleParsed intervalMs call p
      | none=>(d,[]):=by
  unfold handleReceivedMessageCb parsedHeartbeat
  split
  · rfl
  · cases parsePayloadMessage parseAlloc message with
    | none=>rfl
    | some result=>
      obtain ⟨accepted,out⟩:=result
      cases accepted <;> rfl

lemma step_announce (d : ServiceDirectory) (cfg : ServiceConfig) (a : Announcement) :
    d.step cfg (.announce a)=
      match (d.announcement cfg a).bind (parsedHeartbeat a.parseAlloc) with
      | some p=>(d.handleParsed cfg.broadcastIntervalMs a.call p).1
      | none=>d:=by
  rw [step]
  cases d.announcement cfg a with
  | none=>rfl
  | some message=>
    dsimp only
    rw [handleReceivedMessageCb_eq,Option.bind_some]
    cases parsedHeartbeat a.parseAlloc message <;> rfl

structure KeepsRegistered (d d' : ServiceDirectory) : Prop where
  serviceList : d'.manager.serviceList .registration=d.manager.serviceList .registration
  index : d'.manager.registrationIndexBuckets=d.manager.registrationIndexBuckets
  nextAddr_le : d.manager.nextAddr≤d'.manager.nextAddr
  info : ∀ addr<d.manager.nextAddr, d'.info addr=d.info addr

namespace KeepsRegistered
variable {d' : ServiceDirectory}

lemma refl (d : ServiceDirectory) : KeepsRegistered d d:=⟨rfl,rfl,le_rfl,fun _ _=>rfl⟩

section
variable (h : KeepsRegistered d d')
include h

lemma listed (name : CString) : d'.listed name=d.listed name:=by
  rw [ServiceDirectory.listed,h.serviceList,ServiceDirectory.listed]

lemma indexed (name : CString) : d'.indexed name=d.indexed name:=by
  rw [ServiceDirectory.indexed,ServiceManager.getService,h.index]
  rfl

lemma records (name : CString) (addr : ℕ) : d'.Records name addr ↔ d.Records name addr:=by
  rw [Records,Records,h.listed,h.indexed]

lemma sound (hd : d.Sound) : d'.Sound where
  keys_nodup:=by
    rw [h.serviceList]
    exact hd.keys_nodup
  addrs_nodup:=by
    rw [h.serviceList]
    exact hd.addrs_nodup
  addr_lt name addr hrec:=(hd.addr_lt name addr ((h.records name addr).1 hrec)).trans_le h.nextAddr_le
  name_eq name other addr hname hother:=
    hd.name_eq name other addr ((h.records name addr).1 hname) ((h.records other addr).1 hother)
  addr_eq name addr other haddr hother:=
    hd.addr_eq name addr other ((h.records name addr).1 haddr) ((h.records name other).1 hother)

lemma listedTopic (hd : d.Sound) (name : CString) : d'.listedTopic name=d.listedTopic name:=by
  rw [ServiceDirectory.listedTopic,h.listed,ServiceDirectory.listedTopic]
  cases hlist : d.listed name with
  | none=>rfl
  | some addr=>
    rw [Option.map_some,Option.map_some,h.info addr (hd.addr_lt name addr (Or.inl hlist))]

end
end KeepsRegistered

lemma keepsRegistered_addBroadcast (d : ServiceDirectory) (name : ServiceName)
    (info : ServiceInfo) :
    KeepsRegistered d ⟨d.manager.addService .broadcast name false,Function.update d.info d.manager.nextAddr info⟩ where
  serviceList:=by simp [ServiceManager.addService]
  index:=by simp [ServiceManager.addService]
  nextAddr_le:=Nat.le_succ _
  info addr hlt:=Function.update_of_ne hlt.ne _ _

lemma keepsRegistered_makeService (d : ServiceDirectory) (cfg : ServiceConfig)
    (call : MakeServiceCall) (node : Node) : KeepsRegistered d (d.makeService cfg call node).2:=by
  unfold makeService
  cases node.nodeType with
  | client | subscriber | discovery=>exact .refl d
  | server | publisher=>
    dsimp only
    split
    · exact .refl d
    · split
      · exact keepsRegistered_addBroadcast d _ _
      · exact .refl d

section
variable (h : d.Sound)
include h

lemma Sound.listedTopic_handleParsed (intervalMs : UInt32) (call : HeartbeatCall) (p : ParsedService) (name : CString) :
    (d.handleParsed intervalMs call p).1.listedTopic name=
      if p.name.text=name ∧ d.StoresRecord call name then some (p.topic.truncate 63)
      else d.listedTopic name:=by
  cases hind : d.indexed p.name.text with
  | some target=>
    rw [handleParsed_of_indexed hind]
    change (d.listed name).map (fun addr=>(Function.update d.info target
      ((d.info target).refresh p intervalMs call.now) addr).topic)=_
    cases hname : d.listed name with
    | none=>
      have hnot : ¬(p.name.text=name ∧ d.StoresRecord call name):=by
        rintro ⟨rfl,hstores⟩
        simp [StoresRecord,hind,hname] at hstores
      rw [if_neg hnot,listedTopic,hname]
      rfl
    | some addr=>
      rw [Option.map_some]
      by_cases hsame : p.name.text=name
      · subst hsame
        obtain rfl:=h.addr_eq _ _ _ (Or.inl hname) (Or.inr hind)
        have hstores : d.StoresRecord call p.name.text:=Or.inl ⟨by simp [hind],by simp [hname]⟩
        rw [if_pos ⟨rfl,hstores⟩,Function.update_self]
        rfl
      · have haddr : addr≠target:=by
          rintro rfl
          exact hsame (h.name_eq _ _ _ (Or.inr hind) (Or.inl hname))
        rw [if_neg (not_and_of_not_left _ hsame),Function.update_of_ne haddr,listedTopic,hname]
        rfl
  | none=>
    rw [handleParsed_of_not_indexed hind]
    dsimp only
    split
    next hnew=>
      rw [listedTopic,listed_addRecord hnew.1]
      by_cases hsame : p.name.text=name
      · subst hsame
        rw [if_pos rfl]
        by_cases hroom : d.ListRoom
        · have hstores : d.StoresRecord call p.name.text:=Or.inr ⟨hind,hnew.1,hnew.2.1,hnew.2.2,hroom⟩
          rw [if_pos hroom,if_pos ⟨rfl,hstores⟩,Option.map_some,info_addRecord_self]
          rfl
        · have hnot : ¬d.StoresRecord call p.name.text:=by simp [StoresRecord,hind,hroom]
          rw [if_neg hroom,if_neg (not_and_of_not_right _ hnot),listedTopic,hnew.1]
          rfl
      · rw [if_neg (Ne.symm hsame),if_neg (not_and_of_not_left _ hsame),listedTopic]
        cases hname : d.listed name with
        | none=>rfl
        | some addr=>
          rw [Option.map_some,Option.map_some,h.info_addRecord (Or.inl hname)]
    next hold=>
      have hnot : ¬(p.name.text=name ∧ d.StoresRecord call name):=by
        rintro ⟨rfl,hstores | ⟨-,hlisted,hcreate,hservice,-⟩⟩
        · simp [hind] at hstores
        · exact hold ⟨hlisted,hcreate,hservice⟩
      rw [if_neg hnot]

lemma Sound.step (cfg : ServiceConfig) (event : EndpointEvent) : (d.step cfg event).Sound:=by
  cases event with
  | make call node=>exact (keepsRegistered_makeService d cfg call node).sound h
  | announce a=>
    rw [step_announce]
    split
    · exact h.handleParsed _ _ _
    · exact h

lemma Sound.listedTopic_step {event : EndpointEvent} (hstores : d.stores cfg event=some (name,topic)) :
    (d.step cfg event).listedTopic name=some topic:=by
  cases event with
  | make call node=>cases hstores
  | announce a=>
    rw [stores] at hstores
    rw [step_announce]
    cases hparsed : (d.announcement cfg a).bind (parsedHeartbeat a.parseAlloc) with
    | none=>
      rw [hparsed] at hstores
      cases hstores
    | some p=>
      rw [hparsed,Option.bind_some] at hstores
      split at hstores
      next hrecord=>
        cases hstores
        dsimp only
        rw [h.listedTopic_handleParsed,if_pos ⟨rfl,hrecord⟩]
      · cases hstores

lemma Sound.listedTopic_step_of_ne {event : EndpointEvent} (hstores : ∀ other, d.stores cfg event≠some (name,other)) :
    (d.step cfg event).listedTopic name=d.listedTopic name:=by
  cases event with
  | make call node=>exact (keepsRegistered_makeService d cfg call node).listedTopic h name
  | announce a=>
    rw [step_announce]
    cases hparsed : (d.announcement cfg a).bind (parsedHeartbeat a.parseAlloc) with
    | none=>rfl
    | some p=>
      dsimp only
      rw [h.listedTopic_handleParsed,if_neg]
      rintro ⟨rfl,hrecord⟩
      refine hstores (p.topic.truncate 63) ?_
      rw [stores,hparsed,Option.bind_some,if_pos hrecord]

lemma Sound.managerFindService_eq_some_iff (name topic : CString) (addr : ℕ) :
    d.managerFindService .registration name topic 0=some addr ↔ d.listed name=some addr ∧ (d.info addr).topic=topic:=by
  rw [managerFindService,Option.map_eq_some_iff]
  constructor
  · rintro ⟨s,hfind,rfl⟩
    have hmatch:=find?_some hfind
    simp only [decide_true,Bool.true_or,Bool.and_true,Bool.and_eq_true, decide_eq_true_eq] at hmatch
    rw [← hmatch.1]
    exact ⟨h.listed_of_mem (mem_of_find?_eq_some hfind),hmatch.2⟩
  · rintro ⟨hlisted,htopic⟩
    obtain ⟨s,hfind,rfl⟩:=Option.map_eq_some_iff.1 hlisted
    have hkey : s.key=name:=by simpa using find?_some hfind
    have hmem:=mem_of_find?_eq_some hfind
    -- the first match has the name, and so it is the record itself
    cases hother : (d.manager.serviceList .registration).find? (fun s=>
        decide (s.key=name) &&
          (decide ((0 : UInt32)=0) || decide ((d.info s.addr).transportType=0)) &&
          decide ((d.info s.addr).topic=topic)) with
    | none=>
      have hnone:=find?_eq_none.1 hother s hmem
      simp [hkey,htopic] at hnone
    | some other=>
      have hmatch:=find?_some hother
      simp only [decide_true,Bool.true_or,Bool.and_true,Bool.and_eq_true,decide_eq_true_eq] at hmatch
      obtain rfl:=inj_on_of_nodup_map h.keys_nodup (mem_of_find?_eq_some hother) hmem (hmatch.1.trans hkey.symm)
      exact ⟨other,rfl,rfl⟩

lemma Sound.usable_iff (cfg : ServiceConfig) (name topic : CString) :
    d.Usable cfg name topic ↔ d.listedTopic name=some topic:=by
  rw [listedTopic,Option.map_eq_some_iff]
  constructor
  · intro hus
    obtain ⟨addr,-,hlisted,htopic⟩:=hus ⟨0,0,false⟩ ⟨.empty,name,topic,.client,.udp⟩ (Or.inl rfl) rfl rfl
    exact ⟨addr,hlisted,htopic⟩
  · rintro ⟨addr,hlisted,htopic⟩ call node htype rfl rfl
    refine ⟨addr,?_,hlisted,htopic⟩
    have hfind:=(h.managerFindService_eq_some_iff node.target node.topic addr).2 ⟨hlisted,htopic⟩
    rw [makeService]
    rcases htype with htype | htype <;> rw [htype] <;> exact hfind

lemma Sound.listedTopic_run_iff (hnone : d.listed name=none) (events : List EndpointEvent) :
    (events.foldl (ServiceDirectory.step cfg) d).listedTopic name=some topic ↔ d.StoredLast cfg events name topic:=by
  have hflag:=@flag_foldl_iff _ _ (ServiceDirectory.step cfg)
    (fun d=>decide (d.listedTopic name=some topic))
    (fun d event=>d.stores cfg event=some (name,topic))
    (fun d event=>d.Replaces cfg name topic event) Sound
    (fun d event hd=>hd.step cfg event)
    (fun d event hd hstores=>decide_eq_true (hd.listedTopic_step hstores))
    (fun d event hd hreplaces=>by
      obtain ⟨other,hstores,hne⟩:=hreplaces
      refine decide_eq_false ?_
      rw [hd.listedTopic_step hstores]
      exact fun heq=>hne (Option.some.inj heq))
    (fun d event hd hnot hkeeps=>by
      rw [hd.listedTopic_step_of_ne]
      intro other hstores
      by_cases heq : other=topic
      · exact hnot (heq ▸ hstores)
      · exact hkeeps ⟨other,hstores,heq⟩)
    d h events
  rw [decide_eq_true_eq,decide_eq_true_eq] at hflag
  refine hflag.trans (or_iff_right fun hboth=>?_)
  rw [listedTopic,hnone] at hboth
  cases hboth.1

end

/-- Every service can be used exactly when its topic is stored and never replaced. -/
theorem endpointsUsable_iff (cfg : ServiceConfig) (discoveryAlloc : Bool) (info : ℕ→ServiceInfo)
    (events : List EndpointEvent) :
    (create discoveryAlloc info).EndpointsUsable cfg events ↔
      ∀ name topic, (create discoveryAlloc info).Announced cfg events name topic→
        (create discoveryAlloc info).StoredLast cfg events name topic:=by
  have hsound : ∀ d : ServiceDirectory, d.Sound→(events.foldl (step cfg) d).Sound:=by
    induction events with
    | nil=>exact fun d hd=>hd
    | cons event events ih=>exact fun d hd=>ih _ (hd.step cfg event)
  have hcreate:=sound_create discoveryAlloc info
  refine forall_congr' fun name=>forall_congr' fun topic=>imp_congr_right fun _=>?_
  rw [(hsound _ hcreate).usable_iff,hcreate.listedTopic_run_iff rfl]

def sampleServiceConfig : ServiceConfig:=⟨CString.ofMemory [99],CString.ofMemory [100],2,1000⟩

def nodeFor (nodeType : NodeType) (topic : CString) : Node:=
  ⟨CString.ofMemory [110],CString.ofMemory [97],topic,nodeType,.udp⟩

def announcementAt (position : ℕ) : Announcement where
  position:=position
  env:=⟨none,fun _=>true,⟨0,0,0,0,0,0,0,0,0,0,.replicate 32 0,.replicate 32 0⟩,0⟩
  textAlloc _:=true
  parseAlloc _:=true
  call:=⟨0,true,true,true⟩

def twoTopics : List EndpointEvent:=
  [.make ⟨0,1,true⟩ (nodeFor .publisher (CString.ofMemory [98])),
    .make ⟨0,2,true⟩ (nodeFor .publisher (CString.ofMemory [101])),
    .announce (announcementAt 0),.announce (announcementAt 1)]

/-- A subscriber for the first topic finds its service until the second topic is announced. -/
theorem second_topic_hides_first :
    let d:=create true fun _=>ServiceInfo.blank
    let found:=fun n=>
      (((twoTopics.take n).foldl (step sampleServiceConfig) d).makeService sampleServiceConfig
        ⟨0,0,true⟩ (nodeFor .subscriber (CString.ofMemory [98]))).1
    found 3=some 3 ∧ found 4=none ∧ ¬d.EndpointsUsable sampleServiceConfig twoTopics:=by
  intro d found
  have hhidden : found 4=none:=by decide +kernel
  refine ⟨by decide +kernel,hhidden,fun h=>?_⟩
  have hannounced : d.Announced sampleServiceConfig twoTopics (CString.ofMemory [97])
      (CString.ofMemory [98]):=
    ⟨twoTopics.take 2,announcementAt 0,twoTopics.drop 3,⟨1,.ofCString (CString.ofMemory [97])⟩,
      rfl,rfl,by decide +kernel,by decide +kernel⟩
  obtain ⟨addr,hmade,-⟩:=h _ _ hannounced ⟨0,0,true⟩ (nodeFor .subscriber (CString.ofMemory [98])) (Or.inr rfl) rfl rfl
  cases hhidden.symm.trans hmade

end ServiceDirectory

end SoftMessageBus
