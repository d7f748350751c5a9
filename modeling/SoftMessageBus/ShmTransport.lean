import SoftMessageBus.CString
import SoftMessageBus.RingBufferOverwrite
import SoftMessageBus.TcpReceive

/-!
# A client and the server of the shared-memory transport

A client creates a segment and files a request with the server.
-/
namespace SoftMessageBus
open ByteEncoding

def shmMaxClients : ℕ:=1024
def shmRingBufferSize : ℕ:=2*1024*1024

/-- `ZOO_SMB_SHM_CLIENT_SIZE`. -/
def shmClientSize : ℕ:=shmRingBufferSize*2+4096
def shmMaxPendingRegistrations : ℕ:=16
def maxTransportNameLength : ℕ:=32

/-- `MAX_MESSAGES_PER_CYCLE` of the server. -/
def maxMessagesPerCycle : ℕ:=10
def shmClientHeaderSize : ℕ:=96
def ringControlSize : ℕ:=192
def shmRingDataSize (segmentSize : ℕ) : ℕ:=(segmentSize-shmClientHeaderSize)/2-ringControlSize

/-- `ZOO_SMB_REGISTRATION_STATUS_ENUM`. -/
inductive RegistrationStatus where
  | empty
  | pending
  | success
  | failed
  deriving DecidableEq

/-- `ZOO_SMB_SHM_CLIENT_REGISTRATION`, a slot of the registration area. -/
structure Registration where
  status : RegistrationStatus
  clientName : CString
  clientPid : Int32
  clientShmKey : UInt32
  deriving DecidableEq

def Registration.cleared : Registration:=⟨.empty,.empty,0,0⟩

structure ShmServerClient where
  name : CString
  pid : Int32
  deriving DecidableEq

def shmGenerateKey (name : CString) (segmentId : Int32) : UInt32:=
  let hash : UInt32:=name.bytes.foldl
    (fun (hash : UInt32) c=>(hash <<< (5 : UInt32))+hash+c.toInt8.toInt32.toUInt32) 0
  0x12345000+(hash &&& (0xFFFF : UInt32))+(segmentId.toUInt32 <<< (16 : UInt32))

/-- The answer to `kill(pid, 0)`. -/
inductive ProcessCheck where
  | found
  | notPermitted
  | notFound
  | failed
  deriving DecidableEq

structure ValidationCalls where
  process : ProcessCheck
  segmentFound : Bool
  deriving DecidableEq

def validNameChar (c : UInt8) : Bool:=(97≤c && c≤122) || (65≤c && c≤90) || (48≤c && c≤57) || c == 95 || c == 45

/-- The system calls of `shm_client_start`, in the order in which they are made. -/
structure StartCalls where
  serverAttached : Bool
  infoAllocated : Bool
  eventFdCreated : Bool
  segmentCreated : Bool
  segmentAttached : Bool
  txHandleAllocated : Bool
  rxHandleAllocated : Bool
  validation : ValidationCalls
  lockAcquired : Bool
  deriving DecidableEq

structure AcceptCalls where
  validation : ValidationCalls
  segmentFound : Bool
  segmentAttached : Bool
  sizeKnown : Bool
  infoAllocated : Bool
  txHandleAllocated : Bool
  rxHandleAllocated : Bool
  listPushed : ErrorType
  deriving DecidableEq

structure ProcessCalls where
  bufferAllocated : Bool
  alloc : ℕ→Bool
  observerCount : ℕ
  snapshotAllocated : Bool

structure ShmLink where
  name : CString
  pid : Int32
  isStarted : Bool
  rxRing : Option RingBuffer
  serverRunning : Bool
  clientCount : ℕ
  maxClients : ℕ
  slots : List Registration
  clients : List ShmServerClient
  sent : List Bytes
  received : List Bytes
  observed : List Message

/-- Steps of the client and of the server loop. -/
inductive ShmEvent where
  | start (calls : StartCalls)
  | send (msg : Option Message) (bufferAllocated : Bool) (now : UInt64)
  | cleanup
  | accept (calls : ℕ→AcceptCalls)
  | process (calls : ℕ→ProcessCalls)

def ShmEvent.ByServer : ShmEvent→Prop
  | .cleanup | .accept _ | .process _=>True
  | .start _ | .send .. => False

def ShmEvent.TakesMessage : ShmEvent→Prop
  | .process calls=>(calls 0).bufferAllocated=true
  | .start _ | .send .. | .cleanup | .accept _=>False

def fillSlot (request : Registration) : List Registration→Option (List Registration)
  | []=>none
  | slot::slots=>
    if slot.status = .empty then some (request::slots)
    else (fillSlot request slots).map (slot :: ·)

def shmSerialized (e : Endian) (msg : Message) : Option Bytes:=
  match serialize e (some msg) (some (List.replicate maxTransportBufferSize 0)) with
  | (0,_)=>none
  | (msgSize,buffer)=>buffer.map (List.take msgSize)

structure ShmProcessed where
  code : ErrorType
  payloads : List Bytes
  messages : List Message
  ring : RingBuffer

def shmProcessSingleMessage (e : Endian) (ring : RingBuffer) (calls : ProcessCalls) : ShmProcessed:=
  let msgSize:=ring.getNextMessageSize e
  if msgSize=0 then ⟨.ok,[],[],ring⟩
  else if maxTransportBufferSize < msgSize then ⟨.invalidSize,[],[],ring.clear⟩
  else if !calls.bufferAllocated then ⟨.allocationFailed,[],[],ring⟩
  else
    let result:=ring.read e true msgSize
    if result.code = .ok then
      match defaultMessage calls.alloc with
      | none=>⟨.allocationFailed,[result.bytes],[],result.ring⟩
      | some msgOut=>
        match deserialize e calls.alloc (some result.bytes) (some msgOut) messageStructSize with
        | .error error=>⟨error,[result.bytes],[],result.ring⟩
        | .ok msg=>
          if 0<calls.observerCount ∧ !calls.snapshotAllocated then
            ⟨.outOfMemory,[result.bytes],[],result.ring⟩
          else ⟨.ok,[result.bytes],List.replicate calls.observerCount msg,result.ring⟩
    else ⟨result.code,[],[],result.ring⟩

/-- The loop of `shm_server_process_client_messages`. -/
def shmProcessLoop (e : Endian) : ℕ→(ℕ→ProcessCalls)→RingBuffer→ShmProcessed
  | 0, _, ring=>⟨.ok,[],[],ring⟩
  | count+1, calls, ring=>
    if ring.isEmpty then ⟨.ok,[],[],ring⟩
    else
      let head:=shmProcessSingleMessage e ring (calls 0)
      if head.code = .ok then
        let rest:=shmProcessLoop e count (fun i=>calls (i+1)) head.ring
        ⟨.ok,head.payloads++rest.payloads,head.messages++rest.messages,rest.ring⟩
      else ⟨.ok,head.payloads,head.messages,head.ring⟩

def shmServerProcessClientMessages (e : Endian) (ring : RingBuffer) (calls : ℕ→ProcessCalls) : ShmProcessed:=
  if !ring.isValid then ⟨.ringbufCorrupted,[],[],ring⟩
  else if ring.isEmpty then ⟨.ok,[],[],ring⟩
  else shmProcessLoop e maxMessagesPerCycle calls ring

namespace ShmLink

/-- A client that has not been started and a server that has just been. -/
def initial (name : CString) (pid : Int32) : ShmLink where
  name:=name.truncate (maxTransportNameLength-1)
  pid:=pid
  isStarted:=false
  rxRing:=none
  serverRunning:=true
  clientCount:=0
  maxClients:=shmMaxClients
  slots:=List.replicate shmMaxPendingRegistrations .cleared
  clients:=[]
  sent:=[]
  received:=[]
  observed:=[]

def Registered (w : ShmLink) : Prop:=⟨w.name,w.pid⟩∈w.clients
  deriving Decidable

def shmValidateClientRegistration (w : ShmLink) (clientName : CString) (clientPid : Int32)
    (clientShmKey : UInt32) (calls : ValidationCalls) : ErrorType:=
  if !w.serverRunning then .serviceUnavailable
  else if w.maxClients≤w.clientCount then .shmBufferFull
  else if clientName.bytes.length=0 ∨ maxTransportNameLength≤clientName.bytes.length then
    .invalidName
  else if !clientName.bytes.all validNameChar then .invalidName
  else if clientPid≤0 then .invalidParam
  else if calls.process = .notFound then .processNotFound
  else if calls.process = .failed then .processCheckFailed
  else if clientShmKey=0 ∨ clientShmKey=0xFFFFFFFF then .invalidParam
  else if !calls.segmentFound then .shmNotFound
  else .ok

/-- `shm_request_client_registration`; `none` stands for the client id -1. -/
def shmRequestClientRegistration (w : ShmLink) (validation : ValidationCalls) (lockAcquired : Bool) : Option ShmLink:=
  let key:=shmGenerateKey w.name w.pid
  if w.shmValidateClientRegistration w.name w.pid key validation ≠ .ok then none
  else if !lockAcquired then none
  else (fillSlot ⟨.pending,w.name,w.pid,key⟩ w.slots).map fun slots=>
    {w with slots, clientCount:=w.clientCount+1}

def clientRegisterWithServer (w : ShmLink) (calls : StartCalls) : ErrorType × ShmLink:=
  let released:={w with rxRing:=none}
  if !calls.infoAllocated then (.outOfMemory,released)
  else if !calls.eventFdCreated then (.eventfdCreationFailed,released)
  else if !calls.segmentCreated then (.shmCreateFailed,released)
  else if !calls.segmentAttached then (.shmAttachFailed,released)
  else if !calls.txHandleAllocated || !calls.rxHandleAllocated then
    (.ringbufCreateFailed,released)
  else match RingBuffer.createInMemory (List.replicate (shmRingDataSize shmClientSize) 0) true with
    | none=>(.ringbufCreateFailed,released)
    | some ring=>
      match w.shmRequestClientRegistration calls.validation calls.lockAcquired with
      | none=>(.shmBufferFull,released)
      | some w=>(.ok,{w with rxRing:=some ring})

/-- `shm_client_start`, up to the event loop of the client. -/
def shmClientStart (w : ShmLink) (calls : StartCalls) : ErrorType × ShmLink:=
  if w.isStarted then (.alreadyStarted,w)
  else if !(calls.serverAttached && w.serverRunning) then (.shmNotFound,w)
  else match w.clientRegisterWithServer calls with
    | (.ok,w)=>(.ok,{w with isStarted:=true})
    | (error,w)=>(error,w)

/-- `shm_client_send`. -/
def shmClientSend (e : Endian) (w : ShmLink) (msg : Option Message) (bufferAllocated : Bool)
    (now : UInt64) : ErrorType × ShmLink:=
  match msg with
  | none=>(.invalidParam,w)
  | some msg=>
    if !w.isStarted then (.notStarted,w)
    else match w.rxRing with
      | none=>(.serviceUnavailable,w)
      | some rxRing=>
        if !bufferAllocated then (.allocationFailed,w)
        else match shmSerialized e msg with
          | none=>(.sendFailed,w)
          | some payload=>
            match rxRing.write e (some payload) now with
            | (.ok,rxRing)=>
              (.ok,{w with rxRing:=some rxRing, sent:=w.sent++[payload]})
            | (error,rxRing)=>(error,{w with rxRing:=some rxRing})

/-- `shm_server_cleanup_disconnected_clients` while every client is alive. -/
def shmServerCleanupDisconnectedClients (w : ShmLink) : ShmLink:={w with clientCount:=w.clients.length}

/-- The end of `shm_validate_and_register_client`, once the segment is attached. -/
def registerSegment (w : ShmLink) (request : Registration) (rxRing : RingBuffer)
    (calls : AcceptCalls) : ErrorType × Registration × ShmLink:=
  let failed:={request with status:=.failed}
  if !calls.infoAllocated then (.allocationFailed,failed,w)
  else if !calls.txHandleAllocated || !calls.rxHandleAllocated then
    (.ringbufInitFailed,failed,w)
  else match RingBuffer.createInMemory rxRing.data true with
    | none=>(.ringbufInitFailed,failed,w)
    | some rxRing=>
      if calls.listPushed ≠ .ok then
        (calls.listPushed,failed,{w with rxRing:=some rxRing.destroy})
      else (.ok, .cleared, {w with
        rxRing:=some rxRing
        clients:=w.clients++[⟨request.clientName,request.clientPid⟩]
        clientCount:=w.clients.length+1})

/-- `shm_validate_and_register_client`. -/
def shmValidateAndRegisterClient (w : ShmLink) (request : Registration) (calls : AcceptCalls) :
    ErrorType × Registration × ShmLink:=
  let failed:={request with status:=.failed}
  if ⟨request.clientName,request.clientPid⟩∈w.clients then
    (.ok,{request with status:=.success},w)
  else match w.shmValidateClientRegistration request.clientName request.clientPid
      request.clientShmKey calls.validation with
    | .ok=>
      if !calls.segmentFound then (.shmNotFound,failed,w)
      else if !calls.segmentAttached then (.shmAttachFailed,failed,w)
      else if !calls.sizeKnown then (.shmDataCorrupted,failed,w)
      else match w.rxRing with
        | none=>(.shmNotFound,failed,w)
        | some rxRing=>w.registerSegment request rxRing calls
    | error=>(error,failed,w)

/-- The loop of `shm_server_accept_new_clients` over the registration area. -/
def acceptSlots : ShmLink→(ℕ→AcceptCalls)→List Registration→List Registration × ShmLink
  | w, _, []=>([],w)
  | w, calls, slot::slots=>
    let head:=if slot.status = .pending then (w.shmValidateAndRegisterClient slot (calls 0)).2
      else (slot,w)
    let rest:=acceptSlots head.2 (fun i=>calls (i+1)) slots
    (head.1::rest.1,rest.2)

def shmServerAcceptNewClients (w : ShmLink) (calls : ℕ→AcceptCalls) : ShmLink:=
  if w.maxClients≤w.clientCount then w
  else
    let result:=w.acceptSlots calls w.slots
    {result.2 with slots:=result.1}

def processClients (e : Endian) (w : ShmLink) (calls : ℕ→ProcessCalls) : ShmLink:=
  match w.rxRing with
  | none=>w
  | some rxRing=>
    if w.Registered then
      let result:=shmServerProcessClientMessages e rxRing calls
      {w with
        rxRing:=some result.ring
        received:=w.received++result.payloads
        observed:=w.observed++result.messages}
    else w

def step (e : Endian) (w : ShmLink) : ShmEvent→ShmLink
  | .start calls=>(w.shmClientStart calls).2
  | .send msg bufferAllocated now=>(w.shmClientSend e msg bufferAllocated now).2
  | .cleanup=>w.shmServerCleanupDisconnectedClients
  | .accept calls=>w.shmServerAcceptNewClients calls
  | .process calls=>w.processClients e calls

end ShmLink

/-! ## The keys of shared-memory segments -/

open Function List

inductive SegmentOwner where
  | server
  | client (pid : Int32)
  deriving DecidableEq

/-- The segments of the host, by key. -/
abbrev Segments:=UInt32→Option SegmentOwner

/-- `shm_create_client_segment`: a segment that has the key already is removed. -/
def shmCreateClientSegment (segments : Segments) (key : UInt32) (owner : SegmentOwner) : Segments:=
  match segments key with
  | none=>update segments key (some owner)
  | some _=>update (update segments key none) key (some owner)

def createSegments (name : CString) (segments : Segments) (pids : List Int32) : Segments:=
  pids.foldl (fun segments pid=>shmCreateClientSegment segments (shmGenerateKey name pid) (.client pid)) segments

/-- The segments of a service and of its clients. -/
def serviceSegments (name : CString) (pids : List Int32) : Segments:=
  createSegments name (update (fun _=>none) (shmGenerateKey name 0) (some .server)) pids

structure SegmentsPrivate (name : CString) (pids : List Int32) : Prop where
  distinct : (pids.map (shmGenerateKey name)).Nodup
  master : shmGenerateKey name 0∉pids.map (shmGenerateKey name)
  server : serviceSegments name pids (shmGenerateKey name 0)=some .server
  clients : ∀ pid∈pids, serviceSegments name pids (shmGenerateKey name pid)=some (.client pid)

/-- The bits of a process id that its key depends on. -/
def keyBits (pid : Int32) : ℕ:=pid.toUInt32.toNat % 2^16

lemma shmGenerateKey_eq_iff (name : CString) (pid pid' : Int32) :
    shmGenerateKey name pid=shmGenerateKey name pid' ↔ keyBits pid=keyBits pid':=by
  rw [shmGenerateKey,shmGenerateKey,UInt32.add_right_inj,← UInt32.toNat_inj,UInt32.toNat_shiftLeft,
    UInt32.toNat_shiftLeft,keyBits,keyBits,Nat.shiftLeft_eq,Nat.shiftLeft_eq]
  have h16 : (16 : UInt32).toNat % 32=16:=rfl
  rw [h16]
  omega

section
variable {name : CString} {segments : Segments}

lemma shmCreateClientSegment_eq (segments : Segments) (key : UInt32) (owner : SegmentOwner) :
    shmCreateClientSegment segments key owner=update segments key (some owner):=by
  rw [shmCreateClientSegment]
  split
  · rfl
  · rw [update_idem]

lemma createSegments_cons (pid : Int32) (pids : List Int32) :
    createSegments name segments (pid::pids)=createSegments name
      (update segments (shmGenerateKey name pid) (some (.client pid))) pids:=by
  rw [← shmCreateClientSegment_eq]
  rfl

lemma createSegments_of_notMem {pids : List Int32} {key : UInt32} (h : key∉pids.map (shmGenerateKey name)) :
    createSegments name segments pids key=segments key:=by
  induction pids generalizing segments with
  | nil=>rfl
  | cons pid pids ih=>
    rw [map_cons,mem_cons,not_or] at h
    rw [createSegments_cons,ih h.2,update_of_ne h.1]

lemma createSegments_of_mem {pids : List Int32} (h : (pids.map (shmGenerateKey name)).Nodup)
    {pid : Int32} (hmem : pid∈pids) :
    createSegments name segments pids (shmGenerateKey name pid)=some (.client pid):=by
  induction pids generalizing segments with
  | nil=>cases hmem
  | cons first pids ih=>
    rw [map_cons,nodup_cons] at h
    rw [createSegments_cons]
    rcases mem_cons.1 hmem with rfl | hmem
    · rw [createSegments_of_notMem h.1,update_self]
    · exact ih h.2 hmem

end

/-- The segments are private exactly if the process ids differ in their lower 16 bits, from each
other and from 0. -/
theorem segmentsPrivate_iff (name : CString) (pids : List Int32) :
    SegmentsPrivate name pids ↔ (pids.map keyBits).Nodup ∧ 0∉pids.map keyBits:=by
  have hnodup : (pids.map (shmGenerateKey name)).Nodup ↔ (pids.map keyBits).Nodup:=by
    simp only [Nodup,pairwise_map,ne_eq,shmGenerateKey_eq_iff]
  have hmaster : shmGenerateKey name 0∈pids.map (shmGenerateKey name) ↔ 0∈pids.map keyBits:=by
    simp only [List.mem_map,shmGenerateKey_eq_iff]
    rfl
  rw [← hnodup,← hmaster]
  constructor
  · exact fun h=>⟨h.distinct,h.master⟩
  · rintro ⟨hdistinct,hserver⟩
    refine ⟨hdistinct,hserver,?_,fun pid hpid=>createSegments_of_mem hdistinct hpid⟩
    exact (createSegments_of_notMem hserver).trans (update_self ..)

theorem segments_not_private : ((1 : Int32)<65537 ∧ 0<(1 : Int32)) ∧ ¬SegmentsPrivate ⟨[],by simp⟩ [1,65537]:=
  ⟨by decide,fun h=>absurd h.distinct (by decide)⟩

end SoftMessageBus
