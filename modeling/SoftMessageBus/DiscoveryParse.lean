import SoftMessageBus.TransportIndex
import SoftMessageBus.StringScan

/-!
# Announcements of services

An announcement is a heartbeat that is built without a payload. Its payload is copied and cut
into words by the receiver.
-/
namespace SoftMessageBus

/-- The arguments of `zoo_smb_protocol_make_discovery_payload_message_ex2`. -/
structure DiscoveryInfo where
  serviceName : CString
  address : CString
  port : UInt16
  topic : CString
  transportType : TransportType
  multicastAddr : Option CString
  multicastPort : UInt16
  hostFingerprint : Option CString
  transportCapabilities : UInt32
  shmEndpoint : Option CString

/-- The size of `payload_buffer`. -/
def discoveryBufferSize : ℕ:=512

/-- `snprintf` behind the text that a buffer holds, which must not be cut. -/
def appendText (buffer text : Bytes) : Option Bytes:=
  if text.length=0 ∨ discoveryBufferSize-buffer.length≤text.length then none
  else some (buffer++text)

/-- A part of the text that is left out when the string is `NULL` or empty. -/
def appendOptional (buffer label : Bytes) : Option CString→Option Bytes
  | none=>some buffer
  | some value=>
    if value.bytes.isEmpty then some buffer else appendText buffer (label++value.bytes)

def appendCapabilities (buffer : Bytes) (capabilities : UInt32) : Option Bytes:=
  if capabilities≠0 then appendText buffer ([32,99,97,112,61]++decimal capabilities.toNat)
  else some buffer

def discoveryText (info : DiscoveryInfo) : Option Bytes:=do
  let multicast:=match info.multicastAddr with
    | some addr=>if addr.bytes.isEmpty then [48] else addr.bytes
    | none=>[48]
  let text ← appendText [] (info.serviceName.bytes++32::info.topic.bytes++32::
    info.address.bytes++58::decimal info.port.toNat++32::
    decimal info.transportType.code.toNat++32::multicast++58::
    decimal info.multicastPort.toNat)
  let text ← appendOptional text [32,104,102,61] info.hostFingerprint
  let text ← appendCapabilities text info.transportCapabilities
  appendOptional text [32,115,104,109,61] info.shmEndpoint

def FitsBuffer (text : Bytes) : Prop:=0<text.length ∧ text.length<discoveryBufferSize

lemma fitsBuffer_appendText {buffer text out : Bytes} (h : appendText buffer text=some out) : FitsBuffer out:=by
  unfold appendText at h
  split at h
  · cases h
  · cases h
    rw [FitsBuffer,List.length_append]
    omega

lemma fitsBuffer_appendOptional {buffer label out : Bytes} (hbuffer : FitsBuffer buffer)
    {value : Option CString} (h : appendOptional buffer label value=some out) : FitsBuffer out:=by
  unfold appendOptional at h
  split at h
  · cases h
    exact hbuffer
  · split at h
    · cases h
      exact hbuffer
    · exact fitsBuffer_appendText h

lemma fitsBuffer_discoveryText {info : DiscoveryInfo} {text : Bytes}
    (h : discoveryText info=some text) : FitsBuffer text:=by
  simp only [discoveryText,Option.bind_eq_bind,Option.bind_eq_some_iff] at h
  obtain ⟨described,hdesc,located,hloc,capable,hcap,hshm⟩:=h
  have hfits:=fitsBuffer_appendOptional (fitsBuffer_appendText hdesc) hloc
  refine fitsBuffer_appendOptional ?_ hshm
  unfold appendCapabilities at hcap
  split at hcap
  · exact fitsBuffer_appendText hcap
  · cases hcap
    exact hfits

lemma payloadSize_le_text (text : Bytes) :
    ∀ bs∈some (text++[0]), (UInt32.ofNat text.length).toNat≤bs.length:=by
  have hle:=Nat.mod_le text.length (2^32)
  simp only [Option.mem_def,Option.some.injEq,forall_eq',List.length_append,UInt32.toNat_ofNat']
  omega

def makeDiscoveryPayloadMessageEx2 (alloc : ℕ→Bool) (msg : Message) (info : DiscoveryInfo) : Bool × Message:=
  match discoveryText info with
  | none=>(false,msg)
  | some text=>
    if alloc (text.length+1) then
      (true,
        { header:={msg.header with payloadSize:=UInt32.ofNat text.length}
          payload:=some (text++[0])
          payload_le:=payloadSize_le_text text})
    else (false,.withoutPayload msg.header)

/-- `ZOO_SMB_SERVICE_STRUCT`. -/
structure AnnouncedService where
  name : CString
  topic : CString
  address : CString
  port : UInt32
  multicastAddress : CString
  multicastPort : UInt32
  transportType : TransportType
  transportCapabilities : UInt32
  shmEndpoint : CString

def localTransportCapabilities : UInt32:=(1 : UInt32) <<< 0 ||| (1 : UInt32) <<< 1 ||| (1 : UInt32) <<< 2
def localhost : CString:=⟨[49,50,55,46,48,46,48,46,49],by decide⟩

/-- What `broadcast_single_service` tells of a service. -/
def AnnouncedService.info (service : AnnouncedService) (localAddress : Option CString) :
    DiscoveryInfo where
  serviceName:=service.name
  address:=service.address
  port:=service.port.toUInt16
  topic:=service.topic
  transportType:=service.transportType
  multicastAddr:=some service.multicastAddress
  multicastPort:=service.multicastPort.toUInt16
  hostFingerprint:=match localAddress with
    | some addr=>if addr.bytes.isEmpty then some localhost else some addr
    | none=>some localhost
  transportCapabilities:=
    if service.transportCapabilities≠0 then
      localTransportCapabilities ||| service.transportCapabilities
    else localTransportCapabilities
  shmEndpoint:=some (if service.shmEndpoint.bytes.isEmpty then service.name else service.shmEndpoint)

/-- `broadcast_single_service`. -/
def broadcastSingleService (env : MessageEnvironment) (textAlloc : ℕ→Bool)
    (localAddress : Option CString) (service : AnnouncedService) : Option Message:=
  (createMessage env .hb service.name service.topic [] 0 0).map fun message=>
    (makeDiscoveryPayloadMessageEx2 textAlloc message (service.info localAddress)).2

/-! ## Reading announcements of services -/

open StringScan List

/-- The outputs of `zoo_smb_protocol_parse_discovery_payload_message_ex2`. -/
structure DiscoveryOutput where
  serviceName : Bytes
  address : Bytes
  port : UInt16
  topic : Bytes
  transportType : UInt32
  multicastAddr : Option Bytes
  multicastPort : Option UInt16
  hostFingerprint : Option Bytes
  transportCapabilities : Option UInt32
  shmEndpoint : Option Bytes
  deriving DecidableEq

def isMetadataByte (b : UInt8) : Bool:=(48≤b && b≤57) || (65≤b && b≤90) || (97≤b && b≤122) || b=46 || b=95 || b=45 || b=58
def isDiscoveryMetadataValueSafe (value : Bytes) : Bool:=!value.isEmpty && value.all isMetadataByte

def copyPayload (payload : Bytes) (payloadSize : UInt32) : Option Bytes:=do
  let copy:=replicate (payloadSize+1).toNat 0
  if payload.length<payloadSize.toNat then none
  else
    let copy ← store copy 0 (payload.take payloadSize.toNat)
    store copy payloadSize.toNat [0]

def clearOutputs (out : DiscoveryOutput) : Option DiscoveryOutput:=do
  let multicastAddr ← out.multicastAddr.mapM (store · 0 [0])
  let hostFingerprint ← out.hostFingerprint.mapM (store · 0 [0])
  let shmEndpoint ← out.shmEndpoint.mapM (store · 0 [0])
  some {out with
    multicastAddr:=multicastAddr
    multicastPort:=out.multicastPort.map fun _=>0
    hostFingerprint:=hostFingerprint
    transportCapabilities:=out.transportCapabilities.map fun _=>0
    shmEndpoint:=shmEndpoint}

/-- `sscanf` with "%31[^:]:%hu": whether both conversions are made, and their outputs. -/
def scanEndpoint (token address : Bytes) (port : UInt16) : Option (Bool × Bytes × UInt16):=
  let host:=(token.takeWhile fun b=>decide (b≠58)).take 31
  if host.isEmpty then some (false,address,port)
  else do
    let address ← store address 0 (host++[0])
    match token.drop host.length with
    | []=>some (false,address,port)
    | b::rest=>
      if b≠58 then some (false,address,port)
      else match scanUnsignedShort rest with
        | none=>some (false,address,port)
        | some port=>some (true,address,port)

/-- The words "hf=", "cap=" and "shm=" that introduce metadata. -/
def hfLabel : Bytes:=[104,102,61]

@[inherit_doc hfLabel] def capLabel : Bytes:=[99,97,112,61]

@[inherit_doc hfLabel] def shmLabel : Bytes:=[115,104,109,61]

def storeMetadata (value : Bytes) (block : Bytes) : Option (Bool × Bytes):=
  if isDiscoveryMetadataValueSafe value then
    (copyTerminated block value 63).map fun block=>(true,block)
  else some (false,block)

/-- One round of the loop over the tokens of metadata; the result is `false` when the message is
refused. -/
def parseMetadataToken (token : Bytes) (out : DiscoveryOutput) : Option (Bool × DiscoveryOutput):=
  if token.take 3=hfLabel ∧ out.hostFingerprint.isSome then do
    let (safe,block) ← storeMetadata (token.drop 3) (← out.hostFingerprint)
    some (safe,{out with hostFingerprint:=some block})
  else if token.take 4=capLabel ∧ out.transportCapabilities.isSome then
    some (true,{out with transportCapabilities:=some (strtoul (token.drop 4)).toUInt32})
  else if token.take 4=shmLabel ∧ out.shmEndpoint.isSome then do
    let (safe,block) ← storeMetadata (token.drop 4) (← out.shmEndpoint)
    some (safe,{out with shmEndpoint:=some block})
  else some (true,out)

def parseMetadata : List Bytes→DiscoveryOutput→Option (Bool × DiscoveryOutput)
  | [], out=>some (true,out)
  | token::tokens, out=>do
    let (safe,out) ← parseMetadataToken token out
    if safe then parseMetadata tokens out else some (false,out)

def parseTransport (fourth fifth : Bytes) (metadata : List Bytes)
    (out : DiscoveryOutput) : Option (Bool × DiscoveryOutput):=
  let swapped:=58∈fourth ∧ 58∉fifth
  let transportToken:=if swapped then fifth else fourth
  let multicastToken:=if swapped then fourth else fifth
  let out:={out with transportType:=atoi transportToken}
  match out.multicastAddr, out.multicastPort with
  | some addr, some port=>do
    let (scanned,addr,port) ← scanEndpoint multicastToken addr port
    let out:={out with multicastAddr:=some addr, multicastPort:=some port}
    if scanned then parseMetadata metadata out else some (false,out)
  | _, _=>parseMetadata metadata out

def parseTokens : List Bytes→DiscoveryOutput→Option (Bool × DiscoveryOutput)
  | name::topic::endpoint::fourth::fifth::metadata, out=>do
    let serviceName ← copyTerminated out.serviceName name 31
    let topic ← copyTerminated out.topic topic 31
    let (scanned,address,port) ← scanEndpoint endpoint out.address out.port
    let out:={out with
      serviceName:=serviceName, topic:=topic, address:=address, port:=port}
    if scanned then parseTransport fourth fifth metadata out else some (false,out)
  | _, out=>some (false,out)

def maxTokens : ℕ:=16

/-- `zoo_smb_protocol_parse_discovery_payload_message_ex2`. -/
def parseDiscoveryPayloadMessageEx2 (alloc : ℕ→Bool) (msg : Message) (out : DiscoveryOutput) :
    Option (Bool × DiscoveryOutput):=
  match msg.payload with
  | none=>some (false,out)
  | some payload=>
    if alloc (msg.header.payloadSize+1).toNat then do
      let copy ← copyPayload payload msg.header.payloadSize
      let out ← clearOutputs out
      let (pointers,copy) ← strtokLoop 32 maxTokens copy 0
      let tokens ← pointers.mapM (readString copy)
      parseTokens tokens out
    else some (false,out)

/-- The size of the strings in a `DISCOVERY_PARSED_SERVICE_STRUCT`. -/
def parsedFieldSize : ℕ:=64

/-- A `DISCOVERY_PARSED_SERVICE_STRUCT` after `memset`, with the default transport type. -/
def DiscoveryOutput.cleared : DiscoveryOutput where
  serviceName:=replicate parsedFieldSize 0
  address:=replicate parsedFieldSize 0
  port:=0
  topic:=replicate parsedFieldSize 0
  transportType:=TransportType.udp.code.toUInt32
  multicastAddr:=some (replicate parsedFieldSize 0)
  multicastPort:=some 0
  hostFingerprint:=some (replicate parsedFieldSize 0)
  transportCapabilities:=some 0
  shmEndpoint:=some (replicate parsedFieldSize 0)

/-- `parse_payload_message` of the discovery service. -/
def parsePayloadMessage (alloc : ℕ→Bool) (msg : Message) : Option (Bool × DiscoveryOutput):=
  parseDiscoveryPayloadMessageEx2 alloc msg .cleared

def Message.announcedBytes (msg : Message) : Option Bytes:=msg.payload.map (·.take msg.header.payloadSize.toNat)

lemma copyPayload_eq {payload : Bytes} {payloadSize : UInt32}
    (hle : payloadSize.toNat≤payload.length) (hsize : payloadSize.toNat<2^32-1) :
    copyPayload payload payloadSize=some (payload.take payloadSize.toNat++[0]):=by
  have hlen : (payload.take payloadSize.toNat).length=payloadSize.toNat:=by
    rw [length_take]
    omega
  have hnext : (payloadSize+1).toNat=payloadSize.toNat+1:=by
    rw [UInt32.toNat_add,UInt32.toNat_one,Nat.mod_eq_of_lt (by omega)]
  have hfirst : 0+(payload.take payloadSize.toNat).length≤
      (replicate (payloadSize.toNat+1) (0 : UInt8)).length:=by
    rw [hlen,length_replicate]
    omega
  have hsec : payloadSize.toNat+[(0 : UInt8)].length≤
      (MemoryBlocks.overwrite (replicate (payloadSize.toNat+1) 0) 0 (payload.take payloadSize.toNat)).length:=by
    rw [MemoryBlocks.length_overwrite hfirst,length_replicate,length_singleton]
  rw [copyPayload,hnext,if_neg (Nat.not_lt.2 hle),store_of_le hfirst,Option.bind_eq_bind,
    Option.bind_some,store_of_le hsec,MemoryBlocks.overwrite,MemoryBlocks.overwrite,
    take_zero,nil_append,take_left' hlen,hlen]
  simp [drop_eq_nil_of_le,hlen]

lemma parseDiscoveryPayloadMessageEx2_eq {alloc : ℕ→Bool} {msg : Message}
    {payload : Bytes} (out : DiscoveryOutput) (hpayload : msg.payload=some payload)
    (hsize : msg.header.payloadSize.toNat<2^32-1) (halloc : alloc (msg.header.payloadSize+1).toNat=true) :
    parseDiscoveryPayloadMessageEx2 alloc msg out=
      (clearOutputs out).bind (parseTokens ((tokens 32
        (CString.ofMemory (payload.take msg.header.payloadSize.toNat)).bytes).take maxTokens)):=by
  have hcopy:=copyPayload_eq (msg.payload_le payload hpayload) hsize
  obtain ⟨rest,hrest⟩:=exists_terminated (payload.take msg.header.payloadSize.toNat)
  obtain ⟨pointers,tail,hloop,hstrings⟩:=@strtokLoop_spec [] rest _ 32 (by decide)
    (CString.ofMemory (payload.take msg.header.payloadSize.toNat)).nul_notMem maxTokens
  rw [hrest] at hcopy
  simp only [nil_append,length_nil] at hloop hstrings
  rw [parseDiscoveryPayloadMessageEx2,hpayload]
  simp only [if_pos halloc,hcopy,Option.bind_eq_bind,Option.bind_some,hloop,hstrings]

end SoftMessageBus
