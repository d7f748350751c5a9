import SoftMessageBus.CString
import SoftMessageBus.Crc32
import SoftMessageBus.MessageHeader

/-!
# Nodes and their messages

A message is built in a block of the memory pool, whatever the block holds.
-/
namespace SoftMessageBus

def defaultMaxTransportBufferSize : ℕ:=40*1024

/-- `smb_effective_max_payload_size`. -/
def smbEffectiveMaxPayloadSize (config : Option ℕ) : ℕ:=
  let transportBudget:=match config with
    | some size=>if 0<size then size else defaultMaxTransportBufferSize
    | none=>defaultMaxTransportBufferSize
  if transportBudget≤headerSize then 0 else transportBudget-headerSize

/-- `init_message_header` on the header that a block of the pool holds. -/
def initMessageHeader (header : MessageHeader) (msgType : MsgType) (sender topic : CString)
    (payloadSize : ℕ) (msgId : UInt32) (requestId now : UInt64) : MessageHeader:=
  {header with
    sender:=CString.copyTo header.sender sender
    topic:=CString.copyTo header.topic topic
    magic:=msgMagicNumber
    version:=msgVersion
    msgType:=msgType.code
    flags:=0
    crc32:=0
    payloadSize:=UInt32.ofNat payloadSize
    msgId:=msgId
    timestamp:=now
    requestId:=requestId}

def calcMessageCrc32 (payload : Bytes) : UInt32:=if payload=[] then ~~~ 0 else ~~~ 0 ^^^ calcCrc32 payload

/-- What a call of `zoo_smb_create_message` finds in its surroundings. -/
structure MessageEnvironment where
  config : Option ℕ
  alloc : ℕ→Bool
  block : MessageHeader
  now : UInt64

def createMessage (env : MessageEnvironment) (msgType : MsgType) (sender topic : CString)
    (payload : Bytes) (msgId : UInt32) (requestId : UInt64) : Option Message:=
  if smbEffectiveMaxPayloadSize env.config<payload.length then none
  else if env.alloc messageStructSize && (payload.isEmpty || env.alloc payload.length) then
    some
      { header:=
          {initMessageHeader env.block msgType sender topic payload.length msgId requestId env.now
            with crc32:=calcMessageCrc32 payload}
        payload:=if payload=[] then none else some payload
        payload_le:=by
          intro bs hbs
          have hbs' : payload=bs:=by by_cases hnil : payload=[] <;> simp_all
          have hle:=Nat.mod_le payload.length (2^32)
          simpa [initMessageHeader,hbs'] using hle}
  else none

def Message.sender (m : Message) : CString:=CString.ofArray m.header.sender

/-- What a message has that `zoo_smb_create_message` returns. -/
structure Created (env : MessageEnvironment) (msgType : MsgType) (sender : CString)
    (payload : Bytes) (msgId : UInt32) (requestId : UInt64) (m : Message) : Prop where
  fits : payload.length ≤ smbEffectiveMaxPayloadSize env.config
  sender : m.sender=sender.truncate 31
  requestId : m.header.requestId=requestId
  msgType : m.header.msgType=msgType.code
  msgId : m.header.msgId=msgId
  magic : m.header.magic=msgMagicNumber
  version : m.header.version=msgVersion
  payloadSize : m.header.payloadSize=UInt32.ofNat payload.length
  payload : m.payload=if payload=[] then none else some payload

lemma created_of_createMessage {env : MessageEnvironment} {msgType : MsgType}
    {sender topic : CString} {payload : Bytes} {msgId : UInt32} {requestId : UInt64}
    {m : Message} (h : createMessage env msgType sender topic payload msgId requestId=some m) :
    Created env msgType sender payload msgId requestId m:=by
  unfold createMessage at h
  split at h
  · cases h
  next hlimit=>
    split at h
    · cases h
      exact ⟨Nat.le_of_not_lt hlimit,CString.ofArray_copyTo env.block.sender sender,rfl,rfl,rfl,rfl,rfl,rfl,rfl⟩
    · cases h

/-! ## Nodes of the bus -/

/-- `ZOO_SMB_NODE_TYPE_ENUM`. -/
inductive NodeType where
  | client | server | publisher | subscriber | discovery
  deriving DecidableEq

/-- `ZOO_SMB_TRANSPORT_TYPE_ENUM`. -/
inductive TransportType where
  | udp | udpBroadcast | tcp | shm
  deriving DecidableEq

/-- The identity of a `ZOO_SMB_NODE_STRUCT`. -/
structure Node where
  name : CString
  target : CString
  topic : CString
  nodeType : NodeType
  transportType : TransportType
  deriving DecidableEq

/-- `zoo_smb_create_node`. -/
def createNode (name target topic : CString) (nodeType : NodeType) (transportType : TransportType) : Node:=
  ⟨name.truncate 63,target.truncate 63,topic.truncate 63,nodeType,transportType⟩

/-- `SMB_MULTICAST`. -/
def smbMulticast : CString:=⟨[83,77,66,64,77,85,76,84,73,67,65,83,84],by decide⟩

/-- `SMB_BROADCAST`. -/
def smbBroadcast : CString:=⟨[83,77,66,64,66,82,79,65,68,67,65,83,84],by decide⟩

/-- A message handed to `zoo_smb_send_message`. -/
structure Send where
  message : Message
  receiver : CString
  deleteAfterSend : Bool
  deriving DecidableEq

def nameIndexHash (name : CString) : Fin 257:=
  let hash : UInt64:=name.bytes.foldl (fun hash b=>(hash <<< 5)+hash+b.toUInt64) 5381
  Fin.ofNat 257 hash.toNat

end SoftMessageBus
