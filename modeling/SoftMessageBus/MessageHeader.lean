import SoftMessageBus.ByteEncoding
import SoftMessageBus.MemoryBlocks
import Mathlib.Data.Vector.Basic

/-!
# Messages and their packed header

A packed record of ten integers and two character arrays.
-/
namespace SoftMessageBus
open ByteEncoding MemoryBlocks List

/-- Result codes of the bus that the modelled functions return. -/
inductive ErrorType where
  | ok
  | invalidParam
  | invalidSize
  | invalidState
  | allocationFailed
  | ringbufFull
  | ringbufEmpty
  | ringbufCorrupted
  | notConnected
  | sendFailed
  | bufferFull
  | outOfMemory
  | listFull
  | publicationQosViolation
  | serviceNotFound
  | transportStartFailed
  | routingRulePrepareFailed
  | notInitialized
  | busy
  | again
  | poolExhausted
  | serviceUnavailable
  | queueFull
  | shmBufferFull
  | timeout
  | authRequired
  | encryptFailed
  | notStarted
  | alreadyStarted
  | invalidName
  | processNotFound
  | processCheckFailed
  | eventfdCreationFailed
  | ringbufCreateFailed
  | ringbufInitFailed
  | shmNotFound
  | shmCreateFailed
  | shmAttachFailed
  | shmDataCorrupted
  | operationFailed
  | notFound
  | general
  deriving DecidableEq

def msgMagicNumber : UInt32:=0x12345678

/-- `ZOO_SMB_MSG_VERSION`. -/
def msgVersion : UInt16:=0x1001

/-- `ZOO_SMB_PROTOCOL_VERSION`. -/
def protocolVersion : UInt16:=1
def maxPayloadSize : ℕ:=0x1001
def headerSize : ℕ:=106

/-- `ZOO_SMB_MSG_TYPE_ENUM`. -/
inductive MsgType where
  | min | req | repl | reqack | replack
  | pub | sub | unsub | suback | puback | unsuback
  | hb | hback | max
  deriving DecidableEq

def MsgType.code : MsgType→UInt16
  | .min=>0
  | .req=>1
  | .repl=>2
  | .reqack=>3
  | .replack=>4
  | .pub=>0x10
  | .sub=>0x11
  | .unsub=>0x12
  | .suback=>0x13
  | .puback=>0x14
  | .unsuback=>0x15
  | .hb=>0x20
  | .hback=>0x21
  | .max=>0x55

/-- `ZOO_SMB_MSG_HEADER_STRUCT`. -/
structure MessageHeader where
  magic : UInt32
  version : UInt16
  msgType : UInt16
  flags : UInt16
  crc32 : UInt32
  payloadSize : UInt32
  msgId : UInt32
  sequence : UInt32
  timestamp : UInt64
  requestId : UInt64
  sender : List.Vector UInt8 32
  topic : List.Vector UInt8 32
  deriving DecidableEq

def charArray (bs : Bytes) (offset size : ℕ) : List.Vector UInt8 size:=
  ⟨(bs.drop offset).takeD size 0,takeD_length size _ _⟩

lemma toList_charArray {bs : Bytes} {offset size : ℕ} (h : offset+size≤bs.length) :
    (charArray bs offset size).toList=slice bs offset size:=by
  have hle : size≤(bs.drop offset).length:=by
    rw [length_drop]
    omega
  exact takeD_eq_take 0 hle

lemma charArray_eq {bs : Bytes} {offset size : ℕ} {v : List.Vector UInt8 size}
    (h : slice bs offset size=v.toList) : charArray bs offset size=v:=by
  apply List.Vector.eq
  have hle : size≤(bs.drop offset).length:=by
    have hlen:=congrArg length h
    simp only [slice,length_take,List.Vector.toList_length] at hlen
    omega
  exact (takeD_eq_take 0 hle).trans h

namespace MessageHeader

def memory (e : Endian) (h : MessageHeader) : Bytes:=
  store e h.magic++store e h.version++store e h.msgType++store e h.flags++
  store e h.crc32++store e h.payloadSize++store e h.msgId++store e h.sequence++
  store e h.timestamp++store e h.requestId++h.sender.toList++h.topic.toList

/-- The header that a block of memory holds. -/
def ofMemory (e : Endian) (bs : Bytes) : MessageHeader where
  magic:=load e (slice bs 0 4)
  version:=load e (slice bs 4 2)
  msgType:=load e (slice bs 6 2)
  flags:=load e (slice bs 8 2)
  crc32:=load e (slice bs 10 4)
  payloadSize:=load e (slice bs 14 4)
  msgId:=load e (slice bs 18 4)
  sequence:=load e (slice bs 22 4)
  timestamp:=load e (slice bs 26 8)
  requestId:=load e (slice bs 34 8)
  sender:=charArray bs 42 32
  topic:=charArray bs 74 32

variable (e : Endian)

lemma ofMemory_magic (bs : Bytes) : (ofMemory e bs).magic=load e (slice bs 0 4):=rfl

lemma ofMemory_payloadSize (bs : Bytes) : (ofMemory e bs).payloadSize=load e (slice bs 14 4):=rfl

@[simp] lemma length_memory (h : MessageHeader) : (h.memory e).length=headerSize:=by
  simp only [memory,length_append,length_store,List.Vector.toList_length]
  rfl

lemma ofMemory_memory_append (h : MessageHeader) (rest : Bytes) : ofMemory e (h.memory e++rest)=h:=by
  have hs : charArray (h.memory e++rest) 42 32=h.sender:=by
    apply charArray_eq
    simp (disch:=simp) only [memory,append_assoc,slice_append_right,slice_append_left,
      length_store,width_uint16,width_uint32,width_uint64,Nat.reduceSub]
  have ht : charArray (h.memory e++rest) 74 32=h.topic:=by
    apply charArray_eq
    simp (disch:=simp) only [memory,append_assoc,slice_append_right,slice_append_left,length_store,
      width_uint16,width_uint32,width_uint64,Nat.reduceSub,List.Vector.toList_length]
  rw [ofMemory,hs,ht]
  simp (disch:=simp) only [memory,append_assoc,slice_append_right,slice_append_left,
    length_store,width_uint16,width_uint32,width_uint64,Nat.reduceSub,load_store]

lemma memory_ofMemory {bs : Bytes} (h : headerSize≤bs.length) :
    (ofMemory e bs).memory e=bs.take headerSize:=by
  have hl {o n : ℕ} (hb : o+n≤106) : (slice bs o n).length=n:=length_slice (le_trans hb h)
  have h2 {o : ℕ} (hb : o+2≤106) : store e (load e (slice bs o 2) : UInt16)=slice bs o 2:=store_load e (hl hb)
  have h4 {o : ℕ} (hb : o+4≤106) : store e (load e (slice bs o 4) : UInt32)=slice bs o 4:=store_load e (hl hb)
  have h8 {o : ℕ} (hb : o+8≤106) : store e (load e (slice bs o 8) : UInt64)=slice bs o 8:=store_load e (hl hb)
  have hc {o : ℕ} (hb : o+32≤106) : (charArray bs o 32).toList=slice bs o 32:=toList_charArray (le_trans hb h)
  simp only [memory,ofMemory,h2 (o:=4) (by omega),h2 (o:=6) (by omega),h2 (o:=8) (by omega),
    h4 (o:=0) (by omega),h4 (o:=10) (by omega),h4 (o:=14) (by omega),h4 (o:=18) (by omega),
    h4 (o:=22) (by omega),h8 (o:=26) (by omega),h8 (o:=34) (by omega),hc (o:=42) (by omega),
    hc (o:=74) (by omega)]
  -- Adjacent fields join into one prefix that grows to the whole header.
  have hjoin (n m : ℕ) : slice bs 0 n++slice bs n m=slice bs 0 (n+m):=by
    simpa using slice_append_slice bs 0 n m
  simp only [hjoin,Nat.reduceAdd]
  rfl

end MessageHeader

/-- `ZOO_SMB_MSG_STRUCT`. -/
@[ext] structure Message where
  header : MessageHeader
  payload : Option Bytes
  payload_le : ∀ bs∈payload, header.payloadSize.toNat≤bs.length
  deriving DecidableEq

/-- `sizeof(ZOO_SMB_MSG_STRUCT)` with 64-bit pointers. -/
def messageStructSize : ℕ:=114

namespace Message

/-- A message whose payload pointer is `NULL`. -/
def withoutPayload (header : MessageHeader) : Message where
  header:=header
  payload:=none
  payload_le:=fun _ h=>by cases h

@[simp] lemma payload_withoutPayload (header : MessageHeader) : (withoutPayload header).payload=none:=rfl

/-- The payload bytes of a message; a `NULL` payload has none. -/
def payloadBytes (m : Message) : Bytes:=(m.payload.getD []).take m.header.payloadSize.toNat

/-- The payload pointer is not `NULL` when the header announces a payload. -/
def HasPayload (m : Message) : Prop:=
  0 < m.header.payloadSize.toNat→m.payload.isSome
  deriving Decidable

lemma HasPayload.length_payloadBytes {m : Message} (h : m.HasPayload) :
    m.payloadBytes.length=m.header.payloadSize.toNat:=by
  rw [payloadBytes,length_take]
  cases hp : m.payload with
  | none=>
    have hz : ¬0 < m.header.payloadSize.toNat:=fun hpos=>by simpa [hp] using h hpos
    simp
    omega
  | some bs=>
    have hle:=m.payload_le bs (by simp [hp])
    simp [hle]

end Message
end SoftMessageBus
