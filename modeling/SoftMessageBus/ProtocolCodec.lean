import SoftMessageBus.MessageHeader

/-!
# The wire codec

Messages travel with their header in big-endian order followed by the payload.
-/
namespace SoftMessageBus
open ByteEncoding MemoryBlocks List

section
variable (e : Endian)

/-- `zoo_smb_protocol_need_swap`. -/
def needSwap : Bool:=(store e (1 : UInt32)).headD 0 != 0

@[simp] lemma needSwap_little : needSwap .little=true:=by decide
@[simp] lemma needSwap_big : needSwap .big=false:=by decide

def swapHeader (header : MessageHeader) : MessageHeader where
  magic:=htobe e header.magic
  version:=htobe e header.version
  msgType:=htobe e header.msgType
  flags:=htobe e header.flags
  payloadSize:=htobe e header.payloadSize
  crc32:=htobe e header.crc32
  msgId:=htobe e header.msgId
  sequence:=htobe e header.sequence
  timestamp:=htobe e header.timestamp
  requestId:=htobe e header.requestId
  sender:=header.sender
  topic:=header.topic

lemma memory_swapHeader (header : MessageHeader) : (swapHeader e header).memory e=header.memory .big:=by
  simp only [MessageHeader.memory,swapHeader,store_htobe]

lemma swapHeader_ofMemory {bs : Bytes} (h : headerSize≤bs.length) :
    swapHeader e (.ofMemory e bs) = .ofMemory .big bs:=by
  have hl {o n : ℕ} (hb : o+n≤106) : (slice bs o n).length=n:=length_slice (le_trans hb h)
  have h2 {o : ℕ} (hb : o+2≤106) : htobe e (load e (slice bs o 2) : UInt16)=load .big (slice bs o 2):=htobe_load e (hl hb)
  have h4 {o : ℕ} (hb : o+4≤106) : htobe e (load e (slice bs o 4) : UInt32)=load .big (slice bs o 4):=htobe_load e (hl hb)
  have h8 {o : ℕ} (hb : o+8≤106) : htobe e (load e (slice bs o 8) : UInt64)=load .big (slice bs o 8):=htobe_load e (hl hb)
  simp only [swapHeader,MessageHeader.ofMemory,h2 (o:=4) (by omega),h2 (o:=6) (by omega),h2 (o:=8) (by omega),
    h4 (o:=0) (by omega),h4 (o:=10) (by omega),h4 (o:=14) (by omega),h4 (o:=18) (by omega),
    h4 (o:=22) (by omega),h8 (o:=26) (by omega),h8 (o:=34) (by omega)]

def swapUint32 (value : UInt32) (needSwap : Bool) : UInt32:=if needSwap then htobe e value else value
def validateMagicNumber (magic : UInt32) : Bool:=magic == msgMagicNumber
def validateProtocolVersion (version : UInt16) : Bool:=version == msgVersion

/-- `validate_payload_size`. -/
def validatePayloadSize (config : Option ℕ) (payloadSize : UInt32) : Bool:=
  let limit:=match config with
    | some size=>if headerSize<size then size-headerSize else maxPayloadSize
    | none=>maxPayloadSize
  decide (payloadSize.toNat≤limit)

/-- `zoo_smb_protocol_is_header_valid` on a header in host order. -/
def isHeaderValid (config : Option ℕ) (header : MessageHeader) : Bool:=
  validateMagicNumber header.magic && validateProtocolVersion header.version &&
    validatePayloadSize config header.payloadSize

def calculateRequiredBufferSize (msg : Message) : ℕ:=headerSize+msg.header.payloadSize.toNat

def copyPayloadToBuffer (msg : Message) (buffer : Bytes) : Bytes:=
  match msg.payload with
  | some bs=>
    if 0 < msg.header.payloadSize.toNat then
      overwrite buffer headerSize (bs.take msg.header.payloadSize.toNat)
    else buffer
  | none=>buffer

/-- `zoo_smb_protocol_serialize`. -/
def serialize (msg : Option Message) (buffer : Option Bytes) : ℕ × Option Bytes:=
  match msg, buffer with
  | some msg, some buffer=>
    let requiredSize:=calculateRequiredBufferSize msg
    if buffer.length < requiredSize then (0,some buffer)
    else
      let cleared:=replicate buffer.length 0
      let header:=if needSwap e then swapHeader e msg.header else msg.header
      (requiredSize,some (copyPayloadToBuffer msg (overwrite cleared 0 (header.memory e))))
  | _, buffer=>(0,buffer)

def validateDeserializeParams (buffer : Bytes) (msgOutSize : ℕ) : ErrorType:=
  if buffer.length<headerSize then .invalidParam
  else if msgOutSize < messageStructSize then .invalidParam
  else .ok

def extractAndValidateHeader (buffer : Bytes) : Except ErrorType MessageHeader:=
  let header:=MessageHeader.ofMemory e buffer
  let magic:=swapUint32 e header.magic (needSwap e)
  if validateMagicNumber magic then
    .ok (if needSwap e then swapHeader e header else header)
  else .error .invalidParam

def copyPayloadData (alloc : ℕ→Bool) (buffer : Bytes) (msgOut : Message)
    (header : MessageHeader) : Except ErrorType Message:=
  if hfit : 0<header.payloadSize.toNat ∧ buffer.length<header.payloadSize.toNat+headerSize then
    .error .invalidParam
  else if hpos : 0<header.payloadSize.toNat then
    if alloc header.payloadSize.toNat then
      .ok ⟨header,some (slice buffer headerSize header.payloadSize.toNat),by
        simp only [Option.mem_def,Option.some.injEq,forall_eq']
        rw [length_slice (by omega)]⟩
    else .error .allocationFailed
  else .ok ⟨header,msgOut.payload,fun _ _=>by omega⟩

def deserialize (alloc : ℕ→Bool) (buffer : Option Bytes)
    (msgOut : Option Message) (msgOutSize : ℕ) : Except ErrorType Message:=
  match buffer, msgOut with
  | some buffer, some msgOut=>
    if msgOutSize < messageStructSize then .error .invalidParam
    else match validateDeserializeParams buffer msgOutSize with
      | .ok=>do
        let header ← extractAndValidateHeader e buffer
        copyPayloadData alloc buffer msgOut header
      | error=>.error error
  | _, _=>.error .invalidParam

def Message.wire (m : Message) : Bytes:=m.header.memory .big++m.payloadBytes

lemma Message.HasPayload.length_wire {m : Message} (h : m.HasPayload) :
    m.wire.length=calculateRequiredBufferSize m:=by
  rw [wire,length_append,MessageHeader.length_memory,h.length_payloadBytes]
  rfl

lemma wireHeader_eq (header : MessageHeader) :
    (if needSwap e then swapHeader e header else header).memory e=header.memory .big:=by
  cases e with
  | little=>exact memory_swapHeader .little header
  | big=>rfl

lemma serialize_eq {m : Message} (hm : m.HasPayload) {buffer : Bytes}
    (hb : calculateRequiredBufferSize m≤buffer.length) :
    serialize e (some m) (some buffer)=(calculateRequiredBufferSize m,
      some (m.wire++replicate (buffer.length-calculateRequiredBufferSize m) 0)):=by
  have hover : overwrite (replicate buffer.length 0) 0 (m.header.memory .big)=
      m.header.memory .big++replicate (buffer.length-headerSize) 0:=by simp [overwrite]
  have hcopy : copyPayloadToBuffer m
      (m.header.memory .big++replicate (buffer.length-headerSize) 0)=
      m.wire++replicate (buffer.length-calculateRequiredBufferSize m) 0:=by
    have hlen:=hm.length_payloadBytes
    simp only [copyPayloadToBuffer]
    cases hp : m.payload with
    | none=>
      have hz : m.header.payloadSize.toNat=0:=by
        by_contra hpos
        simpa [hp] using hm (Nat.pos_of_ne_zero hpos)
      simp [Message.wire,Message.payloadBytes,hp,calculateRequiredBufferSize,hz]
    | some bs=>
      have hbytes : m.payloadBytes=bs.take m.header.payloadSize.toNat:=by simp [Message.payloadBytes,hp]
      dsimp only
      by_cases hpos : 0 < m.header.payloadSize.toNat
      · rw [if_pos hpos,← hbytes,overwrite,hlen,Message.wire,calculateRequiredBufferSize]
        simp [drop_append,Nat.sub_sub]
      · have hz : m.header.payloadSize.toNat=0:=by omega
        simp [Message.wire,hbytes,calculateRequiredBufferSize,hz]
  rw [serialize]
  simp only [if_neg (Nat.not_lt.2 hb),wireHeader_eq,hover,hcopy]

lemma extractAndValidateHeader_eq {buffer : Bytes} (h : headerSize≤buffer.length) :
    extractAndValidateHeader e buffer=
      if (MessageHeader.ofMemory .big buffer).magic=msgMagicNumber then
        .ok (.ofMemory .big buffer) else .error .invalidParam:=by
  have hswap:=swapHeader_ofMemory e h
  have hmagic : htobe e (MessageHeader.ofMemory e buffer).magic=
      (MessageHeader.ofMemory .big buffer).magic:=congrArg MessageHeader.magic hswap
  cases e with
  | little=>
    simp [extractAndValidateHeader,swapUint32,validateMagicNumber,hswap,hmagic]
  | big=>simp [extractAndValidateHeader,swapUint32,validateMagicNumber]

end

def Accepts (buffer : Bytes) : Prop:=
  headerSize≤buffer.length ∧ (load .big (slice buffer 0 4) : UInt32)=msgMagicNumber ∧
    headerSize+(load .big (slice buffer 14 4) : UInt32).toNat≤buffer.length

section
variable (e : Endian) {alloc : ℕ→Bool} (halloc : ∀ n, alloc n=true) {buffer : Bytes}
include halloc

lemma deserialize_eq_ok_iff {out m : Message} :
    deserialize e alloc (some buffer) (some out) messageStructSize = .ok m ↔
      Accepts buffer ∧ m.header = .ofMemory .big buffer ∧
        m.payload=if 0 < m.header.payloadSize.toNat then
          some (slice buffer headerSize m.header.payloadSize.toNat) else out.payload:=by
  by_cases hsize : headerSize≤buffer.length
  swap
  · have hpar : validateDeserializeParams buffer messageStructSize = .invalidParam:=by
      simp [validateDeserializeParams,Nat.lt_of_not_le hsize]
    simp [deserialize,hpar,Accepts,hsize]
  have hpar : validateDeserializeParams buffer messageStructSize = .ok:=by
    simp [validateDeserializeParams,hsize]
  simp only [deserialize,Nat.lt_irrefl,if_false,hpar,extractAndValidateHeader_eq e hsize]
  by_cases hmagic : (MessageHeader.ofMemory .big buffer).magic=msgMagicNumber
  swap
  · simp only [hmagic,if_false]
    constructor
    · intro h
      cases h
    · rintro ⟨⟨-,h,-⟩,-⟩
      exact absurd ((MessageHeader.ofMemory_magic .big buffer).trans h) hmagic
  simp only [hmagic,if_true]
  change copyPayloadData alloc buffer out (.ofMemory .big buffer) = .ok m ↔ _
  generalize hh : MessageHeader.ofMemory .big buffer=header at*
  have hacc : Accepts buffer ↔ headerSize+header.payloadSize.toNat≤buffer.length:=by
    subst hh
    rw [MessageHeader.ofMemory_payloadSize]
    rw [MessageHeader.ofMemory_magic] at hmagic
    exact ⟨fun h=>h.2.2,fun h=>⟨hsize,hmagic,h⟩⟩
  rw [hacc,copyPayloadData]
  by_cases hfit : 0<header.payloadSize.toNat ∧
      buffer.length<header.payloadSize.toNat+headerSize
  · rw [dif_pos hfit]
    constructor
    · intro h
      cases h
    · rintro ⟨h,-⟩
      omega
  rw [dif_neg hfit]
  by_cases hpos : 0<header.payloadSize.toNat
  · rw [dif_pos hpos,if_pos (halloc _)]
    constructor
    · rintro ⟨⟩
      exact ⟨by omega,rfl,(if_pos hpos).symm⟩
    · rintro ⟨-,hheader,hpayload⟩
      rw [hheader,if_pos hpos] at hpayload
      exact congrArg Except.ok (Message.ext hheader.symm hpayload.symm)
  · rw [dif_neg hpos]
    constructor
    · rintro ⟨⟩
      exact ⟨by omega,rfl,(if_neg hpos).symm⟩
    · rintro ⟨-,hheader,hpayload⟩
      rw [hheader,if_neg hpos] at hpayload
      exact congrArg Except.ok (Message.ext hheader.symm hpayload.symm)

lemma exists_deserialize (hacc : Accepts buffer) (out : Message) :
    ∃ m, deserialize e alloc (some buffer) (some out) messageStructSize = .ok m:=by
  let header:=MessageHeader.ofMemory .big buffer
  let payload:=if 0<header.payloadSize.toNat then
    some (slice buffer headerSize header.payloadSize.toNat) else out.payload
  have hle : ∀ bs∈payload, header.payloadSize.toNat≤bs.length:=by
    intro bs hbs
    by_cases hpos : 0<header.payloadSize.toNat
    · have hfit : headerSize+header.payloadSize.toNat≤buffer.length:=hacc.2.2
      simp only [payload,if_pos hpos,Option.mem_def,Option.some.injEq] at hbs
      rw [← hbs,length_slice hfit]
    · omega
  exact ⟨⟨header,payload,hle⟩,(deserialize_eq_ok_iff e halloc).2 ⟨hacc,rfl,rfl⟩⟩

end
section
variable {e : Endian} {alloc : ℕ→Bool} {buffer : Bytes} {out m : Message}

section
variable (halloc : ∀ n, alloc n=true) (h : deserialize e alloc (some buffer) (some out) messageStructSize = .ok m)
include halloc h

lemma deserialize_payload :
    m.HasPayload ∧ m.payloadBytes=slice buffer headerSize m.header.payloadSize.toNat:=by
  obtain ⟨⟨-,-,hfit⟩,hheader,hpayload⟩:=(deserialize_eq_ok_iff e halloc).1 h
  rw [← MessageHeader.ofMemory_payloadSize,← hheader] at hfit
  refine ⟨fun hpos=>by simp [hpayload,hpos],?_⟩
  by_cases hpos : 0 < m.header.payloadSize.toNat
  · rw [Message.payloadBytes,hpayload,if_pos hpos,Option.getD_some,take_of_length_le]
    rw [length_slice hfit]
  · have hz : m.header.payloadSize.toNat=0:=by omega
    simp [Message.payloadBytes,slice,hz]

lemma deserialize_wire : m.wire=buffer.take (calculateRequiredBufferSize m):=by
  obtain ⟨⟨hsize,-,-⟩,hheader,-⟩:=(deserialize_eq_ok_iff e halloc).1 h
  have hmem : m.header.memory .big=buffer.take headerSize:=by
    rw [hheader,MessageHeader.memory_ofMemory .big hsize]
  rw [Message.wire,hmem,(deserialize_payload halloc h).2,calculateRequiredBufferSize,take_add]
  rfl

end
end

lemma accepts_wire_append {m : Message} (hm : m.HasPayload)
    (hmagic : m.header.magic=msgMagicNumber) (rest : Bytes) : Accepts (m.wire++rest):=by
  have hheader : MessageHeader.ofMemory .big (m.wire++rest)=m.header:=by
    rw [Message.wire,append_assoc,MessageHeader.ofMemory_memory_append]
  have hlen : (m.wire++rest).length=
      headerSize+m.header.payloadSize.toNat+rest.length:=by
    rw [length_append,hm.length_wire,calculateRequiredBufferSize]
  refine ⟨by omega,?_,?_⟩
  · rw [← MessageHeader.ofMemory_magic,hheader,hmagic]
  · rw [← MessageHeader.ofMemory_payloadSize,hheader,hlen]
    omega

lemma deserialize_wire_append (e : Endian) {alloc : ℕ→Bool} (halloc : ∀ n, alloc n=true)
    {m : Message} (hm : m.HasPayload) (hmagic : m.header.magic=msgMagicNumber) (rest : Bytes) (out : Message) :
    ∃ m', deserialize e alloc (some (m.wire++rest)) (some out) messageStructSize = .ok m' ∧
      m'.header=m.header ∧ m'.payloadBytes=m.payloadBytes:=by
  obtain ⟨m',hm'⟩:=exists_deserialize e halloc (accepts_wire_append hm hmagic rest) out
  have hheader : m'.header=m.header:=by
    rw [((deserialize_eq_ok_iff e halloc).1 hm').2.1,Message.wire,append_assoc,MessageHeader.ofMemory_memory_append]
  refine ⟨m',hm',hheader,?_⟩
  rw [(deserialize_payload halloc hm').2,hheader,Message.wire,append_assoc,slice_append_right (by simp),
    MessageHeader.length_memory,Nat.sub_self,slice_append_left hm.length_payloadBytes]

/-- The codec is a bijection between messages and the bytes it accepts. -/
theorem codec_bijective_on_accepted (e : Endian) (alloc : ℕ→Bool) (halloc : ∀ n, alloc n=true) (out : Message) :
    (∀ (m : Message) (buffer : Bytes) (k : ℕ),
      m.header.magic=msgMagicNumber→m.HasPayload→
      calculateRequiredBufferSize m≤buffer.length→
      calculateRequiredBufferSize m≤k→
      ∃ written m', serialize e (some m) (some buffer)=
          (calculateRequiredBufferSize m,some written) ∧
        deserialize e alloc (some (written.take k)) (some out) messageStructSize = .ok m' ∧
        m'.header=m.header ∧ m'.payloadBytes=m.payloadBytes) ∧
    (∀ buffer : Bytes,
      (∃ m, deserialize e alloc (some buffer) (some out) messageStructSize = .ok m) ↔
        headerSize≤buffer.length ∧
        (load .big (slice buffer 0 4) : UInt32)=msgMagicNumber ∧
        headerSize+(load .big (slice buffer 14 4) : UInt32).toNat≤buffer.length) ∧
    (∀ (buffer target : Bytes) (m : Message),
      deserialize e alloc (some buffer) (some out) messageStructSize = .ok m→
      calculateRequiredBufferSize m≤target.length→
      ∃ written, serialize e (some m) (some target)=
          (calculateRequiredBufferSize m,some written) ∧
        written.take (calculateRequiredBufferSize m)=buffer.take (calculateRequiredBufferSize m)):=by
  refine ⟨?_,?_,?_⟩
  · intro m buffer k hmagic hm hb hk
    obtain ⟨m',hm',hheader,hbytes⟩:=deserialize_wire_append e halloc hm hmagic
      ((replicate (buffer.length-calculateRequiredBufferSize m) 0).take (k-calculateRequiredBufferSize m)) out
    refine ⟨_,m',serialize_eq e hm hb,?_,hheader,hbytes⟩
    rw [take_append,hm.length_wire,take_of_length_le (hm.length_wire.trans_le hk)]
    exact hm'
  · intro buffer
    constructor
    · rintro ⟨m,hm⟩
      exact ((deserialize_eq_ok_iff e halloc).1 hm).1
    · intro hacc
      exact exists_deserialize e halloc hacc out
  · intro buffer target m hm htarget
    have hpayload:=(deserialize_payload halloc hm).1
    refine ⟨_,serialize_eq e hpayload htarget,?_⟩
    rw [take_append_of_le_length hpayload.length_wire.ge,
      take_of_length_le hpayload.length_wire.le,deserialize_wire halloc hm]

/-- A publication with a three-byte payload. -/
def samplePublication : Message where
  header:={
    magic:=msgMagicNumber
    version:=msgVersion
    msgType:=MsgType.pub.code
    flags:=0
    crc32:=0
    payloadSize:=3
    msgId:=7
    sequence:=1
    timestamp:=1000
    requestId:=42
    sender:=List.Vector.replicate 32 0
    topic:=List.Vector.replicate 32 0}
  payload:=some [1,2,3]
  payload_le:=by decide

theorem samplePublication_round_trip :
    ∃ written m', serialize .little (some samplePublication) (some (replicate 120 0xFF))=
        (calculateRequiredBufferSize samplePublication,some written) ∧
      deserialize .little (fun _=>true) (some (written.take 120)) (some samplePublication) messageStructSize = .ok m' ∧
      m'.header=samplePublication.header ∧ m'.payloadBytes=samplePublication.payloadBytes:=
  (codec_bijective_on_accepted .little (fun _=>true) (fun _=>rfl) samplePublication).1
    samplePublication (replicate 120 0xFF) 120 rfl (by decide) (by decide) (by decide)

end SoftMessageBus
