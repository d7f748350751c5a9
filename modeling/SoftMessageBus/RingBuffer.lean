import SoftMessageBus.MessageHeader
import SoftMessageBus.Crc32

/-!
# The shared-memory ring buffer

Payloads are framed with a header in a circular data area.
-/
namespace SoftMessageBus
open ByteEncoding MemoryBlocks

def ringNextPos (pos increment size : ℕ) : ℕ:=(pos+increment) % size
def ringSpace (writePos readPos size : ℕ) : ℕ:=if readPos≤writePos then size-(writePos-readPos)-1 else readPos-writePos-1
def ringUsed (writePos readPos size : ℕ) : ℕ:=if readPos≤writePos then writePos-readPos else size-(readPos-writePos)

structure RingStatistics where
  totalWrites : ℕ
  totalReads : ℕ
  writeBytes : ℕ
  readBytes : ℕ
  overruns : ℕ
  underruns : ℕ
  deriving DecidableEq

/-- The control structure together with the data area it governs; `data_size` is the
length of `data`. -/
structure RingBuffer where
  magic : UInt32
  version : UInt32
  writePos : ℕ
  readPos : ℕ
  writeSeq : ℕ
  readSeq : ℕ
  initialized : Bool
  corrupted : Bool
  statistics : RingStatistics
  allowOverwrite : Bool
  data : Bytes
  deriving DecidableEq

def ringBufferMagic : UInt32:=0x52494E47
def ringBufferVersion : UInt32:=2
def ringBufferMinSize : ℕ:=1024
def ringBufferMaxSize : ℕ:=64*1024*1024
def maxMessagesDiscarded : ℕ:=1000

/-- `create_ring_header`, at time `now`. -/
def createRingHeader (data : Bytes) (sequence : ℕ) (now : UInt64) : MessageHeader where
  magic:=msgMagicNumber
  version:=protocolVersion
  msgType:=MsgType.pub.code
  flags:=0
  crc32:=calcCrc32 data
  payloadSize:=UInt32.ofNat data.length
  msgId:=0
  sequence:=UInt32.ofNat sequence
  timestamp:=now
  requestId:=0
  sender:=List.Vector.replicate 32 0
  topic:=List.Vector.replicate 32 0

def validateRingHeader (header : MessageHeader) : Bool:=header.magic == msgMagicNumber && header.version == protocolVersion

/-- The header whose bytes lie at `pos`, read byte by byte around the end of the area. -/
def peekHeader (e : Endian) (data : Bytes) (pos : ℕ) : Option MessageHeader:=
  (circularRead data pos headerSize).map (.ofMemory e)

/-- The loop that skips overwritten frames; it returns the new read position. -/
def discardOldest (e : Endian) (data : Bytes) (writePos : ℕ) : ℕ→ℕ→ℕ→ℕ→ℕ
  | 0, _, _, newReadPos=>newReadPos
  | fuel+1, bytesToDiscard, messagesDiscarded, newReadPos=>
    if 0<bytesToDiscard ∧ messagesDiscarded < maxMessagesDiscarded then
      if ringUsed writePos newReadPos data.length<headerSize then
        ringNextPos newReadPos bytesToDiscard data.length
      else
        let skipByte:=discardOldest e data writePos fuel (bytesToDiscard-1) messagesDiscarded
          (ringNextPos newReadPos 1 data.length)
        match peekHeader e data newReadPos with
        | none=>skipByte
        | some header=>
          let msgTotalSize:=(headerSize+header.payloadSize.toNat) % 2^32
          if !validateRingHeader header then skipByte
          else if data.length<header.payloadSize.toNat ∨ data.length < msgTotalSize then skipByte
          else discardOldest e data writePos fuel (bytesToDiscard-msgTotalSize)
            (messagesDiscarded+1) (ringNextPos newReadPos msgTotalSize data.length)
    else newReadPos

namespace RingBuffer

def createInMemory (data : Bytes) (allowOverwrite : Bool) : Option RingBuffer:=
  if data.length < ringBufferMinSize then none
  else some {
    magic:=ringBufferMagic
    version:=ringBufferVersion
    writePos:=0
    readPos:=0
    writeSeq:=0
    readSeq:=0
    initialized:=true
    corrupted:=false
    statistics:=⟨0,0,0,0,0,0⟩
    allowOverwrite
    data}

section
variable (r : RingBuffer)

def isValid : Bool:=
  r.magic == ringBufferMagic && r.version == ringBufferVersion && r.initialized && !r.corrupted &&
    decide (ringBufferMinSize≤r.data.length) && decide (r.data.length≤ringBufferMaxSize) &&
    decide (r.writePos < r.data.length) && decide (r.readPos < r.data.length)

/-- `zoo_smb_ring_buffer_is_empty`. -/
def isEmpty : Bool:=r.isValid && r.writePos == r.readPos

def clear : RingBuffer:=
  if !r.isValid then r
  else {r with
    writePos:=0
    readPos:=0
    writeSeq:=0
    readSeq:=0
    statistics:=⟨0,0,0,0,0,0⟩}

/-- `zoo_smb_ring_buffer_destroy` on the handle that created the ring. -/
def destroy : RingBuffer:={r with initialized:=false, corrupted:=true}

def makeRoom (e : Endian) (r : RingBuffer) (totalSize : ℕ) : Except ErrorType RingBuffer:=
  let available:=ringSpace r.writePos r.readPos r.data.length
  if available<totalSize then
    if r.allowOverwrite then
      let bytesToDiscard:=totalSize-available
      .ok {r with
        readPos:=discardOldest e r.data r.writePos bytesToDiscard bytesToDiscard 0 r.readPos
        statistics.overruns:=r.statistics.overruns+1}
    else .error .ringbufFull
  else .ok r

def writeFrame (e : Endian) (r : RingBuffer) (data : Bytes) (now : UInt64) : ErrorType × RingBuffer:=
  let header:=createRingHeader data r.writeSeq now
  if r.data.length≤r.writePos then (.ringbufCorrupted,{r with corrupted:=true})
  else
    let withHeader:=circularWrite r.data r.writePos (header.memory e)
    let payloadPos:=ringNextPos r.writePos headerSize r.data.length
    let written:=circularWrite withHeader payloadPos data
    let newWritePos:=ringNextPos payloadPos data.length r.data.length
    if r.data.length≤newWritePos then
      (.ringbufCorrupted,{r with data:=written, corrupted:=true})
    else
      (.ok, {r with
        data:=written
        writePos:=newWritePos
        writeSeq:=r.writeSeq+1
        statistics.totalWrites:=r.statistics.totalWrites+1
        statistics.writeBytes:=r.statistics.writeBytes+data.length})

/-- `zoo_smb_ring_buffer_write`; a `NULL` data pointer is `none`. -/
def write (e : Endian) (r : RingBuffer) (data : Option Bytes) (now : UInt64) : ErrorType × RingBuffer:=
  if !r.isValid then (.ringbufCorrupted,r)
  else match data with
    | none=>(.invalidParam,r)
    | some data=>
      if data.length=0 ∨ r.data.length-headerSize<data.length then (.invalidParam,r)
      else if r.data.length≤r.writePos ∨ r.data.length≤r.readPos then
        (.ringbufCorrupted,{r with corrupted:=true})
      else match r.makeRoom e (headerSize+data.length) with
        | .error error=>(error,r)
        | .ok r=>r.writeFrame e data now

structure ReadResult where
  code : ErrorType
  bytes : Bytes
  ring : RingBuffer
  deriving DecidableEq

def readCorrupted (bytes : Bytes) : ReadResult:=⟨.ringbufCorrupted,bytes,{r with corrupted:=true}⟩

def readFrame (header : MessageHeader) : ReadResult:=
  let payloadSize:=header.payloadSize.toNat
  let currentPos:=ringNextPos r.readPos headerSize r.data.length
  if r.data.length<currentPos+payloadSize ∧ payloadSize < r.data.length-currentPos then
    r.readCorrupted []
  else
    let bytes:=circularSlice r.data currentPos payloadSize
    let newReadPos:=ringNextPos currentPos payloadSize r.data.length
    if calcCrc32 bytes≠header.crc32 then r.readCorrupted bytes
    else if r.data.length≤newReadPos then r.readCorrupted bytes
    else ⟨.ok,bytes,{r with
      readPos:=newReadPos
      readSeq:=r.readSeq+1
      statistics.totalReads:=r.statistics.totalReads+1
      statistics.readBytes:=r.statistics.readBytes+payloadSize}⟩

end

/-- `zoo_smb_ring_buffer_read`. -/
def read (e : Endian) (r : RingBuffer) (dataNonNull : Bool) (expectedSize : ℕ) : ReadResult:=
  if !r.isValid then ⟨.ringbufCorrupted,[],r⟩
  else if !dataNonNull then ⟨.invalidParam,[],r⟩
  else if r.data.length≤r.writePos ∨ r.data.length≤r.readPos then r.readCorrupted []
  else
    let usedBytes:=ringUsed r.writePos r.readPos r.data.length
    if usedBytes<headerSize then
      ⟨.ringbufEmpty,[],{r with statistics.underruns:=r.statistics.underruns+1}⟩
    else match peekHeader e r.data r.readPos with
      | none=>r.readCorrupted []
      | some header=>
        if !validateRingHeader header then r.readCorrupted []
        else if r.data.length-headerSize<header.payloadSize.toNat then r.readCorrupted []
        else if header.payloadSize.toNat≠expectedSize then ⟨.invalidSize,[],r⟩
        else if usedBytes<headerSize+header.payloadSize.toNat then ⟨.invalidState,[],r⟩
        else r.readFrame header

/-- `zoo_smb_ring_buffer_get_next_message_size`. -/
def getNextMessageSize (e : Endian) (r : RingBuffer) : ℕ:=
  if !r.isValid then 0
  else
    let usedBytes:=ringUsed r.writePos r.readPos r.data.length
    if usedBytes<headerSize then 0
    else match peekHeader e r.data r.readPos with
      | none=>2^32-1
      | some header=>
        if header.magic≠msgMagicNumber then 2^32-1
        else if header.version≠protocolVersion then 2^32-1
        else if usedBytes<headerSize+header.payloadSize.toNat then 0
        else header.payloadSize.toNat

end RingBuffer

/-! ## Frames in a ring buffer -/

open List Nat Bool

/-- A frame: a payload with a header that describes it. -/
structure RingRecord where
  header : MessageHeader
  payload : Bytes
  header_valid : validateRingHeader header=true
  size_eq : header.payloadSize.toNat=payload.length
  crc_eq : header.crc32=calcCrc32 payload
  payload_pos : 0<payload.length

def framedSize (payloads : List Bytes) : ℕ:=(payloads.map (fun p=>headerSize+p.length)).sum

@[simp] lemma framedSize_nil : framedSize []=0:=rfl

@[simp] lemma framedSize_cons (p : Bytes) (ps : List Bytes) :
    framedSize (p::ps)=headerSize+p.length+framedSize ps:=rfl

@[simp] lemma framedSize_append (ps qs : List Bytes) :
    framedSize (ps++qs)=framedSize ps+framedSize qs:=by simp [framedSize]

lemma framedSize_take_add_drop (ps : List Bytes) (n : ℕ) :
    framedSize (ps.take n)+framedSize (ps.drop n)=framedSize ps:=by
  rw [← framedSize_append,take_append_drop]

namespace RingRecord

section
variable (e : Endian)

def image (rec : RingRecord) : Bytes:=rec.header.memory e++rec.payload
def images (recs : List RingRecord) : Bytes:=recs.flatMap (image e)

@[simp] lemma length_image (rec : RingRecord) : (rec.image e).length=headerSize+rec.payload.length:=by
  simp [image]

@[simp] lemma images_nil : images e []=[]:=rfl

@[simp] lemma images_cons (rec : RingRecord) (recs : List RingRecord) :
    images e (rec::recs)=rec.image e++images e recs:=rfl

@[simp] lemma images_append (recs recs' : List RingRecord) :
    images e (recs++recs')=images e recs++images e recs':=by simp [images]

@[simp] lemma length_images (recs : List RingRecord) :
    (images e recs).length=framedSize (recs.map payload):=by
  induction recs with
  | nil=>rfl
  | cons rec recs ih=>simp [ih]

end

/-- The frame that a write of `data` creates. -/
def ofWrite (data : Bytes) (sequence : ℕ) (now : UInt64) (hpos : 0<data.length)
    (hlt : data.length<2^32) : RingRecord where
  header:=createRingHeader data sequence now
  payload:=data
  header_valid:=by simp [validateRingHeader,createRingHeader]
  size_eq:=UInt32.toNat_ofNat_of_lt' hlt
  crc_eq:=rfl
  payload_pos:=hpos

end RingRecord
section
variable {pos n size : ℕ}

lemma ringNextPos_ringNextPos (pos m n size : ℕ) :
    ringNextPos (ringNextPos pos m size) n size=(pos+(m+n)) % size:=by
  rw [ringNextPos,ringNextPos,mod_add_mod,Nat.add_assoc]

lemma ringUsed_lt {writePos readPos : ℕ} (hw : writePos<size) : ringUsed writePos readPos size<size:=by
  rw [ringUsed]
  split <;> omega

lemma ringUsed_advance (hpos : pos<size) (hn : n<size) : ringUsed ((pos+n) % size) pos size=n:=by
  rw [ringUsed]
  rcases Nat.lt_or_ge (pos+n) size with h | h
  · rw [mod_eq_of_lt h,if_pos (by omega)]
    omega
  · rw [mod_eq_sub_mod h,mod_eq_of_lt (by omega),if_neg (by omega)]
    omega

lemma ringUsed_mod (hpos : pos<size) : ringUsed ((pos+n) % size) pos size=n % size:=by
  rw [← add_mod_mod,ringUsed_advance hpos (mod_lt _ (zero_lt_of_lt hpos))]

lemma ringUsed_consume {writePos : ℕ} (hw : writePos<size) (hpos : pos<size) (hn : n≤ringUsed writePos pos size) :
    ringUsed writePos ((pos+n) % size) size=ringUsed writePos pos size-n:=by
  have hlt : ringUsed writePos pos size<size:=ringUsed_lt hw
  -- The write position lies `ringUsed` bytes ahead of the old read position.
  have hahead : writePos=(pos+ringUsed writePos pos size) % size:=by
    rw [ringUsed]
    split
    · rw [mod_eq_of_lt (by omega)]
      omega
    · rw [mod_eq_sub_mod (by omega),mod_eq_of_lt (by omega)]
      omega
  have hnext : writePos=((pos+n) % size+(ringUsed writePos pos size-n)) % size:=by
    rw [mod_add_mod,Nat.add_assoc,Nat.add_sub_cancel' hn]
    exact hahead
  have hpos' : (pos+n) % size<size:=mod_lt _ (zero_lt_of_lt hpos)
  have hused:=ringUsed_advance hpos' (Nat.lt_of_le_of_lt (sub_le _ n) hlt)
  rw [← hnext] at hused
  exact hused

lemma ringSpace_advance (hpos : pos<size) (hn : n<size) : ringSpace ((pos+n) % size) pos size=size-1-n:=by
  rw [ringSpace]
  rcases Nat.lt_or_ge (pos+n) size with h | h
  · rw [mod_eq_of_lt h,if_pos (by omega)]
    omega
  · rw [mod_eq_sub_mod h,mod_eq_of_lt (by omega),if_neg (by omega)]
    omega

end

lemma peekHeader_eq {e : Endian} {data : Bytes} {pos : ℕ} {header : MessageHeader}
    (hpos : pos<data.length) (h : HoldsAt data pos (header.memory e)) : peekHeader e data pos=some header:=by
  have hread:=circularRead_eq_some hpos h
  rw [MessageHeader.length_memory] at hread
  have hheader:=MessageHeader.ofMemory_memory_append e header []
  rw [append_nil] at hheader
  rw [peekHeader,hread,Option.map_some,hheader]

namespace RingBuffer

lemma isValid_iff (r : RingBuffer) : r.isValid=true ↔
    r.magic=ringBufferMagic ∧ r.version=ringBufferVersion ∧ r.initialized=true ∧
      r.corrupted=false ∧ ringBufferMinSize≤r.data.length ∧ r.data.length≤ringBufferMaxSize ∧
      r.writePos < r.data.length ∧ r.readPos < r.data.length:=by
  simp only [isValid,and_eq_true,beq_iff_eq,decide_eq_true_eq,not_eq_true']
  tauto

variable {data : Bytes}

section
variable {e : Endian} {r : RingBuffer} (now : UInt64) (hw : r.writePos < r.data.length)
include hw

lemma writeFrame_eq :
    r.writeFrame e data now=(.ok, {r with
      data:=circularWrite (circularWrite r.data r.writePos
        ((createRingHeader data r.writeSeq now).memory e))
        (ringNextPos r.writePos headerSize r.data.length) data
      writePos:=(r.writePos+(headerSize+data.length)) % r.data.length
      writeSeq:=r.writeSeq+1
      statistics.totalWrites:=r.statistics.totalWrites+1
      statistics.writeBytes:=r.statistics.writeBytes+data.length}):=by
  have hnew : ringNextPos (ringNextPos r.writePos headerSize r.data.length) data.length
      r.data.length < r.data.length:=mod_lt _ (zero_lt_of_lt hw)
  rw [RingBuffer.writeFrame,if_neg (Nat.not_le.2 hw)]
  refine (if_neg (Nat.not_le.2 hnew)).trans ?_
  rw [ringNextPos_ringNextPos]

lemma length_writeFrame (hfit : headerSize+data.length≤r.data.length) :
    (r.writeFrame e data now).2.data.length=r.data.length:=by
  have hheader : ((createRingHeader data r.writeSeq now).memory e).length=headerSize:=MessageHeader.length_memory e _
  have hlen : (circularWrite r.data r.writePos
      ((createRingHeader data r.writeSeq now).memory e)).length=r.data.length:=
    length_circularWrite hw (by omega)
  have hpayload : ringNextPos r.writePos headerSize r.data.length < r.data.length:=mod_lt _ (zero_lt_of_lt hw)
  rw [writeFrame_eq now hw]
  exact (length_circularWrite (lt_of_lt_of_eq hpayload hlen.symm) (by omega)).trans hlen

end

/-- The unread frames of a ring, in the order in which they were written. -/
structure Represents (e : Endian) (r : RingBuffer) (recs : List RingRecord) : Prop where
  valid : r.isValid=true
  holds : HoldsAt r.data r.readPos (RingRecord.images e recs)
  room : framedSize (recs.map RingRecord.payload) < r.data.length
  writePos_eq : r.writePos=(r.readPos+framedSize (recs.map RingRecord.payload)) % r.data.length

lemma read_frame {e : Endian} {r : RingBuffer} {header : MessageHeader} {payload : Bytes}
    (hvalid : r.isValid=true) (hholds : HoldsAt r.data r.readPos (header.memory e++payload))
    (hheader : validateRingHeader header=true) (hsize : header.payloadSize.toNat=payload.length)
    (hused : headerSize+payload.length≤ringUsed r.writePos r.readPos r.data.length) (expectedSize : ℕ) :
    r.read e true expectedSize=
      if payload.length=expectedSize then
        if calcCrc32 payload=header.crc32 then
          ⟨.ok,payload,{r with
            readPos:=(r.readPos+framedSize [payload]) % r.data.length
            readSeq:=r.readSeq+1
            statistics.totalReads:=r.statistics.totalReads+1
            statistics.readBytes:=r.statistics.readBytes+payload.length}⟩
        else r.readCorrupted payload
      else ⟨.invalidSize,[],r⟩:=by
  obtain ⟨-,-,-,-,-,-,hw,hr⟩:=(isValid_iff r).1 hvalid
  have hmem : 0 < r.data.length:=zero_lt_of_lt hr
  have hlt : ringUsed r.writePos r.readPos r.data.length < r.data.length:=ringUsed_lt hw
  obtain ⟨hfront,hback⟩:=holdsAt_append.1 hholds
  rw [MessageHeader.length_memory] at hback
  have hslice : circularSlice r.data (ringNextPos r.readPos headerSize r.data.length)
      payload.length=payload:=circularSlice_eq (mod_lt _ hmem) (by omega) hback
  have hpositions : ¬(r.data.length≤r.writePos ∨ r.data.length≤r.readPos):=by omega
  have hpeek : ¬ringUsed r.writePos r.readPos r.data.length<headerSize:=by omega
  have hmax : ¬r.data.length-headerSize<payload.length:=by omega
  simp only [read,hvalid,hpositions,hpeek,peekHeader_eq hr hfront,hheader,hsize,hmax,
    Nat.not_lt.2 hused,Bool.not_true,false_eq_true,if_false,ite_not]
  refine if_congr Iff.rfl ?_ rfl
  have hnext : (r.readPos+framedSize [payload]) % r.data.length=
      ringNextPos (ringNextPos r.readPos headerSize r.data.length) payload.length r.data.length:=by
    rw [ringNextPos_ringNextPos]
    rfl
  have hins : ¬r.data.length≤ringNextPos (ringNextPos r.readPos headerSize r.data.length)
      payload.length r.data.length:=Nat.not_le.2 (mod_lt _ hmem)
  have hwrap : ¬(r.data.length < ringNextPos r.readPos headerSize r.data.length+
      payload.length ∧ payload.length < r.data.length-ringNextPos r.readPos headerSize r.data.length):=by omega
  simp only [readFrame,hsize,hslice,hwrap,hins,hnext,if_false,ite_not]

lemma represents_createInMemory (e : Endian) (allowOverwrite : Bool)
    (hmin : ringBufferMinSize≤data.length) (hmax : data.length≤ringBufferMaxSize) :
    ∃ r, createInMemory data allowOverwrite=some r ∧ r.data=data ∧ r.allowOverwrite=allowOverwrite ∧ Represents e r []:=by
  have hlt : 0<data.length:=lt_of_lt_of_le (by decide) hmin
  refine ⟨_,if_neg (Nat.not_lt.2 hmin),rfl,rfl,?_,holdsAt_nil _ _,hlt,rfl⟩
  exact (isValid_iff _).2 ⟨rfl,rfl,rfl,rfl,hmin,hmax,hlt,hlt⟩

namespace Represents
variable {e : Endian} {r : RingBuffer} {recs : List RingRecord}

section
variable (h : Represents e r recs)
include h

lemma readPos_lt : r.readPos < r.data.length:=((isValid_iff r).1 h.valid).2.2.2.2.2.2.2

lemma writePos_lt : r.writePos < r.data.length:=((isValid_iff r).1 h.valid).2.2.2.2.2.2.1

lemma minSize_le : 1024≤r.data.length:=((isValid_iff r).1 h.valid).2.2.2.2.1

lemma length_lt : r.data.length<2^32:=by
  have hmax:=((isValid_iff r).1 h.valid).2.2.2.2.2.1
  exact lt_of_le_of_lt hmax (by decide)

lemma ringUsed_eq : ringUsed r.writePos r.readPos r.data.length=framedSize (recs.map RingRecord.payload):=by
  rw [h.writePos_eq,ringUsed_advance h.readPos_lt h.room]

lemma ringSpace_eq :
    ringSpace r.writePos r.readPos r.data.length=r.data.length-1-framedSize (recs.map RingRecord.payload):=by
  rw [h.writePos_eq,ringSpace_advance h.readPos_lt h.room]

lemma holdsAt_frame (header : MessageHeader) (data : Bytes)
    (hfit : framedSize (recs.map RingRecord.payload)+headerSize+data.length < r.data.length) :
    HoldsAt (MemoryBlocks.circularWrite
      (MemoryBlocks.circularWrite r.data r.writePos (header.memory e))
      (ringNextPos r.writePos headerSize r.data.length) data) r.readPos
      (RingRecord.images e recs++(header.memory e++data)):=by
  have hw:=h.writePos_lt
  have hmem : 0 < r.data.length:=zero_lt_of_lt hw
  have hheader : (header.memory e).length=headerSize:=MessageHeader.length_memory e header
  have hlen : (RingRecord.images e recs).length=framedSize (recs.map RingRecord.payload):=RingRecord.length_images e recs
  have hend : (r.readPos+(RingRecord.images e recs).length) % r.data.length=r.writePos:=by
    rw [hlen,h.writePos_eq]
  have hlen₁ : (MemoryBlocks.circularWrite r.data r.writePos (header.memory e)).length=
      r.data.length:=length_circularWrite hw (by omega)
  have hholds : HoldsAt (MemoryBlocks.circularWrite r.data r.writePos (header.memory e)) r.readPos
      (RingRecord.images e recs++header.memory e):=
    h.holds.circularWrite_append hend hmem (by omega)
  have hend₁ : (r.readPos+(RingRecord.images e recs++header.memory e).length) %
      (MemoryBlocks.circularWrite r.data r.writePos (header.memory e)).length=
      ringNextPos r.writePos headerSize r.data.length:=by
    rw [hlen₁,length_append,hheader,← Nat.add_assoc,← mod_add_mod,hend]
    rfl
  rw [← append_assoc]
  exact hholds.circularWrite_append hend₁ (by omega) (by rw [length_append]; omega)

end

variable {data : Bytes}

lemma writeFrame (h : Represents e r recs) (now : UInt64) (hpos : 0<data.length) (hlt : data.length<2^32)
    (hfit : framedSize (recs.map RingRecord.payload)+headerSize+data.length < r.data.length) :
    ∃ r', r.writeFrame e data now=(.ok,r') ∧ r'.allowOverwrite=r.allowOverwrite ∧
      r'.data.length=r.data.length ∧
      Represents e r' (recs++[.ofWrite data r.writeSeq now hpos hlt]):=by
  obtain ⟨hmagic,hversion,hinit,hcorr,hmin,hmax,hw,hread⟩:=(isValid_iff r).1 h.valid
  have hmem : 0 < r.data.length:=zero_lt_of_lt hw
  have hlen : (r.writeFrame e data now).2.data.length=r.data.length:=length_writeFrame now hw (by omega)
  rw [writeFrame_eq now hw] at hlen
  have hframed : framedSize ((recs++[RingRecord.ofWrite data r.writeSeq now hpos hlt]).map
      RingRecord.payload)=
      framedSize (recs.map RingRecord.payload)+headerSize+data.length:=by
    simp [RingRecord.ofWrite,Nat.add_assoc]
  have hnext : (r.writePos+(headerSize+data.length)) % r.data.length=
      (r.readPos+(framedSize (recs.map RingRecord.payload)+headerSize+data.length)) % r.data.length:=by
    rw [h.writePos_eq,mod_add_mod,Nat.add_assoc,Nat.add_assoc]
  refine ⟨_,writeFrame_eq now hw,rfl,hlen,?_⟩
  refine ⟨(isValid_iff _).2 ⟨hmagic,hversion,hinit,hcorr,?_,?_,?_,?_⟩,?_,?_,?_⟩
  · exact hmin.trans_eq hlen.symm
  · exact hlen.trans_le hmax
  · exact (mod_lt _ hmem).trans_eq hlen.symm
  · exact hread.trans_eq hlen.symm
  · rw [RingRecord.images_append,RingRecord.images_cons,RingRecord.images_nil,append_nil]
    exact h.holdsAt_frame _ data hfit
  · rw [hframed]
    exact hfit.trans_eq hlen.symm
  · rw [hframed]
    exact hnext.trans (congrArg _ hlen.symm)

variable {rec : RingRecord}

lemma peekHeader_eq (h : Represents e r (rec::recs)) : peekHeader e r.data r.readPos=some rec.header:=by
  have hholds:=h.holds
  rw [RingRecord.images_cons,RingRecord.image,append_assoc] at hholds
  exact SoftMessageBus.peekHeader_eq h.readPos_lt (holdsAt_append.1 hholds).1

lemma getNextMessageSize_cons (h : Represents e r (rec::recs)) :
    r.getNextMessageSize e=rec.payload.length:=by
  have hused:=h.ringUsed_eq
  simp only [map_cons,framedSize_cons] at hused
  have hheader : ¬ringUsed r.writePos r.readPos r.data.length<headerSize:=by omega
  have hcomplete : ¬ringUsed r.writePos r.readPos r.data.length<headerSize+rec.payload.length:=by omega
  have hvalid:=rec.header_valid
  simp only [validateRingHeader,and_eq_true,beq_iff_eq] at hvalid
  simp only [getNextMessageSize,h.valid,hheader,h.peekHeader_eq,hvalid.1,hvalid.2,rec.size_eq,
    hcomplete,Bool.not_true,false_eq_true,if_false,ne_eq,not_true_eq_false]

lemma advance {recs₁ recs₂ : List RingRecord} (h : Represents e r (recs₁++recs₂))
    {r' : RingBuffer} (hr : r' = {r with
      readPos:=(r.readPos+framedSize (recs₁.map RingRecord.payload)) % r.data.length
      readSeq:=r'.readSeq
      statistics:=r'.statistics}) : Represents e r' recs₂:=by
  obtain ⟨hmagic,hversion,hinit,hcorr,hmin,hmax,hw,hread⟩:=(isValid_iff r).1 h.valid
  have hmem : 0 < r.data.length:=zero_lt_of_lt hw
  have hroom:=h.room
  have hpos:=h.writePos_eq
  have hholds:=h.holds
  rw [map_append,framedSize_append] at hroom hpos
  rw [RingRecord.images_append,holdsAt_append,RingRecord.length_images] at hholds
  rw [hr]
  refine ⟨(isValid_iff _).2 ⟨hmagic,hversion,hinit,hcorr,hmin,hmax,hw,mod_lt _ hmem⟩,hholds.2,?_,?_⟩
  · change framedSize (recs₂.map RingRecord.payload) < r.data.length
    omega
  · change r.writePos=_
    rw [mod_add_mod,hpos,Nat.add_assoc]

lemma read_nil (h : Represents e r []) (expectedSize : ℕ) :
    r.read e true expectedSize=⟨.ringbufEmpty,[],{r with statistics.underruns:=r.statistics.underruns+1}⟩:=by
  have hw:=h.writePos_lt
  have hr:=h.readPos_lt
  have hused:=h.ringUsed_eq
  simp only [map_nil,framedSize_nil] at hused
  have hpositions : ¬(r.data.length≤r.writePos ∨ r.data.length≤r.readPos):=by omega
  simp only [read,h.valid,hpositions,hused,Bool.not_true,false_eq_true,if_false]
  rfl

lemma read_cons (h : Represents e r (rec::recs)) (expectedSize : ℕ) :
    r.read e true expectedSize=
      if rec.payload.length=expectedSize then
        ⟨.ok,rec.payload,{r with
          readPos:=(r.readPos+framedSize [rec.payload]) % r.data.length
          readSeq:=r.readSeq+1
          statistics.totalReads:=r.statistics.totalReads+1
          statistics.readBytes:=r.statistics.readBytes+rec.payload.length}⟩
      else ⟨.invalidSize,[],r⟩:=by
  have hused:=h.ringUsed_eq
  simp only [map_cons,framedSize_cons] at hused
  have hholds:=h.holds
  rw [RingRecord.images_cons] at hholds
  rw [read_frame h.valid (holdsAt_append.1 hholds).1 rec.header_valid rec.size_eq (by omega),if_pos rec.crc_eq.symm]

section
variable (h : Represents e r recs)
include h

lemma statistics (statistics : RingStatistics) : Represents e {r with statistics} recs:=
  ⟨h.valid,h.holds,h.room,h.writePos_eq⟩

lemma read_null (expectedSize : ℕ) : r.read e false expectedSize=⟨.invalidParam,[],r⟩:=by
  simp [read,h.valid]

lemma write_null (now : UInt64) : r.write e none now=(.invalidParam,r):=by simp [write,h.valid]

lemma write_invalid (now : UInt64) (hsize : data.length=0 ∨ r.data.length-headerSize<data.length) :
    r.write e (some data) now=(.invalidParam,r):=by
  simp only [write,h.valid,hsize,Bool.not_true,false_eq_true,if_false,if_true]

lemma write_valid (now : UInt64) (hpos : 0<data.length)
    (hsize : data.length≤r.data.length-headerSize) :
    r.write e (some data) now=match r.makeRoom e (headerSize+data.length) with
      | .error error=>(error,r)
      | .ok r=>r.writeFrame e data now:=by
  have hw:=h.writePos_lt
  have hr:=h.readPos_lt
  have hparam : ¬(data.length=0 ∨ r.data.length-headerSize<data.length):=by omega
  have hpositions : ¬(r.data.length≤r.writePos ∨ r.data.length≤r.readPos):=by omega
  unfold write
  rw [if_neg (by simp [h.valid])]
  exact (if_neg hparam).trans (if_neg hpositions)

lemma makeRoom_enough {totalSize : ℕ} (hfit : framedSize (recs.map RingRecord.payload)+totalSize < r.data.length) :
    r.makeRoom e totalSize = .ok r:=by
  have hspace:=h.ringSpace_eq
  rw [makeRoom]
  exact if_neg (by omega)

end
end Represents
end RingBuffer

end SoftMessageBus
