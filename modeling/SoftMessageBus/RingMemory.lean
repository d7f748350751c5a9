import SoftMessageBus.RingBufferOverwrite

/-!
# Calls on the memory of a ring

All handles of a ring work on the same control structure.
-/
namespace SoftMessageBus
open ByteEncoding MemoryBlocks BoundedFifo List

/-- The control structure and the data area of a ring with the counters of calls under way. -/
structure RingMemory where
  ring : RingBuffer
  activeWriters : UInt64
  activeReaders : UInt64
  deriving DecidableEq

namespace RingMemory

/-- What `zoo_smb_ring_buffer_create_in_memory` leaves in the memory. -/
def createInMemory (data : Bytes) (allowOverwrite : Bool) : Option RingMemory:=
  (RingBuffer.createInMemory data allowOverwrite).map fun ring=>⟨ring,0,0⟩

section
variable (m : RingMemory)

def addWriter : RingMemory:={m with activeWriters:=m.activeWriters+1}
def removeWriter : RingMemory:={m with activeWriters:=m.activeWriters-1}
def addReader : RingMemory:={m with activeReaders:=m.activeReaders+1}
def removeReader : RingMemory:={m with activeReaders:=m.activeReaders-1}
def markCorrupted : RingMemory:={m with ring.corrupted:=true}

section
variable (e : Endian)

def writeFrame (m : RingMemory) (data : Bytes) (now : UInt64) : ErrorType × RingMemory:=
  let header:=createRingHeader data m.ring.writeSeq now
  let size:=m.ring.data.length
  if size ≤ m.ring.writePos then (.ringbufCorrupted,m.removeWriter.markCorrupted)
  else
    let withHeader:=circularWrite m.ring.data m.ring.writePos (header.memory e)
    let payloadPos:=ringNextPos m.ring.writePos headerSize size
    let m:={m with ring.data:=circularWrite withHeader payloadPos data}
    let newWritePos:=ringNextPos payloadPos data.length size
    if size≤newWritePos then (.ringbufCorrupted,m.removeWriter.markCorrupted)
    else
      (.ok, {m with
        ring.writePos:=newWritePos
        ring.writeSeq:=m.ring.writeSeq+1
        ring.statistics.totalWrites:=m.ring.statistics.totalWrites+1
        ring.statistics.writeBytes:=m.ring.statistics.writeBytes+data.length}.removeWriter)

def write (m : RingMemory) (data : Option Bytes) (now : UInt64) : ErrorType × RingMemory:=
  if !m.ring.isValid then (.ringbufCorrupted,m)
  else match data with
    | none=>(.invalidParam,m)
    | some data=>
      if data.length=0 ∨ m.ring.data.length-headerSize<data.length then (.invalidParam,m)
      else
        let m:=m.addWriter
        if m.ring.data.length ≤ m.ring.writePos ∨ m.ring.data.length ≤ m.ring.readPos then
          (.ringbufCorrupted,m.removeWriter.markCorrupted)
        else match m.ring.makeRoom e (headerSize+data.length) with
          | .error error=>(error,m.removeWriter)
          | .ok ring=>{m with ring}.writeFrame e data now

structure ReadResult where
  code : ErrorType
  bytes : Bytes
  memory : RingMemory

def readFrame (header : MessageHeader) : ReadResult:=
  let payloadSize:=header.payloadSize.toNat
  let size:=m.ring.data.length
  let currentPos:=ringNextPos m.ring.readPos headerSize size
  if size<currentPos+payloadSize ∧ payloadSize<size-currentPos then
    ⟨.ringbufCorrupted,[],m.removeReader.markCorrupted⟩
  else
    let bytes:=circularSlice m.ring.data currentPos payloadSize
    let newReadPos:=ringNextPos currentPos payloadSize size
    if calcCrc32 bytes≠header.crc32 then
      ⟨.ringbufCorrupted,bytes,m.removeReader.markCorrupted⟩
    else if size≤newReadPos then ⟨.ringbufCorrupted,bytes,m.removeReader.markCorrupted⟩
    else
      ⟨.ok,bytes,{m with
        ring.readPos:=newReadPos
        ring.readSeq:=m.ring.readSeq+1
        ring.statistics.totalReads:=m.ring.statistics.totalReads+1
        ring.statistics.readBytes:=m.ring.statistics.readBytes+payloadSize}.removeReader⟩

def read (m : RingMemory) (dataNonNull : Bool) (expectedSize : ℕ) : ReadResult:=
  if !m.ring.isValid then ⟨.ringbufCorrupted,[],m⟩
  else if !dataNonNull then ⟨.invalidParam,[],m⟩
  else
    let m:=m.addReader
    let size:=m.ring.data.length
    if size ≤ m.ring.writePos ∨ size ≤ m.ring.readPos then
      ⟨.ringbufCorrupted,[],m.removeReader.markCorrupted⟩
    else
      let usedBytes:=ringUsed m.ring.writePos m.ring.readPos size
      if usedBytes<headerSize then
        ⟨.ringbufEmpty,[],{m.removeReader with
          ring.statistics.underruns:=m.ring.statistics.underruns+1}⟩
      else match peekHeader e m.ring.data m.ring.readPos with
        | none=>⟨.ringbufCorrupted,[],m.removeReader.markCorrupted⟩
        | some header=>
          if !validateRingHeader header then
            ⟨.ringbufCorrupted,[],m.removeReader.markCorrupted⟩
          else if size-headerSize<header.payloadSize.toNat then
            ⟨.ringbufCorrupted,[],m.removeReader.markCorrupted⟩
          else if header.payloadSize.toNat≠expectedSize then ⟨.invalidSize,[],m.removeReader⟩
          else if usedBytes<headerSize+header.payloadSize.toNat then
            ⟨.invalidState,[],m.removeReader⟩
          else m.readFrame header

def clear (m : RingMemory) : ErrorType × RingMemory:=
  if !m.ring.isValid then (.ringbufCorrupted,m)
  else (.ok,{m with ring:=m.ring.clear})

def modify (byteAt : ℕ→UInt8) : RingMemory:={m with ring.data:=m.ring.data.mapIdx fun i _=>byteAt i}

@[simp] lemma ring_addWriter : m.addWriter.ring=m.ring:=rfl
@[simp] lemma ring_addReader : m.addReader.ring=m.ring:=rfl
@[simp] lemma removeWriter_addWriter : m.addWriter.removeWriter=m:=by simp [addWriter,removeWriter]
@[simp] lemma removeReader_addReader : m.addReader.removeReader=m:=by simp [addReader,removeReader]

lemma writeFrame_eq (m : RingMemory) (ring : RingBuffer) (data : Bytes) (now : UInt64) :
    {m.addWriter with ring}.writeFrame e data now=
      ((ring.writeFrame e data now).1,{m with ring:=(ring.writeFrame e data now).2}):=by
  simp only [writeFrame,RingBuffer.writeFrame]
  split
  · simp [addWriter,removeWriter,markCorrupted]
  · split <;> simp [addWriter,removeWriter,markCorrupted]

lemma write_eq (m : RingMemory) (data : Option Bytes) (now : UInt64) :
    m.write e data now=((m.ring.write e data now).1,{m with ring:=(m.ring.write e data now).2}):=by
  rw [write.eq_def,RingBuffer.write.eq_def]
  split
  · rfl
  cases data with
  | none=>rfl
  | some data=>
    simp only [ring_addWriter,removeWriter_addWriter]
    split
    · rfl
    split
    · rfl
    · cases m.ring.makeRoom e (headerSize+data.length) with
      | error error=>rfl
      | ok ring=>exact writeFrame_eq e m ring data now

end

lemma readFrame_eq (header : MessageHeader) :
    m.addReader.readFrame header=⟨(m.ring.readFrame header).code,(m.ring.readFrame header).bytes,
      {m with ring:=(m.ring.readFrame header).ring}⟩:=by
  simp only [readFrame,RingBuffer.readFrame,RingBuffer.readCorrupted,ring_addReader,removeReader_addReader]
  split
  · rfl
  split
  · rfl
  split
  · rfl
  · simp [addReader,removeReader]

end

lemma read_eq (e : Endian) (m : RingMemory) (dataNonNull : Bool) (expectedSize : ℕ) :
    m.read e dataNonNull expectedSize=⟨(m.ring.read e dataNonNull expectedSize).code,
      (m.ring.read e dataNonNull expectedSize).bytes,
      {m with ring:=(m.ring.read e dataNonNull expectedSize).ring}⟩:=by
  rw [read.eq_def,RingBuffer.read.eq_def]
  simp only [ring_addReader,removeReader_addReader,RingBuffer.readCorrupted]
  split
  · rfl
  split
  · rfl
  split
  · rfl
  split
  · rfl
  cases peekHeader e m.ring.data m.ring.readPos with
  | none=>rfl
  | some header=>
    dsimp only
    split
    · rfl
    split
    · rfl
    split
    · rfl
    split
    · rfl
    · exact readFrame_eq m header

end RingMemory

/-- A call on the memory of a ring, through any of its handles. -/
inductive RingOperation where
  | call (c : RingCall)
  | clear

inductive RingStep where
  | operation (op : RingOperation)
  | modify (byteAt : ℕ→UInt8)

inductive RingOutcome where
  | call (event : RingEvent)
  | clear (code : ErrorType)
  deriving DecidableEq

namespace RingOutcome

def code : RingOutcome→ErrorType
  | .call (.write _ code)=>code
  | .call (.read code _)=>code
  | .clear code=>code

def unreadAfter (payloads : List Bytes) : RingOutcome→List Bytes
  | .call (.write (some data) .ok)=>payloads++[data]
  | .call (.read .ok _)=>payloads.tail
  | .clear .ok=>[]
  | _=>payloads

lemma unreadAfter_of_code_ne (payloads : List Bytes) {outcome : RingOutcome}
    (h : outcome.code ≠ .ok) : outcome.unreadAfter payloads=payloads:=by
  rw [unreadAfter.eq_def]
  split
  · exact absurd rfl h
  · exact absurd rfl h
  · exact absurd rfl h
  · rfl

lemma unreadAfter_call {event : RingEvent} {payloads payloads' : List Bytes}
    (h : Step payloads event.observation payloads') :
    (RingOutcome.call event).unreadAfter payloads=payloads':=by
  rw [RingEvent.observation.eq_def] at h
  split at h
  · cases h
    rfl
  · cases h
    rfl
  next hwrite hread=>
    cases h
    rw [unreadAfter.eq_def]
    split
    next heq=>exact absurd (RingOutcome.call.inj heq) (hwrite _)
    next heq=>exact absurd (RingOutcome.call.inj heq) (hread _)
    next heq=>cases heq
    · rfl

end RingOutcome
namespace RingMemory
variable (e : Endian)

variable (m : RingMemory)

def perform : RingOperation→RingOutcome × RingMemory
  | .call (.write data now)=>
    let result:=m.write e data now
    (.call (.write data result.1),result.2)
  | .call (.read dataNonNull expectedSize)=>
    let result:=m.read e dataNonNull expectedSize
    (.call (.read result.code result.bytes),result.memory)
  | .clear=>
    let result:=m.clear
    (.clear result.1,result.2)

/-- The outcomes of the operations among some steps and the memory afterwards. -/
def run (e : Endian) (m : RingMemory) : List RingStep→List RingOutcome × RingMemory
  | []=>([],m)
  | .operation op::steps=>
    let next:=m.perform e op
    let rest:=next.2.run e steps
    (next.1::rest.1,rest.2)
  | .modify byteAt::steps=>(m.modify byteAt).run e steps

def unread : List Bytes:=(m.ring.readToEmpty e).1

lemma perform_call (c : RingCall) :
    m.perform e (.call c)=(.call (m.ring.call e c).1,{m with ring:=(m.ring.call e c).2}):=by
  cases c with
  | write data now=>simp only [perform,write_eq,RingBuffer.call]
  | read dataNonNull expectedSize=>simp only [perform,read_eq,RingBuffer.call]

lemma activeCounts_perform (op : RingOperation) :
    (m.perform e op).2.activeWriters=m.activeWriters ∧ (m.perform e op).2.activeReaders=m.activeReaders:=by
  cases op with
  | call c=>
    rw [perform_call]
    exact ⟨rfl,rfl⟩
  | clear=>
    simp only [perform,clear]
    split <;> exact ⟨rfl,rfl⟩

end RingMemory
namespace RingBuffer
variable {r : RingBuffer}

variable {e : Endian}

lemma Represents.getNextMessageSize_nil (h : Represents e r []) : r.getNextMessageSize e=0:=by
  have hused:=h.ringUsed_eq
  rw [map_nil,framedSize_nil] at hused
  have hheader : 0<headerSize:=by decide
  rw [getNextMessageSize,h.valid]
  simp only [hused,hheader,Bool.not_true,Bool.false_eq_true,if_false,if_true]

lemma Represents.clear {recs : List RingRecord} (h : Represents e r recs) : Represents e r.clear []:=by
  obtain ⟨hmagic,hversion,hinit,hcorr,hmin,hmax,hw,-⟩:=(isValid_iff r).1 h.valid
  have hpos : 0 < r.data.length:=Nat.zero_lt_of_lt hw
  rw [RingBuffer.clear,h.valid]
  exact ⟨(isValid_iff _).2 ⟨hmagic,hversion,hinit,hcorr,hmin,hmax,hpos,hpos⟩,holdsAt_nil _ _,hpos,(Nat.zero_mod _).symm⟩

lemma isValid_of_corrupted (h : r.corrupted=true) : r.isValid=false:=by simp [isValid,h]

lemma readToEmpty_invalid (e : Endian) (h : r.isValid=false) : (r.readToEmpty e).1=[]:=by
  have hread : r.read e true (r.getNextMessageSize e)=⟨.ringbufCorrupted,[],r⟩:=by
    rw [read,h]
    rfl
  rw [readToEmpty]
  cases r.data.length with
  | zero=>rfl
  | succ fuel=>
    rw [drain,hread]
    rfl

lemma makeRoom_error_ne {totalSize : ℕ} {error : ErrorType}
    (h : r.makeRoom e totalSize = .error error) : error ≠ .ringbufCorrupted:=by
  unfold makeRoom at h
  dsimp only at h
  split at h
  · split at h
    · cases h
    · cases h
      decide
  · cases h

lemma isValid_writeFrame {data : Bytes} {now : UInt64}
    (h : (r.writeFrame e data now).1 = .ringbufCorrupted) : (r.writeFrame e data now).2.isValid=false:=by
  unfold writeFrame at h ⊢
  dsimp only at h ⊢
  split at h
  next hpos=>
    rw [if_pos hpos]
    exact isValid_of_corrupted rfl
  rename_i hpos
  rw [if_neg hpos]
  split at h
  next hnext=>
    rw [if_pos hnext]
    exact isValid_of_corrupted rfl
  · cases h

lemma isValid_readFrame {header : MessageHeader} (h : (r.readFrame header).code = .ringbufCorrupted) :
    (r.readFrame header).ring.isValid=false:=by
  unfold readFrame at h ⊢
  dsimp only at h ⊢
  split
  · exact isValid_of_corrupted rfl
  rename_i hwrap
  rw [if_neg hwrap] at h
  split
  · exact isValid_of_corrupted rfl
  rename_i hcrc
  rw [if_neg hcrc] at h
  split
  · exact isValid_of_corrupted rfl
  rename_i hnext
  rw [if_neg hnext] at h
  cases h

lemma isValid_write {data : Option Bytes} {now : UInt64}
    (h : (r.write e data now).1 = .ringbufCorrupted) : (r.write e data now).2.isValid=false:=by
  unfold write at h ⊢
  split at h
  next hvalid=>
    rw [if_pos hvalid]
    simpa using hvalid
  rename_i hvalid
  rw [if_neg hvalid]
  cases data with
  | none=>cases h
  | some data=>
    dsimp only at h ⊢
    split at h
    · cases h
    split at h
    next hparam hpositions=>
      rw [if_neg hparam,if_pos hpositions]
      exact isValid_of_corrupted rfl
    rename_i hparam hpositions
    rw [if_neg hparam,if_neg hpositions]
    cases hroom : r.makeRoom e (headerSize+data.length) with
    | error error=>
      rw [hroom] at h
      exact absurd h (makeRoom_error_ne hroom)
    | ok ring=>
      rw [hroom] at h
      exact isValid_writeFrame h

lemma isValid_read {dataNonNull : Bool} {expectedSize : ℕ}
    (h : (r.read e dataNonNull expectedSize).code = .ringbufCorrupted) :
    (r.read e dataNonNull expectedSize).ring.isValid=false:=by
  unfold read at h ⊢
  split
  next hvalid=>simpa using hvalid
  rename_i hvalid
  rw [if_neg hvalid] at h
  split
  next hnull=>
    rw [if_pos hnull] at h
    cases h
  rename_i hnull
  rw [if_neg hnull] at h
  split
  · exact isValid_of_corrupted rfl
  rename_i hpositions
  rw [if_neg hpositions] at h
  dsimp only at h ⊢
  split
  next hused=>
    rw [if_pos hused] at h
    cases h
  rename_i hused
  rw [if_neg hused] at h
  cases hpeek : peekHeader e r.data r.readPos with
  | none=>exact isValid_of_corrupted rfl
  | some header=>
    rw [hpeek] at h
    dsimp only at h ⊢
    split
    · exact isValid_of_corrupted rfl
    rename_i hheader
    rw [if_neg hheader] at h
    split
    · exact isValid_of_corrupted rfl
    rename_i hsize
    rw [if_neg hsize] at h
    split
    next hexpected=>
      rw [if_pos hexpected] at h
      cases h
    rename_i hexpected
    rw [if_neg hexpected] at h
    split
    next hcomplete=>
      rw [if_pos hcomplete] at h
      cases h
    rename_i hcomplete
    rw [if_neg hcomplete] at h
    exact isValid_readFrame h

end RingBuffer
namespace RingMemory

inductive Holds (e : Endian) (m : RingMemory) : List Bytes→Prop
  | valid {size : ℕ} {q : PayloadQueue size} (h : m.ring.Refines e q) : Holds e m q.items
  | invalid (h : m.ring.isValid=false) : Holds e m []

variable {e : Endian} {m : RingMemory} {payloads : List Bytes}

lemma Holds.unread_eq (h : m.Holds e payloads) : m.unread e=payloads:=by
  cases h with
  | valid h=>
    obtain ⟨recs,hrep,hitems⟩:=h.represents
    rw [unread,hrep.readToEmpty_eq,hitems]
  | invalid h=>exact RingBuffer.readToEmpty_invalid e h

lemma perform_invalid (e : Endian) (h : m.ring.isValid=false) (op : RingOperation) :
    (m.perform e op).1.code = .ringbufCorrupted ∧ (m.perform e op).2=m:=by
  cases op with
  | call c=>
    cases c with
    | write data now=>
      simp only [perform,write,h]
      exact ⟨rfl,rfl⟩
    | read dataNonNull expectedSize=>
      simp only [perform,read,h]
      exact ⟨rfl,rfl⟩
  | clear=>
    simp only [perform,clear,h]
    exact ⟨rfl,rfl⟩

lemma Holds.perform (h : m.Holds e payloads) (op : RingOperation) :
    (m.perform e op).2.Holds e ((m.perform e op).1.unreadAfter payloads):=by
  cases h with
  | invalid h=>
    obtain ⟨hcode,hsame⟩:=perform_invalid e h op
    rw [RingOutcome.unreadAfter_of_code_ne [] (by rw [hcode]; decide),hsame]
    exact .invalid h
  | valid h=>
    rename_i size q
    cases op with
    | call c=>
      obtain ⟨hevent,hnext⟩:=h.call c
      rw [perform_call,hevent,RingOutcome.unreadAfter_call (q.step_call c)]
      exact .valid hnext
    | clear=>
      obtain ⟨recs,hrep,-⟩:=h.represents
      have hclear : m.clear=(.ok,{m with ring:=m.ring.clear}):=by
        rw [RingMemory.clear,hrep.valid]
        rfl
      have hcleared : m.ring.clear.Refines e (Queue.empty : PayloadQueue size):=by
        have hover:=h.noOverwrite
        have hsize:=h.size_eq
        refine ⟨⟨[],hrep.clear,rfl⟩,?_,?_⟩
        · rw [RingBuffer.clear,hrep.valid]
          exact hover
        · rw [RingBuffer.clear,hrep.valid]
          exact hsize
      simp only [RingMemory.perform,hclear]
      change Holds e {m with ring:=m.ring.clear} (Queue.empty : PayloadQueue size).items
      exact .valid hcleared

lemma Holds.run (h : m.Holds e payloads) (ops : List RingOperation) :
    (m.run e (ops.map .operation)).2.Holds e ((m.run e (ops.map .operation)).1.foldl RingOutcome.unreadAfter payloads):=by
  induction ops generalizing m payloads with
  | nil=>exact h
  | cons op ops ih=>exact ih (h.perform op)

lemma Holds.getNextMessageSize_eq (h : m.Holds e payloads) :
    m.ring.getNextMessageSize e=(payloads.head?.map length).getD 0 ∧ ∀ payload∈payloads, 0<payload.length:=by
  cases h with
  | invalid h=>
    rw [RingBuffer.getNextMessageSize,h]
    exact ⟨rfl,forall_mem_nil _⟩
  | valid h=>
    obtain ⟨recs,hrep,hitems⟩:=h.represents
    rw [← hitems]
    refine ⟨?_,?_⟩
    · cases recs with
      | nil=>exact hrep.getNextMessageSize_nil
      | cons rec recs=>exact hrep.getNextMessageSize_cons
    · intro payload hmem
      obtain ⟨rec,-,rfl⟩:=List.mem_map.1 hmem
      exact rec.payload_pos

lemma Holds.read_oldest {payload : Bytes} {rest : List Bytes} (h : m.Holds e (payload::rest)) :
    (m.read e true payload.length).code = .ok ∧ (m.read e true payload.length).bytes=payload ∧
      (m.read e true payload.length).memory.unread e=rest:=by
  have hread : (m.read e true payload.length).code = .ok ∧
      (m.read e true payload.length).bytes=payload:=by
    generalize hpayloads : payload::rest=payloads at h
    cases h with
    | invalid h=>cases hpayloads
    | valid h=>
      obtain ⟨recs,hrep,hitems⟩:=h.represents
      cases recs with
      | nil=>cases hitems.trans hpayloads.symm
      | cons rec recs=>
        obtain ⟨rfl,-⟩:=List.cons.inj (hitems.trans hpayloads.symm)
        rw [read_eq,hrep.read_cons,if_pos rfl]
        exact ⟨rfl,rfl⟩
  refine ⟨hread.1,hread.2,(h.perform (.call (.read true payload.length))).unread_eq.trans ?_⟩
  simp only [RingMemory.perform,hread.1]
  rfl

lemma Holds.read_other (h : m.Holds e payloads) (dataNonNull : Bool) {size : ℕ}
    (hsize : size≠m.ring.getNextMessageSize e) : (m.read e dataNonNull size).code ≠ .ok:=by
  cases h with
  | invalid h=>
    rw [read,h]
    exact ErrorType.noConfusion
  | valid h=>
    obtain ⟨recs,hrep,-⟩:=h.represents
    rw [read_eq]
    cases dataNonNull with
    | false=>
      rw [hrep.read_null]
      exact ErrorType.noConfusion
    | true=>
      cases recs with
      | nil=>
        rw [hrep.read_nil]
        exact ErrorType.noConfusion
      | cons rec recs=>
        rw [hrep.getNextMessageSize_cons] at hsize
        rw [hrep.read_cons,if_neg hsize.symm]
        exact ErrorType.noConfusion

lemma Holds.perform_failed (h : m.Holds e payloads) (op : RingOperation) (hfailed : (m.perform e op).1.code ≠ .ok) :
    (m.perform e op).2.unread e=m.unread e ∧
      (m.perform e op).2.activeWriters=m.activeWriters ∧
      (m.perform e op).2.activeReaders=m.activeReaders:=by
  refine ⟨?_,activeCounts_perform e m op⟩
  rw [(h.perform op).unread_eq,RingOutcome.unreadAfter_of_code_ne payloads hfailed,h.unread_eq]

lemma holds_createInMemory (e : Endian) {data : Bytes} (hcreate : createInMemory data false=some m) : m.Holds e []:=by
  rw [createInMemory,Option.map_eq_some_iff] at hcreate
  obtain ⟨ring,hring,rfl⟩:=hcreate
  have hmin : ringBufferMinSize≤data.length:=by
    by_contra hsmall
    rw [RingBuffer.createInMemory,if_pos (Nat.not_le.1 hsmall)] at hring
    cases hring
  by_cases hmax : data.length≤ringBufferMaxSize
  · obtain ⟨ring',hring',href⟩:=RingBuffer.refines_createInMemory e hmin hmax
    obtain rfl : ring'=ring:=Option.some.inj (hring'.symm.trans hring)
    change Holds e ⟨ring',0,0⟩ (Queue.empty : PayloadQueue data.length).items
    exact .valid href
  · rw [RingBuffer.createInMemory,if_neg (Nat.not_lt.2 hmin)] at hring
    cases hring
    refine .invalid (Bool.eq_false_iff.2 fun hvalid=>hmax ?_)
    exact ((RingBuffer.isValid_iff _).1 hvalid).2.2.2.2.2.1

lemma isValid_modify (m : RingMemory) (byteAt : ℕ→UInt8) : (m.modify byteAt).ring.isValid=m.ring.isValid:=by
  simp only [RingBuffer.isValid,modify,length_mapIdx]

lemma isValid_perform_call {c : RingCall} (h : (m.perform e (.call c)).1.code = .ringbufCorrupted) :
    (m.perform e (.call c)).2.ring.isValid=false:=by
  rw [perform_call] at h ⊢
  cases c with
  | write data now=>exact RingBuffer.isValid_write h
  | read dataNonNull expectedSize=>exact RingBuffer.isValid_read h

lemma run_invalid (h : m.ring.isValid=false) (steps : List RingStep) :
    ∀ outcome∈(m.run e steps).1, outcome.code = .ringbufCorrupted:=by
  induction steps generalizing m with
  | nil=>
    intro outcome hmem
    cases hmem
  | cons step steps ih=>
    cases step with
    | operation op=>
      obtain ⟨hcode,hsame⟩:=perform_invalid e h op
      intro outcome hmem
      rcases mem_cons.1 hmem with rfl | hrest
      · exact hcode
      · rw [hsame] at hrest
        exact ih h outcome hrest
    | modify byteAt=>exact ih ((isValid_modify m byteAt).trans h)

/-- The announced size is that of the oldest record, a failed call changes nothing, and corruption
stays reported. -/
theorem peek_agrees_with_read (e : Endian) (data : Bytes) (m₀ : RingMemory)
    (hcreate : createInMemory data false=some m₀) (ops : List RingOperation) :
    let m:=(m₀.run e (ops.map .operation)).2
    let size:=m.ring.getNextMessageSize e
    m.unread e=(m₀.run e (ops.map .operation)).1.foldl RingOutcome.unreadAfter [] ∧
      (0<size ↔ m.unread e≠[]) ∧
      (∀ payload rest, m.unread e=payload::rest→size=payload.length ∧
        (m.read e true size).code = .ok ∧ (m.read e true size).bytes=payload ∧
        (m.read e true size).memory.unread e=rest) ∧
      (∀ dataNonNull other, other≠size→
        (m.read e dataNonNull other).memory.unread e=m.unread e ∧
        (m.read e dataNonNull other).memory.activeWriters=m.activeWriters ∧
        (m.read e dataNonNull other).memory.activeReaders=m.activeReaders) ∧
      (∀ payload now, (m.write e payload now).1 = .ringbufFull→
        (m.write e payload now).2.unread e=m.unread e ∧
        (m.write e payload now).2.activeWriters=m.activeWriters ∧
        (m.write e payload now).2.activeReaders=m.activeReaders) ∧
      ∀ (memory : RingMemory) (c : RingCall),
        (memory.perform e (.call c)).1.code = .ringbufCorrupted→
        ∀ (steps : List RingStep), ∀ outcome∈((memory.perform e (.call c)).2.run e steps).1,
          outcome.code = .ringbufCorrupted:=by
  intro m size
  have hholds : m.Holds e _:=(holds_createInMemory e hcreate).run ops
  rw [← hholds.unread_eq] at hholds
  obtain ⟨hsize,hpositive⟩:=hholds.getNextMessageSize_eq
  change size=_ at hsize
  refine ⟨((holds_createInMemory e hcreate).run ops).unread_eq,?_,?_,?_,?_,?_⟩
  · rw [hsize]
    cases hunread : m.unread e with
    | nil=>simp
    | cons payload rest=>
      have hpos:=hpositive payload (by simp [hunread])
      simpa using hpos
  · intro payload rest hunread
    rw [hunread] at hholds hsize
    rw [hsize]
    exact ⟨rfl,hholds.read_oldest⟩
  · intro dataNonNull other hother
    exact hholds.perform_failed (.call (.read dataNonNull other)) (hholds.read_other dataNonNull hother)
  · intro payload now hfull
    refine hholds.perform_failed (.call (.write payload now)) ?_
    change (m.write e payload now).1 ≠ .ok
    rw [hfull]
    exact ErrorType.noConfusion
  · intro memory c hcorrupted steps
    exact run_invalid (isValid_perform_call hcorrupted) steps

theorem peek_agrees_with_read_after_write :
    ∃ m₀, createInMemory (replicate 1024 0) false=some m₀ ∧
      (0<(m₀.run .little [.operation (.call (.write (some [1,2,3]) 5))]).2.ring.getNextMessageSize
          .little ↔
        (m₀.run .little [.operation (.call (.write (some [1,2,3]) 5))]).2.unread .little≠[]):=by
  have hlen : ¬(replicate 1024 (0 : UInt8)).length < ringBufferMinSize:=by
    rw [length_replicate]
    decide
  have hcreate : ∃ m₀, createInMemory (replicate 1024 0) false=some m₀:=by
    rw [createInMemory,RingBuffer.createInMemory,if_neg hlen]
    exact ⟨_,rfl⟩
  obtain ⟨m₀,hcreate⟩:=hcreate
  exact ⟨m₀,hcreate,(peek_agrees_with_read .little _ m₀ hcreate [.call (.write (some [1,2,3]) 5)]).2.1⟩

end RingMemory
end SoftMessageBus
