import SoftMessageBus.RingBuffer
import SoftMessageBus.BoundedFifo

/-!
# A ring buffer without overwrite is a bounded queue of payloads

A ring is compared with a queue whose items weigh as much as their frames.
-/
namespace SoftMessageBus
open ByteEncoding BoundedFifo List

/-- A call on a ring buffer. -/
inductive RingCall where
  | write (data : Option Bytes) (now : UInt64)
  | read (dataNonNull : Bool) (expectedSize : ℕ)
  deriving DecidableEq

/-- What the caller of a ring buffer observes. -/
inductive RingEvent where
  | write (data : Option Bytes) (code : ErrorType)
  | read (code : ErrorType) (bytes : Bytes)
  deriving DecidableEq

def RingBuffer.call (e : Endian) (r : RingBuffer) : RingCall→RingEvent × RingBuffer
  | .write data now=>
    let result:=r.write e data now
    (.write data result.1,result.2)
  | .read dataNonNull expectedSize=>
    let result:=r.read e dataNonNull expectedSize
    (.read result.code result.bytes,result.ring)

/-- The events of a sequence of calls and the ring afterwards. -/
def RingBuffer.run (e : Endian) (r : RingBuffer) : List RingCall→List RingEvent × RingBuffer
  | []=>([],r)
  | c::cs=>
    let first:=r.call e c
    let rest:=first.2.run e cs
    (first.1::rest.1,rest.2)

def frameWeight (payload : Bytes) : ℕ:=headerSize+payload.length

/-- The payload queue that a ring with a data area of `size` bytes implements. -/
abbrev PayloadQueue (size : ℕ):=Queue frameWeight (size-1)

namespace PayloadQueue
variable {size : ℕ}

/-- The same call on the payload queue. -/
def call (q : PayloadQueue size) : RingCall→RingEvent × PayloadQueue size
  | .write none _=>(.write none .invalidParam,q)
  | .write (some data) _=>
    if data.length=0 ∨ size-headerSize<data.length then (.write (some data) .invalidParam,q)
    else match q.push data with
      | none=>(.write (some data) .ringbufFull,q)
      | some q=>(.write (some data) .ok,q)
  | .read false _=>(.read .invalidParam [],q)
  | .read true expectedSize=>
    match q.pop with
    | none=>(.read .ringbufEmpty [],q)
    | some (payload,rest)=>
      if payload.length=expectedSize then (.read .ok payload,rest)
      else (.read .invalidSize [],q)

def run (q : PayloadQueue size) : List RingCall→List RingEvent × PayloadQueue size
  | []=>([],q)
  | c::cs=>
    let first:=q.call c
    let rest:=run first.2 cs
    (first.1::rest.1,rest.2)

end PayloadQueue

def RingEvent.observation : RingEvent→Observation Bytes
  | .write (some data) .ok=>.push data
  | .read .ok bytes=>.pop bytes
  | _=>.idle

section
variable (events : List RingEvent)

def writtenPayloads : List Bytes:=
  events.filterMap fun
    | .write (some data) .ok=>some data
    | _=>none

def readPayloads : List Bytes:=
  events.filterMap fun
    | .read .ok bytes=>some bytes
    | _=>none

lemma pushed_observation : pushed (events.map RingEvent.observation)=writtenPayloads events:=by
  induction events with
  | nil=>rfl
  | cons event events ih=>
    rw [writtenPayloads,map_cons,filterMap_cons,RingEvent.observation.eq_def]
    split <;> simp [pushed,ih,writtenPayloads]

lemma popped_observation : popped (events.map RingEvent.observation)=readPayloads events:=by
  induction events with
  | nil=>rfl
  | cons event events ih=>
    rw [readPayloads,map_cons,filterMap_cons,RingEvent.observation.eq_def]
    split <;> simp [popped,ih,readPayloads]

end
namespace PayloadQueue
variable {size : ℕ}

section
variable (q : PayloadQueue size)

lemma step_call (c : RingCall) : Step q.items (q.call c).1.observation (q.call c).2.items:=by
  cases c with
  | write data now=>
    cases data with
    | none=>exact .idle _
    | some data=>
      simp only [call]
      split
      · exact .idle _
      · rw [Queue.push]
        split
        next hpush=>
          split at hpush
          · cases hpush
          · exact .idle _
        next hpush=>
          split at hpush
          · cases hpush
            exact .push _ _
          · cases hpush
  | read dataNonNull expectedSize=>
    cases dataNonNull with
    | false=>exact .idle _
    | true=>
      obtain ⟨items,hload⟩:=q
      cases items with
      | nil=>exact .idle _
      | cons payload rest=>
        simp only [call,Queue.pop]
        split
        · exact .pop _ _
        · exact .idle _

lemma trace_run (cs : List RingCall) :
    Trace q.items ((q.run cs).1.map RingEvent.observation) (q.run cs).2.items:=by
  induction cs generalizing q with
  | nil=>exact .nil _
  | cons c cs ih=>exact .cons (q.step_call c) (ih (q.call c).2)

lemma call_ne_corrupted (c : RingCall) (bytes : Bytes) :
    (q.call c).1 ≠ .read .ringbufCorrupted bytes:=by
  cases c with
  | write data now=>
    cases data with
    | none=>simp [call]
    | some data=>
      simp only [call]
      split
      · simp
      · split <;> simp
  | read dataNonNull expectedSize=>
    cases dataNonNull with
    | false=>simp [call]
    | true=>
      simp only [call]
      split
      · simp
      · split <;> simp

lemma run_ne_corrupted (cs : List RingCall) (bytes : Bytes) :
    RingEvent.read .ringbufCorrupted bytes∉(q.run cs).1:=by
  induction cs generalizing q with
  | nil=>simp [run]
  | cons c cs ih=>
    simp only [run,mem_cons,not_or]
    exact ⟨(q.call_ne_corrupted c bytes).symm,ih (q.call c).2⟩

end
end PayloadQueue
namespace RingBuffer

structure Refines (e : Endian) (r : RingBuffer) {size : ℕ} (q : PayloadQueue size) : Prop where
  represents : ∃ recs, Represents e r recs ∧ recs.map RingRecord.payload=q.items
  noOverwrite : r.allowOverwrite=false
  size_eq : r.data.length=size

namespace Refines
variable {e : Endian} {r : RingBuffer} {size : ℕ} {q : PayloadQueue size}

section
variable (h : Refines e r q)
include h

lemma ringUsed_eq : ringUsed r.writePos r.readPos r.data.length=q.load:=by
  obtain ⟨recs,hrep,hitems⟩:=h.represents
  rw [hrep.ringUsed_eq,hitems]
  rfl

lemma write_full {data : Bytes} (now : UInt64) (hpos : 0<data.length)
    (hsize : data.length ≤ size-headerSize) (hfull : ¬q.load+frameWeight data ≤ size-1) :
    r.write e (some data) now=(.ringbufFull,r):=by
  obtain ⟨recs,hrep,hitems⟩:=h.represents
  have hlen:=h.size_eq
  have hused : framedSize (recs.map RingRecord.payload)=q.load:=by
    rw [hitems]
    rfl
  have hweight : frameWeight data=headerSize+data.length:=rfl
  have hspace:=hrep.ringSpace_eq
  have hlt : ringSpace r.writePos r.readPos r.data.length<headerSize+data.length:=by omega
  have hroom : r.makeRoom e (headerSize+data.length) = .error .ringbufFull:=by
    simp only [makeRoom,hlt,h.noOverwrite,if_true,Bool.false_eq_true,if_false]
  rw [hrep.write_valid now hpos (by omega),hroom]

lemma write_ok {data : Bytes} (now : UInt64) (hpos : 0<data.length) (hfit : q.load+frameWeight data ≤ size-1) :
    (r.write e (some data) now).1 = .ok ∧
      ∀ q' : PayloadQueue size, q'.items=q.items++[data]→Refines e (r.write e (some data) now).2 q':=by
  obtain ⟨recs,hrep,hitems⟩:=h.represents
  have hlen:=h.size_eq
  have hused : framedSize (recs.map RingRecord.payload)=q.load:=by
    rw [hitems]
    rfl
  have hweight : frameWeight data=headerSize+data.length:=rfl
  have hmin:=hrep.minSize_le
  have hmax:=hrep.length_lt
  obtain ⟨r',hwrite,hover,hlen',hrep'⟩:=hrep.writeFrame now hpos (by omega) (by omega)
  have heq : r.write e (some data) now=(.ok,r'):=by
    rw [hrep.write_valid now hpos (by omega),hrep.makeRoom_enough (by omega)]
    exact hwrite
  rw [heq]
  refine ⟨rfl,fun q' hq'=>⟨⟨_,hrep',?_⟩,hover.trans h.noOverwrite,hlen'.trans hlen⟩⟩
  rw [map_append,hitems,hq']
  rfl

lemma call (c : RingCall) : (r.call e c).1=(q.call c).1 ∧ Refines e (r.call e c).2 (q.call c).2:=by
  obtain ⟨recs,hrep,hitems⟩:=h.represents
  have hlen:=h.size_eq
  cases c with
  | write data now=>
    cases data with
    | none=>
      simp only [RingBuffer.call,hrep.write_null,PayloadQueue.call]
      exact ⟨trivial,h⟩
    | some data=>
      simp only [RingBuffer.call,PayloadQueue.call]
      by_cases hparam : data.length=0 ∨ size-headerSize<data.length
      · rw [if_pos hparam,hrep.write_invalid now (hlen.symm ▸ hparam)]
        exact ⟨rfl,h⟩
      · rw [if_neg hparam,Queue.push]
        by_cases hfit : q.load+frameWeight data ≤ size-1
        · obtain ⟨hok,hnext⟩:=h.write_ok now (by omega) hfit
          rw [dif_pos hfit,hok]
          exact ⟨rfl,hnext _ rfl⟩
        · rw [dif_neg hfit,h.write_full now (by omega) (by omega) hfit]
          exact ⟨rfl,h⟩
  | read dataNonNull expectedSize=>
    cases dataNonNull with
    | false=>
      simp only [RingBuffer.call,hrep.read_null,PayloadQueue.call]
      exact ⟨trivial,h⟩
    | true=>
      obtain ⟨items,hload⟩:=q
      simp only [RingBuffer.call,PayloadQueue.call]
      cases recs with
      | nil=>
        simp only [map_nil] at hitems
        subst hitems
        rw [hrep.read_nil]
        exact ⟨rfl,⟨[],hrep.statistics _,rfl⟩,h.noOverwrite,h.size_eq⟩
      | cons rec recs=>
        simp only [map_cons] at hitems
        subst hitems
        rw [hrep.read_cons,Queue.pop]
        dsimp only
        by_cases hsize : rec.payload.length=expectedSize
        · rw [if_pos hsize,if_pos hsize]
          have hrest : Represents e r ([rec]++recs):=hrep
          exact ⟨rfl,⟨recs,hrest.advance rfl,rfl⟩,h.noOverwrite,h.size_eq⟩
        · rw [if_neg hsize,if_neg hsize]
          exact ⟨rfl,h⟩

lemma run (cs : List RingCall) : (r.run e cs).1=(q.run cs).1 ∧ Refines e (r.run e cs).2 (q.run cs).2:=by
  induction cs generalizing r q with
  | nil=>exact ⟨rfl,h⟩
  | cons c cs ih=>
    obtain ⟨hevent,hnext⟩:=h.call c
    obtain ⟨hev,hlast⟩:=ih hnext
    simp only [RingBuffer.run,PayloadQueue.run,hevent,hev]
    exact ⟨trivial,hlast⟩

end
end Refines

lemma refines_createInMemory (e : Endian) {data : Bytes}
    (hmin : ringBufferMinSize≤data.length) (hmax : data.length≤ringBufferMaxSize) :
    ∃ r, createInMemory data false=some r ∧ Refines e r (Queue.empty : PayloadQueue data.length):=by
  obtain ⟨r,hcreate,hdata,hover,hrep⟩:=represents_createInMemory e false hmin hmax
  exact ⟨r,hcreate,⟨[],hrep,rfl⟩,hover,by rw [hdata]⟩

/-- A ring without overwrite behaves as a bounded queue of payloads. -/
theorem ring_refines_bounded_fifo (e : Endian) (data : Bytes)
    (hmin : 1024≤data.length) (hmax : data.length≤64*1024*1024) (cs : List RingCall) :
    ∃ r, createInMemory data false=some r ∧
      (r.run e cs).1=(PayloadQueue.run (Queue.empty : PayloadQueue data.length) cs).1 ∧
      readPayloads (r.run e cs).1 <+: writtenPayloads (r.run e cs).1 ∧
      (∀ (payload : Bytes) (now : UInt64), 0<payload.length→
        payload.length≤data.length-headerSize→
        (((r.run e cs).2.write e (some payload) now).1 = .ringbufFull ↔
          headerSize+payload.length > data.length-1 -
            ringUsed (r.run e cs).2.writePos (r.run e cs).2.readPos data.length)) ∧
      ∀ bytes, RingEvent.read .ringbufCorrupted bytes∉(r.run e cs).1:=by
  obtain ⟨r,hcreate,href⟩:=refines_createInMemory e hmin hmax
  obtain ⟨hevents,hlast⟩:=href.run cs
  have htrace:=PayloadQueue.trace_run (Queue.empty : PayloadQueue data.length) cs
  refine ⟨r,hcreate,hevents,?_,?_,?_⟩
  · rw [hevents,← pushed_observation,← popped_observation]
    exact htrace.popped_prefix
  · intro payload now hpos hsize
    have hused:=hlast.ringUsed_eq
    rw [hlast.size_eq] at hused
    rw [hused]
    by_cases hfit : (PayloadQueue.run (Queue.empty : PayloadQueue data.length) cs).2.load+
        frameWeight payload≤data.length-1
    · rw [(hlast.write_ok now hpos hfit).1]
      simp only [reduceCtorEq,false_iff]
      have hweight : frameWeight payload=headerSize+payload.length:=rfl
      omega
    · rw [hlast.write_full now hpos hsize hfit]
      simp only [true_iff]
      have hweight : frameWeight payload=headerSize+payload.length:=rfl
      omega
  · intro bytes
    rw [hevents]
    exact PayloadQueue.run_ne_corrupted _ cs bytes

theorem ring_refines_bounded_fifo_write_read :
    ∃ r, createInMemory (replicate 1024 0) false=some r ∧
      (r.run .little [.write (some [1,2,3]) 5,.read true 4,.read true 3,.read true 3]).1=
        [.write (some [1,2,3]) .ok,.read .invalidSize [],.read .ok [1,2,3], .read .ringbufEmpty []]:=by
  have hlen : (replicate 1024 (0 : UInt8)).length=1024:=length_replicate
  obtain ⟨r,hcreate,hevents,-⟩:=ring_refines_bounded_fifo .little (replicate 1024 0)
    hlen.ge (hlen.trans_le (by decide))
    [.write (some [1,2,3]) 5,.read true 4,.read true 3,.read true 3]
  refine ⟨r,hcreate,hevents.trans ?_⟩
  rw [hlen]
  decide

end RingBuffer
end SoftMessageBus
