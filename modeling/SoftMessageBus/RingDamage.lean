import SoftMessageBus.RingBufferFifo

/-!
# Frames whose payload has been damaged

A frame of a ring carries the checksum of its payload.
-/
namespace SoftMessageBus.RingBuffer
open ByteEncoding MemoryBlocks List

def damageAt (r : RingBuffer) (offset : ℕ) (bytes : Bytes) : RingBuffer:=
  {r with data:=circularWrite r.data ((r.readPos+offset) % r.data.length) bytes}

structure StartsWith (e : Endian) (r : RingBuffer) (recs : List RingRecord) (bytes : Bytes) :
    Prop where
  valid : r.isValid=true
  holds : HoldsAt r.data r.readPos (RingRecord.images e recs++bytes)
  used : framedSize (recs.map RingRecord.payload)+bytes.length≤ringUsed r.writePos r.readPos r.data.length

variable {e : Endian} {r : RingBuffer} {recs : List RingRecord} {bytes : Bytes}

lemma Represents.startsWith_damageAt {rest : List RingRecord} {header old : Bytes}
    (h : Represents e r (recs++rest)) {tail : Bytes}
    (hrest : RingRecord.images e rest=header++(old++tail)) (hlen : bytes.length=old.length) :
    StartsWith e (r.damageAt (framedSize (recs.map RingRecord.payload)+header.length) bytes) recs (header++bytes):=by
  obtain ⟨hmagic,hversion,hinit,hcorr,hmin,hmax,hw,hread⟩:=(isValid_iff r).1 h.valid
  have hmem : 0 < r.data.length:=Nat.zero_lt_of_lt hw
  have hroom:=h.room
  have hused:=h.ringUsed_eq
  have him:=RingRecord.length_images e rest
  rw [hrest,length_append,length_append] at him
  rw [map_append,framedSize_append] at hroom hused
  have hlength : (r.damageAt (framedSize (recs.map RingRecord.payload)+header.length)
      bytes).data.length=r.data.length:=
    length_circularWrite (Nat.mod_lt _ hmem) (by omega)
  have hfront : HoldsAt r.data r.readPos (RingRecord.images e recs++header):=by
    have hholds:=h.holds
    rw [RingRecord.images_append,hrest,← append_assoc] at hholds
    exact (holdsAt_append.1 hholds).1
  have himages : (RingRecord.images e recs++header).length=
      framedSize (recs.map RingRecord.payload)+header.length:=by
    rw [length_append,RingRecord.length_images]
  refine ⟨(isValid_iff _).2 ⟨hmagic,hversion,hinit,hcorr,?_,?_,?_,?_⟩,?_,?_⟩
  · exact hlength ▸ hmin
  · exact hlength ▸ hmax
  · exact hlength ▸ hw
  · exact hlength ▸ hread
  · rw [← append_assoc]
    refine hfront.circularWrite_append ?_ hmem (by omega)
    rw [himages]
  · rw [hlength,length_append]
    change _≤ringUsed r.writePos r.readPos r.data.length
    omega

lemma StartsWith.read {rec : RingRecord} (h : StartsWith e r (rec::recs) bytes) :
    (r.call e (.read true rec.payload.length)).1 = .read .ok rec.payload ∧
      StartsWith e (r.call e (.read true rec.payload.length)).2 recs bytes:=by
  obtain ⟨hmagic,hversion,hinit,hcorr,hmin,hmax,hw,hread⟩:=(isValid_iff r).1 h.valid
  have hmem : 0 < r.data.length:=Nat.zero_lt_of_lt hw
  have hused:=h.used
  rw [map_cons,framedSize_cons] at hused
  have hholds:=h.holds
  rw [RingRecord.images_cons,append_assoc] at hholds
  obtain ⟨hfirst,hoth⟩:=holdsAt_append.1 hholds
  have hres:=read_frame h.valid hfirst rec.header_valid rec.size_eq (by omega) rec.payload.length
  rw [if_pos rfl,if_pos rec.crc_eq.symm] at hres
  simp only [RingBuffer.call,hres,true_and]
  have hframe : framedSize [rec.payload]=headerSize+rec.payload.length:=rfl
  refine ⟨(isValid_iff _).2 ⟨hmagic,hversion,hinit,hcorr,hmin,hmax,hw,Nat.mod_lt _ hmem⟩,?_,?_⟩
  · rw [RingRecord.length_image] at hoth
    exact hoth
  · change _≤ringUsed r.writePos ((r.readPos+framedSize [rec.payload]) % r.data.length) r.data.length
    rw [ringUsed_consume hw hread (by omega)]
    omega

lemma StartsWith.run (h : StartsWith e r recs bytes) :
    (r.run e (recs.map fun rec=>.read true rec.payload.length)).1=
        recs.map (fun rec=>.read .ok rec.payload) ∧
      StartsWith e (r.run e (recs.map fun rec=>.read true rec.payload.length)).2 [] bytes:=by
  induction recs generalizing r with
  | nil=>exact ⟨rfl,h⟩
  | cons rec recs ih=>
    obtain ⟨hevent,hnext⟩:=h.read
    obtain ⟨hev,hlast⟩:=ih hnext
    simp only [map_cons,RingBuffer.run,hevent,hev]
    exact ⟨trivial,hlast⟩

/-- The read that reaches a damaged payload reports corruption and leaves it. -/
theorem read_damaged_payload (e : Endian) (r : RingBuffer) (before : List RingRecord)
    (rec : RingRecord) (after : List RingRecord) (h : Represents e r (before++rec::after))
    (payload : Bytes) (hlen : payload.length=rec.payload.length) (hchanged : payload≠rec.payload) (start : ℕ)
    (hwindow : ∀ i, i<start ∨ start+4 ≤ i→payload[i]?=rec.payload[i]?) :
    let damaged:=r.damageAt (framedSize (before.map RingRecord.payload)+headerSize) payload
    let reached:=(damaged.run e (before.map fun rec=>.read true rec.payload.length)).2
    (damaged.run e (before.map fun rec=>.read true rec.payload.length)).1=
        before.map (fun rec=>.read .ok rec.payload) ∧
      (reached.read e true rec.payload.length).code = .ringbufCorrupted ∧
      (reached.read e true rec.payload.length).ring = {reached with corrupted:=true}:=by
  intro damaged reached
  have himages : RingRecord.images e (rec::after)=
      rec.header.memory e++(rec.payload++RingRecord.images e after):=by
    rw [RingRecord.images_cons,RingRecord.image,append_assoc]
  have hstart:=h.startsWith_damageAt himages hlen
  rw [MessageHeader.length_memory] at hstart
  obtain ⟨hevents,hreached⟩:=hstart.run
  have hcrc : calcCrc32 payload≠rec.header.crc32:=by
    rw [rec.crc_eq]
    exact (burst32_of_window hlen hchanged hwindow).calcCrc32_ne (ne_nil_of_length_pos rec.payload_pos)
  have hused:=hreached.used
  rw [map_nil,framedSize_nil,length_append,MessageHeader.length_memory] at hused
  have hresult:=read_frame hreached.valid hreached.holds rec.header_valid
    (rec.size_eq.trans hlen.symm) (by omega) rec.payload.length
  rw [if_pos hlen,if_neg hcrc] at hresult
  refine ⟨hevents,?_,?_⟩
  · exact congrArg ReadResult.code hresult
  · exact congrArg ReadResult.ring hresult

theorem read_damaged_payload_middle_byte :
    ∃ r : RingBuffer, ((r.damageAt headerSize [1,9,3]).read .little true 3).code = .ringbufCorrupted:=by
  have hlen : (replicate 1024 (0 : UInt8)).length=1024:=length_replicate
  obtain ⟨r,-,hdata,-,hempty⟩:=represents_createInMemory .little false
    (hlen.ge : ringBufferMinSize≤(replicate 1024 (0 : UInt8)).length)
    (hlen.trans_le (by decide))
  have hpos : 0<([1,2,3] : Bytes).length:=by decide
  obtain ⟨r',-,-,-,hrep⟩:=hempty.writeFrame 5 hpos (by decide) (by
    rw [hdata,hlen]
    decide)
  have hwindow : ∀ i, i<1 ∨ 1+4 ≤ i→
      ([1,9,3] : Bytes)[i]?=([1,2,3] : Bytes)[i]?:=by
    intro i hi
    match i with
    | 0=>rfl
    | 1 | 2=>omega
    | i+3=>rfl
  have hchanged : ([1,9,3] : Bytes)≠[1,2,3]:=by decide
  exact ⟨r',(read_damaged_payload .little r' [] _ [] hrep [1,9,3] rfl hchanged 1 hwindow).2.1⟩

end SoftMessageBus.RingBuffer
