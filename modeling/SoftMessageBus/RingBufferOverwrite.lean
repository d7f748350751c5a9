import SoftMessageBus.RingBufferFifo
import SoftMessageBus.StepRuns

/-!
# Overwriting the oldest frames

In overwrite mode a write discards whole frames from the front until the new frame fits.
-/
namespace SoftMessageBus
open ByteEncoding MemoryBlocks StepRuns List

namespace RingBuffer

def drain (e : Endian) : ℕ→RingBuffer→List Bytes × ErrorType
  | 0, r=>([],(r.read e true (r.getNextMessageSize e)).code)
  | fuel+1, r=>
    let result:=r.read e true (r.getNextMessageSize e)
    if result.code = .ok then
      let rest:=drain e fuel result.ring
      (result.bytes::rest.1,rest.2)
    else ([],result.code)

def readToEmpty (e : Endian) (r : RingBuffer) : List Bytes × ErrorType:=drain e r.data.length r

lemma Represents.drain_eq {e : Endian} {r : RingBuffer} {recs : List RingRecord}
    (h : Represents e r recs) {fuel : ℕ} (hfuel : recs.length≤fuel) :
    drain e fuel r=(recs.map RingRecord.payload,.ringbufEmpty):=by
  induction fuel generalizing r recs with
  | zero=>
    cases recs with
    | nil=>rw [drain,h.read_nil,map_nil]
    | cons rec recs=>simp at hfuel
  | succ fuel ih=>
    cases recs with
    | nil=>
      rw [drain,h.read_nil]
      rfl
    | cons rec recs=>
      have hrest : Represents e r ([rec]++recs):=h
      have hadv : Represents e {r with
          readPos:=(r.readPos+framedSize [rec.payload]) % r.data.length
          readSeq:=r.readSeq+1
          statistics.totalReads:=r.statistics.totalReads+1
          statistics.readBytes:=r.statistics.readBytes+rec.payload.length} recs:=
        hrest.advance rfl
      have hnext:=ih hadv (by simpa using hfuel)
      rw [drain,h.getNextMessageSize_cons,h.read_cons,if_pos rfl]
      simp only [if_true,hnext,map_cons]

lemma length_le_framedSize (payloads : List Bytes) : payloads.length≤framedSize payloads:=by
  induction payloads with
  | nil=>simp
  | cons p ps ih=>
    simp only [length_cons,framedSize_cons,headerSize]
    omega

lemma Represents.readToEmpty_eq {e : Endian} {r : RingBuffer} {recs : List RingRecord}
    (h : Represents e r recs) : readToEmpty e r=(recs.map RingRecord.payload,.ringbufEmpty):=by
  have hlen:=length_le_framedSize (recs.map RingRecord.payload)
  rw [length_map] at hlen
  exact h.drain_eq (hlen.trans h.room.le)

section
variable {e : Endian} {r : RingBuffer} {dataNonNull : Bool} {expectedSize : ℕ}
  (h : (r.read e dataNonNull expectedSize).code = .ok)
include h

lemma read_ok_cases :
    ∃ header, r.read e dataNonNull expectedSize=r.readFrame header ∧
      r.writePos < r.data.length ∧ r.readPos < r.data.length ∧
      headerSize+header.payloadSize.toNat≤ringUsed r.writePos r.readPos r.data.length:=by
  unfold read at h ⊢
  split at h
  · cases h
  split at h
  · cases h
  split at h
  · cases h
  rename_i hvalid hnull hpositions
  dsimp only at h ⊢
  split at h
  · cases h
  rename_i hused
  split at h
  · cases h
  rename_i header hheader
  split at h
  · cases h
  split at h
  · cases h
  split at h
  · cases h
  split at h
  · cases h
  rename_i hval hsize hexpected hcomplete
  refine ⟨header,?_,by omega,by omega,by omega⟩
  simp only [hvalid,hnull,hpositions,hused,hval,hsize,hexpected,hcomplete, Bool.false_eq_true,if_false]

lemma read_ok :
    (r.read e dataNonNull expectedSize).ring.data.length=r.data.length ∧
      framedSize [(r.read e dataNonNull expectedSize).bytes]+
        ringUsed (r.read e dataNonNull expectedSize).ring.writePos
          (r.read e dataNonNull expectedSize).ring.readPos r.data.length=
      ringUsed r.writePos r.readPos r.data.length:=by
  obtain ⟨header,hread,hw,hr,hused⟩:=read_ok_cases h
  rw [hread] at h ⊢
  have hlt : ringUsed r.writePos r.readPos r.data.length < r.data.length:=ringUsed_lt hw
  have hbytes:=length_circularSlice (n:=header.payloadSize.toNat)
    (Nat.mod_lt (r.readPos+headerSize) (Nat.zero_lt_of_lt hr)) (by omega)
  have hconsume:=ringUsed_consume hw hr hused
  unfold readFrame at h ⊢
  dsimp only at h ⊢
  split at h
  · cases h
  split at h
  · cases h
  split at h
  · cases h
  rename_i hwrap hcrc hpos
  simp only [hwrap,hcrc,hpos,if_false]
  refine ⟨trivial,?_⟩
  rw [ringNextPos_ringNextPos,hconsume,framedSize_cons,framedSize_nil]
  change headerSize+(circularSlice r.data ((r.readPos+headerSize) % r.data.length) header.payloadSize.toNat).length+0+_=_
  rw [hbytes]
  omega

end

lemma framedSize_drain_le (e : Endian) (fuel : ℕ) (r : RingBuffer) :
    framedSize (drain e fuel r).1≤ringUsed r.writePos r.readPos r.data.length:=by
  induction fuel generalizing r with
  | zero=>exact Nat.zero_le _
  | succ fuel ih=>
    rw [drain]
    dsimp only
    split
    next hok=>
      obtain ⟨hlen,hused⟩:=read_ok hok
      have hrest:=ih (r.read e true (r.getNextMessageSize e)).ring
      rw [hlen] at hrest
      simp only [framedSize_cons,framedSize_nil] at hused ⊢
      omega
    · exact Nat.zero_le _

end RingBuffer

def discardCount : List RingRecord→ℕ→ℕ→ℕ
  | [], _, _=>0
  | rec::recs, bytesToDiscard, limit=>
    if 0<bytesToDiscard ∧ 0<limit then
      discardCount recs (bytesToDiscard-(headerSize+rec.payload.length)) (limit-1)+1
    else 0

lemma discardCount_le_limit (recs : List RingRecord) (bytesToDiscard limit : ℕ) :
    discardCount recs bytesToDiscard limit≤limit:=by
  induction recs generalizing bytesToDiscard limit with
  | nil=>exact Nat.zero_le _
  | cons rec recs ih=>
    rw [discardCount]
    split
    · have:=ih (bytesToDiscard-(headerSize+rec.payload.length)) (limit-1)
      omega
    · exact Nat.zero_le _

lemma le_framedSize_discardCount (recs : List RingRecord) (bytesToDiscard limit : ℕ)
    (h : bytesToDiscard≤framedSize ((recs.take limit).map RingRecord.payload)) :
    bytesToDiscard≤framedSize ((recs.take (discardCount recs bytesToDiscard limit)).map RingRecord.payload):=by
  induction recs generalizing bytesToDiscard limit with
  | nil=>simpa [discardCount] using h
  | cons rec recs ih=>
    rw [discardCount]
    split
    next hpos=>
      obtain ⟨limit,rfl⟩ : ∃ k, limit=k+1:=⟨limit-1,by omega⟩
      rw [take_succ_cons,map_cons,framedSize_cons] at h
      have hrest:=ih (bytesToDiscard-(headerSize+rec.payload.length)) limit (by omega)
      rw [Nat.add_sub_cancel,take_succ_cons,map_cons,framedSize_cons]
      omega
    next hstop=>
      rcases Nat.eq_zero_or_pos bytesToDiscard with hz | hpos
      · omega
      · obtain rfl : limit=0:=by omega
        simpa using h

lemma discardOldest_eq {e : Endian} {data : Bytes} {writePos : ℕ} {recs : List RingRecord}
    {fuel bytesToDiscard messagesDiscarded pos : ℕ} (hpos : pos<data.length) (hlt : data.length<2^32)
    (hholds : HoldsAt data pos (RingRecord.images e recs)) (hroom : framedSize (recs.map RingRecord.payload)<data.length)
    (hwrite : writePos=(pos+framedSize (recs.map RingRecord.payload)) % data.length)
    (hfuel : bytesToDiscard≤fuel) (hbytes : bytesToDiscard≤framedSize (recs.map RingRecord.payload)) :
    discardOldest e data writePos fuel bytesToDiscard messagesDiscarded pos=
      (pos+framedSize ((recs.take (discardCount recs bytesToDiscard
        (maxMessagesDiscarded-messagesDiscarded))).map RingRecord.payload)) % data.length:=by
  induction fuel generalizing recs bytesToDiscard messagesDiscarded pos with
  | zero=>
    obtain rfl : bytesToDiscard=0:=by omega
    have hcount : discardCount recs 0 (maxMessagesDiscarded-messagesDiscarded)=0:=by
      cases recs <;> simp [discardCount]
    rw [discardOldest,hcount,take_zero,map_nil,framedSize_nil,Nat.add_zero, Nat.mod_eq_of_lt hpos]
  | succ fuel ih=>
    rw [discardOldest]
    by_cases hgo : 0<bytesToDiscard ∧ messagesDiscarded < maxMessagesDiscarded
    · cases recs with
      | nil=>
        simp only [map_nil,framedSize_nil] at hbytes
        omega
      | cons rec recs=>
        simp only [map_cons,framedSize_cons] at hroom hwrite hbytes
        rw [RingRecord.images_cons,holdsAt_append,RingRecord.length_image] at hholds
        have hused : ringUsed writePos pos data.length=
            headerSize+rec.payload.length+framedSize (recs.map RingRecord.payload):=by
          rw [hwrite,ringUsed_advance hpos hroom]
        have hheader : ¬ringUsed writePos pos data.length<headerSize:=by omega
        have hpeek : peekHeader e data pos=some rec.header:=by
          have himage:=hholds.1
          rw [RingRecord.image,holdsAt_append] at himage
          exact peekHeader_eq hpos himage.1
        have htotal : (headerSize+rec.payload.length) % 2^32=headerSize+rec.payload.length:=Nat.mod_eq_of_lt (by omega)
        have hsane : ¬(data.length < rec.payload.length ∨ data.length<headerSize+rec.payload.length):=by omega
        have hlimit : maxMessagesDiscarded-(messagesDiscarded+1)=maxMessagesDiscarded-messagesDiscarded-1:=by omega
        have hnext : discardOldest e data writePos fuel
            (bytesToDiscard-(headerSize+rec.payload.length)) (messagesDiscarded+1)
            ((pos+(headerSize+rec.payload.length)) % data.length)=_:=
          ih (Nat.mod_lt _ (Nat.zero_lt_of_lt hpos)) hholds.2 (by omega)
            (by rw [Nat.mod_add_mod,hwrite,Nat.add_assoc pos])
            (by simp only [headerSize]; omega) (by omega)
        rw [if_pos hgo,if_neg hheader]
        simp only [hpeek,rec.header_valid,rec.size_eq,htotal,hsane,Bool.not_true,Bool.false_eq_true,if_false]
        rw [ringNextPos,hnext,discardCount,if_pos (by omega),Nat.mod_add_mod,
          take_succ_cons,map_cons,framedSize_cons,Nat.add_assoc pos,hlimit]
    · have hcount : discardCount recs bytesToDiscard
          (maxMessagesDiscarded-messagesDiscarded)=0:=by
        cases recs with
        | nil=>rfl
        | cons rec recs=>
          rw [discardCount,if_neg (by omega)]
      rw [if_neg hgo,hcount,take_zero,map_nil,framedSize_nil,Nat.add_zero, Nat.mod_eq_of_lt hpos]

namespace RingBuffer

lemma makeRoom_discard {e : Endian} {r : RingBuffer} (hover : r.allowOverwrite=true)
    {totalSize : ℕ} (hlt : ringSpace r.writePos r.readPos r.data.length<totalSize) :
    r.makeRoom e totalSize = .ok {r with
      readPos:=discardOldest e r.data r.writePos
        (totalSize-ringSpace r.writePos r.readPos r.data.length)
        (totalSize-ringSpace r.writePos r.readPos r.data.length) 0 r.readPos
      statistics.overruns:=r.statistics.overruns+1}:=by
  rw [makeRoom]
  dsimp only
  rw [if_pos hlt,if_pos hover]

lemma writeFrame_positions (e : Endian) {r : RingBuffer} {data : Bytes} (now : UInt64)
    (hw : r.writePos < r.data.length) (hfit : headerSize+data.length≤r.data.length) :
    ∃ r', r.writeFrame e data now=(.ok,r') ∧ r'.data.length=r.data.length ∧
      r'.readPos=r.readPos ∧
      r'.writePos=(r.writePos+(headerSize+data.length)) % r.data.length:=by
  have hlen : (r.writeFrame e data now).2.data.length=r.data.length:=length_writeFrame now hw hfit
  rw [writeFrame_eq now hw] at hlen
  exact ⟨_,writeFrame_eq now hw,hlen,rfl,rfl⟩

namespace Represents
variable {e : Endian} {r : RingBuffer} {recs : List RingRecord}

section
variable (h : Represents e r recs)
include h

lemma makeRoom_overwrite (hover : r.allowOverwrite=true) {totalSize : ℕ} (hsize : totalSize < r.data.length) :
    ∃ r' k, r.makeRoom e totalSize = .ok r' ∧ r'.allowOverwrite=true ∧
      r'.data.length=r.data.length ∧ Represents e r' (recs.drop k) ∧
      k ≤ maxMessagesDiscarded ∧
      (totalSize+framedSize ((recs.drop maxMessagesDiscarded).map RingRecord.payload)<
          r.data.length→
        totalSize+framedSize ((recs.drop k).map RingRecord.payload) < r.data.length):=by
  have hspace:=h.ringSpace_eq
  have hroom:=h.room
  by_cases hen : framedSize (recs.map RingRecord.payload)+totalSize < r.data.length
  · refine ⟨r,0,h.makeRoom_enough hen,hover,rfl,h,Nat.zero_le _,fun _=>?_⟩
    rw [drop_zero]
    omega
  let bytesToDiscard:=totalSize-ringSpace r.writePos r.readPos r.data.length
  have hbytes : bytesToDiscard=totalSize -
      (r.data.length-1-framedSize (recs.map RingRecord.payload)):=by rw [← hspace]
  let k:=discardCount recs bytesToDiscard maxMessagesDiscarded
  have hpos : discardOldest e r.data r.writePos bytesToDiscard bytesToDiscard 0 r.readPos=_:=
    discardOldest_eq h.readPos_lt h.length_lt h.holds h.room h.writePos_eq (le_refl bytesToDiscard) (by omega)
  have hsplit:=framedSize_take_add_drop (recs.map RingRecord.payload) k
  have hparts:=framedSize_take_add_drop (recs.map RingRecord.payload) maxMessagesDiscarded
  rw [← map_take,← map_drop] at hsplit hparts
  refine ⟨{r with
    readPos:=discardOldest e r.data r.writePos bytesToDiscard bytesToDiscard 0 r.readPos
    statistics.overruns:=r.statistics.overruns+1},k,?_,hover,rfl,?_,
    discardCount_le_limit _ _ _,?_⟩
  · exact makeRoom_discard hover (by omega)
  · have hall : Represents e r (recs.take k++recs.drop k):=by
      rw [take_append_drop]
      exact h
    refine hall.advance ?_
    rw [hpos]
    rfl
  · intro hlimit
    have hfreed:=le_framedSize_discardCount recs bytesToDiscard maxMessagesDiscarded (by omega)
    change bytesToDiscard≤framedSize ((recs.take k).map RingRecord.payload) at hfreed
    omega

section
variable (hover : r.allowOverwrite=true) {payload : Bytes} (now : UInt64) (hpos : 0<payload.length)
include hover hpos

lemma write_overwrite (hroom : headerSize+payload.length+
      framedSize ((recs.drop maxMessagesDiscarded).map RingRecord.payload) < r.data.length) :
    ∃ r' k rec, r.write e (some payload) now=(.ok,r') ∧ r'.allowOverwrite=true ∧
      rec.payload=payload ∧ Represents e r' (recs.drop k++[rec]):=by
  have hlt:=h.length_lt
  obtain ⟨r₁,k,hmake,hover₁,hlen₁,hrep₁,-,hfit⟩:=
    h.makeRoom_overwrite hover (show headerSize+payload.length < r.data.length by omega)
  have hfit₁:=hfit hroom
  obtain ⟨r',hwrite,hover',-,hrep'⟩:=hrep₁.writeFrame now hpos (by omega) (by omega)
  refine ⟨r',k,_,?_,hover'.trans hover₁,rfl,hrep'⟩
  rw [h.write_valid now hpos (by omega),hmake]
  exact hwrite

lemma write_overrun (hsize : payload.length≤r.data.length-headerSize)
    (hroom : ¬headerSize+payload.length+
      framedSize ((recs.drop maxMessagesDiscarded).map RingRecord.payload) < r.data.length) :
    ∃ r', r.write e (some payload) now=(.ok,r') ∧
      ringUsed r'.writePos r'.readPos r'.data.length<headerSize+payload.length:=by
  have hmin:=h.minSize_le
  have hheader : headerSize=106:=rfl
  have hframe : headerSize+payload.length≤r.data.length:=by omega
  have hmem : 0 < r.data.length:=by omega
  rw [h.write_valid now hpos hsize]
  rcases Nat.lt_or_ge (headerSize+payload.length) r.data.length with hless | hwhole
  · obtain ⟨r₁,k,hmake,-,hlen₁,hrep₁,hk,-⟩:=h.makeRoom_overwrite hover hless
    have hdrop : framedSize ((recs.drop maxMessagesDiscarded).map RingRecord.payload)≤
        framedSize ((recs.drop k).map RingRecord.payload):=by
      have hsplit:=framedSize_take_add_drop ((recs.drop k).map RingRecord.payload) (maxMessagesDiscarded-k)
      rw [← map_drop,drop_drop,Nat.add_sub_cancel' hk] at hsplit
      omega
    have hframed:=hrep₁.room
    obtain ⟨r',hwrite,hlen,hread,hwritten⟩:=writeFrame_positions e now hrep₁.writePos_lt (hframe.trans hlen₁.ge)
    rw [hmake]
    refine ⟨r',hwrite,?_⟩
    rw [hlen,hread,hwritten,hrep₁.writePos_eq,Nat.mod_add_mod,Nat.add_assoc,
      ringUsed_mod hrep₁.readPos_lt,Nat.mod_eq_sub_mod (by omega),Nat.mod_eq_of_lt (by omega)]
    omega
  · have hspace:=h.ringSpace_eq
    rw [makeRoom_discard hover (by omega)]
    obtain ⟨r',hwrite,hlen,-,hwritten⟩:=writeFrame_positions e now (r:={r with
      readPos:=discardOldest e r.data r.writePos
        (headerSize+payload.length-ringSpace r.writePos r.readPos r.data.length)
        (headerSize+payload.length-ringSpace r.writePos r.readPos r.data.length) 0 r.readPos
      statistics.overruns:=r.statistics.overruns+1}) h.writePos_lt hframe
    refine ⟨r',hwrite,?_⟩
    have hlt : r'.writePos < r'.data.length:=by
      rw [hlen,hwritten]
      exact Nat.mod_lt _ hmem
    exact (ringUsed_lt hlt).trans_le (hlen.le.trans hwhole)

end

lemma read_represents (dataNonNull : Bool) (expectedSize : ℕ) :
    (r.read e dataNonNull expectedSize).ring.allowOverwrite=r.allowOverwrite ∧
      ∃ recs', Represents e (r.read e dataNonNull expectedSize).ring recs':=by
  cases dataNonNull with
  | false=>
    rw [h.read_null]
    exact ⟨rfl,recs,h⟩
  | true=>
    cases recs with
    | nil=>
      rw [h.read_nil]
      exact ⟨rfl,[],h.statistics _⟩
    | cons rec recs=>
      rw [h.read_cons]
      split
      · have hrest : Represents e r ([rec]++recs):=h
        exact ⟨rfl,recs,hrest.advance rfl⟩
      · exact ⟨rfl,rec::recs,h⟩

end
end Represents

/-- After a write the ring returns a suffix of what was unread and the new payload. -/
def DropsOnlyOldest (e : Endian) (r : RingBuffer) : RingCall→Prop
  | .write (some payload) now=>
    (r.write e (some payload) now).1 = .ok→
      ∃ k, readToEmpty e (r.write e (some payload) now).2=((readToEmpty e r).1.drop k++[payload],.ringbufEmpty)
  | _=>True

/-- An accepted payload has room beside the frames that the discard loop cannot reach. -/
def LeavesRoom (e : Endian) (r : RingBuffer) : RingCall→Prop
  | .write (some payload) _=>
    0<payload.length→payload.length≤r.data.length-headerSize→
      headerSize+payload.length+framedSize ((readToEmpty e r).1.drop maxMessagesDiscarded) < r.data.length
  | _=>True

structure Overwriting (e : Endian) (r : RingBuffer) : Prop where
  represents : ∃ recs, Represents e r recs
  overwrite : r.allowOverwrite=true

namespace Overwriting
variable {e : Endian} {r : RingBuffer}

lemma call (h : Overwriting e r) (c : RingCall) (hroom : LeavesRoom e r c) :
    Overwriting e (r.call e c).2:=by
  obtain ⟨recs,hrep⟩:=h.represents
  cases c with
  | read dataNonNull expectedSize=>
    obtain ⟨hover,hnext⟩:=hrep.read_represents dataNonNull expectedSize
    exact ⟨hnext,hover.trans h.overwrite⟩
  | write data now=>
    simp only [RingBuffer.call]
    cases data with
    | none=>
      rw [hrep.write_null]
      exact h
    | some payload=>
      by_cases hparam : payload.length=0 ∨ r.data.length-headerSize<payload.length
      · rw [hrep.write_invalid now hparam]
        exact h
      · have hfit:=hroom (by omega) (by omega)
        rw [hrep.readToEmpty_eq,← map_drop] at hfit
        obtain ⟨r',k,rec,hwrite,hover,-,hnext⟩:=hrep.write_overwrite h.overwrite now (by omega) hfit
        rw [hwrite]
        exact ⟨⟨_,hnext⟩,hover⟩

lemma dropsOnlyOldest_iff (h : Overwriting e r) (c : RingCall) :
    DropsOnlyOldest e r c ↔ LeavesRoom e r c:=by
  obtain ⟨recs,hrep⟩:=h.represents
  match c with
  | .read _ _=>exact Iff.rfl
  | .write none _=>exact Iff.rfl
  | .write (some payload) now=>
    simp only [DropsOnlyOldest,LeavesRoom,hrep.readToEmpty_eq,← map_drop]
    constructor
    · intro hdrops hpos hsize
      by_contra hroom
      obtain ⟨r',hwrite,hused⟩:=hrep.write_overrun h.overwrite now hpos hsize hroom
      obtain ⟨k,hread⟩:=hdrops (by rw [hwrite])
      rw [hwrite] at hread
      have hle : framedSize (readToEmpty e r').1≤_:=framedSize_drain_le e r'.data.length r'
      rw [hread,framedSize_append,framedSize_cons] at hle
      omega
    · intro hroom hok
      by_cases hparam : payload.length=0 ∨ r.data.length-headerSize<payload.length
      · rw [hrep.write_invalid now hparam] at hok
        cases hok
      · obtain ⟨r',k,rec,hwrite,-,hpayload,hnext⟩:=
          hrep.write_overwrite h.overwrite now (by omega) (hroom (by omega) (by omega))
        refine ⟨k,?_⟩
        rw [hwrite,hnext.readToEmpty_eq,map_append,map_drop,map_singleton,hpayload]

end Overwriting

/-- Writes drop whole oldest frames only exactly when each accepted payload leaves room. -/
theorem overwrite_drops_only_oldest_iff (e : Endian) (data : Bytes)
    (hmin : 1024≤data.length) (hmax : data.length≤64*1024*1024) :
    ∃ r, createInMemory data true=some r ∧ ∀ cs : List RingCall,
      Along (fun r c=>(r.call e c).2) (DropsOnlyOldest e) r cs ↔ Along (fun r c=>(r.call e c).2) (LeavesRoom e) r cs:=by
  obtain ⟨r,hcreate,-,hover,hrep⟩:=represents_createInMemory e true hmin hmax
  refine ⟨r,hcreate,fun cs=>?_⟩
  exact along_iff_of_invariant (Overwriting e) (fun _ c h hroom=>h.call c hroom)
    (fun _ c h=>h.dropsOnlyOldest_iff c) ⟨⟨[],hrep⟩,hover⟩ cs

theorem overwrite_drops_only_oldest_iff_1024 :
    ∃ r, createInMemory (replicate 1024 0) true=some r ∧ ∀ cs : List RingCall,
      Along (fun r c=>(r.call .little c).2) (DropsOnlyOldest .little) r cs ↔
        Along (fun r c=>(r.call .little c).2) (LeavesRoom .little) r cs:=
  overwrite_drops_only_oldest_iff .little (replicate 1024 0) (by rw [length_replicate]) (by rw [length_replicate]; decide)

/-- An empty ring accepts a payload that fills the whole area and loses it. -/
theorem overwrite_loses_whole_area :
    ∃ r, createInMemory (replicate 1024 0) true=some r ∧
      (r.write .little (some (replicate 918 7)) 0).1 = .ok ∧
      readToEmpty .little (r.write .little (some (replicate 918 7)) 0).2=([],.ringbufCorrupted) ∧
      ¬Along (fun r c=>(r.call .little c).2) (DropsOnlyOldest .little) r [.write (some (replicate 918 7)) 0]:=by
  have hrun : ((createInMemory (replicate 1024 0) true).map fun r=>
      ((r.write .little (some (replicate 918 7)) 0).1,
        readToEmpty .little (r.write .little (some (replicate 918 7)) 0).2))=
      some (.ok,([],.ringbufCorrupted)):=by decide +kernel
  obtain ⟨r,hcreate,heq⟩:=Option.map_eq_some_iff.1 hrun
  obtain ⟨hok,hread⟩:=Prod.mk.injEq .. ▸ heq
  refine ⟨r,hcreate,hok,hread,fun h=>?_⟩
  obtain ⟨k,hk⟩:=h.1 hok
  rw [hread] at hk
  cases congrArg Prod.snd hk

end RingBuffer
end SoftMessageBus
