import SoftMessageBus.TcpServer

/-!
# The parse loop of the TCP server

`tcp_server_handle_client_events` walks over the bytes of a socket read.
-/
namespace SoftMessageBus
open ByteEncoding MemoryBlocks List Bool

def tcpReceiveBufferSize : ℕ:=8192

/-- What a call of `zoo_socket_recv` has put into the receive buffer. -/
structure SocketRead where
  bytes : Bytes
  length_le : bytes.length≤tcpReceiveBufferSize

/-- The difference of two values of type `size_t`. -/
def sizeSub (m n : ℕ) : ℕ:=(m+2^64-n) % 2^64

/-- Read `size` bytes of the buffer from `offset` on. -/
def SocketRead.load (r : SocketRead) (offset size : ℕ) : Option Bytes:=
  if offset+size≤r.bytes.length then some (slice r.bytes offset size) else none

/-- The offset of the loop, the messages handed over, and `client->active`. -/
structure ParseState where
  offset : ℕ
  delivered : List Message
  active : Bool

section
variable (e : Endian) (config : Option ℕ) (alloc : ℕ→ℕ→Bool) (r : SocketRead)

def parseRound (s : ParseState) : Option (Bool × ParseState):=
  if sizeSub r.bytes.length s.offset<headerSize then some (false,s)
  else do
    let header ← r.load s.offset headerSize
    let hostHeader:=swapHeader e (.ofMemory e header)
    if !isHeaderValid config hostHeader then some (false,{s with active:=false})
    else
      let totalMsgSize:=headerSize+hostHeader.payloadSize.toNat
      if sizeSub r.bytes.length s.offset<totalMsgSize then some (false,s)
      else do
        let frame ← r.load s.offset totalMsgSize
        match deserialize e (alloc s.offset) (some frame) (some clearedMessage)
          messageStructSize with
        | .ok msg=>
          some (true,{s with offset:=s.offset+totalMsgSize, delivered:=s.delivered++[msg]})
        | .error _=>some (true,{s with offset:=s.offset+totalMsgSize})

/-- The loop with a bound on the number of rounds; the inner `none` is a loop that has not ended
within it. -/
def parseLoop : ℕ→ParseState→Option (Option ParseState)
  | 0, _=>some none
  | fuel+1, s=>do
    let (goesOn,s) ← parseRound e config alloc r s
    if goesOn then parseLoop fuel s else some (some s)

end

/-- The bytes are complete valid frames followed by a rest that does not begin with one. -/
structure Framing (config : Option ℕ) (bytes : Bytes) (frames : List Message)
    (rest : Bytes) : Prop where
  bytes_eq : bytes=frames.flatMap Message.wire++rest
  valid : ∀ m∈frames, m.Valid config
  maximal : ∀ m tail, Message.Valid config m → rest≠m.wire++tail

def servedAt (alloc : ℕ→ℕ→Bool) (offset : ℕ) (m : Message) : Bool:=
  m.header.payloadSize.toNat=0 || alloc offset m.header.payloadSize.toNat

/-- The frames, from an offset on, whose payloads the pool serves. -/
def servedFrames (alloc : ℕ→ℕ→Bool) : ℕ→List Message→List Message
  | _, []=>[]
  | offset, m::ms=>
    let rest:=servedFrames alloc (offset+m.wireSize) ms
    if servedAt alloc offset m then m::rest else rest

lemma sizeSub_of_le {m n : ℕ} (h : n ≤ m) (hm : m<2^64) : sizeSub m n=m-n:=by
  rw [sizeSub,Nat.sub_add_comm h,Nat.add_mod_right,Nat.mod_eq_of_lt (by omega)]

variable {offset : ℕ}

lemma SocketRead.sizeSub_eq (r : SocketRead) (h : offset≤r.bytes.length) :
    sizeSub r.bytes.length offset=r.bytes.length-offset:=
  sizeSub_of_le h (Nat.lt_of_le_of_lt r.length_le (by decide))

lemma SocketRead.load_of_le (r : SocketRead) {size : ℕ} (h : offset+size≤r.bytes.length) :
    r.load offset size=some (slice r.bytes offset size):=
  if_pos h

lemma ofMemory_slice (e : Endian) {bytes : Bytes} (h : offset+headerSize≤bytes.length) :
    MessageHeader.ofMemory e (slice bytes offset headerSize) = .ofMemory e (bytes.drop offset):=by
  have hlen : headerSize≤(bytes.drop offset).length:=by
    rw [length_drop]
    omega
  rw [slice,← MessageHeader.memory_ofMemory e hlen]
  have happ:=MessageHeader.ofMemory_memory_append e (.ofMemory e (bytes.drop offset)) []
  rwa [append_nil] at happ

section
variable {config : Option ℕ} {m : Message}

lemma deserialize_frame (e : Endian) (alloc : ℕ→Bool) (hm : m.Valid config) (out : Message) :
    deserialize e alloc (some m.wire) (some out) messageStructSize=copyPayloadData alloc m.wire out m.header:=by
  have hheader : MessageHeader.ofMemory .big m.wire=m.header:=
    MessageHeader.ofMemory_memory_append .big m.header m.payloadBytes
  have hsize : headerSize ≤ m.wire.length:=by
    rw [hm.hasPayload.length_wire]
    exact Nat.le_add_right _ _
  have hpar : validateDeserializeParams m.wire messageStructSize = .ok:=by
    simp [validateDeserializeParams,hsize]
  simp only [deserialize,Nat.lt_irrefl,if_false,hpar,extractAndValidateHeader_eq e hsize,hheader,hm.magic_eq,if_true]
  rfl

variable (e : Endian) {alloc : ℕ→ℕ→Bool} {offset : ℕ}

lemma deserialize_frame_served (hm : m.Valid config) (hserved : servedAt alloc offset m=true) (out : Message) :
    ∃ m', deserialize e (alloc offset) (some m.wire) (some out) messageStructSize = .ok m' ∧ m'.content=m.content:=by
  have halloc (n : ℕ) : (fun _ : ℕ=>true) n=true:=rfl
  obtain ⟨m',hm',hheader,hbytes⟩:=deserialize_wire_append e halloc hm.hasPayload hm.magic_eq [] out
  rw [append_nil,deserialize_frame e _ hm] at hm'
  refine ⟨m',?_,by rw [Message.content,Message.content,hheader,hbytes]⟩
  rw [deserialize_frame e _ hm,← hm',copyPayloadData,copyPayloadData]
  rw [servedAt,or_eq_true,decide_eq_true_eq] at hserved
  split
  · rfl
  · split
    next hpos=>rw [if_pos (hserved.resolve_left hpos.ne'),if_pos rfl]
    · rfl

lemma deserialize_frame_refused (hm : m.Valid config) (href : servedAt alloc offset m=false) (out : Message) :
    ∃ error, deserialize e (alloc offset) (some m.wire) (some out) messageStructSize = .error error:=by
  rw [servedAt,or_eq_false_iff,decide_eq_false_iff_not] at href
  rw [deserialize_frame e _ hm,copyPayloadData]
  split
  · exact ⟨_,rfl⟩
  · rw [dif_pos (Nat.pos_of_ne_zero href.1),if_neg (not_eq_true _ ▸ href.2)]
    exact ⟨_,rfl⟩

lemma exists_frame (e : Endian) {bytes : Bytes}
    (hvalid : isHeaderValid config (swapHeader e (.ofMemory e bytes))=true) (hsize : headerSize≤bytes.length)
    (hlen : headerSize+(swapHeader e (.ofMemory e bytes)).payloadSize.toNat≤bytes.length) :
    ∃ m tail, Message.Valid config m ∧ bytes=m.wire++tail:=by
  rw [swapHeader_ofMemory e hsize] at hvalid hlen
  have hmagic : (MessageHeader.ofMemory .big bytes).magic=msgMagicNumber:=by
    simp only [isHeaderValid,validateMagicNumber,and_eq_true,beq_iff_eq] at hvalid
    exact hvalid.1.1
  have hacc : Accepts bytes:=by
    refine ⟨hsize,?_,?_⟩
    · rw [← MessageHeader.ofMemory_magic,hmagic]
    · rwa [← MessageHeader.ofMemory_payloadSize]
  have halloc (n : ℕ) : (fun _ : ℕ=>true) n=true:=rfl
  obtain ⟨m,hm⟩:=exists_deserialize e halloc hacc clearedMessage
  have hheader:=((deserialize_eq_ok_iff e halloc).1 hm).2.1
  refine ⟨m,bytes.drop (calculateRequiredBufferSize m),⟨by rw [hheader,hvalid],(deserialize_payload halloc hm).1⟩,?_⟩
  rw [deserialize_wire halloc hm,take_append_drop]

end
section
variable {e : Endian} {config : Option ℕ} {alloc : ℕ→ℕ→Bool} {r : SocketRead} {s : ParseState}

lemma parseRound_frame (e : Endian) (alloc : ℕ→ℕ→Bool) {m : Message}
    (hm : m.Valid config) {tail : Bytes} (hoffset : s.offset≤r.bytes.length)
    (hbytes : r.bytes.drop s.offset=m.wire++tail) :
    ∃ ms, parseRound e config alloc r s=
        some (true, {s with
          offset:=s.offset+m.wireSize
          delivered:=s.delivered++ms}) ∧
      ms.map Message.content=(servedFrames alloc s.offset [m]).map Message.content:=by
  have hlen:=congrArg length hbytes
  rw [length_drop,length_append,hm.hasPayload.length_wire,calculateRequiredBufferSize] at hlen
  have hheader : swapHeader e (.ofMemory e (slice r.bytes s.offset headerSize))=m.header:=by
    rw [ofMemory_slice e (by omega),hbytes]
    exact hostHeader_wire e (by rw [← hbytes,length_drop]; omega) (append_nil _)
  have hframe : slice r.bytes s.offset (headerSize+m.header.payloadSize.toNat)=m.wire:=by
    rw [slice,hbytes,← hm.wireSize_eq]
    exact take_left
  have hround : parseRound e config alloc r s=
      match deserialize e (alloc s.offset) (some m.wire) (some clearedMessage)
        messageStructSize with
      | .ok msg=>
        some (true,{s with offset:=s.offset+m.wireSize, delivered:=s.delivered++[msg]})
      | .error _=>some (true,{s with offset:=s.offset+m.wireSize}):=by
    rw [parseRound,r.sizeSub_eq hoffset,if_neg (by omega),r.load_of_le (by omega)]
    simp only [Option.bind_eq_bind,Option.bind_some,hheader,hm.header_valid,Bool.not_true,false_eq_true,if_false]
    rw [if_neg (by omega),r.load_of_le (by omega),hframe,hm.wireSize_eq]
    simp only [Option.bind_some]
  rw [hround]
  cases hserved : servedAt alloc s.offset m with
  | true=>
    obtain ⟨m',hm',hcontent⟩:=deserialize_frame_served e hm hserved clearedMessage
    exact ⟨[m'],by rw [hm'],by simp [servedFrames,hserved,hcontent]⟩
  | false=>
    obtain ⟨error,herror⟩:=deserialize_frame_refused e hm hserved clearedMessage
    exact ⟨[],by rw [herror,append_nil],by simp [servedFrames,hserved]⟩

lemma parseRound_rest {rest : Bytes} (hoffset : s.offset≤r.bytes.length)
    (hbytes : r.bytes.drop s.offset=rest) (hmax : ∀ m tail, Message.Valid config m → rest≠m.wire++tail) :
    parseRound e config alloc r s=some (false, {s with
      active:=s.active && !(decide (headerSize≤rest.length) &&
        !isHeaderValid config (swapHeader e (.ofMemory e rest)))}):=by
  have hlen:=congrArg length hbytes
  rw [length_drop] at hlen
  rw [parseRound,r.sizeSub_eq hoffset,hlen]
  by_cases hsize : rest.length<headerSize
  · simp [hsize,Nat.not_le.2 hsize]
  rw [if_neg hsize,r.load_of_le (by omega)]
  simp only [Option.bind_eq_bind,Option.bind_some]
  rw [ofMemory_slice e (by omega),hbytes]
  cases hvalid : isHeaderValid config (swapHeader e (.ofMemory e rest)) with
  | false=>simp [Nat.le_of_not_lt hsize]
  | true=>
    have hshort : rest.length<
        headerSize+(swapHeader e (.ofMemory e rest)).payloadSize.toNat:=by
      by_contra hcomplete
      obtain ⟨m,tail,hm,hrest⟩:=exists_frame e hvalid (Nat.le_of_not_lt hsize) (Nat.le_of_not_lt hcomplete)
      exact hmax m tail hm hrest
    simp [hshort]

lemma parseLoop_frames (e : Endian) (alloc : ℕ→ℕ→Bool) {frames : List Message}
    {rest : Bytes} (hvalid : ∀ m∈frames, m.Valid config)
    (hmax : ∀ m tail, Message.Valid config m → rest≠m.wire++tail) (hoffset : s.offset≤r.bytes.length)
    (hbytes : r.bytes.drop s.offset=frames.flatMap Message.wire++rest) :
    ∃ offset ms, (∀ fuel, frames.length<fuel→parseLoop e config alloc r fuel s=
        some (some ⟨offset,s.delivered++ms,s.active &&
          !(decide (headerSize≤rest.length) && !isHeaderValid config (swapHeader e (.ofMemory e rest)))⟩)) ∧
      ms.map Message.content=(servedFrames alloc s.offset frames).map Message.content:=by
  induction frames generalizing s with
  | nil=>
    refine ⟨s.offset,[],fun fuel hfuel=>?_,rfl⟩
    obtain ⟨fuel,rfl⟩:=Nat.exists_eq_add_of_lt hfuel
    rw [parseLoop,parseRound_rest hoffset hbytes hmax,append_nil]
    rfl
  | cons m frames ih=>
    rw [flatMap_cons,append_assoc] at hbytes
    have hm:=hvalid m mem_cons_self
    obtain ⟨first,hround,hcontent⟩:=parseRound_frame e alloc hm hoffset hbytes
    have hlen:=congrArg length hbytes
    rw [length_drop,length_append] at hlen
    have hnext : s.offset+m.wireSize≤r.bytes.length:=by
      rw [Message.wireSize]
      omega
    have hdrop : r.bytes.drop (s.offset+m.wireSize)=frames.flatMap Message.wire++rest:=by
      rw [← drop_drop,hbytes]
      exact drop_left
    obtain ⟨offset,ms,hloop,hrest⟩:=
      ih (s:=⟨s.offset+m.wireSize,s.delivered++first,s.active⟩) (fun m' hm'=>hvalid m' (mem_cons_of_mem m hm')) hnext hdrop
    refine ⟨offset,first++ms,fun fuel hfuel=>?_,?_⟩
    · obtain ⟨fuel,rfl⟩:=Nat.exists_eq_add_of_lt hfuel
      rw [parseLoop,hround]
      simp only [Option.bind_eq_bind,Option.bind_some,if_true]
      rw [hloop _ (by simp only [length_cons]; omega),append_assoc]
    · rw [map_append,hcontent,hrest,← map_append]
      simp only [servedFrames]
      split <;> rfl

lemma exists_framing (config : Option ℕ) (bytes : Bytes) :
    ∃ frames rest, Framing config bytes frames rest:=by
  generalize hn : bytes.length=n
  induction n using Nat.strong_induction_on generalizing bytes with
  | _ n ih=>
    by_cases hframe : ∃ m tail, Message.Valid config m ∧ bytes=m.wire++tail
    · obtain ⟨m,tail,hm,rfl⟩:=hframe
      have hpos:=hm.wireSize_pos
      have htail : tail.length<n:=by
        rw [← hn,length_append]
        exact Nat.lt_add_of_pos_left hpos
      obtain ⟨frames,rest,hframing⟩:=ih tail.length htail tail rfl
      refine ⟨m::frames,rest,?_,forall_mem_cons.2 ⟨hm,hframing.valid⟩,hframing.maximal⟩
      rw [flatMap_cons,append_assoc,← hframing.bytes_eq]
    · exact ⟨[],bytes,rfl,forall_mem_nil _,fun m tail hm hbytes=>hframe ⟨m,tail,hm,hbytes⟩⟩

lemma length_frames_le {frames : List Message} (hvalid : ∀ m∈frames, m.Valid config) :
    frames.length≤(frames.flatMap Message.wire).length:=by
  induction frames with
  | nil=>exact Nat.zero_le _
  | cons m frames ih=>
    have hpos:=(hvalid m mem_cons_self).wireSize_pos
    have hrest:=ih fun m' hm'=>hvalid m' (mem_cons_of_mem m hm')
    rw [Message.wireSize] at hpos
    rw [length_cons,flatMap_cons,length_append]
    omega

end

/-- The loop over the buffer reads inside it and does what the parser of a chunk does. -/
theorem parseLoop_eq_tcpServerParse (e : Endian) (config : Option ℕ) (alloc : ℕ→Bool)
    (r : SocketRead) {fuel : ℕ} {s : ParseState} (hoffset : s.offset≤r.bytes.length) (hfuel : r.bytes.length-s.offset≤fuel) :
    ∃ offset, parseLoop e config (fun _=>alloc) r (fuel+1) s=
      let parsed:=tcpServerParse e config alloc fuel (r.bytes.drop s.offset)
      some (some ⟨offset,s.delivered++parsed.1,s.active && parsed.2⟩):=by
  have hheader : 0<headerSize:=by decide
  induction fuel generalizing s with
  | zero=>
    refine ⟨s.offset,?_⟩
    rw [parseLoop,parseRound,r.sizeSub_eq hoffset,if_pos (by omega)]
    simp [tcpServerParse]
  | succ fuel ih=>
    rw [parseLoop,parseRound,r.sizeSub_eq hoffset,tcpServerParse,length_drop]
    by_cases hsize : r.bytes.length-s.offset<headerSize
    · exact ⟨s.offset,by simp [hsize]⟩
    rw [if_neg hsize,if_neg hsize,r.load_of_le (by omega)]
    simp only [Option.bind_eq_bind,Option.bind_some]
    rw [ofMemory_slice e (by omega)]
    generalize swapHeader e (.ofMemory e (r.bytes.drop s.offset))=header
    cases isHeaderValid config header with
    | false=>exact ⟨s.offset,by simp⟩
    | true=>
      simp only [Bool.not_true,false_eq_true,if_false]
      by_cases htotal : r.bytes.length-s.offset<headerSize+header.payloadSize.toNat
      · exact ⟨s.offset,by simp [htotal]⟩
      rw [if_neg htotal,if_neg htotal,r.load_of_le (by omega),slice,drop_drop]
      simp only [Option.bind_some]
      cases deserialize e alloc (some ((r.bytes.drop s.offset).take
        (headerSize+header.payloadSize.toNat))) (some clearedMessage) messageStructSize with
      | ok msg=>
        obtain ⟨offset,hrest⟩:=ih (s:={s with
          offset:=s.offset+(headerSize+header.payloadSize.toNat)
          delivered:=s.delivered++[msg]}) (by simp only; omega) (by simp only; omega)
        refine ⟨offset,?_⟩
        rw [Option.bind_some,if_pos rfl,hrest]
        simp only [append_assoc,singleton_append]
      | error code=>
        obtain ⟨offset,hrest⟩:=ih (s:={s with
          offset:=s.offset+(headerSize+header.payloadSize.toNat)})
          (by simp only; omega) (by simp only; omega)
        refine ⟨offset,?_⟩
        rw [Option.bind_some,if_pos rfl,hrest]

theorem parseLoop_samplePublication :
    let r : SocketRead:=⟨samplePublication.wire,by decide⟩
    ∃ offset, parseLoop .little none (fun _ _=>true) r 110 ⟨0,[],true⟩=
      let parsed:=tcpServerParse .little none (fun _=>true) 109 r.bytes
      some (some ⟨offset,parsed.1,parsed.2⟩):=
  parseLoop_eq_tcpServerParse .little none (fun _=>true) _ (Nat.zero_le _) (le_refl 109)

/-- The parse loop hands over exactly the complete frames that can be allocated, and drops the
client exactly for an invalid header. -/
theorem parse_loop_delivers_frames (e : Endian) (config : Option ℕ) (alloc : ℕ→ℕ→Bool) (r : SocketRead) :
    (∃ frames rest, Framing config r.bytes frames rest) ∧
      ∀ frames rest, Framing config r.bytes frames rest→
        ∃ s, (∀ fuel, r.bytes.length<fuel→
            parseLoop e config alloc r fuel ⟨0,[],true⟩=some (some s)) ∧
          s.delivered.map Message.content=(servedFrames alloc 0 frames).map Message.content ∧
          (s.active=false ↔ headerSize≤rest.length ∧ isHeaderValid config (swapHeader e (.ofMemory e rest))=false):=by
  refine ⟨exists_framing config r.bytes,fun frames rest h=>?_⟩
  obtain ⟨offset,ms,hloop,hcontent⟩:=parseLoop_frames e alloc (s:=⟨0,[],true⟩) h.valid h.maximal (Nat.zero_le _) h.bytes_eq
  have hcount:=length_frames_le h.valid
  have hlength:=congrArg length h.bytes_eq
  rw [length_append] at hlength
  refine ⟨_,fun fuel hfuel=>hloop fuel (by omega),hcontent,?_⟩
  simp

/-- Without the memory for its payload a complete valid frame is skipped. -/
theorem refused_frame_skipped :
    samplePublication.Valid none ∧
      ∃ r : SocketRead, r.bytes=samplePublication.wire ∧
        (parseLoop .little none (fun _ _=>false) r 200 ⟨0,[],true⟩).map
          (Option.map fun s=>(s.delivered.length,s.active))=some (some (0,true)):=
  ⟨samplePublication_valid,⟨samplePublication.wire,by decide⟩,rfl,by decide +kernel⟩

end SoftMessageBus
