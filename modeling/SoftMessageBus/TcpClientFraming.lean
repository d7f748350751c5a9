import SoftMessageBus.TcpReceive

/-!
# Framing in the TCP client

The client keeps nothing of a message between two readiness events.
-/
namespace SoftMessageBus
open ByteEncoding ChunkedStream List

def Message.content (m : Message) : MessageHeader × Bytes:=(m.header,m.payloadBytes)

/-- A message that a sender may put on the wire. -/
structure Message.Valid (config : Option ℕ) (m : Message) : Prop where
  header_valid : isHeaderValid config m.header=true
  hasPayload : m.HasPayload

def Message.wireSize (m : Message) : ℕ:=m.wire.length
def Message.FitsTransportBuffer (m : Message) : Prop:=m.header.payloadSize.toNat ≤ maxTransportBufferSize-headerSize

lemma Message.sum_wireSize_eq {ms ms' : List Message} (h : ms.map Message.content=ms'.map Message.content) :
    (ms.map Message.wireSize).sum=(ms'.map Message.wireSize).sum:=by
  have hsize : Message.wireSize=
      (fun c : MessageHeader × Bytes=>(c.1.memory .big++c.2).length) ∘ Message.content:=by
    funext m
    rw [Message.wireSize,Message.wire,Function.comp_apply,Message.content]
  rw [hsize,← List.map_map,← List.map_map,h]

lemma Message.length_flatMap_wire (ms : List Message) :
    (ms.flatMap Message.wire).length=(ms.map Message.wireSize).sum:=
  length_flatMap

namespace Message.Valid
variable {config : Option ℕ} {m : Message}

lemma magic_eq (h : m.Valid config) : m.header.magic=msgMagicNumber:=by
  have hvalid:=h.header_valid
  simp only [isHeaderValid,validateMagicNumber,Bool.and_eq_true,beq_iff_eq] at hvalid
  exact hvalid.1.1

lemma wireSize_eq (h : m.Valid config) : m.wireSize=headerSize+m.header.payloadSize.toNat:=h.hasPayload.length_wire

lemma wireSize_pos (h : m.Valid config) : 0 < m.wireSize:=by
  rw [h.wireSize_eq]
  exact Nat.add_pos_left (by decide) _

end Message.Valid
section
variable {e : Endian} {config : Option ℕ} {alloc : ℕ→Bool} {rest : Bytes}

lemma hostHeader_wire (e : Endian) {m : Message} {bytes tail : Bytes}
    (hlen : headerSize≤bytes.length) (hwire : bytes++tail=m.wire++rest) :
    swapHeader e (.ofMemory e bytes)=m.header:=by
  rw [Message.wire,append_assoc] at hwire
  obtain ⟨more,rfl⟩ : m.header.memory .big <+: bytes:=
    prefix_of_prefix_length_le ⟨_,rfl⟩ ⟨tail,hwire⟩ ((MessageHeader.length_memory .big m.header).trans_le hlen)
  rw [swapHeader_ofMemory e hlen,MessageHeader.ofMemory_memory_append]

variable {queue : Bytes} {pending : List (Arrival UInt8)}

lemma tcpHandleIncomingData_header (halloc : ∀ n, alloc n=true) {m : Message}
    (hm : m.Valid config) (hcontents : Stream.contents ⟨queue,pending⟩=m.wire++rest)
    (hprompt : Prompt (tcpMaxRetryCount-1) (headerSize-queue.length) pending) :
    tcpHandleIncomingData e config alloc ⟨queue,pending⟩=
      if maxTransportBufferSize-headerSize < m.header.payloadSize.toNat then
        (none,Stream.skip headerSize queue pending)
      else tcpReceivePayload e alloc ((m.wire++rest).take headerSize)
        m.header.payloadSize.toNat (Stream.skip headerSize queue pending):=by
  have hread : tcpReadExactly ⟨queue,pending⟩ headerSize=
      (some ((m.wire++rest).take headerSize),Stream.skip headerSize queue pending):=by
    rw [tcpReadExactly_of_prompt hprompt,hcontents]
  have hlen : headerSize≤((m.wire++rest).take headerSize).length:=by
    have hsize:=hm.wireSize_eq
    rw [Message.wireSize] at hsize
    rw [length_take,length_append]
    omega
  have hheader:=hostHeader_wire e hlen (take_append_drop headerSize (m.wire++rest))
  simp only [tcpHandleIncomingData,halloc,hread,hheader,hm.header_valid,Bool.not_true,Bool.false_eq_true,if_false]

section
variable {headerBuffer : Bytes} {size : ℕ} (socket : Stream UInt8)

lemma tcpReceivePayload_of_prompt
    (hprompt : Prompt (tcpMaxRetryCount-1) (size-socket.queue.length) socket.pending) :
    tcpReceivePayload e alloc headerBuffer size socket=
      ((deserialize e alloc (some (headerBuffer++socket.contents.take size))
        (defaultMessage alloc) messageStructSize).toOption,
        Stream.skip size socket.queue socket.pending):=by
  have hread : (if 0<size then tcpReadExactly socket size else (some [],socket))=
      (some (socket.contents.take size),Stream.skip size socket.queue socket.pending):=by
    split
    · exact tcpReadExactly_of_prompt hprompt
    · obtain rfl : size=0:=by omega
      rw [take_zero,Stream.skip_zero]
  rw [tcpReceivePayload,hread]
  rfl

lemma tcpReceivePayload_of_not_prompt
    (hprompt : ¬Prompt (tcpMaxRetryCount-1) (size-socket.queue.length) socket.pending) :
    (tcpReceivePayload e alloc headerBuffer size socket).1=none:=by
  have hpos : 0<size:=by
    by_contra hzero
    rw [Nat.eq_zero_of_not_pos hzero,Nat.zero_sub] at hprompt
    exact hprompt (prompt_zero _ _)
  rw [tcpReceivePayload,if_pos hpos,tcpReadExactly_of_not_prompt hprompt]
  rfl

end

lemma tcpHandleIncomingData_delivers (halloc : ∀ n, alloc n=true) {m : Message}
    (hm : m.Valid config) (hfits : m.FitsTransportBuffer) (hcontents : Stream.contents ⟨queue,pending⟩=m.wire++rest)
    (hprompt : Prompt (tcpMaxRetryCount-1) (m.wireSize-queue.length) pending) :
    ∃ m', tcpHandleIncomingData e config alloc ⟨queue,pending⟩=
        (some m',Stream.skip m.wireSize queue pending) ∧ m'.content=m.content:=by
  rw [hm.wireSize_eq,prompt_add] at hprompt
  have hdef : ∃ out, defaultMessage alloc=some out:=⟨_,if_pos (halloc _)⟩
  obtain ⟨out,hout⟩:=hdef
  have hcomplete : (m.wire++rest).take headerSize++
      (Stream.skip headerSize queue pending).contents.take m.header.payloadSize.toNat=
      m.wire++[]:=by
    rw [Stream.contents_skip,hcontents,← take_add,← hm.wireSize_eq,Message.wireSize,take_left,append_nil]
  obtain ⟨m',hm',hheader,hbytes⟩:=deserialize_wire_append e halloc hm.hasPayload hm.magic_eq [] out
  refine ⟨m',?_,by rw [Message.content,Message.content,hheader,hbytes]⟩
  rw [tcpHandleIncomingData_header halloc hm hcontents hprompt.1,if_neg (Nat.not_lt.2 hfits),
    tcpReceivePayload_of_prompt _ hprompt.2,hcomplete,hout,hm',hm.wireSize_eq,Stream.skip_add]
  rfl

lemma tcpHandleIncomingData_drops (halloc : ∀ n, alloc n=true) {m : Message}
    (hm : m.Valid config) (hcontents : Stream.contents ⟨queue,pending⟩=m.wire++rest)
    (hbad : ¬(m.FitsTransportBuffer ∧ Prompt (tcpMaxRetryCount-1) (m.wireSize-queue.length) pending)) :
    (tcpHandleIncomingData e config alloc ⟨queue,pending⟩).1=none:=by
  rw [hm.wireSize_eq,prompt_add] at hbad
  by_cases hheader : Prompt (tcpMaxRetryCount-1) (headerSize-queue.length) pending
  · rw [tcpHandleIncomingData_header halloc hm hcontents hheader]
    split
    · rfl
    next hfits=>
      refine tcpReceivePayload_of_not_prompt _ fun hpayload=>?_
      exact hbad ⟨Nat.not_lt.1 hfits,hheader,hpayload⟩
  · have hread:=tcpReadExactly_of_not_prompt hheader
    rw [tcpHandleIncomingData,halloc]
    generalize tcpReadExactly ⟨queue,pending⟩ headerSize=result at hread ⊢
    obtain ⟨bytes,socket⟩:=result
    obtain rfl : bytes=none:=hread
    rfl

lemma sum_wireSize_deserialize_le (e : Endian) (halloc : ∀ n, alloc n=true) (buffer : Bytes) :
    ((deserialize e alloc (some buffer) (defaultMessage alloc)
      messageStructSize).toOption.toList.map Message.wireSize).sum≤buffer.length:=by
  have hdef : ∃ out, defaultMessage alloc=some out:=⟨_,if_pos (halloc _)⟩
  obtain ⟨out,hout⟩:=hdef
  rw [hout]
  cases h : deserialize e alloc (some buffer) (some out) messageStructSize with
  | error _=>exact Nat.zero_le _
  | ok m=>
    have hwire : m.wireSize≤buffer.length:=by
      rw [Message.wireSize,deserialize_wire halloc h,length_take]
      exact Nat.min_le_right _ _
    simpa [Except.toOption] using hwire

lemma tcpReceivePayload_count (halloc : ∀ n, alloc n=true) (headerBuffer : Bytes)
    (size : ℕ) (socket : Stream UInt8) :
    ((tcpReceivePayload e alloc headerBuffer size socket).1.toList.map Message.wireSize).sum+
        (tcpReceivePayload e alloc headerBuffer size socket).2.contents.length≤
      headerBuffer.length+socket.contents.length:=by
  have hread : ∃ bytes, socket.contents=bytes++
        (if 0<size then tcpReadExactly socket size else (some [],socket)).2.contents ∧
      ∀ out∈(if 0<size then tcpReadExactly socket size else (some [],socket)).1, out=bytes:=by
    split
    · exact tcpReadExactly_contents socket size
    · exact ⟨[],rfl,by simp⟩
  rw [tcpReceivePayload]
  generalize (if 0<size then tcpReadExactly socket size else (some [],socket))=result at hread
  obtain ⟨received,rest⟩:=result
  obtain ⟨bytes,hcontents,hout⟩:=hread
  rw [hcontents,length_append]
  cases received with
  | none=>
    simp only [Option.bind_none,Option.toList_none,map_nil,sum_nil]
    omega
  | some payload=>
    obtain rfl:=hout payload rfl
    have hle:=sum_wireSize_deserialize_le e halloc (headerBuffer++payload)
    rw [length_append] at hle
    simp only [Option.bind_some]
    omega

lemma tcpHandleIncomingData_count (e : Endian) (config : Option ℕ) (halloc : ∀ n, alloc n=true) (socket : Stream UInt8) :
    ((tcpHandleIncomingData e config alloc socket).1.toList.map Message.wireSize).sum+
        (tcpHandleIncomingData e config alloc socket).2.contents.length≤
      socket.contents.length:=by
  obtain ⟨bytes,hcontents,hout⟩:=tcpReadExactly_contents socket headerSize
  have hlen:=congrArg length hcontents
  rw [length_append] at hlen
  rw [tcpHandleIncomingData,halloc]
  generalize tcpReadExactly socket headerSize=result at hout hlen
  obtain ⟨received,rest⟩:=result
  dsimp only at hlen
  cases received with
  | none=>
    simp only [Bool.not_true,Bool.false_eq_true,if_false,Option.toList_none,map_nil,sum_nil]
    omega
  | some headerBuffer=>
    obtain rfl:=hout headerBuffer rfl
    have hdrop : ((none : Option Message).toList.map Message.wireSize).sum+rest.contents.length≤
        socket.contents.length:=by
      simp only [Option.toList_none,map_nil,sum_nil]
      omega
    simp only [Bool.not_true,Bool.false_eq_true,if_false]
    split
    · exact hdrop
    split
    · exact hdrop
    split
    · exact hdrop
    · rw [hlen]
      exact tcpReceivePayload_count halloc headerBuffer _ rest

lemma tcpHandleIncomingData_lt (halloc : ∀ n, alloc n=true) {socket : Stream UInt8} (hqueue : socket.queue≠[]) :
    (tcpHandleIncomingData e config alloc socket).2.contents.length<socket.contents.length:=by
  have hlt:=tcpReadExactly_lt hqueue (show 0<headerSize by decide)
  rw [tcpHandleIncomingData,halloc]
  generalize tcpReadExactly socket headerSize=result at hlt
  obtain ⟨received,rest⟩:=result
  cases received with
  | none=>exact hlt
  | some headerBuffer=>
    simp only [Bool.not_true,Bool.false_eq_true,if_false]
    split
    · exact hlt
    split
    · exact hlt
    split
    · exact hlt
    · refine lt_of_le_of_lt ?_ hlt
      rw [tcpReceivePayload]
      dsimp only
      split
      · exact tcpReadExactly_le _ _
      · exact le_refl _

end
section
variable {Handler UserData : Type*} {e : Endian} {config : Option ℕ} {alloc : ℕ→Bool}
  {observers : DataObservers Handler UserData} {o : DataObserver Handler UserData}
  {socket : Stream UInt8}

lemma tcpClientEventLoop_ended (rounds : ℕ) (hcontents : socket.contents=[]) :
    tcpClientEventLoop e config alloc observers rounds socket=[]:=by
  cases rounds with
  | zero=>rfl
  | succ rounds=>
    rw [Stream.contents_eq_nil hcontents]
    rfl

variable [DecidableEq Handler]

lemma received_tcpClientEventLoop_succ (ho : o∈observers.items) (rounds : ℕ) (hcontents : socket.contents≠[]) :
    received o.handler (tcpClientEventLoop e config alloc observers (rounds+1) socket)=
      (tcpHandleIncomingData e config alloc socket.await).1.toList++
        received o.handler (tcpClientEventLoop e config alloc observers rounds
          (tcpHandleIncomingData e config alloc socket.await).2):=by
  have hready : socket.await.queue.isEmpty=false:=isEmpty_eq_false_iff.2 (Stream.queue_await hcontents)
  rw [tcpClientEventLoop,hready,if_neg Bool.false_ne_true,received_append]
  congr 1
  cases (tcpHandleIncomingData e config alloc socket.await).1 with
  | none=>rfl
  | some msg=>exact received_notify ho msg

lemma received_tcpClientEventLoop_count (e : Endian) (config : Option ℕ)
    (halloc : ∀ n, alloc n=true) (ho : o∈observers.items) (rounds : ℕ) (socket : Stream UInt8) :
    ((received o.handler (tcpClientEventLoop e config alloc observers rounds socket)).map
      Message.wireSize).sum ≤ socket.contents.length:=by
  induction rounds generalizing socket with
  | zero=>exact Nat.zero_le _
  | succ rounds ih=>
    by_cases hcontents : socket.contents=[]
    · rw [tcpClientEventLoop_ended _ hcontents]
      exact Nat.zero_le _
    · have hstep:=tcpHandleIncomingData_count e config halloc socket.await
      have hrest:=ih (tcpHandleIncomingData e config alloc socket.await).2
      rw [Stream.contents_await] at hstep
      rw [received_tcpClientEventLoop_succ ho rounds hcontents,map_append,List.sum_append]
      omega

lemma tcpHandleIncomingData_append_iff (halloc : ∀ n, alloc n=true) {m : Message}
    {ms : List Message} (hm : m.Valid config) {queue : Bytes} {pending : List (Arrival UInt8)} (hqueue : queue≠[])
    (hcontents : Stream.contents ⟨queue,pending⟩=m.wire++ms.flatMap Message.wire) {rest : Stream UInt8→List Message}
    (hcount : ∀ socket, ((rest socket).map Message.wireSize).sum ≤ socket.contents.length) :
    ((tcpHandleIncomingData e config alloc ⟨queue,pending⟩).1.toList++
        rest (tcpHandleIncomingData e config alloc ⟨queue,pending⟩).2).map Message.content=(m::ms).map Message.content ↔
      (m.FitsTransportBuffer ∧ Prompt (tcpMaxRetryCount-1) (m.wireSize-queue.length) pending) ∧
      (rest (Stream.skip m.wireSize queue pending)).map Message.content=ms.map Message.content:=by
  by_cases hgood : m.FitsTransportBuffer ∧
      Prompt (tcpMaxRetryCount-1) (m.wireSize-queue.length) pending
  · obtain ⟨m',hm',hcontains⟩:=tcpHandleIncomingData_delivers (e:=e) halloc hm hgood.1 hcontents hgood.2
    simp only [hm',hgood,hcontains,Option.toList_some,singleton_append,map_cons,List.cons.injEq,true_and,and_self]
  · simp only [hgood,false_and,iff_false]
    rw [tcpHandleIncomingData_drops halloc hm hcontents hgood,Option.toList_none,nil_append]
    intro hsame
    have hsum:=Message.sum_wireSize_eq hsame
    have hle:=hcount (tcpHandleIncomingData e config alloc ⟨queue,pending⟩).2
    have hlt : (tcpHandleIncomingData e config alloc ⟨queue,pending⟩).2.contents.length<
        (Stream.contents ⟨queue,pending⟩).length:=tcpHandleIncomingData_lt halloc hqueue
    rw [hcontents,← flatMap_cons,Message.length_flatMap_wire] at hlt
    omega

lemma received_tcpClientEventLoop_iff (halloc : ∀ n, alloc n=true) (ho : o∈observers.items)
    {sent : List Message} (hvalid : ∀ m∈sent, m.Valid config)
    (hcontents : socket.contents=sent.flatMap Message.wire) {rounds : ℕ} (hrounds : socket.contents.length≤rounds) :
    (received o.handler (tcpClientEventLoop e config alloc observers rounds socket)).map
        Message.content=sent.map Message.content ↔
      (∀ m∈sent, m.FitsTransportBuffer) ∧
        Timely (tcpMaxRetryCount-1) (IsBoundary (sent.map Message.wireSize)) socket.queue.length socket.pending:=by
  induction sent generalizing socket rounds with
  | nil=>
    rw [tcpClientEventLoop_ended rounds hcontents,Stream.contents_eq_nil hcontents]
    exact ⟨fun _=>⟨fun _ hm=>absurd hm not_mem_nil,trivial⟩,fun _=>rfl⟩
  | cons m ms ih=>
    have hm : m.Valid config:=hvalid m mem_cons_self
    have hpos:=hm.wireSize_pos
    have hlen : socket.contents.length=m.wireSize+(ms.map Message.wireSize).sum:=by
      rw [hcontents,Message.length_flatMap_wire,map_cons,sum_cons]
    have hne : socket.contents≠[]:=by
      rw [← length_pos_iff]
      omega
    obtain ⟨rounds,rfl⟩ : ∃ k, rounds=k+1:=⟨rounds-1,by omega⟩
    have hready:=Stream.queue_await hne
    rw [received_tcpClientEventLoop_succ ho rounds hne,timely_await socket _ (isBoundary_zero _)]
    rw [← Stream.contents_await] at hcontents hlen hrounds
    generalize socket.await=ready at hready hcontents hlen hrounds
    obtain ⟨queue,pending⟩:=ready
    have hskip : (Stream.skip m.wireSize queue pending).contents=ms.flatMap Message.wire:=by
      rw [Stream.contents_skip,hcontents,flatMap_cons,Message.wireSize,drop_left]
    have hrest : (Stream.skip m.wireSize queue pending).contents.length≤rounds:=by
      rw [hskip,Message.length_flatMap_wire]
      omega
    rw [tcpHandleIncomingData_append_iff halloc hm hready hcontents (received_tcpClientEventLoop_count e config
      halloc ho rounds),ih (fun m' hm'=>hvalid m' (mem_cons_of_mem m hm')) hskip hrest,map_cons,
      forall_mem_cons,and_and_and_comm]
    exact and_congr_right' (timely_frame_iff hready hpos (by rw [hlen]; omega)).symm

/-- A registered observer is handed exactly the messages sent if and only if all fit and each chunk
comes before the reader gives up. -/
theorem tcp_client_framing_iff (e : Endian) (config : Option ℕ) (alloc : ℕ→Bool)
    (halloc : ∀ n, alloc n=true) (observers : DataObservers Handler UserData)
    (o : DataObserver Handler UserData) (ho : o∈observers.items) (sent : List Message)
    (hvalid : ∀ m∈sent, m.Valid config) (arrivals : List (Arrival UInt8))
    (hbytes : arrivals.flatMap Arrival.items=sent.flatMap Message.wire) (rounds : ℕ)
    (hrounds : (sent.flatMap Message.wire).length≤rounds) :
    (received o.handler
        (tcpClientEventLoop e config alloc observers rounds ⟨[],arrivals⟩)).map
        Message.content=sent.map Message.content ↔
      (∀ m∈sent, m.header.payloadSize.toNat ≤ maxTransportBufferSize-headerSize) ∧
        Timely (tcpMaxRetryCount-1) (IsBoundary (sent.map Message.wireSize)) 0 arrivals:=by
  have hcontents : Stream.contents ⟨[],arrivals⟩=sent.flatMap Message.wire:=by
    rw [Stream.contents_mk,nil_append,hbytes]
  exact received_tcpClientEventLoop_iff halloc ho hvalid hcontents (hcontents ▸ hrounds)

end

def soleObserver : DataObservers Unit Unit:=DataObservers.empty.add ⟨(),()⟩

def splitPublication (delay : ℕ) : List (Arrival UInt8):=
  [⟨7,samplePublication.wire.take 50,by decide⟩, ⟨delay,samplePublication.wire.drop 50,by decide⟩]

lemma splitPublication_bytes (delay : ℕ) :
    (splitPublication delay).flatMap Arrival.items=[samplePublication].flatMap Message.wire:=by
  simp only [splitPublication,flatMap_cons,flatMap_nil,append_nil,take_append_drop]

lemma samplePublication_valid : samplePublication.Valid none:=⟨by decide,by decide⟩

theorem tcp_client_framing_prompt_split :
    (received () (tcpClientEventLoop .little none (fun _=>true) soleObserver 200
      ⟨[],splitPublication 1⟩)).map Message.content=[samplePublication].map Message.content:=
  (tcp_client_framing_iff .little none (fun _=>true) (fun _=>rfl) soleObserver ⟨(),()⟩
    (mem_singleton_self _) [samplePublication] (forall_mem_singleton.2 samplePublication_valid)
    (splitPublication 1) (splitPublication_bytes 1) 200 (by decide)).2
    ⟨forall_mem_singleton.2 (by decide),.inl (isBoundary_zero _),.inr (by decide),trivial⟩

/-- A message whose second chunk is late is lost. -/
theorem tcp_client_drops_late_split :
    samplePublication.Valid none ∧
      (splitPublication 2).flatMap Arrival.items=[samplePublication].flatMap Message.wire ∧
      received () (tcpClientEventLoop .little none (fun _=>true) soleObserver 200 ⟨[],splitPublication 2⟩)=[]:=
  ⟨samplePublication_valid,splitPublication_bytes 2,List.isEmpty_iff.1 (by decide +kernel)⟩

end SoftMessageBus
