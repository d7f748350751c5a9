import SoftMessageBus.ShmProcessing
import SoftMessageBus.TcpServer

/-!
# The receive paths of the transports

A message comes in as a datagram, from a socket, or in a ring.
-/
namespace SoftMessageBus
open ByteEncoding MemoryBlocks ChunkedStream List

def maxBroadcastTransportBufferSize : ℕ:=512

/-- `handle_incoming_data` of the datagram transports: the message handed to the data
observers, if any. -/
def udpHandleIncomingData (e : Endian) (alloc : ℕ→Bool) (buffer : Bytes) : Option Message:=
  (deserialize e alloc (some buffer) (defaultMessage alloc) messageStructSize).toOption

/-- A round of `udp_server_receive_loop` and of `udp_client_receive_loop`. -/
def udpReceive (e : Endian) (alloc : ℕ→Bool) (datagram : Bytes) : Option Message:=
  let buffer:=datagram.take maxTransportBufferSize
  if 0<buffer.length then udpHandleIncomingData e alloc buffer else none

/-- `handle_epoll_events` of the broadcast transport on a datagram. -/
def udpBroadcastReceive (e : Endian) (alloc : ℕ→Bool) (datagram : Bytes) : Option Message:=
  udpHandleIncomingData e alloc (datagram.take maxBroadcastTransportBufferSize)

def clientMaxMessageSize : ℕ:=64*1024
def clientValidateMessageSize (size : ℕ) : Bool:=decide (0<size) && decide (size≤clientMaxMessageSize)

/-- A round of `client_process_server_messages` on a ring that has data. -/
def clientProcessServerMessage (e : Endian) (ring : RingBuffer) (calls : ProcessCalls) (shouldStop : Bool) : ShmProcessed:=
  let msgSize:=ring.getNextMessageSize e
  if !clientValidateMessageSize msgSize then ⟨.ringbufCorrupted,[],[],ring.clear⟩
  else if !calls.bufferAllocated then ⟨.outOfMemory,[],[],ring⟩
  else
    let result:=ring.read e true msgSize
    if result.code = .ok then
      match defaultMessage calls.alloc with
      | none=>⟨.outOfMemory,[result.bytes],[],result.ring⟩
      | some msgOut=>
        match deserialize e calls.alloc (some result.bytes) (some msgOut) messageStructSize with
        | .error error=>⟨error,[result.bytes],[],result.ring⟩
        | .ok msg=>
          if shouldStop then ⟨.ok,[result.bytes],[],result.ring⟩
          else if 0<calls.observerCount ∧ !calls.snapshotAllocated then
            ⟨.outOfMemory,[result.bytes],[],result.ring⟩
          else ⟨.ok,[result.bytes],replicate calls.observerCount msg,result.ring⟩
    else ⟨result.code,[],[],result.ring⟩

/-- What a transport has received and not yet looked at. -/
inductive Inbox where
  | udp (datagram : Bytes)
  | udpBroadcast (datagram : Bytes)
  | tcpServer (bytes : Bytes)
  | tcpClient (socket : Stream UInt8)
  | shmServer (ring : RingBuffer)
  | shmClient (ring : RingBuffer)

/-- What a receive path finds in its surroundings. -/
structure ReceiveEnvironment where
  endian : Endian
  config : Option ℕ
  alloc : ℕ→Bool
  bufferAllocated : Bool
  snapshotAllocated : Bool
  shouldStop : Bool

def ReceiveEnvironment.processCalls (env : ReceiveEnvironment) (observerCount : ℕ) : ProcessCalls:=
  ⟨env.bufferAllocated,env.alloc,observerCount,env.snapshotAllocated⟩

/-- The message that the next round of the receive path hands to each of the data observers. -/
def Inbox.received (env : ReceiveEnvironment) (observerCount : ℕ) : Inbox→Option Message
  | .udp datagram=>udpReceive env.endian env.alloc datagram
  | .udpBroadcast datagram=>udpBroadcastReceive env.endian env.alloc datagram
  | .tcpServer bytes=>(tcpServerParse env.endian env.config env.alloc 1 bytes).1.head?
  | .tcpClient socket=>(tcpHandleIncomingData env.endian env.config env.alloc socket).1
  | .shmServer ring=>
    (shmProcessSingleMessage env.endian ring (env.processCalls observerCount)).messages.head?
  | .shmClient ring=>
    (clientProcessServerMessage env.endian ring (env.processCalls observerCount) env.shouldStop).messages.head?

def Inbox.InRing : Inbox→Prop
  | .shmServer _ | .shmClient _=>True
  | .udp _ | .udpBroadcast _ | .tcpServer _ | .tcpClient _=>False

def RingBuffer.damage (ring : RingBuffer) (payload : Bytes) : RingBuffer:=
  {ring with
    data:=circularWrite ring.data (ringNextPos ring.readPos (headerSize+headerSize) ring.data.length) payload}

lemma RingBuffer.readPos_damage (ring : RingBuffer) (payload : Bytes) :
    (ring.damage payload).readPos=ring.readPos:=rfl

/-- The second inbox has other bytes in place of the next payload of the first. -/
inductive Damaged (e : Endian) (m : Message) (payload : Bytes) : Inbox→Inbox→Prop
  | udp : Damaged e m payload (.udp m.wire) (.udp (m.header.memory .big++payload))
  | udpBroadcast :
    Damaged e m payload (.udpBroadcast m.wire) (.udpBroadcast (m.header.memory .big++payload))
  | tcpServer (rest : Bytes) :
    Damaged e m payload (.tcpServer (m.wire++rest)) (.tcpServer (m.header.memory .big++payload++rest))
  | tcpClient {socket socket' : Stream UInt8} (rest : Bytes)
    (shape : socket.SameShape socket') (contents : socket.contents=m.wire++rest)
    (contents' : socket'.contents=m.header.memory .big++payload++rest) :
    Damaged e m payload (.tcpClient socket) (.tcpClient socket')
  | shmServer {ring : RingBuffer} {rec : RingRecord} {recs : List RingRecord}
    (holds : ring.Represents e (rec::recs)) (payload_eq : rec.payload=m.wire) :
    Damaged e m payload (.shmServer ring) (.shmServer (ring.damage payload))
  | shmClient {ring : RingBuffer} {rec : RingRecord} {recs : List RingRecord}
    (holds : ring.Represents e (rec::recs)) (payload_eq : rec.payload=m.wire) :
    Damaged e m payload (.shmClient ring) (.shmClient (ring.damage payload))

def Message.envelope (m : Message) : MessageHeader × Bool:=(m.header,m.payload.isSome)

section
variable {e : Endian} {config : Option ℕ} {alloc : ℕ→Bool} {header : MessageHeader}

lemma envelope_deserialize (out : Message) (bytes : Bytes) :
    (deserialize e alloc (some (header.memory .big++bytes)) (some out)
        messageStructSize).toOption.map Message.envelope=
      if header.magic=msgMagicNumber ∧ header.payloadSize.toNat≤bytes.length ∧
          (0<header.payloadSize.toNat→alloc header.payloadSize.toNat=true) then
        some (header,decide (0<header.payloadSize.toNat) || out.payload.isSome)
      else none:=by
  have hlen : (header.memory .big++bytes).length=headerSize+bytes.length:=by
    rw [length_append,MessageHeader.length_memory]
  have hpar : validateDeserializeParams (header.memory .big++bytes) messageStructSize = .ok:=by
    simp [validateDeserializeParams,hlen]
  simp only [deserialize,Nat.lt_irrefl,if_false,hpar,
    extractAndValidateHeader_eq e (hlen ▸ Nat.le_add_right _ _),MessageHeader.ofMemory_memory_append]
  by_cases hmagic : header.magic=msgMagicNumber
  swap
  · simp only [hmagic,if_false,false_and]
    rfl
  simp only [hmagic,if_true,true_and]
  change (copyPayloadData alloc _ out header).toOption.map Message.envelope=_
  rw [copyPayloadData]
  by_cases hfit : 0<header.payloadSize.toNat ∧
      (header.memory .big++bytes).length<header.payloadSize.toNat+headerSize
  · rw [dif_pos hfit,if_neg (by omega)]
    rfl
  · rw [dif_neg hfit]
    by_cases hpos : 0<header.payloadSize.toNat
    · rw [dif_pos hpos]
      by_cases halloc : alloc header.payloadSize.toNat=true
      · rw [if_pos halloc,if_pos ⟨by omega,fun _=>halloc⟩,decide_eq_true hpos]
        rfl
      · rw [if_neg halloc,if_neg (fun h=>halloc (h.2 hpos))]
        rfl
    · rw [dif_neg hpos,if_pos ⟨by omega,fun h=>absurd h hpos⟩,decide_eq_false hpos]
      rfl

variable {xs ys : Bytes}

lemma envelope_deserialize_congr (hlen : xs.length=ys.length) (out : Option Message) :
    (deserialize e alloc (some (header.memory .big++xs)) out
        messageStructSize).toOption.map Message.envelope=
      (deserialize e alloc (some (header.memory .big++ys)) out messageStructSize).toOption.map Message.envelope:=by
  cases out with
  | none=>simp only [deserialize]
  | some out=>rw [envelope_deserialize,envelope_deserialize,hlen]

lemma take_memory_append {size : ℕ} (hsize : headerSize ≤ size) (bytes : Bytes) :
    (header.memory .big++bytes).take size=header.memory .big++bytes.take (size-headerSize):=by
  have hlen:=MessageHeader.length_memory .big header
  rw [take_append,hlen,take_of_length_le (hlen.trans_le hsize)]

lemma envelope_udpHandleIncomingData_congr {size : ℕ} (hsize : headerSize ≤ size) (hlen : xs.length=ys.length) :
    (udpHandleIncomingData e alloc ((header.memory .big++xs).take size)).map Message.envelope=
      (udpHandleIncomingData e alloc ((header.memory .big++ys).take size)).map Message.envelope:=by
  rw [take_memory_append hsize,take_memory_append hsize]
  exact envelope_deserialize_congr (by rw [length_take,length_take,hlen]) _

lemma head?_tcpServerParse (bytes : Bytes) :
    (tcpServerParse e config alloc 1 (header.memory .big++bytes)).1.head?=
      if isHeaderValid config header ∧ header.payloadSize.toNat≤bytes.length then
        (deserialize e alloc (some (header.memory .big++bytes.take header.payloadSize.toNat))
          (some clearedMessage) messageStructSize).toOption
      else none:=by
  have hlen : (header.memory .big++bytes).length=headerSize+bytes.length:=by
    rw [length_append,MessageHeader.length_memory]
  have hheader : swapHeader e (.ofMemory e (header.memory .big++bytes))=header:=by
    rw [swapHeader_ofMemory e (by omega),MessageHeader.ofMemory_memory_append]
  have htake : (header.memory .big++bytes).take (headerSize+header.payloadSize.toNat)=
      header.memory .big++bytes.take header.payloadSize.toNat:=by
    rw [take_memory_append (Nat.le_add_right _ _),Nat.add_sub_cancel_left]
  rw [tcpServerParse,if_neg (by omega)]
  simp only [hheader,htake,hlen,Nat.add_lt_add_iff_left]
  cases hvalid : isHeaderValid config header with
  | false=>rfl
  | true=>
    rcases Nat.lt_or_ge bytes.length header.payloadSize.toNat with hshort | hfits
    · rw [if_neg (by decide),if_pos hshort,if_neg (fun h=>Nat.not_lt.2 h.2 hshort)]
      rfl
    · rw [if_neg (by decide),if_neg (Nat.not_lt.2 hfits),if_pos ⟨rfl,hfits⟩]
      cases deserialize e alloc (some (header.memory .big++bytes.take header.payloadSize.toNat))
        (some clearedMessage) messageStructSize with
      | error _=>rfl
      | ok msg=>rfl

lemma envelope_tcpServerParse_congr (hlen : xs.length=ys.length) :
    (tcpServerParse e config alloc 1 (header.memory .big++xs)).1.head?.map Message.envelope=
      (tcpServerParse e config alloc 1 (header.memory .big++ys)).1.head?.map Message.envelope:=by
  rw [head?_tcpServerParse,head?_tcpServerParse,hlen]
  split
  · exact envelope_deserialize_congr (by rw [length_take,length_take,hlen]) _
  · rfl

section
variable {queue : Bytes} {pending : List (Arrival UInt8)}

lemma tcpHandleIncomingData_of_not_prompt
    (h : ¬Prompt (tcpMaxRetryCount-1) (headerSize-queue.length) pending) :
    (tcpHandleIncomingData e config alloc ⟨queue,pending⟩).1=none:=by
  have hread:=tcpReadExactly_of_not_prompt h
  rw [tcpHandleIncomingData]
  generalize tcpReadExactly ⟨queue,pending⟩ headerSize=result at hread ⊢
  obtain ⟨bytes,socket⟩:=result
  obtain rfl : bytes=none:=hread
  cases alloc headerSize with
  | false=>rfl
  | true=>rfl

lemma tcpHandleIncomingData_of_prompt {bytes : Bytes}
    (hcontents : Stream.contents ⟨queue,pending⟩=header.memory .big++bytes)
    (h : Prompt (tcpMaxRetryCount-1) (headerSize-queue.length) pending) :
    (tcpHandleIncomingData e config alloc ⟨queue,pending⟩).1=
      if alloc headerSize ∧ isHeaderValid config header ∧
          header.payloadSize.toNat ≤ maxTransportBufferSize-headerSize ∧
          alloc (headerSize+header.payloadSize.toNat) then
        (tcpReceivePayload e alloc (header.memory .big) header.payloadSize.toNat (Stream.skip headerSize queue pending)).1
      else none:=by
  have hread : tcpReadExactly ⟨queue,pending⟩ headerSize=
      (some (header.memory .big),Stream.skip headerSize queue pending):=by
    rw [tcpReadExactly_of_prompt h,hcontents,take_memory_append le_rfl,Nat.sub_self,take_zero,append_nil]
  have hheader : swapHeader e (.ofMemory e (header.memory .big))=header:=by
    have happ:=MessageHeader.ofMemory_memory_append .big header []
    rw [append_nil] at happ
    rw [swapHeader_ofMemory e (MessageHeader.length_memory .big header).ge,happ]
  simp only [tcpHandleIncomingData,hread,hheader]
  cases alloc headerSize with
  | false=>rfl
  | true=>
    cases isHeaderValid config header with
    | false=>rfl
    | true=>
      rcases Nat.lt_or_ge (maxTransportBufferSize-headerSize) header.payloadSize.toNat with hbig | hfits
      · rw [if_neg (by decide),if_neg (by decide),if_pos hbig,if_neg (fun h=>Nat.not_lt.2 h.2.2.1 hbig)]
      · cases alloc (headerSize+header.payloadSize.toNat) with
        | false=>simp [Nat.not_lt.2 hfits]
        | true=>simp [Nat.not_lt.2 hfits,hfits]

lemma envelope_tcpReceivePayload_congr {size : ℕ} {socket socket' : Stream UInt8}
    (hshape : socket.SameShape socket') (hlen : socket.contents.length=socket'.contents.length) :
    (tcpReceivePayload e alloc (header.memory .big) size socket).1.map Message.envelope=
      (tcpReceivePayload e alloc (header.memory .big) size socket').1.map Message.envelope:=by
  by_cases hprompt : Prompt (tcpMaxRetryCount-1) (size-socket.queue.length) socket.pending
  · have hprompt':=(prompt_iff_of_sameShape hshape.2 _ _).1 hprompt
    rw [hshape.1] at hprompt'
    rw [tcpReceivePayload_of_prompt _ hprompt,tcpReceivePayload_of_prompt _ hprompt']
    exact envelope_deserialize_congr (by rw [length_take,length_take,hlen]) _
  · have hprompt' : ¬Prompt (tcpMaxRetryCount-1) (size-socket'.queue.length)
        socket'.pending:=by
      rw [← hshape.1,← prompt_iff_of_sameShape hshape.2]
      exact hprompt
    rw [tcpReceivePayload_of_not_prompt _ hprompt,tcpReceivePayload_of_not_prompt _ hprompt']

lemma envelope_tcpHandleIncomingData_congr {socket socket' : Stream UInt8}
    (hshape : socket.SameShape socket') {xs ys : Bytes} (hlen : xs.length=ys.length)
    (hcontents : socket.contents=header.memory .big++xs) (hcontents' : socket'.contents=header.memory .big++ys) :
    (tcpHandleIncomingData e config alloc socket).1.map Message.envelope=
      (tcpHandleIncomingData e config alloc socket').1.map Message.envelope:=by
  obtain ⟨queue,pending⟩:=socket
  obtain ⟨queue',pending'⟩:=socket'
  obtain ⟨hqueue,hpending⟩:=hshape
  have hprompt:=prompt_iff_of_sameShape hpending (tcpMaxRetryCount-1) (headerSize-queue.length)
  by_cases h : Prompt (tcpMaxRetryCount-1) (headerSize-queue.length) pending
  · have h':=hprompt.1 h
    rw [hqueue] at h'
    rw [tcpHandleIncomingData_of_prompt hcontents h,tcpHandleIncomingData_of_prompt hcontents' h']
    split
    · refine envelope_tcpReceivePayload_congr (Stream.SameShape.skip hpending hqueue _) ?_
      rw [Stream.contents_skip,Stream.contents_skip,hcontents,hcontents',length_drop,length_drop,length_append,length_append,hlen]
    · rfl
  · have h' : ¬Prompt (tcpMaxRetryCount-1) (headerSize-queue'.length) pending':=by
      rw [← hqueue,← hprompt]
      exact h
    rw [tcpHandleIncomingData_of_not_prompt h,tcpHandleIncomingData_of_not_prompt h']

end
end
section
variable {e : Endian} {ring : RingBuffer}

lemma RingBuffer.read_eq_ok {dataNonNull : Bool} {size : ℕ} (h : (ring.read e dataNonNull size).code = .ok) :
    ∃ header, peekHeader e ring.data ring.readPos=some header ∧
      calcCrc32 (circularSlice ring.data (ringNextPos ring.readPos headerSize ring.data.length)
        header.payloadSize.toNat)=header.crc32:=by
  have hcorr : ∀ bytes, (ring.readCorrupted bytes).code ≠ .ok:=fun bytes=>nofun
  unfold read at h
  split at h
  · cases h
  split at h
  · cases h
  split at h
  · exact absurd h (hcorr _)
  dsimp only at h
  split at h
  · cases h
  split at h
  · exact absurd h (hcorr _)
  rename_i header hheader
  refine ⟨header,hheader,?_⟩
  split at h
  · exact absurd h (hcorr _)
  split at h
  · exact absurd h (hcorr _)
  split at h
  · cases h
  split at h
  · cases h
  rw [readFrame] at h
  dsimp only at h
  split at h
  · exact absurd h (hcorr _)
  split at h
  · exact absurd h (hcorr _)
  · exact not_ne_iff.1 ‹_›

lemma RingBuffer.Represents.read_damage {rec : RingRecord} {recs : List RingRecord} {m : Message}
    (h : ring.Represents e (rec::recs)) (hrec : rec.payload=m.wire) {payload : Bytes}
    (hburst : Burst32 m.payloadBytes payload) (dataNonNull : Bool) (size : ℕ) :
    ((ring.damage payload).read e dataNonNull size).code ≠ .ok:=by
  intro hread
  obtain ⟨header,hheader,hcrc⟩:=RingBuffer.read_eq_ok hread
  have hmem : 0 < ring.data.length:=Nat.zero_lt_of_lt h.readPos_lt
  have hroom:=h.room
  have hwire : m.wire.length=headerSize+m.payloadBytes.length:=by
    rw [Message.wire,length_append,MessageHeader.length_memory]
  rw [map_cons,framedSize_cons,hrec,hwire,← hburst.length_eq] at hroom
  -- the two headers in front of the payload stay, and the payload is exchanged
  have hfront : HoldsAt ring.data ring.readPos (rec.header.memory e++m.header.memory .big):=by
    have hholds:=h.holds
    rw [RingRecord.images_cons,RingRecord.image,hrec,Message.wire,← append_assoc,append_assoc] at hholds
    exact (holdsAt_append.1 hholds).1
  have hhead : (rec.header.memory e++m.header.memory .big).length=headerSize+headerSize:=by
    rw [length_append,MessageHeader.length_memory,MessageHeader.length_memory]
  have hholds : HoldsAt (ring.damage payload).data ring.readPos
      (rec.header.memory e++(m.header.memory .big++payload)):=by
    rw [← append_assoc]
    refine hfront.circularWrite_append ?_ hmem (by omega)
    rw [hhead]
    rfl
  have hlen : (ring.damage payload).data.length=ring.data.length:=length_circularWrite (Nat.mod_lt _ hmem) (by omega)
  obtain ⟨hrecord,hmessage⟩:=holdsAt_append.1 hholds
  have hfound : peekHeader e (ring.damage payload).data ring.readPos=some rec.header:=
    SoftMessageBus.peekHeader_eq (hlen ▸ h.readPos_lt) hrecord
  obtain rfl : header=rec.header:=Option.some.inj (hheader.symm.trans hfound)
  have hreceived : (m.header.memory .big++payload).length=headerSize+payload.length:=by
    rw [length_append,MessageHeader.length_memory]
  have hsize : rec.header.payloadSize.toNat=(m.header.memory .big++payload).length:=by
    rw [rec.size_eq,hrec,hwire,hreceived,hburst.length_eq]
  rw [MessageHeader.length_memory] at hmessage
  have hslice:=circularSlice_eq (Nat.mod_lt _ (hlen ▸ hmem)) (by omega) hmessage
  rw [← hsize] at hslice
  have hne : m.wire≠[]:=ne_nil_of_length_pos (by rw [hwire]; exact Nat.add_pos_left (by decide) _)
  have hdet : calcCrc32 (m.header.memory .big++payload)≠calcCrc32 m.wire:=
    (hburst.append (m.header.memory .big)).calcCrc32_ne hne
  rw [rec.crc_eq,hrec,RingBuffer.readPos_damage,ringNextPos,hslice] at hcrc
  exact hdet hcrc

lemma shmProcessSingleMessage_eq_nil {calls : ProcessCalls}
    (h : ∀ size, (ring.read e true size).code ≠ .ok) : (shmProcessSingleMessage e ring calls).messages=[]:=by
  unfold shmProcessSingleMessage
  dsimp only
  split
  · rfl
  split
  · rfl
  split
  · rfl
  rw [if_neg (h _)]

lemma clientProcessServerMessage_eq_nil {calls : ProcessCalls} {shouldStop : Bool}
    (h : ∀ size, (ring.read e true size).code ≠ .ok) :
    (clientProcessServerMessage e ring calls shouldStop).messages=[]:=by
  unfold clientProcessServerMessage
  dsimp only
  split
  · rfl
  split
  · rfl
  rw [if_neg (h _)]

end

lemma Inbox.envelope_received {env : ReceiveEnvironment} {m : Message} {payload : Bytes}
    {sent damaged : Inbox} (h : Damaged env.endian m payload sent damaged)
    (hburst : Burst32 m.payloadBytes payload) (observerCount : ℕ) :
    (sent.InRing ∧ damaged.received env observerCount=none) ∨
      (¬sent.InRing ∧ (damaged.received env observerCount).map Message.envelope=
        (sent.received env observerCount).map Message.envelope):=by
  have hlen:=hburst.length_eq
  have happ : ∀ rest : Bytes,
      (payload++rest).length=(m.payloadBytes++rest).length:=by
    intro rest
    rw [length_append,length_append,hlen]
  cases h with
  | udp=>
    have htake : ∀ bytes : Bytes, 0<((m.header.memory .big++bytes).take
        maxTransportBufferSize).length:=by
      intro bytes
      rw [take_memory_append (by decide),length_append,MessageHeader.length_memory]
      exact Nat.add_pos_left (by decide) _
    have hsize : headerSize ≤ maxTransportBufferSize:=by decide
    refine .inr ⟨not_false,?_⟩
    rw [received,received,udpReceive,udpReceive,if_pos (htake _),Message.wire,if_pos (htake _)]
    exact envelope_udpHandleIncomingData_congr hsize hlen
  | udpBroadcast=>
    have hsize : headerSize ≤ maxBroadcastTransportBufferSize:=by decide
    refine .inr ⟨not_false,?_⟩
    rw [received,received,udpBroadcastReceive,udpBroadcastReceive,Message.wire]
    exact envelope_udpHandleIncomingData_congr hsize hlen
  | tcpServer rest=>
    refine .inr ⟨not_false,?_⟩
    simp only [received,Message.wire,append_assoc]
    exact envelope_tcpServerParse_congr (happ rest)
  | tcpClient rest hshape hcontents hcontents'=>
    rw [Message.wire,append_assoc] at hcontents
    rw [append_assoc] at hcontents'
    exact .inr ⟨not_false,(envelope_tcpHandleIncomingData_congr hshape (happ rest).symm hcontents hcontents').symm⟩
  | shmServer holds hrec=>
    refine .inl ⟨trivial,?_⟩
    rw [received,shmProcessSingleMessage_eq_nil (holds.read_damage hrec hburst true)]
    rfl
  | shmClient holds hrec=>
    refine .inl ⟨trivial,?_⟩
    rw [received,clientProcessServerMessage_eq_nil (holds.read_damage hrec hburst true)]
    rfl

end SoftMessageBus
