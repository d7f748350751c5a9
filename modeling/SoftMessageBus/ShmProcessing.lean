import SoftMessageBus.ShmTransport

/-!
# Processing the messages of a client

Processing takes whole messages from the front of a ring.
-/
namespace SoftMessageBus
open ByteEncoding List

namespace RingBuffer
variable (r : RingBuffer)

def used : ℕ:=ringUsed r.writePos r.readPos r.data.length

lemma readFrame_ok_or_used (header : MessageHeader) :
    (r.readFrame header).code = .ok ∨ (r.readFrame header).ring.used=r.used:=by
  unfold readFrame
  dsimp only
  split
  · exact .inr rfl
  split
  · exact .inr rfl
  split
  · exact .inr rfl
  · exact .inl rfl

lemma read_ok_or_used (e : Endian) (r : RingBuffer) (expectedSize : ℕ) :
    (r.read e true expectedSize).code = .ok ∨ (r.read e true expectedSize).ring.used=r.used:=by
  unfold read
  dsimp only
  split
  · exact .inr rfl
  split
  · exact .inr rfl
  split
  · exact .inr rfl
  split
  · exact .inr rfl
  split
  · exact .inr rfl
  split
  · exact .inr rfl
  split
  · exact .inr rfl
  split
  · exact .inr rfl
  split
  · exact .inr rfl
  · exact r.readFrame_ok_or_used _

lemma used_clear_le : r.clear.used≤r.used:=by
  unfold clear
  split
  · exact le_rfl
  · simp [used,ringUsed]

lemma used_createInMemory {data : Bytes} {allowOverwrite : Bool} {r : RingBuffer}
    (h : createInMemory data allowOverwrite=some r) : r.used=0:=by
  unfold createInMemory at h
  split at h
  · cases h
  · cases h
    simp [used,ringUsed]

lemma isValid_destroy : r.destroy.isValid=false:=by simp [isValid,destroy]

end RingBuffer

open RingBuffer

lemma shmProcessSingleMessage_of_read {e : Endian} {ring : RingBuffer} {calls : ProcessCalls}
    (hpos : ring.getNextMessageSize e≠0) (hsize : ring.getNextMessageSize e ≤ maxTransportBufferSize)
    (hbuffer : calls.bufferAllocated=true) (hread : (ring.read e true (ring.getNextMessageSize e)).code = .ok) :
    (shmProcessSingleMessage e ring calls).payloads=
        [(ring.read e true (ring.getNextMessageSize e)).bytes] ∧
      (shmProcessSingleMessage e ring calls).ring=(ring.read e true (ring.getNextMessageSize e)).ring:=by
  unfold shmProcessSingleMessage
  dsimp only
  rw [if_neg hpos,if_neg (Nat.not_lt.2 hsize),hbuffer,if_neg (by simp),if_pos hread]
  split
  · exact ⟨rfl,rfl⟩
  split
  · exact ⟨rfl,rfl⟩
  split
  · exact ⟨rfl,rfl⟩
  · exact ⟨rfl,rfl⟩

lemma shmProcessSingleMessage_used_le (e : Endian) (ring : RingBuffer) (calls : ProcessCalls) :
    framedSize (shmProcessSingleMessage e ring calls).payloads+
      (shmProcessSingleMessage e ring calls).ring.used≤ring.used:=by
  by_cases hpos : ring.getNextMessageSize e=0
  · simp [shmProcessSingleMessage,hpos]
  by_cases hsize : maxTransportBufferSize < ring.getNextMessageSize e
  · simpa [shmProcessSingleMessage,hpos,hsize] using ring.used_clear_le
  by_cases hbuffer : calls.bufferAllocated=true
  · by_cases hread : (ring.read e true (ring.getNextMessageSize e)).code = .ok
    · obtain ⟨hpayloads,hring⟩:=shmProcessSingleMessage_of_read hpos (Nat.not_lt.1 hsize) hbuffer hread
      obtain ⟨hlen,hused⟩:=read_ok hread
      rw [hpayloads,hring,used,used,hlen]
      exact hused.le
    · have hused:=(read_ok_or_used e ring _).resolve_left hread
      simp [shmProcessSingleMessage,hpos,hsize,hbuffer,hread,hused]
  · simp [shmProcessSingleMessage,hpos,hsize,hbuffer]

lemma shmProcessLoop_used_le (e : Endian) (count : ℕ) (calls : ℕ→ProcessCalls) (ring : RingBuffer) :
    framedSize (shmProcessLoop e count calls ring).payloads+ (shmProcessLoop e count calls ring).ring.used≤ring.used:=by
  induction count generalizing calls ring with
  | zero=>simp [shmProcessLoop]
  | succ count ih=>
    rw [shmProcessLoop]
    split
    · simp
    have hhead:=shmProcessSingleMessage_used_le e ring (calls 0)
    dsimp only
    split
    · have hrest:=ih (fun i=>calls (i+1)) (shmProcessSingleMessage e ring (calls 0)).ring
      dsimp only
      rw [framedSize_append]
      omega
    · exact hhead

lemma shmServerProcessClientMessages_used_le (e : Endian) (ring : RingBuffer) (calls : ℕ→ProcessCalls) :
    framedSize (shmServerProcessClientMessages e ring calls).payloads+
      (shmServerProcessClientMessages e ring calls).ring.used≤ring.used:=by
  unfold shmServerProcessClientMessages
  split
  · simp
  split
  · simp
  · exact shmProcessLoop_used_le e maxMessagesPerCycle calls ring

structure HoldsPayloads (e : Endian) (ring : RingBuffer) (payloads : List Bytes) : Prop where
  represents : ∃ recs, ring.Represents e recs ∧ recs.map RingRecord.payload=payloads
  overwrite : ring.allowOverwrite=true
  size_le : ∀ payload∈payloads, payload.length ≤ maxTransportBufferSize

namespace HoldsPayloads
variable {e : Endian} {ring : RingBuffer} {payloads : List Bytes}

lemma isValid (h : HoldsPayloads e ring payloads) : ring.isValid=true:=by
  obtain ⟨recs,hrep,-⟩:=h.represents
  exact hrep.valid

lemma ringSpace_eq (h : HoldsPayloads e ring payloads) :
    ringSpace ring.writePos ring.readPos ring.data.length=ring.data.length-1-framedSize payloads:=by
  obtain ⟨recs,hrep,rfl⟩:=h.represents
  exact hrep.ringSpace_eq

lemma isEmpty_iff (h : HoldsPayloads e ring payloads) : ring.isEmpty=true ↔ payloads=[]:=by
  obtain ⟨recs,hrep,rfl⟩:=h.represents
  have hused:=hrep.ringUsed_eq
  simp only [RingBuffer.isEmpty,hrep.valid,Bool.true_and,beq_iff_eq,map_eq_nil_iff]
  constructor
  · intro heq
    cases recs with
    | nil=>rfl
    | cons rec recs=>
      simp [heq,ringUsed,headerSize] at hused
      omega
  · rintro rfl
    have hpos:=hrep.writePos_eq
    simpa [Nat.mod_eq_of_lt hrep.readPos_lt] using hpos

lemma processSingleMessage {payload : Bytes} (h : HoldsPayloads e ring (payload::payloads)) (calls : ProcessCalls) :
    if calls.bufferAllocated then
      (shmProcessSingleMessage e ring calls).payloads=[payload] ∧
        HoldsPayloads e (shmProcessSingleMessage e ring calls).ring payloads
    else shmProcessSingleMessage e ring calls=⟨.allocationFailed,[],[],ring⟩:=by
  obtain ⟨recs,hrep,hpayloads⟩:=h.represents
  obtain ⟨rec,recs,rfl,rfl,rfl⟩:=map_eq_cons_iff.1 hpayloads
  have hnext:=hrep.getNextMessageSize_cons
  have hpos : ring.getNextMessageSize e≠0:=by
    rw [hnext]
    exact rec.payload_pos.ne'
  have hsize : ring.getNextMessageSize e ≤ maxTransportBufferSize:=by
    rw [hnext]
    exact h.size_le _ mem_cons_self
  split
  next hbuffer=>
    have hread:=hrep.read_cons (ring.getNextMessageSize e)
    rw [if_pos hnext.symm] at hread
    obtain ⟨htaken,hring⟩:=shmProcessSingleMessage_of_read hpos hsize hbuffer (congrArg ReadResult.code hread)
    rw [htaken,hring,hread]
    have hrest : ring.Represents e ([rec]++recs):=hrep
    exact ⟨rfl,⟨recs,hrest.advance rfl,rfl⟩,h.overwrite,fun payload hmem=>h.size_le payload (mem_cons_of_mem _ hmem)⟩
  next hbuffer=>simp [shmProcessSingleMessage,hpos,Nat.not_lt.2 hsize,hbuffer]

lemma processLoop (h : HoldsPayloads e ring payloads) (count : ℕ) (calls : ℕ→ProcessCalls) :
    ∃ k, (shmProcessLoop e count calls ring).payloads=payloads.take k ∧
      HoldsPayloads e (shmProcessLoop e count calls ring).ring (payloads.drop k) ∧
      (0<count→(calls 0).bufferAllocated=true → 0<k):=by
  induction count generalizing calls ring payloads with
  | zero=>exact ⟨0,rfl,h,fun hcount=>absurd hcount (Nat.lt_irrefl 0)⟩
  | succ count ih=>
    rw [shmProcessLoop]
    cases payloads with
    | nil=>
      rw [if_pos (h.isEmpty_iff.2 rfl)]
      exact ⟨1,rfl,h,fun _ _=>Nat.one_pos⟩
    | cons payload payloads=>
      rw [if_neg (by simp [h.isEmpty_iff])]
      dsimp only
      have hhead:=h.processSingleMessage (calls 0)
      split at hhead
      · obtain ⟨htaken,hrest⟩:=hhead
        split
        · obtain ⟨k,hloop,hnext,-⟩:=ih hrest fun i=>calls (i+1)
          refine ⟨k+1,?_,hnext,fun _ _=>Nat.succ_pos k⟩
          dsimp only
          rw [htaken,hloop]
          rfl
        · exact ⟨1,htaken,hrest,fun _ _=>Nat.one_pos⟩
      next hbuffer=>
        rw [hhead,if_neg (by simp)]
        exact ⟨0,rfl,h,fun _ htrue=>absurd htrue hbuffer⟩

lemma processClientMessages (h : HoldsPayloads e ring payloads) (calls : ℕ→ProcessCalls) :
    ∃ k, (shmServerProcessClientMessages e ring calls).payloads=payloads.take k ∧
      HoldsPayloads e (shmServerProcessClientMessages e ring calls).ring (payloads.drop k) ∧
      ((calls 0).bufferAllocated=true → 0<k):=by
  rw [shmServerProcessClientMessages,if_neg (by simp [h.isValid])]
  split
  next hempty=>
    obtain rfl:=h.isEmpty_iff.1 hempty
    exact ⟨1,rfl,h,fun _=>Nat.one_pos⟩
  · obtain ⟨k,htaken,hrest,hpos⟩:=h.processLoop maxMessagesPerCycle calls
    exact ⟨k,htaken,hrest,hpos (by decide)⟩

lemma write_cases (h : HoldsPayloads e ring payloads) (payload : Bytes) (now : UInt64) :
    (payload.length=0 ∨ ring.data.length-headerSize<payload.length) ∧
        ring.write e (some payload) now=(.invalidParam,ring) ∨
      ∃ ring', ring.write e (some payload) now=(.ok,ring') ∧
        ring'.data.length=ring.data.length ∧
        (headerSize+payload.length≤ringSpace ring.writePos ring.readPos ring.data.length→
          payload.length ≤ maxTransportBufferSize→
          HoldsPayloads e ring' (payloads++[payload])) ∧
        (ringSpace ring.writePos ring.readPos ring.data.length<headerSize+payload.length→
          ring'.used<framedSize (payloads++[payload])):=by
  obtain ⟨recs,hrep,rfl⟩:=h.represents
  have hspace:=hrep.ringSpace_eq
  have hmin:=hrep.minSize_le
  have hlt:=hrep.length_lt
  have hheader : headerSize=106:=rfl
  by_cases hparam : payload.length=0 ∨ ring.data.length-headerSize<payload.length
  · exact .inl ⟨hparam,hrep.write_invalid now hparam⟩
  right
  have hvalid:=hrep.write_valid now (show 0<payload.length by omega)
    (show payload.length≤ring.data.length-headerSize by omega)
  by_cases hroom : headerSize+payload.length≤
      ringSpace ring.writePos ring.readPos ring.data.length
  · obtain ⟨ring',hwrite,hover,hlen,hrep'⟩:=hrep.writeFrame now (show 0<payload.length by omega) (by omega) (by omega)
    rw [hrep.makeRoom_enough (by omega)] at hvalid
    refine ⟨ring',hvalid.trans hwrite,hlen,fun _ hsize=>?_, fun hfull=>absurd hroom (by omega)⟩
    refine ⟨⟨_,hrep',by simp [RingRecord.ofWrite]⟩,hover.trans h.overwrite,?_⟩
    intro p hp
    rcases mem_append.1 hp with hold | hnew
    · exact h.size_le p hold
    · rw [mem_singleton.1 hnew]
      exact hsize
  · rw [makeRoom_discard h.overwrite (Nat.not_le.1 hroom)] at hvalid
    obtain ⟨ring',hwrite,hlen,-,hpos⟩:=writeFrame_positions e now (r:={ring with
      readPos:=discardOldest e ring.data ring.writePos
        (headerSize+payload.length-ringSpace ring.writePos ring.readPos ring.data.length)
        (headerSize+payload.length-ringSpace ring.writePos ring.readPos ring.data.length) 0
        ring.readPos
      statistics.overruns:=ring.statistics.overruns+1}) hrep.writePos_lt
      (show headerSize+payload.length≤ring.data.length by omega)
    refine ⟨ring',hvalid.trans hwrite,hlen,fun hfits=>absurd hfits hroom,fun _=>?_⟩
    have hlen : ring'.data.length=ring.data.length:=hlen
    have hused : ring'.used < ring'.data.length:=by
      apply ringUsed_lt
      rw [hlen,hpos]
      exact Nat.mod_lt _ (show 0 < ring.data.length by omega)
    rw [framedSize_append,framedSize_cons,framedSize_nil]
    omega

lemma exists_createInMemory (e : Endian) {data : Bytes} (hlen : data.length=shmRingDataSize shmClientSize) :
    ∃ ring, createInMemory data true=some ring ∧ HoldsPayloads e ring [] ∧
      ring.data.length=shmRingDataSize shmClientSize:=by
  obtain ⟨ring,hcreate,hdata,hover,hrep⟩:=represents_createInMemory e true
    (show ringBufferMinSize≤data.length by rw [hlen]; decide)
    (show data.length≤ringBufferMaxSize by rw [hlen]; decide)
  exact ⟨ring,hcreate,⟨⟨[],hrep,rfl⟩,hover,by simp⟩,by rw [hdata,hlen]⟩

lemma of_createInMemory (e : Endian) {data : Bytes} (hcreate : createInMemory data true=some ring)
    (hlen : data.length=shmRingDataSize shmClientSize) :
    HoldsPayloads e ring [] ∧ ring.data.length=shmRingDataSize shmClientSize:=by
  obtain ⟨ring',hcreate',hholds⟩:=exists_createInMemory e hlen
  obtain rfl : ring'=ring:=Option.some.inj (hcreate'.symm.trans hcreate)
  exact hholds

end HoldsPayloads

lemma length_shmSerialized_le {e : Endian} {msg : Message} {payload : Bytes}
    (h : shmSerialized e msg=some payload) : payload.length ≤ maxTransportBufferSize:=by
  unfold shmSerialized serialize at h
  dsimp only at h
  split at h
  · cases h
  next msgSize buffer hsize heq=>
    split at heq
    · cases heq
      exact absurd rfl hsize
    next hfit=>
      cases heq
      rw [Option.map_some,Option.some.injEq] at h
      rw [← h]
      rw [length_replicate] at hfit
      exact (length_take_le _ _).trans (Nat.not_lt.1 hfit)

lemma shmSerialized_eq (e : Endian) {m : Message} (hm : m.HasPayload)
    (hfit : calculateRequiredBufferSize m ≤ maxTransportBufferSize) : shmSerialized e m=some m.wire:=by
  have hbuffer : calculateRequiredBufferSize m≤
      (replicate maxTransportBufferSize (0 : UInt8)).length:=
    hfit.trans length_replicate.ge
  unfold shmSerialized
  rw [serialize_eq e hm hbuffer]
  split
  next heq=>
    rw [Prod.mk.injEq,calculateRequiredBufferSize,headerSize] at heq
    omega
  next heq=>
    cases heq
    rw [Option.map_some,take_left' hm.length_wire]

/-! ## What a client and the server do to their link -/

namespace ShmLink

lemma mem_fillSlot {request slot : Registration} {slots slots' : List Registration}
    (h : fillSlot request slots=some slots') (hmem : slot∈slots') : slot=request ∨ slot∈slots:=by
  induction slots generalizing slots' with
  | nil=>cases h
  | cons old slots ih=>
    rw [fillSlot] at h
    split at h
    · cases h
      rcases mem_cons.1 hmem with heq | hrest
      · exact .inl heq
      · exact .inr (mem_cons_of_mem _ hrest)
    · obtain ⟨rest,hrest,rfl⟩:=Option.map_eq_some_iff.1 h
      rcases mem_cons.1 hmem with heq | hmem
      · exact .inr (heq ▸ mem_cons_self)
      · exact (ih hrest hmem).imp_right (mem_cons_of_mem _)

variable {w : ShmLink}

lemma request_cases {w' : ShmLink} {validation : ValidationCalls} {lockAcquired : Bool}
    (h : w.shmRequestClientRegistration validation lockAcquired=some w') :
    ∃ slots, fillSlot ⟨.pending,w.name,w.pid,shmGenerateKey w.name w.pid⟩ w.slots=some slots ∧
      w' = {w with slots, clientCount:=w.clientCount+1}:=by
  unfold shmRequestClientRegistration at h
  dsimp only at h
  split at h
  · cases h
  split at h
  · cases h
  obtain ⟨slots,hslots,heq⟩:=Option.map_eq_some_iff.1 h
  exact ⟨slots,hslots,heq.symm⟩

lemma register_cases (w : ShmLink) (calls : StartCalls) :
    ((w.clientRegisterWithServer calls).1 ≠ .ok ∧
        (w.clientRegisterWithServer calls).2 = {w with rxRing:=none}) ∨
      ∃ ring slots,
        createInMemory (replicate (shmRingDataSize shmClientSize) 0) true=some ring ∧
        fillSlot ⟨.pending,w.name,w.pid,shmGenerateKey w.name w.pid⟩ w.slots=some slots ∧
        w.clientRegisterWithServer calls=(.ok, {w with
          rxRing:=some ring
          slots:=slots
          clientCount:=w.clientCount+1}):=by
  unfold clientRegisterWithServer
  dsimp only
  split
  · exact .inl ⟨by simp,rfl⟩
  split
  · exact .inl ⟨by simp,rfl⟩
  split
  · exact .inl ⟨by simp,rfl⟩
  split
  · exact .inl ⟨by simp,rfl⟩
  split
  · exact .inl ⟨by simp,rfl⟩
  split
  · exact .inl ⟨by simp,rfl⟩
  rename_i ring hcreate
  split
  · exact .inl ⟨by simp,rfl⟩
  next w' hreq=>
    obtain ⟨slots,hslots,rfl⟩:=request_cases hreq
    exact .inr ⟨ring,slots,hcreate,hslots,rfl⟩

lemma start_cases (w : ShmLink) (calls : StartCalls) :
    (w.shmClientStart calls).2=w ∨ w.isStarted=false ∧
      ((w.shmClientStart calls).2 = {w with rxRing:=none} ∨
        ∃ ring slots,
          createInMemory (replicate (shmRingDataSize shmClientSize) 0) true=some ring ∧
          fillSlot ⟨.pending,w.name,w.pid,shmGenerateKey w.name w.pid⟩ w.slots=some slots ∧
          (w.shmClientStart calls).2 = {w with
            rxRing:=some ring
            slots:=slots
            clientCount:=w.clientCount+1
            isStarted:=true}):=by
  unfold shmClientStart
  split
  · exact .inl rfl
  rename_i hstarted
  split
  · exact .inl rfl
  refine .inr ⟨by simpa using hstarted,?_⟩
  rcases w.register_cases calls with ⟨hcode,hrel⟩ | ⟨ring,slots,hcreate,hslots,heq⟩
  · left
    split
    next w' heq=>
      rw [heq] at hcode
      exact absurd rfl hcode
    next heq=>
      rw [heq] at hrel
      exact hrel
  · right
    rw [heq]
    exact ⟨ring,slots,hcreate,hslots,rfl⟩

lemma send_cases (e : Endian) (w : ShmLink) (msg : Option Message) (bufferAllocated : Bool) (now : UInt64) :
    ((w.shmClientSend e msg bufferAllocated now).1 ≠ .ok ∧
        (w.shmClientSend e msg bufferAllocated now).2=w) ∨
      ∃ payload ring, msg.bind (shmSerialized e)=some payload ∧ w.rxRing=some ring ∧
        w.shmClientSend e msg bufferAllocated now=
          ((ring.write e (some payload) now).1, {w with
            rxRing:=some (ring.write e (some payload) now).2
            sent:=if (ring.write e (some payload) now).1 = .ok then w.sent++[payload] else w.sent}):=by
  cases msg with
  | none=>exact .inl ⟨by simp [shmClientSend],rfl⟩
  | some msg=>
    simp only [shmClientSend]
    split
    · exact .inl ⟨by simp,rfl⟩
    split
    · exact .inl ⟨by simp,rfl⟩
    rename_i ring hring
    split
    · exact .inl ⟨by simp,rfl⟩
    split
    · exact .inl ⟨by simp,rfl⟩
    rename_i payload hpayload
    refine .inr ⟨payload,ring,by rw [Option.bind_some,hpayload],hring,?_⟩
    split
    next ring' hwrite=>rw [hwrite,if_pos rfl]
    next error ring' hne hwrite=>rw [hwrite,if_neg (fun heq=>hne heq)]

inductive Answered (w : ShmLink) : ShmLink→Prop where
  | refused : Answered w w
  | abandoned {ring ring' : RingBuffer} (hnew : ¬w.Registered) (hring : w.rxRing=some ring)
      (hcreate : createInMemory ring.data true=some ring') :
      Answered w {w with rxRing:=some ring'.destroy}
  | registered {ring ring' : RingBuffer} (hstarted : w.isStarted=true)
      (hnew : ¬w.Registered) (hring : w.rxRing=some ring)
      (hcreate : createInMemory ring.data true=some ring') :
      Answered w {w with
        rxRing:=some ring'
        clients:=w.clients++[⟨w.name,w.pid⟩]
        clientCount:=w.clients.length+1}

lemma answered_registerSegment {request : Registration} {ring : RingBuffer}
    (calls : AcceptCalls) (hstarted : w.isStarted=true) (hnew : ¬w.Registered)
    (hring : w.rxRing=some ring) (hname : request.clientName=w.name)
    (hpid : request.clientPid=w.pid) : Answered w (w.registerSegment request ring calls).2.2:=by
  unfold registerSegment
  dsimp only
  split
  · exact .refused
  split
  · exact .refused
  split
  · exact .refused
  rename_i ring' hcreate
  split
  · exact .abandoned hnew hring hcreate
  · rw [hname,hpid]
    exact .registered hstarted hnew hring hcreate

lemma answered_request {request : Registration} (calls : AcceptCalls)
    (hstarted : w.isStarted=true) (hname : request.clientName=w.name) (hpid : request.clientPid=w.pid) :
    Answered w (w.shmValidateAndRegisterClient request calls).2.2:=by
  unfold shmValidateAndRegisterClient
  dsimp only
  split
  · exact .refused
  rename_i hnew
  rw [hname,hpid] at hnew
  split
  · split
    · exact .refused
    split
    · exact .refused
    split
    · exact .refused
    split
    · exact .refused
    next ring hring=>exact answered_registerSegment calls hstarted hnew hring hname hpid
  · exact .refused

lemma status_request_ne_pending (w : ShmLink) (request : Registration) (calls : AcceptCalls) :
    (w.shmValidateAndRegisterClient request calls).2.1.status ≠ .pending:=by
  unfold shmValidateAndRegisterClient registerSegment
  dsimp only
  split
  · simp
  split
  · split
    · simp
    split
    · simp
    split
    · simp
    split
    · simp
    split
    · simp
    split
    · simp
    split
    · simp
    split <;> simp [Registration.cleared]
  · simp

lemma Answered.identity {w' : ShmLink} (h : Answered w w') :
    w'.isStarted=w.isStarted ∧ w'.name=w.name ∧ w'.pid=w.pid:=by
  cases h <;> exact ⟨rfl,rfl,rfl⟩

def OwnRequests (w : ShmLink) : Prop:=
  ∀ slot∈w.slots, slot.status = .pending→w.isStarted=true ∧ slot.clientName=w.name ∧ slot.clientPid=w.pid

lemma acceptSlots_answered (calls : ℕ→AcceptCalls) {slots : List Registration}
    (hown : ∀ slot∈slots, slot.status = .pending→ w.isStarted=true ∧ slot.clientName=w.name ∧ slot.clientPid=w.pid) :
    Relation.ReflTransGen Answered w (w.acceptSlots calls slots).2:=by
  induction slots generalizing w calls with
  | nil=>exact .refl
  | cons slot slots ih=>
    rw [acceptSlots]
    dsimp only
    by_cases hpending : slot.status = .pending
    · obtain ⟨hstarted,hname,hpid⟩:=hown slot mem_cons_self hpending
      have hhead:=answered_request (calls 0) hstarted hname hpid
      obtain ⟨hstarted',hname',hpid'⟩:=hhead.identity
      rw [if_pos hpending]
      refine .head hhead (ih _ fun slot hmem hstatus=>?_)
      rw [hstarted',hname',hpid']
      exact hown slot (mem_cons_of_mem _ hmem) hstatus
    · rw [if_neg hpending]
      exact ih _ fun slot hmem=>hown slot (mem_cons_of_mem _ hmem)

lemma status_acceptSlots_ne_pending (w : ShmLink) (calls : ℕ→AcceptCalls) (slots : List Registration) :
    ∀ slot∈(w.acceptSlots calls slots).1, slot.status ≠ .pending:=by
  induction slots generalizing w calls with
  | nil=>simp [acceptSlots]
  | cons slot slots ih=>
    rw [acceptSlots]
    dsimp only
    rintro slot' hmem
    rcases mem_cons.1 hmem with rfl | hrest
    · split
      · exact w.status_request_ne_pending slot (calls 0)
      next hpending=>exact hpending
    · exact ih _ _ slot' hrest

lemma accept_keeps {P : ShmLink→Prop} (hw : P w) (hown : w.OwnRequests)
    (calls : ℕ→AcceptCalls) (hanswer : ∀ w w', Answered w w' → P w→P w')
    (hslots : ∀ (w : ShmLink) (slots : List Registration),
      (∀ slot∈slots, slot.status ≠ .pending)→P w→P {w with slots}) : P (w.shmServerAcceptNewClients calls):=by
  unfold shmServerAcceptNewClients
  split
  · exact hw
  have hkept : ∀ w', Relation.ReflTransGen Answered w w' → P w':=by
    intro w' hanswered
    induction hanswered with
    | refl=>exact hw
    | tail _ hlast ih=>exact hanswer _ _ hlast ih
  apply hslots
  · exact w.status_acceptSlots_ne_pending calls w.slots
  · exact hkept _ (acceptSlots_answered calls hown)

lemma processClients_frame (e : Endian) (w : ShmLink) (calls : ℕ→ProcessCalls) :
    ∃ rxRing received observed, w.processClients e calls = {w with rxRing, received, observed}:=by
  unfold processClients
  split
  · exact ⟨w.rxRing,w.received,w.observed,rfl⟩
  split
  · exact ⟨_,_,_,rfl⟩
  · exact ⟨w.rxRing,w.received,w.observed,rfl⟩

end ShmLink

end SoftMessageBus
