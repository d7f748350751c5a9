import SoftMessageBus.TcpReceive
import Mathlib.Data.List.Pairwise
import SoftMessageBus.Node

/-!
# Sends of the TCP client on one connection

A send serializes a message and writes it to the socket, which takes the bytes in pieces.
-/
namespace SoftMessageBus
open ByteEncoding MemoryBlocks List

/-- The answer of the kernel to a call of `send`. -/
inductive KernelSend where
  | taken (n : ℕ)
  | wouldBlock
  | interrupted
  | failed
  deriving DecidableEq

inductive TcpSendResult where
  | ok
  | transportSendFailed
  | allocationFailed
  | networkSendFailed
  | connectFailed
  deriving DecidableEq

/-- `tcp_write_with_retry`. -/
def tcpWriteWithRetry (size : ℕ) (answers : List KernelSend) (totalWritten retryCount : ℕ) : Option ℕ × ℕ:=
  if totalWritten<size ∧ retryCount<tcpMaxRetryCount then
    match answers with
    | []=>(none,totalWritten)
    | .taken n::answers=>
      if 0<n then
        tcpWriteWithRetry size answers (totalWritten+min n (size-totalWritten)) 0
      else (none,totalWritten)
    | .wouldBlock::answers=>
      if retryCount+1<tcpMaxRetryCount then
        tcpWriteWithRetry size answers totalWritten (retryCount+1)
      else (none,totalWritten)
    | .interrupted::answers=>tcpWriteWithRetry size answers totalWritten retryCount
    | .failed::_=>(none,totalWritten)
  else (some totalWritten,totalWritten)

structure TcpSendAttempt where
  connected : Bool
  alloc : Bool
  answers : List KernelSend

section
variable (e : Endian)

/-- `tcp_send_complete_message`. -/
def tcpSendCompleteMessage (msg : Message) (attempt : TcpSendAttempt) : TcpSendResult × Bytes:=
  let totalSize:=headerSize+msg.header.payloadSize.toNat
  if maxTransportBufferSize<totalSize then (.transportSendFailed,[])
  else if !attempt.alloc then (.allocationFailed,[])
  else
    let (msgSize,buffer):=serialize e (some msg) (some (replicate totalSize 0))
    if msgSize=0 then (.transportSendFailed,[])
    else
      let (sentSize,taken):=tcpWriteWithRetry msgSize attempt.answers 0 0
      (if sentSize=some msgSize then .ok else .networkSendFailed,(buffer.getD []).take taken)

def tcpClientSend (msg : Message) (attempt : TcpSendAttempt) : TcpSendResult × Bytes:=
  if !attempt.connected then (.connectFailed,[]) else tcpSendCompleteMessage e msg attempt

def transportShouldRetrySend : TcpSendResult→Bool
  | .transportSendFailed=>true
  | .networkSendFailed=>true
  | _=>false

/-- An attempt in the log of a connection. -/
structure TcpSendRecord where
  message : Message
  result : TcpSendResult
  bytes : Bytes

/-- The loop of `zoo_smb_transport_send` over its attempts, of which `remaining` are left. -/
def sendAttempts (e : Endian) (msg : Message) (env : ℕ→TcpSendAttempt) :
    ℕ→ℕ→List TcpSendRecord
  | 0, _=>[]
  | remaining+1, attempt=>
    let sent:=tcpClientSend e msg (env attempt)
    let record : TcpSendRecord:=⟨msg,sent.1,sent.2⟩
    if sent.1 = .ok then [record]
    else if remaining=0 ∨ transportShouldRetrySend sent.1=false then [record]
    else record::sendAttempts e msg env remaining (attempt+1)

/-- `zoo_smb_transport_send` over TCP: the result, and the attempts that it has made. -/
def zooSmbTransportSend (maxSendAttempts : UInt32) (msg : Message)
    (env : ℕ→TcpSendAttempt) : TcpSendResult × List TcpSendRecord:=
  let maxAttempts:=if 0 < maxSendAttempts then maxSendAttempts.toNat else 1
  let records:=sendAttempts e msg env maxAttempts 0
  ((records.getLast?.map TcpSendRecord.result).getD .transportSendFailed,records)

/-- A message that is sent, and the environment of its attempts. -/
structure TcpSendCall where
  message : Message
  env : ℕ→TcpSendAttempt

def sendLog (maxSendAttempts : UInt32) (calls : List TcpSendCall) : List TcpSendRecord:=
  calls.flatMap fun call=>(zooSmbTransportSend e maxSendAttempts call.message call.env).2

/-- The bytes that `zoo_smb_protocol_serialize` writes for a message. -/
def Message.serialized (m : Message) : Bytes:=
  (serialize e (some m) (some (replicate (calculateRequiredBufferSize m) 0))).2.getD []

end
namespace TcpSendRecord

structure Whole (e : Endian) (a : TcpSendRecord) : Prop where
  result : a.result = .ok
  bytes : a.bytes=a.message.serialized e

structure Silent (a : TcpSendRecord) : Prop where
  result : a.result ≠ .ok
  bytes : a.bytes=[]

structure Incomplete (e : Endian) (a : TcpSendRecord) : Prop where
  result : a.result ≠ .ok
  nonempty : a.bytes≠[]
  isPart : a.bytes <+: a.message.serialized e ∧ a.bytes≠a.message.serialized e

end TcpSendRecord

/-- Whole messages and failed attempts, then at most one incomplete message. -/
def Framed (e : Endian) (log : List TcpSendRecord) : Prop:=
  ∃ front tail, log=front++tail ∧ (∀ a∈front, a.Whole e ∨ a.Silent) ∧
    (tail=[] ∨ ∃ a rest, tail=a::rest ∧ a.Incomplete e ∧ ∀ b∈rest, b.Silent)

lemma tcpWriteWithRetry_spec {size : ℕ} (answers : List KernelSend) {totalWritten retryCount : ℕ}
    (htotal : totalWritten ≤ size) (hretry : retryCount<tcpMaxRetryCount) :
    (tcpWriteWithRetry size answers totalWritten retryCount).2 ≤ size ∧
      ((tcpWriteWithRetry size answers totalWritten retryCount).1=some size ↔
        (tcpWriteWithRetry size answers totalWritten retryCount).2=size):=by
  have hpos : 0<tcpMaxRetryCount:=by decide
  induction answers generalizing totalWritten retryCount with
  | nil=>
    unfold tcpWriteWithRetry
    split
    · simp
      omega
    · simp
      omega
  | cons answer answers ih=>
    unfold tcpWriteWithRetry
    split
    next hcontinue=>
      have hstopped : totalWritten ≤ size ∧ ((none : Option ℕ)=some size ↔ totalWritten=size):=by
        simp
        omega
      cases answer with
      | taken n=>
        dsimp only
        split
        · exact ih (by omega) hpos
        · exact hstopped
      | wouldBlock=>
        dsimp only
        split
        next hagain=>exact ih htotal hagain
        · exact hstopped
      | interrupted=>exact ih htotal hretry
      | failed=>exact hstopped
    · simp
      omega

namespace Message
variable (e : Endian) (m : Message)

lemma serialize_required :
    serialize e (some m) (some (replicate (calculateRequiredBufferSize m) 0))=
      (calculateRequiredBufferSize m,some (m.serialized e)):=by simp [serialized,serialize]

lemma length_serialized : (m.serialized e).length=calculateRequiredBufferSize m:=by
  have hheader (header : MessageHeader) : (overwrite (replicate (calculateRequiredBufferSize m)
      0) 0 (header.memory e)).length=calculateRequiredBufferSize m:=by
    rw [length_overwrite,length_replicate]
    rw [MessageHeader.length_memory,length_replicate,Nat.zero_add]
    exact Nat.le_add_right _ _
  simp only [serialized,serialize,length_replicate,Nat.lt_irrefl,if_false,Option.getD_some,copyPayloadToBuffer]
  split
  next payload hpayloads=>
    have hpayload:=m.payload_le payload hpayloads
    split
    · rw [length_overwrite,hheader]
      rw [length_take,Nat.min_eq_left hpayload,hheader]
      exact Nat.le_refl _
    · exact hheader _
  · exact hheader _

lemma serialized_ne_nil : m.serialized e≠[]:=by
  intro hnil
  have hlen:=length_serialized e m
  rw [hnil,calculateRequiredBufferSize] at hlen
  have hheader : 0<headerSize:=by decide
  simp only [length_nil] at hlen
  omega

end Message

structure TcpSendRecord.Sound (e : Endian) (a : TcpSendRecord) : Prop where
  isPrefix : a.bytes <+: a.message.serialized e
  ok_iff : a.result = .ok ↔ a.bytes=a.message.serialized e

lemma sound_of_nil (e : Endian) (msg : Message) {result : TcpSendResult} (h : result ≠ .ok) :
    TcpSendRecord.Sound e ⟨msg,result,[]⟩:=
  ⟨ nil_prefix,iff_of_false h (msg.serialized_ne_nil e).symm⟩

lemma sound_tcpClientSend (e : Endian) (msg : Message) (attempt : TcpSendAttempt) :
    TcpSendRecord.Sound e ⟨msg,(tcpClientSend e msg attempt).1,(tcpClientSend e msg attempt).2⟩:=by
  rw [tcpClientSend,tcpSendCompleteMessage]
  have hsize : headerSize+msg.header.payloadSize.toNat=calculateRequiredBufferSize msg:=rfl
  split
  · exact sound_of_nil e msg (by decide)
  dsimp only
  rw [hsize,msg.serialize_required e]
  split
  · exact sound_of_nil e msg (by decide)
  split
  · exact sound_of_nil e msg (by decide)
  dsimp only
  split
  · exact sound_of_nil e msg (by decide)
  obtain ⟨hle,hsent⟩:=tcpWriteWithRetry_spec attempt.answers
    (Nat.zero_le (calculateRequiredBufferSize msg)) (show 0<tcpMaxRetryCount by decide)
  generalize tcpWriteWithRetry (calculateRequiredBufferSize msg) attempt.answers 0 0=written at*
  rw [← msg.length_serialized e] at hle hsent
  refine ⟨ take_prefix _ _,?_⟩
  rw [Option.getD_some,take_eq_self_iff,← msg.length_serialized e]
  by_cases hall : written.2=(msg.serialized e).length
  · exact iff_of_true (if_pos (hsent.2 hall)) hall.ge
  · refine iff_of_false ?_ (by omega)
    rw [if_neg (mt hsent.1 hall)]
    exact TcpSendResult.noConfusion

namespace TcpSendRecord
variable {e : Endian} {a : TcpSendRecord}

lemma Sound.cases (h : a.Sound e) : a.Whole e ∨ a.Silent ∨ a.Incomplete e:=by
  by_cases hok : a.result = .ok
  · exact .inl ⟨hok,h.ok_iff.1 hok⟩
  · by_cases hnil : a.bytes=[]
    · exact .inr (.inl ⟨hok,hnil⟩)
    · exact .inr (.inr ⟨hok,hnil,h.isPrefix,fun hall=>hok (h.ok_iff.2 hall)⟩)

lemma Sound.silent (h : a.Sound e) (hnil : a.bytes=[]) : a.Silent:=
  ⟨fun hok=>a.message.serialized_ne_nil e ((h.ok_iff.1 hok).symm.trans hnil),hnil⟩

end TcpSendRecord

lemma framed_iff {e : Endian} {log : List TcpSendRecord} (hsound : ∀ a∈log, a.Sound e) :
    Framed e log ↔ log.Pairwise fun a b=>a.Incomplete e → b.bytes=[]:=by
  constructor
  · rintro ⟨front,tail,rfl,hfront,htail⟩
    have hcomplete : ∀ a∈front, ¬a.Incomplete e:=by
      intro a ha hinc
      rcases hfront a ha with hwhole | hsil
      · exact hinc.result hwhole.result
      · exact hinc.nonempty hsil.bytes
    refine pairwise_append.2 ⟨?_,?_,fun a ha b _ h=>absurd h (hcomplete a ha)⟩
    · exact pairwise_of_forall_mem_list fun a ha b _ h=>absurd h (hcomplete a ha)
    · rcases htail with rfl | ⟨a,rest,rfl,-,hrest⟩
      · exact List.Pairwise.nil
      · refine pairwise_cons.2 ⟨fun b hb _=>(hrest b hb).bytes,?_⟩
        exact pairwise_of_forall_mem_list fun b _ c hc _=>(hrest c hc).bytes
  · intro hpairwise
    induction log with
    | nil=>exact ⟨[],[],rfl,forall_mem_nil _,.inl rfl⟩
    | cons a log ih=>
      obtain ⟨hfirst,hlog⟩:=pairwise_cons.1 hpairwise
      have ha:=hsound a mem_cons_self
      have hsound' : ∀ b∈log, b.Sound e:=fun b hb=>hsound b (mem_cons_of_mem a hb)
      obtain ⟨front,tail,hsplit,hfront,htail⟩:=ih hsound' hlog
      rcases ha.cases with hwhole | hsil | hinc
      · exact ⟨a::front,tail,by rw [hsplit,cons_append],forall_mem_cons.2 ⟨.inl hwhole,hfront⟩,htail⟩
      · exact ⟨a::front,tail,by rw [hsplit,cons_append], forall_mem_cons.2 ⟨.inr hsil,hfront⟩,htail⟩
      · refine ⟨[],a::log,rfl,forall_mem_nil _,.inr ⟨a,log,rfl,hinc,?_⟩⟩
        exact fun b hb=>(hsound' b hb).silent (hfirst b hb hinc)

section
variable (e : Endian) (msg : Message) (env : ℕ→TcpSendAttempt) (remaining attempt : ℕ)

lemma sound_sendAttempts : ∀ a∈sendAttempts e msg env remaining attempt, a.Sound e:=by
  induction remaining generalizing attempt with
  | zero=>exact forall_mem_nil _
  | succ remaining ih=>
    have hfirst:=sound_tcpClientSend e msg (env attempt)
    rw [sendAttempts]
    split
    · exact forall_mem_singleton.2 hfirst
    split
    · exact forall_mem_singleton.2 hfirst
    · exact forall_mem_cons.2 ⟨hfirst,ih (attempt+1)⟩

lemma sendAttempts_ne_nil : sendAttempts e msg env (remaining+1) attempt≠[]:=by
  rw [sendAttempts]
  split
  · exact cons_ne_nil _ _
  split <;> exact cons_ne_nil _ _

lemma filter_ok_sendAttempts :
    ((sendAttempts e msg env remaining attempt).filter fun a=>a.result = .ok).map
        TcpSendRecord.message=
      if ((sendAttempts e msg env remaining attempt).getLast?.map TcpSendRecord.result).getD
        .transportSendFailed = .ok then [msg] else []:=by
  induction remaining generalizing attempt with
  | zero=>rfl
  | succ remaining ih=>
    rw [sendAttempts]
    split
    next hok=>simp [hok]
    rename_i hfailed
    split
    · simp [hfailed]
    next hretry=>
      obtain ⟨remaining,rfl⟩:=Nat.exists_eq_succ_of_ne_zero (fun hzero=>hretry (.inl hzero))
      obtain ⟨a,rest,hrest⟩:=exists_cons_of_ne_nil (sendAttempts_ne_nil e msg env remaining (attempt+1))
      have hlast:=ih (attempt+1)
      rw [hrest] at hlast ⊢
      rw [getLast?_cons_cons,filter_cons_of_neg (by simpa using hfailed),hlast]

variable (maxSendAttempts : UInt32) (calls : List TcpSendCall)

lemma sound_sendLog : ∀ a∈sendLog e maxSendAttempts calls, a.Sound e:=by
  intro a ha
  obtain ⟨call,-,hcall⟩:=mem_flatMap.1 ha
  exact sound_sendAttempts e call.message call.env _ 0 a hcall

lemma filter_ok_sendLog :
    ((sendLog e maxSendAttempts calls).filter fun a=>a.result = .ok).map TcpSendRecord.message=
      (calls.filter fun call=>
        (zooSmbTransportSend e maxSendAttempts call.message call.env).1 = .ok).map
        TcpSendCall.message:=by
  induction calls with
  | nil=>rfl
  | cons call calls ih=>
    have hcall : ((zooSmbTransportSend e maxSendAttempts call.message call.env).2.filter fun a=>
        a.result = .ok).map TcpSendRecord.message=
        if (zooSmbTransportSend e maxSendAttempts call.message call.env).1 = .ok then
          [call.message] else []:=filter_ok_sendAttempts e call.message call.env _ 0
    rw [sendLog] at ih
    rw [sendLog,flatMap_cons,filter_append,map_append,ih,hcall]
    split
    next hok=>
      rw [filter_cons_of_pos (by simpa using hok)]
      rfl
    next hfailed=>
      rw [filter_cons_of_neg (by simpa using hfailed)]
      rfl

end

lemma flatMap_bytes_front {e : Endian} {front : List TcpSendRecord} (h : ∀ a∈front, a.Whole e ∨ a.Silent) :
    front.flatMap TcpSendRecord.bytes=
      ((front.filter fun a=>a.result = .ok).map TcpSendRecord.message).flatMap (Message.serialized e):=by
  induction front with
  | nil=>rfl
  | cons a front ih=>
    obtain ⟨ha,hfront⟩:=forall_mem_cons.1 h
    rw [flatMap_cons,ih hfront]
    rcases ha with hwhole | hsil
    · rw [filter_cons_of_pos (by simpa using hwhole.result),map_cons,flatMap_cons,hwhole.bytes]
    · rw [filter_cons_of_neg (by simpa using hsil.result),hsil.bytes,nil_append]

lemma Framed.bytes_eq {e : Endian} {log : List TcpSendRecord} (h : Framed e log) :
    ∃ incomplete, log.flatMap TcpSendRecord.bytes=
        ((log.filter fun a=>a.result = .ok).map TcpSendRecord.message).flatMap (Message.serialized e)++incomplete ∧
      (incomplete=[] ∨ ∃ a∈log, a.result ≠ .ok ∧ incomplete <+: a.message.serialized e ∧
        incomplete≠a.message.serialized e):=by
  obtain ⟨front,tail,rfl,hfront,htail⟩:=h
  rw [flatMap_append,filter_append,map_append,flatMap_append,flatMap_bytes_front hfront]
  rcases htail with rfl | ⟨a,rest,rfl,hinc,hrest⟩
  · exact ⟨[],by simp,.inl rfl⟩
  · have hsil : rest.flatMap TcpSendRecord.bytes=[]:=flatMap_eq_nil_iff.2 fun b hb=>(hrest b hb).bytes
    have hfailed : (a::rest).filter (fun a=>a.result = .ok)=[]:=by
      refine filter_eq_nil_iff.2 (forall_mem_cons.2 ⟨?_,fun b hb=>?_⟩)
      · simpa using hinc.result
      · simpa using (hrest b hb).result
    refine ⟨a.bytes,?_,.inr ⟨a,mem_append_right _ mem_cons_self,hinc.result, hinc.isPart⟩⟩
    rw [hfailed,flatMap_cons,hsil,append_nil]
    simp

def cutShortEnv : ℕ→TcpSendAttempt
  | 0=>⟨true,true,[.taken 50,.failed]⟩
  | _=>⟨true,true,[.taken 1000]⟩

/-- The functions that serialize a message to send it. -/
inductive SendPath where
  | tcpClient
  | udp
  | udpBroadcast
  | shm
  deriving DecidableEq

def limitedBufferSize (msg : Message) : Option ℕ:=
  let totalSize:=headerSize+msg.header.payloadSize.toNat
  if maxTransportBufferSize<totalSize then none else some totalSize

/-- The size of the buffer that a send allocates, or `none` if it refuses the message first. -/
def SendPath.bufferSize (msg : Message) : SendPath→Option ℕ
  | .tcpClient=>limitedBufferSize msg
  | .udp=>some (headerSize+msg.header.payloadSize.toNat)
  | .udpBroadcast=>limitedBufferSize msg
  | .shm=>some maxTransportBufferSize

/-- The message is not refused, and `zoo_smb_protocol_serialize` finds room for it. -/
def SendPath.fits (e : Endian) (msg : Message) (path : SendPath) : Bool:=
  match path.bufferSize msg with
  | none=>false
  | some size=>(serialize e (some msg) (some (replicate size 0))).1≠0

section
variable (e : Endian) (msg : Message)

lemma serialize_fst_ne_zero_iff (size : ℕ) :
    (serialize e (some msg) (some (replicate size 0))).1≠0 ↔ headerSize+msg.header.payloadSize.toNat ≤ size:=by
  have hheader : 0<headerSize:=by decide
  rw [serialize,length_replicate,calculateRequiredBufferSize]
  dsimp only
  split
  next hshort=>exact iff_of_false (fun h=>h rfl) (Nat.not_le.2 hshort)
  next hroom=>exact iff_of_true (by dsimp only; omega) (Nat.le_of_not_lt hroom)

lemma fits_iff (path : SendPath) :
    path.fits e msg=true ↔ ∃ size, path.bufferSize msg=some size ∧ headerSize+msg.header.payloadSize.toNat ≤ size:=by
  rw [SendPath.fits]
  cases path.bufferSize msg with
  | none=>simp
  | some size=>
    simp only [decide_eq_true_eq,serialize_fst_ne_zero_iff,Option.some.injEq,exists_eq_left']

lemma fits_eq_false {path : SendPath} (hpath : path ≠ .udp)
    (hlarge : maxTransportBufferSize<headerSize+msg.header.payloadSize.toNat) : path.fits e msg=false:=by
  rw [← Bool.not_eq_true,fits_iff]
  rintro ⟨size,hsize,hle⟩
  have hlim : limitedBufferSize msg=none:=if_pos hlarge
  cases path with
  | tcpClient | udpBroadcast=>cases hlim.symm.trans hsize
  | udp=>exact hpath rfl
  | shm=>
    cases hsize
    exact Nat.not_le.2 hlarge hle

lemma forall_fits_iff :
    (∀ path : SendPath, path.fits e msg=true) ↔ headerSize+msg.header.payloadSize.toNat ≤ maxTransportBufferSize:=by
  have hfits:=fits_iff e msg
  constructor
  · intro hall
    obtain ⟨size,hsize,hle⟩:=(hfits .shm).1 (hall .shm)
    cases hsize
    exact hle
  · intro hle path
    have hlim : limitedBufferSize msg=some (headerSize+msg.header.payloadSize.toNat):=if_neg (Nat.not_lt.2 hle)
    cases path with
    | tcpClient=>exact (hfits .tcpClient).2 ⟨_,hlim,Nat.le_refl _⟩
    | udp=>exact (hfits .udp).2 ⟨_,rfl,Nat.le_refl _⟩
    | udpBroadcast=>exact (hfits .udpBroadcast).2 ⟨_,hlim,Nat.le_refl _⟩
    | shm=>exact (hfits .shm).2 ⟨_,rfl,hle⟩

end

lemma smbEffectiveMaxPayloadSize_lt (config : Option UInt32) :
    smbEffectiveMaxPayloadSize (config.map UInt32.toNat)<2^32:=by
  have hdef : defaultMaxTransportBufferSize<2^32:=by decide
  unfold smbEffectiveMaxPayloadSize
  cases config with
  | none=>
    simp only [Option.map_none]
    split <;> omega
  | some size=>
    have hsize:=size.toNat_lt
    have hbudget : (if 0<size.toNat then size.toNat else defaultMaxTransportBufferSize)<
        2^32:=by split <;> omega
    simp only [Option.map_some]
    generalize (if 0<size.toNat then size.toNat else defaultMaxTransportBufferSize)=budget at hbudget ⊢
    split <;> omega

lemma validatePayloadSize_iff {config : Option UInt32} {payloadSize : UInt32}
    (hlimit : payloadSize.toNat ≤ smbEffectiveMaxPayloadSize (config.map UInt32.toNat)) :
    validatePayloadSize (config.map UInt32.toNat) payloadSize=true ↔
      (config=none ∨ config=some 0→payloadSize.toNat ≤ maxPayloadSize):=by
  unfold validatePayloadSize
  rw [decide_eq_true_eq]
  cases config with
  | none=>simp
  | some size=>
    unfold smbEffectiveMaxPayloadSize at hlimit
    simp only [Option.map_some] at hlimit ⊢
    by_cases hzero : size=0
    · subst hzero
      simp
    · have hpos : 0<size.toNat:=Nat.pos_of_ne_zero fun h=>hzero (UInt32.toNat_inj.1 h)
      rw [if_pos hpos] at hlimit
      refine iff_of_true ?_ (by simp [hzero])
      split
      next hlarge=>rwa [if_neg (Nat.not_le.2 hlarge)] at hlimit
      next hsmall=>
        rw [if_pos (Nat.le_of_not_lt hsmall)] at hlimit
        omega

/-- A created message fits every transport exactly when its payload fits behind a header there and
is within the limit. -/
theorem created_message_transportable_iff (e : Endian) (config : Option UInt32)
    (alloc : ℕ→Bool) (block : MessageHeader) (now : UInt64) (msgType : MsgType)
    (sender topic : CString) (payload : Bytes) (msgId : UInt32) (requestId : UInt64) (m : Message)
    (hcreate : createMessage ⟨config.map UInt32.toNat,alloc,block,now⟩ msgType sender topic
      payload msgId requestId=some m) :
    (isHeaderValid (config.map UInt32.toNat) m.header=true ∧
        ∀ path : SendPath, path.fits e m=true) ↔
      headerSize+payload.length ≤ maxTransportBufferSize ∧
        (config=none ∨ config=some 0→payload.length ≤ maxPayloadSize):=by
  obtain ⟨hlimit,-,-,-,-,hmagic,hversion,hsize,-⟩:=created_of_createMessage hcreate
  have hlength : m.header.payloadSize.toNat=payload.length:=by
    rw [hsize]
    exact Nat.mod_eq_of_lt (Nat.lt_of_le_of_lt hlimit (smbEffectiveMaxPayloadSize_lt config))
  rw [forall_fits_iff,isHeaderValid,hmagic,hversion,Bool.and_eq_true,
    validatePayloadSize_iff (by rwa [hlength]),hlength,and_comm]
  simp [validateMagicNumber,validateProtocolVersion]

/-- A message of the size of a short text, created without a configuration. -/
theorem created_message_transportable_short :
    ∃ m, createMessage ⟨none,fun _=>true,samplePublication.header,0⟩ .pub (.ofMemory [97])
        (.ofMemory [98]) [1,2,3] 7 42=some m ∧
      isHeaderValid none m.header=true ∧ ∀ path : SendPath, path.fits .little m=true:=
  ⟨_,rfl,(created_message_transportable_iff .little none (fun _=>true)
    samplePublication.header 0 .pub (.ofMemory [97]) (.ofMemory [98]) [1,2,3] 7 42 _ rfl).2
    (by decide)⟩

lemma exists_createMessage {config : Option ℕ} {payload : Bytes}
    (h : payload.length ≤ smbEffectiveMaxPayloadSize config) (block : MessageHeader) (now : UInt64)
    (msgType : MsgType) (sender topic : CString) (msgId : UInt32) (requestId : UInt64) :
    ∃ m, createMessage ⟨config,fun _=>true,block,now⟩ msgType sender topic payload msgId requestId=some m:=by
  rw [createMessage,if_neg (Nat.not_lt.2 h),if_pos (by simp)]
  exact ⟨_,rfl⟩

/-- A payload of 5000 bytes is created and not valid, one of 50000 is valid and fits no buffer. -/
theorem created_message_refused :
    (∃ m, createMessage ⟨none,fun _=>true,samplePublication.header,0⟩ .pub (.ofMemory [97])
        (.ofMemory [98]) (replicate 5000 0) 7 42=some m ∧
      isHeaderValid none m.header=false) ∧
      ∃ m, createMessage ⟨some 65536,fun _=>true,samplePublication.header,0⟩ .pub
          (.ofMemory [97]) (.ofMemory [98]) (replicate 50000 0) 7 42=some m ∧
        isHeaderValid (some 65536) m.header=true ∧
        SendPath.tcpClient.fits .little m=false ∧ SendPath.udpBroadcast.fits .little m=false ∧
        SendPath.shm.fits .little m=false:=by
  obtain ⟨m₁,hm₁⟩:=exists_createMessage
    (show (replicate 5000 0).length ≤ smbEffectiveMaxPayloadSize none by
      rw [length_replicate]; decide)
    samplePublication.header 0 .pub (.ofMemory [97]) (.ofMemory [98]) 7 42
  obtain ⟨m₂,hm₂⟩:=exists_createMessage
    (show (replicate 50000 0).length ≤ smbEffectiveMaxPayloadSize (some 65536) by
      rw [length_replicate]; decide)
    samplePublication.header 0 .pub (.ofMemory [97]) (.ofMemory [98]) 7 42
  obtain ⟨-,-,-,-,-,hmagic₁,hversion₁,hsize₁,-⟩:=created_of_createMessage hm₁
  obtain ⟨-,-,-,-,-,hmagic₂,hversion₂,hsize₂,-⟩:=created_of_createMessage hm₂
  rw [length_replicate] at hsize₁ hsize₂
  have hlarge : maxTransportBufferSize<headerSize+m₂.header.payloadSize.toNat:=by
    rw [hsize₂]
    decide
  refine ⟨⟨m₁,hm₁,?_⟩,m₂,hm₂,?_,fits_eq_false _ _ (by decide) hlarge,
    fits_eq_false _ _ (by decide) hlarge,fits_eq_false _ _ (by decide) hlarge⟩
  · rw [isHeaderValid,hmagic₁,hversion₁,hsize₁]
    decide
  · rw [isHeaderValid,hmagic₂,hversion₂,hsize₂]
    decide

end SoftMessageBus
