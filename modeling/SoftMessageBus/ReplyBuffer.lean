import SoftMessageBus.RoutingEngine

/-!
# The buffer of replies over a history

Replies leave the buffer of a client only when they are received.
-/
namespace SoftMessageBus
open List StepRuns

/-- A buffered reply. -/
structure Reply where
  message : Message
  payload_isSome : message.payload.isSome
  payloadSize_ne : message.header.payloadSize.toNat≠0
  deriving DecidableEq

def Reply.msgId (r : Reply) : UInt32:=r.message.header.msgId
def Reply.requestId (r : Reply) : UInt64:=r.message.header.requestId

/-- The size of the list that `zoo_smb_create_client` creates for the replies. -/
def maxReplyMessages : ℕ:=1024

lemma payload_copyMessage {alloc : ℕ→Bool} {message copy : Message} (hsize : message.header.payloadSize.toNat≠0)
    (hcopy : copyMessage alloc message=some copy) : copy.payload.isSome:=by
  unfold copyMessage at hcopy
  rw [if_neg hsize] at hcopy
  split at hcopy
  · cases hcopy
  · split at hcopy
    · cases hcopy
      rfl
    · cases hcopy

/-- `client_on_handle_REPL_message_cb`. -/
def onHandleRepl (alloc : ℕ→Bool) (replies : List Reply) (message : Message) : List Reply:=
  if hsize : message.header.payloadSize.toNat=0 then replies
  else if message.payload.isNone then replies
  else if !alloc messageStructSize then replies
  else match hcopy : copyMessage alloc message with
    | none=>replies
    | some copy=>
      if replies.length < maxReplyMessages then
        replies++[⟨copy,payload_copyMessage hsize hcopy,by
          rw [header_copyMessage hcopy]
          exact hsize⟩]
      else replies

def findReplyMessage (replies : List Reply) (msgId : UInt32) (requestId : UInt64) : Option Reply:=
  match replies.find? fun r=>r.requestId=requestId with
  | some data=>if data.msgId=msgId then some data else none
  | none=>none

/-- One turn of the loop that waits: its start, how the wait ends and what is handled meanwhile. -/
structure ReplyWait where
  elapsed : UInt64
  signalled : Bool
  alloc : ℕ→Bool
  arrivals : List Message

/-- What a call of `zoo_smb_client_recv_reply` has done; no result while it still waits. -/
structure RecvOutcome where
  result : Option ErrorType
  payload : Option Bytes
  replies : List Reply
  waits : ℕ
  deriving DecidableEq

/-- `zoo_smb_client_recv_reply`. -/
def recvReply (msgId : UInt32) (requestId : Int64) (timeoutMs : UInt32) (payloadAlloc : Bool) :
    List ReplyWait→List Reply→RecvOutcome
  | waits, replies=>
    match findReplyMessage replies msgId requestId.toUInt64 with
    | some reply=>
      if payloadAlloc then
        ⟨some .ok,some reply.message.payloadBytes, replies.eraseP fun r=>r.requestId=requestId.toUInt64,0⟩
      else ⟨some .outOfMemory,none,replies,0⟩
    | none=>
      match waits with
      | []=>⟨none,none,replies,0⟩
      | wait::waits=>
        if timeoutMs.toNat≤wait.elapsed.toNat then ⟨some .timeout,none,replies,0⟩
        else
          let arrived:=wait.arrivals.foldl (onHandleRepl wait.alloc) replies
          if wait.signalled then
            let outcome:=recvReply msgId requestId timeoutMs payloadAlloc waits arrived
            {outcome with waits:=outcome.waits+1}
          else ⟨some .timeout,none,arrived,1⟩

def Reply.Answers (r : Reply) (msgId : UInt32) (requestId : Int64) : Prop:=
  r.msgId=msgId ∧ r.requestId=requestId.toUInt64
  deriving Decidable

/-- The call returns the first reply with both identifiers and takes it out of the buffer,
without waiting. -/
def ReturnsAtOnce (msgId : UInt32) (requestId : Int64) (replies : List Reply) (outcome : RecvOutcome) : Prop:=
  ∃ reply, replies.find? (fun r=>r.Answers msgId requestId)=some reply ∧
    outcome=⟨some .ok,some reply.message.payloadBytes, replies.eraseP fun r=>r.Answers msgId requestId,0⟩

def FirstAnswers (msgId : UInt32) (requestId : Int64) (replies : List Reply) : Prop:=
  ∃ reply, replies.find? (fun r=>r.requestId=requestId.toUInt64)=some reply ∧ reply.msgId=msgId

variable {msgId : UInt32} {requestId : Int64} {replies : List Reply}

lemma findReplyMessage_eq_some_iff {reply : Reply} :
    findReplyMessage replies msgId requestId.toUInt64=some reply ↔
      replies.find? (fun r=>r.requestId=requestId.toUInt64)=some reply ∧ reply.msgId=msgId:=by
  unfold findReplyMessage
  cases replies.find? fun r=>r.requestId=requestId.toUInt64 with
  | none=>simp
  | some data=>
    by_cases hid : data.msgId=msgId
    · simp only [hid,if_true,Option.some.injEq]
      constructor
      · rintro rfl
        exact ⟨rfl,hid⟩
      · exact And.left
    · simp only [hid,if_false,Option.some.injEq,reduceCtorEq,false_iff]
      rintro ⟨rfl,hmsg⟩
      exact hid hmsg

lemma find?_answers {reply : Reply}
    (hfind : replies.find? (fun r=>r.requestId=requestId.toUInt64)=some reply) (hid : reply.msgId=msgId) :
    replies.find? (fun r=>r.Answers msgId requestId)=some reply ∧
      (replies.eraseP fun r=>r.Answers msgId requestId)=replies.eraseP fun r=>r.requestId=requestId.toUInt64:=by
  induction replies with
  | nil=>cases hfind
  | cons head rest ih=>
    by_cases hreq : head.requestId=requestId.toUInt64
    · rw [find?_cons_of_pos (by simpa using hreq),Option.some.injEq] at hfind
      subst hfind
      have hanswers : head.Answers msgId requestId:=⟨hid,hreq⟩
      rw [find?_cons_of_pos (by simpa using hanswers),eraseP_cons_of_pos (by simpa using hanswers),
        eraseP_cons_of_pos (by simpa using hreq)]
      exact ⟨rfl,rfl⟩
    · rw [find?_cons_of_neg (by simpa using hreq)] at hfind
      have hanswers : ¬head.Answers msgId requestId:=fun h=>hreq h.2
      rw [find?_cons_of_neg (by simpa using hanswers),eraseP_cons_of_neg (by simpa using hanswers),
        eraseP_cons_of_neg (by simpa using hreq)]
      exact ⟨(ih hfind).1,congrArg (head :: ·) (ih hfind).2⟩

lemma findReplyMessage_isSome_of_waits {timeoutMs : UInt32} {payloadAlloc : Bool} {waits : List ReplyWait}
    (hres : (recvReply msgId requestId timeoutMs payloadAlloc waits replies).result=some .ok)
    (hwaits : (recvReply msgId requestId timeoutMs payloadAlloc waits replies).waits=0) :
    (findReplyMessage replies msgId requestId.toUInt64).isSome ∧ payloadAlloc=true:=by
  unfold recvReply at hres hwaits
  cases hfind : findReplyMessage replies msgId requestId.toUInt64 with
  | some reply=>
    cases payloadAlloc with
    | true=>exact ⟨rfl,rfl⟩
    | false=>simp [hfind] at hres
  | none=>
    cases waits with
    | nil=>simp [hfind] at hres
    | cons wait waits=>
      simp only [hfind] at hres hwaits
      split at hres
      · cases hres
      · split at hres <;> simp_all

/-- A call for a buffered reply returns it at once exactly when it is the first with its request
identifier and the payload can be allocated. -/
theorem recvReply_returnsAtOnce_iff (replies : List Reply) (msgId : UInt32) (requestId : Int64)
    (timeoutMs : UInt32) (payloadAlloc : Bool) (waits : List ReplyWait) :
    ((∃ r∈replies, r.Answers msgId requestId)→ReturnsAtOnce msgId requestId replies
        (recvReply msgId requestId timeoutMs payloadAlloc waits replies)) ↔
      ((∃ r∈replies, r.Answers msgId requestId)→FirstAnswers msgId requestId replies ∧ payloadAlloc=true):=by
  refine imp_congr_right fun _=>⟨?_,?_⟩
  · rintro ⟨reply,-,houtcome⟩
    obtain ⟨hfound,halloc⟩:=findReplyMessage_isSome_of_waits (by rw [houtcome]) (by rw [houtcome])
    obtain ⟨found,hfind⟩:=Option.isSome_iff_exists.1 hfound
    exact ⟨⟨found,findReplyMessage_eq_some_iff.1 hfind⟩,halloc⟩
  · rintro ⟨⟨reply,hfind,hid⟩,halloc⟩
    obtain ⟨hanswers,herase⟩:=find?_answers hfind hid
    refine ⟨reply,hanswers,?_⟩
    unfold recvReply
    rw [findReplyMessage_eq_some_iff.2 ⟨hfind,hid⟩,halloc,herase]
    rfl

def sampleReply (msgId : UInt32) (byte : UInt8) : Message where
  header:={samplePublication.header with
    msgType:=MsgType.repl.code, payloadSize:=1, msgId, requestId:=7}
  payload:=some [byte]
  payload_le:=by simp

/-- A call for the second of two buffered replies to one request times out. -/
theorem recvReply_second_reply_times_out :
    let replies:=[sampleReply 1 10,sampleReply 2 20].foldl (onHandleRepl fun _=>true) []
    (∃ r∈replies, r.Answers 2 7) ∧
      recvReply 2 7 100 true [⟨0,false,fun _=>true,[]⟩] replies=⟨some .timeout,none,replies,1⟩:=by
  decide +kernel

/-- A reply arrives, or a call of `zoo_smb_client_recv_reply` looks for one. -/
inductive ReplyEvent where
  | arrive (alloc : ℕ→Bool) (message : Message)
  | receive (msgId : UInt32) (requestId : Int64) (payloadAlloc : Bool)

def ReplyEvent.apply (replies : List Reply) : ReplyEvent→List Reply
  | .arrive alloc message=>onHandleRepl alloc replies message
  | .receive msgId requestId payloadAlloc=>
    (recvReply msgId requestId 0 payloadAlloc [] replies).replies

def Buffers (alloc : ℕ→Bool) (replies : List Reply) (message : Message) : Prop:=
  message.header.payloadSize.toNat≠0 ∧ message.payload.isSome ∧ alloc messageStructSize=true ∧
    alloc message.header.payloadSize.toNat=true ∧ replies.length < maxReplyMessages

def RecvOutcome.Returns (outcome : RecvOutcome) (bytes : Bytes) : Prop:=
  outcome.result=some .ok ∧ outcome.payload=some bytes

def Message.Answers (m : Message) (msgId : UInt32) (requestId : Int64) : Prop:=
  m.header.msgId=msgId ∧ m.header.requestId=requestId.toUInt64

variable {alloc : ℕ→Bool} {replies : List Reply} {message : Message} {msgId : UInt32}
  {requestId : Int64} {timeoutMs : UInt32} {payloadAlloc : Bool} {bytes : Bytes}

lemma copyMessage_isSome_iff (hsize : message.header.payloadSize.toNat≠0) (hpayload : message.payload.isSome) :
    (copyMessage alloc message).isSome ↔ alloc message.header.payloadSize.toNat=true:=by
  unfold copyMessage
  rw [if_neg hsize]
  split
  next hnone=>
    rw [hnone] at hpayload
    cases hpayload
  · split <;> simp_all

lemma onHandleRepl_cases (alloc : ℕ→Bool) (replies : List Reply) (message : Message) :
    (Buffers alloc replies message ∧ ∃ reply : Reply,
      onHandleRepl alloc replies message=replies++[reply] ∧
      reply.message.header=message.header ∧
      reply.message.payloadBytes=message.payloadBytes) ∨
    (¬Buffers alloc replies message ∧ onHandleRepl alloc replies message=replies):=by
  unfold onHandleRepl
  split
  next hsize=>exact Or.inr ⟨fun h=>h.1 hsize,rfl⟩
  rename_i hsize
  split
  next hnone=>exact Or.inr ⟨fun h=>by simp_all [Buffers],rfl⟩
  rename_i hpayload
  have hpayload : message.payload.isSome:=by simpa [Option.isSome_iff_ne_none] using hpayload
  have hcop:=(copyMessage_isSome_iff hsize hpayload : (copyMessage alloc message).isSome ↔ _)
  split
  next halloc=>exact Or.inr ⟨fun h=>by simp_all [Buffers],rfl⟩
  rename_i halloc
  split
  next hcopy=>
    rw [hcopy] at hcop
    exact Or.inr ⟨fun h=>by simpa using hcop.2 h.2.2.2.1,rfl⟩
  next copy hcopy=>
    rw [hcopy] at hcop
    split
    next hroom=>
      exact Or.inl ⟨⟨hsize,hpayload,by simpa using halloc,hcop.1 rfl,hroom⟩,_,rfl,
        header_copyMessage hcopy,payloadBytes_copyMessage hcopy⟩
    next hroom=>exact Or.inr ⟨fun h=>hroom h.2.2.2.2,rfl⟩

lemma returns_recvReply_iff :
    (recvReply msgId requestId timeoutMs payloadAlloc [] replies).Returns bytes ↔
      payloadAlloc=true ∧ ∃ reply, findReplyMessage replies msgId requestId.toUInt64=some reply ∧
        reply.message.payloadBytes=bytes:=by
  unfold recvReply
  cases findReplyMessage replies msgId requestId.toUInt64 with
  | none=>simp [RecvOutcome.Returns]
  | some reply=>cases payloadAlloc <;> simp [RecvOutcome.Returns]

lemma findReplyMessage_concat {reply found : Reply} {id : UInt64} :
    findReplyMessage (replies++[reply]) msgId id=some found ↔
      findReplyMessage replies msgId id=some found ∨
        (∀ r∈replies, r.requestId≠id) ∧ reply.requestId=id ∧ reply.msgId=msgId ∧ reply=found:=by
  unfold findReplyMessage
  rw [find?_append]
  cases hfirst : replies.find? fun r=>r.requestId=id with
  | some first=>
    have hhidden : ¬∀ r∈replies, r.requestId≠id:=fun hall=>
      hall first (mem_of_find?_eq_some hfirst) (by simpa using find?_some hfirst)
    simp [hhidden]
  | none=>
    have hall : ∀ r∈replies, r.requestId≠id:=by simpa [find?_eq_none] using hfirst
    rw [and_iff_right hall]
    by_cases hid : reply.requestId=id
    · simp [hid]
    · simp [hid]

lemma returns_after_reply_iff (hanswers : message.Answers msgId requestId) :
    (recvReply msgId requestId timeoutMs payloadAlloc []
        (onHandleRepl alloc replies message)).Returns bytes ↔
      payloadAlloc=true ∧
        ((∃ reply, findReplyMessage replies msgId requestId.toUInt64=some reply ∧
            reply.message.payloadBytes=bytes) ∨
          (∀ r∈replies, r.requestId≠requestId.toUInt64) ∧ Buffers alloc replies message ∧ message.payloadBytes=bytes):=by
  rw [returns_recvReply_iff]
  refine and_congr_right fun _=>?_
  rcases onHandleRepl_cases alloc replies message with
    ⟨hbuffer,reply,heq,hheader,hbytes⟩ | ⟨hbuffer,heq⟩
  · have hid : reply.requestId=requestId.toUInt64:=by
      rw [Reply.requestId,hheader]
      exact hanswers.2
    have hmsg : reply.msgId=msgId:=by
      rw [Reply.msgId,hheader]
      exact hanswers.1
    simp only [heq,findReplyMessage_concat,hid,hmsg,hbuffer,true_and,or_and_right,
      exists_or,and_assoc,exists_and_left,exists_eq_left',hbytes]
  · rw [heq]
    simp [hbuffer]

/-- A reply is returned to its waiting call exactly when it can be allocated, is the first of its
request and is buffered. -/
theorem reply_served_iff (history : List ReplyEvent) (msgId : UInt32) (requestId : Int64)
    (timeoutMs : UInt32) (payloadAlloc : Bool) (alloc : ℕ→Bool) (message : Message) :
    let replies:=history.foldl ReplyEvent.apply []
    (findReplyMessage replies msgId requestId.toUInt64=none→message.Answers msgId requestId→
      (recvReply msgId requestId timeoutMs payloadAlloc []
        (onHandleRepl alloc replies message)).Returns message.payloadBytes) ↔
    (findReplyMessage replies msgId requestId.toUInt64=none→message.Answers msgId requestId→
      payloadAlloc=true ∧ (∀ r∈replies, r.requestId≠requestId.toUInt64) ∧ Buffers alloc replies message):=by
  intro replies
  refine imp_congr_right fun hwaits=>imp_congr_right fun hanswers=>?_
  rw [returns_after_reply_iff hanswers,hwaits]
  simp

def sampleReplyTo (requestId : UInt64) : Message where
  header:={ (sampleReply 1 20).header with requestId}
  payload:=some [20]
  payload_le:=by simp [sampleReply]

def abandoned (n : ℕ) : List Reply:=
  (replicate n (ReplyEvent.arrive (fun _=>true) (sampleReply 1 10))).foldl ReplyEvent.apply []

lemma abandoned_spec {n : ℕ} (hn : n ≤ maxReplyMessages) :
    (abandoned n).length=n ∧ ∀ r∈abandoned n, r.requestId=7:=by
  induction n with
  | zero=>exact ⟨rfl,forall_mem_nil _⟩
  | succ n ih=>
    obtain ⟨hlen,hids⟩:=ih (Nat.le_of_succ_le hn)
    have hsucc : abandoned (n+1)=
        onHandleRepl (fun _=>true) (abandoned n) (sampleReply 1 10):=by
      rw [abandoned,replicate_succ',foldl_append]
      rfl
    rcases onHandleRepl_cases (fun _=>true) (abandoned n) (sampleReply 1 10) with
      ⟨-,reply,heq,hheader,-⟩ | ⟨hlost,-⟩
    · rw [hsucc,heq]
      refine ⟨by rw [length_append,hlen]; rfl,?_⟩
      rw [forall_mem_append,forall_mem_singleton,Reply.requestId,hheader]
      exact ⟨hids,rfl⟩
    · exact absurd ⟨by decide,rfl,rfl,rfl,by omega⟩ hlost

theorem reply_lost_in_full_buffer :
    findReplyMessage (abandoned 1024) 1 (8 : Int64).toUInt64=none ∧
      ¬(recvReply 1 8 100 true [] (onHandleRepl (fun _=>true) (abandoned 1024)
        (sampleReplyTo 8))).Returns (sampleReplyTo 8).payloadBytes:=by
  obtain ⟨hlength,hids⟩:=abandoned_spec (le_refl maxReplyMessages)
  have hwaits : findReplyMessage (abandoned 1024) 1 (8 : Int64).toUInt64=none:=by
    have hnone : (abandoned 1024).find? (fun r=>r.requestId=(8 : Int64).toUInt64)=none:=by
      rw [find?_eq_none]
      intro r hr
      rw [hids r hr]
      decide
    rw [findReplyMessage,hnone]
  have hanswers : (sampleReplyTo 8).Answers 1 8:=⟨rfl,rfl⟩
  refine ⟨hwaits,fun h=>?_⟩
  rcases ((returns_after_reply_iff hanswers).1 h).2 with ⟨reply,hfind,-⟩ | ⟨-,hbuffers,-⟩
  · rw [hwaits] at hfind
    cases hfind
  · exact absurd hlength hbuffers.2.2.2.2.ne

/-- A reply is sent, delivered as it was sent, and returned by the call of the client. -/
def RepliesFaithfully (env : MessageEnvironment) (sender topic : CString) (payload : Bytes)
    (msgId : UInt32) (requestId : Int64) (timeoutMs : UInt32) (alloc : ℕ→Bool)
    (payloadAlloc : Bool) (replies : List Reply) : Prop:=
  ∀ message, createMessage env .repl sender topic payload msgId requestId.toUInt64=some message→
    (recvReply msgId requestId timeoutMs payloadAlloc [] (onHandleRepl alloc replies message)).Returns payload

/-- A payload that is not empty and fits is buffered, unless an earlier reply has it. -/
def TakesPayload (payload : Bytes) (msgId : UInt32) (requestId : Int64) (alloc : ℕ→Bool)
    (payloadAlloc : Bool) (replies : List Reply) : Prop:=
  payloadAlloc=true ∧
    ((∃ reply, findReplyMessage replies msgId requestId.toUInt64=some reply ∧
        reply.message.payloadBytes=payload) ∨
      (∀ r∈replies, r.requestId≠requestId.toUInt64) ∧ payload≠[] ∧
        payload.length<2^32 ∧ alloc messageStructSize=true ∧ alloc payload.length=true ∧
        replies.length < maxReplyMessages)

variable {env : MessageEnvironment} {topic : CString} {payload : Bytes}

lemma buffers_created_iff {msgType : MsgType} {sender : CString} {requestId : UInt64}
    (h : createMessage env msgType sender topic payload msgId requestId=some message) :
    Buffers alloc replies message ∧ message.payloadBytes=payload ↔
      payload≠[] ∧ payload.length<2^32 ∧ alloc messageStructSize=true ∧
        alloc payload.length=true ∧ replies.length < maxReplyMessages:=by
  have hcreated:=created_of_createMessage h
  have hmod : message.header.payloadSize.toNat=payload.length % 2^32:=by
    rw [hcreated.payloadSize,UInt32.toNat_ofNat']
  rw [Buffers,Message.payloadBytes,hmod,hcreated.payload]
  by_cases hnil : payload=[]
  · simp [hnil]
  · have hpos : 0<payload.length:=length_pos_iff.2 hnil
    rw [if_neg hnil,Option.getD_some,take_eq_self_iff]
    by_cases hlt : payload.length<2^32
    · rw [Nat.mod_eq_of_lt hlt]
      simp only [hnil,hlt,hpos.ne',Option.isSome_some,ne_eq,not_false_eq_true,true_and,le_refl,and_true]
    · have hshort : ¬payload.length≤payload.length % 2^32:=fun hle=>hlt (hle.trans_lt (Nat.mod_lt _ (by decide)))
      simp only [hshort,hlt,and_false,false_and]

lemma returns_created_iff {sender : CString}
    (hcreate : createMessage env .repl sender topic payload msgId requestId.toUInt64=some message) :
    (recvReply msgId requestId timeoutMs payloadAlloc []
        (onHandleRepl alloc replies message)).Returns payload ↔
      TakesPayload payload msgId requestId alloc payloadAlloc replies:=by
  have hanswers : message.Answers msgId requestId:=
    ⟨(created_of_createMessage hcreate).msgId,(created_of_createMessage hcreate).requestId⟩
  rw [returns_after_reply_iff hanswers,buffers_created_iff hcreate,TakesPayload]

/-- A reply is returned with its payload exactly when the client takes it. -/
theorem repliesFaithfully_iff (env : MessageEnvironment) (sender topic : CString)
    (payload : Bytes) (msgId : UInt32) (requestId : Int64) (timeoutMs : UInt32)
    (alloc : ℕ→Bool) (payloadAlloc : Bool) (replies : List Reply) :
    RepliesFaithfully env sender topic payload msgId requestId timeoutMs alloc payloadAlloc replies ↔
      ((createMessage env .repl sender topic payload msgId requestId.toUInt64).isSome→
        TakesPayload payload msgId requestId alloc payloadAlloc replies):=by
  rw [RepliesFaithfully]
  cases hcreate : createMessage env .repl sender topic payload msgId requestId.toUInt64 with
  | none=>simp
  | some message=>
    simp only [Option.some.injEq,forall_eq',Option.isSome_some,forall_true_left]
    exact returns_created_iff hcreate

theorem empty_reply_not_received :
    let env : MessageEnvironment:=⟨none,fun _=>true,samplePublication.header,0⟩
    (createMessage env .repl .empty .empty [] 1 (8 : Int64).toUInt64).isSome ∧
      ¬RepliesFaithfully env .empty .empty [] 1 8 100 (fun _=>true) true []:=by
  intro env
  have hsome : (createMessage env .repl .empty .empty [] 1 (8 : Int64).toUInt64).isSome:=by decide +kernel
  obtain ⟨message,hcreate⟩:=Option.isSome_iff_exists.1 hsome
  refine ⟨hsome,fun h=>?_⟩
  have htakes:=((returns_created_iff hcreate).1 (h message hcreate)).2
  simp [findReplyMessage] at htakes

structure SharedReplies where
  replies : List Reply
  addresses : List ℕ
  pending : List ℕ
  next : ℕ

/-- The locked part of a handler, the rest of one, or the locked part of a call that receives. -/
inductive SharingEvent where
  | buffer (alloc : ℕ→Bool) (message : Message)
  | acknowledge (address : ℕ)
  | receive (msgId : UInt32) (requestId : Int64) (payloadAlloc : Bool)

namespace SharedReplies

def empty : SharedReplies:=⟨[],[],[],0⟩

/-- The copy that `client_remove_reply_message_locked` destroys in an event. -/
def destroyed (s : SharedReplies) : SharingEvent→Option ℕ
  | .receive msgId requestId payloadAlloc=>
    if (recvReply msgId requestId 0 payloadAlloc [] s.replies).result=some .ok then
      s.addresses[s.replies.findIdx fun r=>r.requestId=requestId.toUInt64]?
    else none
  | _=>none

/-- One event for a client whose policy is reliable or not: only a reliable one acknowledges. -/
def step (reliable : Bool) (s : SharedReplies) (event : SharingEvent) : SharedReplies:=
  match event with
  | .buffer alloc message=>
    let replies:=onHandleRepl alloc s.replies message
    if replies.length=s.replies.length then s
    else ⟨replies,s.addresses++[s.next],if reliable then s.next::s.pending else s.pending,
      s.next+1⟩
  | .acknowledge address=>{s with pending:=s.pending.erase address}
  | .receive msgId requestId payloadAlloc=>
    {s with
      replies:=(recvReply msgId requestId 0 payloadAlloc [] s.replies).replies
      addresses:=(s.destroyed event).elim s.addresses s.addresses.erase}

def Live (s : SharedReplies) : Prop:=∀ a∈s.pending, a∈s.addresses
def WellFormed (s : SharedReplies) : Prop:=s.addresses.Nodup ∧ ∀ a∈s.addresses, a<s.next

lemma WellFormed.step {s : SharedReplies} (h : s.WellFormed) (reliable : Bool)
    (event : SharingEvent) : (s.step reliable event).WellFormed:=by
  obtain ⟨hnodup,hlt⟩:=h
  cases event with
  | buffer alloc message=>
    dsimp only [SharedReplies.step]
    split
    · exact ⟨hnodup,hlt⟩
    · constructor
      · rw [nodup_append_comm]
        exact List.nodup_cons.2 ⟨fun hmem=>(hlt _ hmem).false,hnodup⟩
      · rw [forall_mem_append,forall_mem_singleton]
        exact ⟨fun a ha=>Nat.lt_succ_of_lt (hlt a ha),Nat.lt_succ_self _⟩
  | acknowledge address=>exact ⟨hnodup,hlt⟩
  | receive msgId requestId payloadAlloc=>
    dsimp only [SharedReplies.step]
    cases s.destroyed (.receive msgId requestId payloadAlloc) with
    | none=>exact ⟨hnodup,hlt⟩
    | some address=>exact ⟨hnodup.erase _,fun a ha=>hlt a (mem_of_mem_erase ha)⟩

lemma live_step_iff {s : SharedReplies} (hwf : s.WellFormed) (h : s.Live) (reliable : Bool)
    (event : SharingEvent) : (s.step reliable event).Live ↔ ∀ a∈s.destroyed event, a∉s.pending:=by
  cases event with
  | buffer alloc message=>
    refine ⟨fun _ a ha=>(by cases ha),fun _=>?_⟩
    dsimp only [SharedReplies.step]
    split
    · exact h
    · intro a ha
      cases reliable
      · exact mem_append_left _ (h a ha)
      · rcases mem_cons.1 ha with rfl | ha
        · exact mem_append_right _ (mem_singleton_self _)
        · exact mem_append_left _ (h a ha)
  | acknowledge address=>
    exact ⟨fun _ a ha=>(by cases ha),fun _ a ha=>h a (mem_of_mem_erase ha)⟩
  | receive msgId requestId payloadAlloc=>
    dsimp only [SharedReplies.step,Live]
    cases s.destroyed (.receive msgId requestId payloadAlloc) with
    | none=>exact ⟨fun _ a ha=>(by cases ha),fun _=>h⟩
    | some address=>
      simp only [Option.elim_some,Option.mem_def,Option.some.injEq,forall_eq', hwf.1.mem_erase_iff]
      exact ⟨fun hlive ha=>(hlive _ ha).1 rfl, fun hnot a ha=>⟨fun heq=>hnot (heq ▸ ha),h a ha⟩⟩

/-- No handler reads a destroyed copy exactly when each acknowledges before the call receives. -/
theorem handlers_live_iff (reliable : Bool) (events : List SharingEvent) :
    Along (step reliable) (fun s e=>(s.step reliable e).Live) empty events ↔
      Along (step reliable) (fun s e=>∀ a∈s.destroyed e, a∉s.pending) empty events:=by
  refine along_iff_of_invariant (fun s=>s.WellFormed ∧ s.Live) ?_ ?_ ?_ events
  · rintro s e ⟨hwf,hlive⟩ hfree
    exact ⟨hwf.step reliable e,(live_step_iff hwf hlive reliable e).2 hfree⟩
  · rintro s e ⟨hwf,hlive⟩
    exact live_step_iff hwf hlive reliable e
  · exact ⟨⟨nodup_nil,forall_mem_nil _⟩,forall_mem_nil _⟩

theorem received_before_acknowledged :
    ¬Along (step true) (fun s e=>(s.step true e).Live) empty
      [.buffer (fun _=>true) (sampleReply 1 10),.receive 1 7 true]:=by
  rintro ⟨-,hlive,-⟩
  exact absurd (hlive 0 (by decide +kernel)) (by decide +kernel)

end SharedReplies
end SoftMessageBus
