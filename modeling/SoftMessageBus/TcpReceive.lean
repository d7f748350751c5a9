import SoftMessageBus.ProtocolCodec
import SoftMessageBus.ChunkedStream
import SoftMessageBus.TransportObserver

/-!
# The receive path of a TCP connection

A message is read in two parts, each with a bounded number of retries.
-/
namespace SoftMessageBus
open ByteEncoding ChunkedStream List

def tcpMaxRetryCount : ℕ:=3
def maxTransportBufferSize : ℕ:=40*1024

/-- The loop of `tcp_read_with_retry`: the bytes read, unless it gives up, and the socket
afterwards. -/
def tcpReadLoop (size : ℕ) :
    ℕ→Stream UInt8→Bytes→ℕ→Option Bytes × Stream UInt8
  | 0, socket, _, _=>(none,socket)
  | fuel+1, socket, buffer, retryCount=>
    if buffer.length<size ∧ retryCount<tcpMaxRetryCount then
      match socket.recv (size-buffer.length) with
      | (some bytes,socket)=>tcpReadLoop size fuel socket (buffer++bytes) 0
      | (none,socket)=>
        if retryCount+1<tcpMaxRetryCount then
          tcpReadLoop size fuel socket.wait buffer (retryCount+1)
        else (none,socket)
    else (some buffer,socket)

/-- `tcp_read_with_retry` on an open connection. -/
def tcpReadWithRetry (socket : Stream UInt8) (size : ℕ) : Option Bytes × Stream UInt8:=
  tcpReadLoop size (tcpMaxRetryCount*size+1) socket [] 0

def tcpReadExactly (socket : Stream UInt8) (size : ℕ) : Option Bytes × Stream UInt8:=
  let result:=tcpReadWithRetry socket size
  (result.1.filter fun bytes=>bytes.length=size, result.2)

def clearedMessage : Message:=⟨⟨0,0,0,0,0,0,0,0,0,0,.replicate 32 0,.replicate 32 0⟩,none,by simp⟩

/-- `zoo_smb_default_message`. -/
def defaultMessage (alloc : ℕ→Bool) : Option Message:=if alloc messageStructSize then some clearedMessage else none

/-- The end of `tcp_handle_incoming_data`: read the payload behind the header and
deserialize both. -/
def tcpReceivePayload (e : Endian) (alloc : ℕ→Bool) (headerBuffer : Bytes)
    (payloadSize : ℕ) (socket : Stream UInt8) : Option Message × Stream UInt8:=
  let result:=if 0<payloadSize then tcpReadExactly socket payloadSize else (some [],socket)
  (result.1.bind fun payload=>
    (deserialize e alloc (some (headerBuffer++payload)) (defaultMessage alloc) messageStructSize).toOption, result.2)

/-- `tcp_handle_incoming_data`. -/
def tcpHandleIncomingData (e : Endian) (config : Option ℕ) (alloc : ℕ→Bool)
    (socket : Stream UInt8) : Option Message × Stream UInt8:=
  if !alloc headerSize then (none,socket)
  else match tcpReadExactly socket headerSize with
    | (none,socket)=>(none,socket)
    | (some headerBuffer,socket)=>
      let hostHeader:=swapHeader e (.ofMemory e headerBuffer)
      let payloadSize:=hostHeader.payloadSize.toNat
      if !isHeaderValid config hostHeader then (none,socket)
      else if maxTransportBufferSize-headerSize<payloadSize then (none,socket)
      else if !alloc (headerSize+payloadSize) then (none,socket)
      else tcpReceivePayload e alloc headerBuffer payloadSize socket

/-- `tcp_client_event_loop` on an open connection. -/
def tcpClientEventLoop {Handler UserData : Type*} (e : Endian) (config : Option ℕ)
    (alloc : ℕ→Bool) (observers : DataObservers Handler UserData) :
    ℕ→Stream UInt8→List (DataObserver Handler UserData × Message)
  | 0, _=>[]
  | rounds+1, socket=>
    let ready:=socket.await
    if ready.queue.isEmpty then []
    else
      let result:=tcpHandleIncomingData e config alloc ready
      (match result.1 with
        | some msg=>observers.notify msg
        | none=>[])++tcpClientEventLoop e config alloc observers rounds result.2

section
variable {size fuel retryCount : ℕ} {buffer : Bytes} {pending : List (Arrival UInt8)}

lemma tcpReadLoop_done (socket : Stream UInt8) (h : size≤buffer.length) :
    tcpReadLoop size (fuel+1) socket buffer retryCount=(some buffer,socket):=by
  rw [tcpReadLoop,if_neg (by omega)]

lemma tcpReadLoop_recv {queue : Bytes} (hqueue : queue≠[]) (hsize : buffer.length<size)
    (hretry : retryCount<tcpMaxRetryCount) :
    tcpReadLoop size (fuel+1) ⟨queue,pending⟩ buffer retryCount=
      tcpReadLoop size fuel ⟨queue.drop (size-buffer.length),pending⟩ (buffer++queue.take (size-buffer.length)) 0:=by
  rw [tcpReadLoop,if_pos ⟨hsize,hretry⟩]
  cases queue with
  | nil=>exact absurd rfl hqueue
  | cons x xs=>rfl

lemma tcpReadLoop_wait (hsize : buffer.length<size) (hretry : retryCount+1<tcpMaxRetryCount) :
    tcpReadLoop size (fuel+1) ⟨[],pending⟩ buffer retryCount=
      tcpReadLoop size fuel (Stream.wait ⟨[],pending⟩) buffer (retryCount+1):=by
  rw [tcpReadLoop,if_pos ⟨hsize,Nat.lt_of_succ_lt hretry⟩]
  exact if_pos hretry

lemma tcpReadLoop_giveUp (hsize : buffer.length<size) (hretry : retryCount+1=tcpMaxRetryCount) :
    tcpReadLoop size (fuel+1) ⟨[],pending⟩ buffer retryCount=(none,⟨[],pending⟩):=by
  rw [tcpReadLoop,if_pos ⟨hsize,Nat.lt_of_succ_le hretry.le⟩]
  exact if_neg hretry.not_lt

lemma tcpReadLoop_ended (hsize : buffer.length<size) (hretry : retryCount<tcpMaxRetryCount) :
    tcpReadLoop size fuel ⟨[],[]⟩ buffer retryCount=(none,⟨[],[]⟩):=by
  induction fuel generalizing retryCount with
  | zero=>rfl
  | succ fuel ih=>
    rcases Nat.lt_or_eq_of_le (Nat.succ_le_of_lt hretry) with hmore | hlast
    · rw [tcpReadLoop_wait hsize hmore]
      exact ih hmore
    · exact tcpReadLoop_giveUp hsize hlast

lemma tcpReadLoop_late {a : Arrival UInt8} (hsize : buffer.length<size)
    (hretry : retryCount<tcpMaxRetryCount) (hlate : tcpMaxRetryCount-1≤a.delay+retryCount) :
    (tcpReadLoop size fuel ⟨[],a::pending⟩ buffer retryCount).1=none:=by
  induction fuel generalizing retryCount a with
  | zero=>rfl
  | succ fuel ih=>
    rcases Nat.lt_or_eq_of_le (Nat.succ_le_of_lt hretry) with hmore | hlast
    · rw [tcpReadLoop_wait hsize hmore,Stream.wait,if_neg (by omega)]
      exact ih hmore (by dsimp only; omega)
    · rw [tcpReadLoop_giveUp hsize hlast]

lemma tcpReadLoop_arrives {a : Arrival UInt8} (hsize : buffer.length<size)
    (hprompt : a.delay+retryCount<tcpMaxRetryCount-1) :
    tcpReadLoop size (fuel+(a.delay+1)) ⟨[],a::pending⟩ buffer retryCount=
      tcpReadLoop size fuel ⟨a.items,pending⟩ buffer (retryCount+a.delay+1):=by
  obtain ⟨delay,items,hitems⟩:=a
  induction delay generalizing retryCount with
  | zero=>rw [tcpReadLoop_wait hsize (by dsimp only at hprompt; omega)]; rfl
  | succ delay ih=>
    dsimp only at hprompt ⊢
    rw [← Nat.add_assoc fuel,tcpReadLoop_wait hsize (by omega),Stream.wait,if_neg (Nat.succ_ne_zero delay)]
    have hnext : tcpReadLoop size (fuel+(delay+1)) ⟨[],⟨delay,items,hitems⟩::pending⟩
        buffer (retryCount+1)=_:=ih (by dsimp only; omega)
    rw [Nat.add_right_comm retryCount 1] at hnext
    exact hnext

def TcpReadOutcome (size fuel : ℕ) (queue : Bytes) (pending : List (Arrival UInt8))
    (buffer : Bytes) (retryCount : ℕ) : Prop:=
  (Prompt (tcpMaxRetryCount-1) (size-buffer.length-queue.length) pending→
    tcpReadLoop size fuel ⟨queue,pending⟩ buffer retryCount=
      (some (buffer++(Stream.contents ⟨queue,pending⟩).take (size-buffer.length)),
        Stream.skip (size-buffer.length) queue pending)) ∧
  (¬Prompt (tcpMaxRetryCount-1) (size-buffer.length-queue.length) pending→
    (tcpReadLoop size fuel ⟨queue,pending⟩ buffer retryCount).1=none)

lemma tcpReadOutcome_done {queue : Bytes} (h : size≤buffer.length) :
    TcpReadOutcome size (fuel+1) queue pending buffer retryCount:=by
  have hzero : size-buffer.length=0:=by omega
  have hprompt : Prompt (tcpMaxRetryCount-1) (0-queue.length) pending:=by
    rw [Nat.zero_sub]
    exact prompt_zero _ pending
  rw [TcpReadOutcome,hzero,tcpReadLoop_done _ h,Stream.skip_zero,take_zero,append_nil]
  exact ⟨fun _=>rfl,fun hnot=>absurd hprompt hnot⟩

lemma tcpReadOutcome_recv {queue : Bytes} (hqueue : queue≠[])
    (hsize : buffer.length<size) (hretry : retryCount<tcpMaxRetryCount)
    (hrest : ∀ buffer', buffer.length<buffer'.length→TcpReadOutcome size (fuel+1) [] pending buffer' 0) :
    TcpReadOutcome size (fuel+2) queue pending buffer retryCount:=by
  rw [TcpReadOutcome,tcpReadLoop_recv hqueue hsize hretry]
  rcases Nat.lt_or_ge queue.length (size-buffer.length) with hmore | hen
  · have hlonger : buffer.length<(buffer++queue).length:=by
      rw [length_append]
      exact Nat.lt_add_of_pos_right (length_pos_iff.2 hqueue)
    have hnext:=hrest (buffer++queue) hlonger
    have hneed : size-(buffer++queue).length=size-buffer.length-queue.length:=by
      rw [length_append]
      omega
    rw [TcpReadOutcome,hneed,length_nil,Nat.sub_zero] at hnext
    rw [drop_eq_nil_of_le hmore.le,take_of_length_le hmore.le]
    refine ⟨fun hprompt=>?_,hnext.2⟩
    rw [hnext.1 hprompt,Stream.skip_of_length_lt hmore,Stream.contents_mk,Stream.contents_mk,
      nil_append,take_append,take_of_length_le hmore.le,append_assoc]
  · have hzero : size-buffer.length-queue.length=0:=by omega
    have hfull : size≤(buffer++queue.take (size-buffer.length)).length:=by
      rw [length_append,length_take]
      omega
    rw [hzero,tcpReadLoop_done _ hfull,Stream.skip_of_le_length hen,Stream.contents_mk,take_append_of_le_length hen]
    exact ⟨fun _=>rfl,fun hnot=>absurd (prompt_zero _ pending) hnot⟩

lemma tcpReadOutcome_nil (hfuel : tcpMaxRetryCount*(size-buffer.length)<fuel) :
    TcpReadOutcome size fuel [] pending buffer 0:=by
  have hmax : tcpMaxRetryCount=3:=rfl
  rw [hmax] at hfuel
  rcases Nat.lt_or_ge buffer.length size with hsize | hfull
  swap
  · obtain ⟨fuel,rfl⟩ : ∃ k, fuel=k+1:=⟨fuel-1,by omega⟩
    exact tcpReadOutcome_done hfull
  have hneed : size-buffer.length≠0:=by omega
  induction pending generalizing buffer fuel with
  | nil=>
    rw [TcpReadOutcome,tcpReadLoop_ended hsize (by decide)]
    exact ⟨fun hprompt=>absurd hprompt hneed,fun _=>rfl⟩
  | cons a pending ih=>
    rw [TcpReadOutcome,length_nil,Nat.sub_zero]
    by_cases hlate : a.delay<tcpMaxRetryCount-1
    · obtain ⟨rounds,rfl⟩ : ∃ k, fuel=k+2+(a.delay+1):=⟨fuel-(a.delay+3),by omega⟩
      have hskip : Stream.skip (size-buffer.length) [] (a::pending)=
          Stream.skip (size-buffer.length) a.items pending:=by
        rw [Stream.skip,length_nil,Nat.sub_zero,if_neg (by omega)]
      rw [tcpReadLoop_arrives hsize (by omega),hskip]
      simp only [Prompt,hneed,hlate,false_or,true_and]
      refine tcpReadOutcome_recv a.items_ne_nil hsize (by omega) fun buffer' hlonger=>?_
      rcases Nat.lt_or_ge buffer'.length size with hsize' | hfull'
      · exact ih (by omega) hsize' (by omega)
      · exact tcpReadOutcome_done hfull'
    · refine ⟨?_,fun _=>tcpReadLoop_late hsize (by decide) (by omega)⟩
      rintro (hzero | hprompt)
      · exact absurd hzero hneed
      · exact absurd hprompt.1 hlate

lemma tcpReadOutcome (hfuel : tcpMaxRetryCount*(size-buffer.length)<fuel)
    (queue : Bytes) : TcpReadOutcome size fuel queue pending buffer 0:=by
  have hmax : tcpMaxRetryCount=3:=rfl
  rw [hmax] at hfuel
  rcases Nat.lt_or_ge buffer.length size with hsize | hfull
  · cases queue with
    | nil=>exact tcpReadOutcome_nil (hmax ▸ hfuel)
    | cons x xs=>
      obtain ⟨fuel,rfl⟩ : ∃ k, fuel=k+2:=⟨fuel-2,by omega⟩
      exact tcpReadOutcome_recv (cons_ne_nil x xs) hsize (by decide)
        fun buffer' hlonger=>tcpReadOutcome_nil (by rw [hmax]; omega)
  · obtain ⟨fuel,rfl⟩ : ∃ k, fuel=k+1:=⟨fuel-1,by omega⟩
    exact tcpReadOutcome_done hfull

lemma tcpReadLoop_contents (socket : Stream UInt8) :
    ∃ bytes, socket.contents=
        bytes++(tcpReadLoop size fuel socket buffer retryCount).2.contents ∧
      ∀ out∈(tcpReadLoop size fuel socket buffer retryCount).1, out=buffer++bytes:=by
  induction fuel generalizing socket buffer retryCount with
  | zero=>exact ⟨[],rfl,by simp [tcpReadLoop]⟩
  | succ fuel ih=>
    rw [tcpReadLoop]
    split
    · obtain ⟨queue,pending⟩:=socket
      cases queue with
      | nil=>
        dsimp only [Stream.recv]
        split
        · obtain ⟨bytes,hcontents,hout⟩:=ih (Stream.wait ⟨[],pending⟩)
          rw [Stream.contents_wait] at hcontents
          exact ⟨bytes,hcontents,hout⟩
        · exact ⟨[],rfl,by simp⟩
      | cons x xs=>
        dsimp only [Stream.recv]
        obtain ⟨bytes,hcontents,hout⟩:=ih ⟨(x::xs).drop (size-buffer.length),pending⟩
        refine ⟨(x::xs).take (size-buffer.length)++bytes,?_,fun out hmem=>?_⟩
        · rw [append_assoc,← hcontents,Stream.contents_mk,Stream.contents_mk,← append_assoc,take_append_drop]
        · rw [hout out hmem,append_assoc]
    · exact ⟨[],rfl,by simp⟩

lemma tcpReadLoop_le (size fuel : ℕ) (socket : Stream UInt8) (buffer : Bytes) (retryCount : ℕ) :
    (tcpReadLoop size fuel socket buffer retryCount).2.contents.length ≤ socket.contents.length:=by
  have hread : ∃ bytes, socket.contents=
      bytes++(tcpReadLoop size fuel socket buffer retryCount).2.contents ∧ _:=
    tcpReadLoop_contents socket
  obtain ⟨bytes,hcontents,-⟩:=hread
  rw [hcontents,length_append]
  exact Nat.le_add_left _ _

end
section
variable {queue : Bytes} {pending : List (Arrival UInt8)} {size : ℕ}

lemma tcpReadWithRetry_outcome (queue : Bytes) (pending : List (Arrival UInt8)) (size : ℕ) :
    (Prompt (tcpMaxRetryCount-1) (size-queue.length) pending→
      tcpReadWithRetry ⟨queue,pending⟩ size=
        (some ((Stream.contents ⟨queue,pending⟩).take size),Stream.skip size queue pending)) ∧
    (¬Prompt (tcpMaxRetryCount-1) (size-queue.length) pending→ (tcpReadWithRetry ⟨queue,pending⟩ size).1=none):=by
  have h : TcpReadOutcome size (tcpMaxRetryCount*size+1) queue pending [] 0:=tcpReadOutcome (Nat.lt_succ_self _) queue
  simpa only [tcpReadWithRetry,TcpReadOutcome,length_nil,Nat.sub_zero,nil_append] using h

lemma tcpReadExactly_of_prompt (h : Prompt (tcpMaxRetryCount-1) (size-queue.length) pending) :
    tcpReadExactly ⟨queue,pending⟩ size=
      (some ((Stream.contents ⟨queue,pending⟩).take size),Stream.skip size queue pending):=by
  have hlen : ((Stream.contents ⟨queue,pending⟩).take size).length=size:=by
    have:=h.le_length
    rw [length_take,Stream.contents_mk,length_append]
    omega
  rw [tcpReadExactly,(tcpReadWithRetry_outcome queue pending size).1 h]
  simp only [Option.filter_some,hlen,decide_true,if_true]

lemma tcpReadExactly_of_not_prompt (h : ¬Prompt (tcpMaxRetryCount-1) (size-queue.length) pending) :
    (tcpReadExactly ⟨queue,pending⟩ size).1=none:=by
  rw [tcpReadExactly,(tcpReadWithRetry_outcome queue pending size).2 h,Option.filter_none]

lemma tcpReadExactly_contents (socket : Stream UInt8) (size : ℕ) :
    ∃ bytes, socket.contents=bytes++(tcpReadExactly socket size).2.contents ∧
      ∀ out∈(tcpReadExactly socket size).1, out=bytes:=by
  have hread : ∃ bytes, socket.contents=bytes++(tcpReadWithRetry socket size).2.contents ∧
      ∀ out∈(tcpReadWithRetry socket size).1, out=[]++bytes:=tcpReadLoop_contents socket
  obtain ⟨bytes,hcontents,hout⟩:=hread
  exact ⟨bytes,hcontents,fun out hmem=>hout out (Option.mem_filter_iff.1 hmem).1⟩

lemma tcpReadExactly_le (socket : Stream UInt8) (size : ℕ) :
    (tcpReadExactly socket size).2.contents.length ≤ socket.contents.length:=
  tcpReadLoop_le _ _ _ _ _

lemma tcpReadExactly_lt {socket : Stream UInt8} (hqueue : socket.queue≠[]) (hsize : 0<size) :
    (tcpReadExactly socket size).2.contents.length<socket.contents.length:=by
  obtain ⟨queue,pending⟩:=socket
  have hloop : (tcpReadExactly ⟨queue,pending⟩ size).2=
      (tcpReadLoop size (tcpMaxRetryCount*size) ⟨queue.drop size,pending⟩ ([]++queue.take size) 0).2:=by
    rw [tcpReadExactly,tcpReadWithRetry,tcpReadLoop_recv hqueue hsize (by decide)]
    rfl
  have hpos : 0<queue.length:=length_pos_iff.2 hqueue
  rw [hloop]
  refine (tcpReadLoop_le size _ ⟨queue.drop size,pending⟩ _ 0).trans_lt ?_
  rw [Stream.contents_mk,Stream.contents_mk,length_append,length_append,length_drop]
  omega

end
end SoftMessageBus
