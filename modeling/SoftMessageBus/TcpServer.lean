import SoftMessageBus.TcpClientFraming
import SoftMessageBus.KeyedList

/-!
# The TCP server

Each chunk of a socket read is parsed on its own.
-/
namespace SoftMessageBus
open ByteEncoding ChunkedStream List

/-- `TCP_CLIENT_INFO_STRUCT`. -/
structure TcpClientInfo where
  fd : ℕ
  isConnected : Bool
  clientName : Bytes
  active : Bool
  deriving DecidableEq

/-- `TCP_SERVER_TRANSPORT_STRUCT`. -/
structure TcpServer (Handler UserData : Type*) where
  clients : List TcpClientInfo
  messageCallback : Bool
  dataObservers : DataObservers Handler UserData
  nodup : (clients.map TcpClientInfo.fd).Nodup

inductive ServerDelivery (Handler UserData : Type*) where
  | messageCallback (clientFd : ℕ) (msg : Message)
  | dataObserver (observer : DataObserver Handler UserData) (msg : Message)

/-- The loop of `tcp_server_handle_client_events` over the received bytes. -/
def tcpServerParse (e : Endian) (config : Option ℕ) (alloc : ℕ→Bool) :
    ℕ→Bytes→List Message × Bool
  | 0, _=>([],true)
  | fuel+1, received=>
    if received.length<headerSize then ([],true)
    else
      let hostHeader:=swapHeader e (.ofMemory e received)
      if !isHeaderValid config hostHeader then ([],false)
      else
        let totalMsgSize:=headerSize+hostHeader.payloadSize.toNat
        if received.length<totalMsgSize then ([],true)
        else
          let rest:=tcpServerParse e config alloc fuel (received.drop totalMsgSize)
          match deserialize e alloc (some (received.take totalMsgSize)) (some clearedMessage)
            messageStructSize with
          | .ok msg=>(msg::rest.1,rest.2)
          | .error _=>rest

def tcpServerReceive (e : Endian) (config : Option ℕ) (alloc : ℕ→Bool) :
    Option Bytes→List Message × Bool
  | none=>([],false)
  | some []=>([],false)
  | some (x::xs)=>tcpServerParse e config alloc (x::xs).length (x::xs)

namespace TcpServer
variable {Handler UserData : Type*}

section
variable (server : TcpServer Handler UserData)

def findClient (clientFd : ℕ) : Option TcpClientInfo:=server.clients.find? fun client=>client.fd=clientFd

def removeClient (clientFd : ℕ) : TcpServer Handler UserData:=
  {server with
    clients:=server.clients.eraseP fun client=>client.fd=clientFd
    nodup:=server.nodup.sublist (eraseP_sublist.map _)}

def deliver (clientFd : ℕ) (msg : Message) : List (ServerDelivery Handler UserData):=
  (if server.messageCallback then [.messageCallback clientFd msg] else [])++
    (server.dataObservers.notify msg).map fun call=>.dataObserver call.1 call.2

end

section
variable (e : Endian) (config : Option ℕ) (alloc : ℕ→Bool) (server : TcpServer Handler UserData)
  (clientFd : ℕ) (epollin hangup : Bool) (recv : Option Bytes)

/-- Whether a client stays after its events, and the messages that they deliver. -/
def clientEvents : Bool × List (ServerDelivery Handler UserData):=
  match server.findClient clientFd with
  | none=>(true,[])
  | some client=>
    let parsed:=if epollin then tcpServerReceive e config alloc recv else ([],true)
    (client.active && parsed.2 && !hangup,parsed.1.flatMap (server.deliver clientFd))

def handleClientEvents : TcpServer Handler UserData × List (ServerDelivery Handler UserData):=
  let (stays,delivered):=server.clientEvents e config alloc clientFd epollin hangup recv
  (if stays then server else server.removeClient clientFd,delivered)

end

/-- The successive readiness events of one client, each with the chunk that its socket
read returns. -/
def serve (e : Endian) (config : Option ℕ) (alloc : ℕ→Bool)
    (server : TcpServer Handler UserData) (clientFd : ℕ) :
    List Bytes→TcpServer Handler UserData × List (ServerDelivery Handler UserData)
  | []=>(server,[])
  | chunk::chunks=>
    let first:=server.handleClientEvents e config alloc clientFd true false (some chunk)
    let rest:=serve e config alloc first.1 clientFd chunks
    (rest.1,first.2++rest.2)

variable (kernelSend : Bytes→Option ℕ)

/-- `zoo_socket_send`. -/
def zooSocketSend (client : TcpClientInfo) (data : Option Bytes) : ErrorType × Bytes:=
  match data with
  | none=>(.invalidParam,[])
  | some data=>
    if data.length=0 then (.invalidParam,[])
    else if !client.isConnected then (.notConnected,[])
    else match kernelSend data with
      | none=>(.sendFailed,[])
      | some n=>(.ok,data.take n)

def sendPayload (client : TcpClientInfo) (msg : Message) : ErrorType × Bytes:=
  zooSocketSend kernelSend client (msg.payload.map (·.take msg.header.payloadSize.toNat))

/-- `tcp_server_broadcast_message`. -/
def broadcastMessage
    (server : TcpServer Handler UserData) (msg : Message) : ErrorType × List (TcpClientInfo × Bytes):=
  (server.clients.filter TcpClientInfo.active).foldl
    (fun result client=>
      let sent:=sendPayload kernelSend client msg
      (if sent.1 = .ok then result.1 else sent.1,result.2++[(client,sent.2)])) (.ok,[])

/-- `tcp_server_send`. -/
def send (server : TcpServer Handler UserData)
    (msg : Message) : Option Bytes→ErrorType × List (TcpClientInfo × Bytes)
  | none=>server.broadcastMessage kernelSend msg
  | some receiver=>
    match server.clients.find? fun client=>client.active && client.clientName == receiver with
    | some client=>
      let sent:=sendPayload kernelSend client msg
      (sent.1,[(client,sent.2)])
    | none=>(.invalidParam,[])

end TcpServer
section
variable {e : Endian} {config : Option ℕ} {alloc : ℕ→Bool}

lemma tcpServerParse_count (e : Endian) (config : Option ℕ) (halloc : ∀ n, alloc n=true)
    (fuel : ℕ) (bytes : Bytes) :
    ((tcpServerParse e config alloc fuel bytes).1.map Message.wireSize).sum≤bytes.length:=by
  induction fuel generalizing bytes with
  | zero=>exact Nat.zero_le _
  | succ fuel ih=>
    rw [tcpServerParse]
    split
    · exact Nat.zero_le _
    dsimp only
    split
    · exact Nat.zero_le _
    split
    · exact Nat.zero_le _
    rename_i hsize
    generalize headerSize+(swapHeader e (.ofMemory e bytes)).payloadSize.toNat=total at hsize
    have hrest:=ih (bytes.drop total)
    rw [length_drop] at hrest
    split
    next msg hmsg=>
      have hwire : msg.wireSize≤total:=by
        rw [Message.wireSize,deserialize_wire halloc hmsg,length_take,length_take]
        omega
      rw [map_cons,sum_cons]
      omega
    · omega

lemma tcpServerParse_partial {m : Message} (hm : m.Valid config) {bytes rest : Bytes}
    (hwire : bytes++rest=m.wire) (hrest : bytes.length < m.wireSize) (fuel : ℕ) :
    tcpServerParse e config alloc fuel bytes=([],true):=by
  cases fuel with
  | zero=>rfl
  | succ fuel=>
    rw [tcpServerParse]
    split
    · rfl
    next hlen=>
      have hheader:=hostHeader_wire e (Nat.le_of_not_lt hlen) (hwire.trans (append_nil m.wire).symm)
      simp only [hheader,hm.header_valid,← hm.wireSize_eq,hrest,Bool.not_true,Bool.false_eq_true,if_false,if_true]

lemma tcpServerParse_wire (halloc : ∀ n, alloc n=true) {m : Message} (hm : m.Valid config)
    (rest : Bytes) (fuel : ℕ) :
    ∃ m', m'.content=m.content ∧
      tcpServerParse e config alloc (fuel+1) (m.wire++rest)=
        (m' :: (tcpServerParse e config alloc fuel rest).1, (tcpServerParse e config alloc fuel rest).2):=by
  have hlen : (m.wire++rest).length=m.wireSize+rest.length:=length_append
  have hheader : swapHeader e (.ofMemory e (m.wire++rest))=m.header:=
    hostHeader_wire e (by rw [hlen,hm.wireSize_eq]; omega) (append_nil _)
  obtain ⟨m',hm',hheader',hbytes⟩:=deserialize_wire_append e halloc hm.hasPayload hm.magic_eq [] clearedMessage
  rw [append_nil] at hm'
  refine ⟨m',by rw [Message.content,Message.content,hheader',hbytes],?_⟩
  have htake : (m.wire++rest).take m.wireSize=m.wire:=take_left
  have hdrop : (m.wire++rest).drop m.wireSize=rest:=drop_left
  rw [tcpServerParse,if_neg (by rw [hlen,hm.wireSize_eq]; omega)]
  simp only [hheader,hm.header_valid,← hm.wireSize_eq,hlen,htake,hdrop,hm',
    Bool.not_true,Bool.false_eq_true,if_false,Nat.not_lt.2 (Nat.le_add_right _ _)]

lemma tcpServerParse_prefix (halloc : ∀ n, alloc n=true) {sent : List Message}
    (hvalid : ∀ m∈sent, m.Valid config) {bytes tail : Bytes}
    (hwire : bytes++tail=sent.flatMap Message.wire) {fuel : ℕ} (hfuel : bytes.length≤fuel) :
    ∃ k ms, tcpServerParse e config alloc fuel bytes=(ms,true) ∧
      ms.map Message.content=(sent.take k).map Message.content ∧
      (IsBoundary (sent.map Message.wireSize) bytes.length ↔ ((sent.take k).map Message.wireSize).sum=bytes.length):=by
  induction sent generalizing bytes fuel with
  | nil=>
    obtain ⟨rfl,-⟩:=append_eq_nil_iff.1 hwire
    refine ⟨0,[],?_,rfl,iff_of_true (isBoundary_zero _) rfl⟩
    cases fuel <;> rfl
  | cons m ms ih=>
    have hm : m.Valid config:=hvalid m mem_cons_self
    have hpos:=hm.wireSize_pos
    rw [flatMap_cons] at hwire
    rcases Nat.lt_or_ge bytes.length m.wireSize with hlt | hge
    · obtain ⟨rest,hrest⟩ : bytes <+: m.wire:=prefix_of_prefix_length_le ⟨tail,hwire⟩ ⟨_,rfl⟩ hlt.le
      refine ⟨0,[], tcpServerParse_partial hm hrest hlt fuel,rfl,?_⟩
      rw [map_cons,isBoundary_cons]
      simp only [take_zero,map_nil,sum_nil]
      omega
    · obtain ⟨rest,rfl⟩ : m.wire <+: bytes:=prefix_of_prefix_length_le ⟨_,rfl⟩ ⟨tail,hwire⟩ hge
      have hlen : (m.wire++rest).length=m.wireSize+rest.length:=length_append
      obtain ⟨fuel,rfl⟩ : ∃ k, fuel=k+1:=⟨fuel-1,by omega⟩
      rw [append_assoc,append_cancel_left_eq] at hwire
      obtain ⟨k,ms',hparse,hcontent,hboundary⟩:=
        ih (fun m' hm'=>hvalid m' (mem_cons_of_mem m hm')) hwire (show rest.length≤fuel by omega)
      obtain ⟨m',hm',hstep⟩:=tcpServerParse_wire (e:=e) halloc hm rest fuel
      refine ⟨k+1,m' :: ms',?_,?_,?_⟩
      · rw [hstep,hparse]
      · rw [take_succ_cons,map_cons,map_cons,hm',hcontent]
      · rw [map_cons,isBoundary_cons,hlen,Nat.add_sub_cancel_left,hboundary,take_succ_cons,map_cons,sum_cons]
        omega

end

def tcpServerMessages (e : Endian) (config : Option ℕ) (alloc : ℕ→Bool) :
    List Bytes→List Message × Bool
  | []=>([],true)
  | chunk::chunks=>
    let parsed:=tcpServerReceive e config alloc (some chunk)
    if parsed.2 then
      let rest:=tcpServerMessages e config alloc chunks
      (parsed.1++rest.1,rest.2)
    else parsed

section
variable {e : Endian} {config : Option ℕ} {alloc : ℕ→Bool}

lemma tcpServerReceive_eq {chunk : Bytes} (h : chunk≠[]) :
    tcpServerReceive e config alloc (some chunk)=tcpServerParse e config alloc chunk.length chunk:=by
  cases chunk with
  | nil=>exact absurd rfl h
  | cons x xs=>rfl

lemma tcpServerReceive_count (e : Endian) (config : Option ℕ) (halloc : ∀ n, alloc n=true) (chunk : Bytes) :
    ((tcpServerReceive e config alloc (some chunk)).1.map Message.wireSize).sum≤chunk.length:=by
  cases chunk with
  | nil=>exact Nat.zero_le _
  | cons x xs=>exact tcpServerParse_count e config halloc _ _

lemma tcpServerMessages_count (e : Endian) (config : Option ℕ) (halloc : ∀ n, alloc n=true)
    (chunks : List Bytes) :
    ((tcpServerMessages e config alloc chunks).1.map Message.wireSize).sum≤chunks.flatten.length:=by
  induction chunks with
  | nil=>exact Nat.zero_le _
  | cons chunk chunks ih=>
    have hchunk:=tcpServerReceive_count e config halloc chunk
    rw [tcpServerMessages,flatten_cons,length_append]
    dsimp only
    split
    · rw [map_append,List.sum_append]
      omega
    · omega

lemma tcpServerMessages_iff (halloc : ∀ n, alloc n=true) {sent : List Message}
    (hvalid : ∀ m∈sent, m.Valid config) {chunks : List Bytes}
    (hchunks : ∀ chunk∈chunks, chunk≠[]) (hbytes : chunks.flatten=sent.flatMap Message.wire) :
    (tcpServerMessages e config alloc chunks).1.map Message.content=sent.map Message.content ∧
        (tcpServerMessages e config alloc chunks).2=true ↔
      ∀ k, IsBoundary (sent.map Message.wireSize) (chunks.take k).flatten.length:=by
  induction chunks generalizing sent with
  | nil=>
    have hsent : sent=[]:=by
      cases sent with
      | nil=>rfl
      | cons m ms=>
        have hpos:=(hvalid m mem_cons_self).wireSize_pos
        have hlen:=congrArg length hbytes
        rw [Message.length_flatMap_wire,map_cons,sum_cons] at hlen
        simp only [flatten_nil,length_nil] at hlen
        omega
    subst hsent
    refine iff_of_true ⟨rfl,rfl⟩ fun k=>?_
    rw [take_nil]
    exact isBoundary_zero _
  | cons chunk chunks ih=>
    rw [flatten_cons] at hbytes
    obtain ⟨k,ms,hparse,hcontent,hboundary⟩:= tcpServerParse_prefix (e:=e) halloc hvalid hbytes (le_refl _)
    have hrec:=(tcpServerReceive_eq (hchunks chunk mem_cons_self)).trans hparse
    rw [tcpServerMessages,hrec]
    simp only [if_true]
    have hsplit:=take_append_drop k sent
    have hsum:=Message.sum_wireSize_eq hcontent
    by_cases halign : IsBoundary (sent.map Message.wireSize) chunk.length
    · have hchunk:=hboundary.1 halign
      have hwire : chunk=(sent.take k).flatMap Message.wire ∧
          chunks.flatten=(sent.drop k).flatMap Message.wire:=by
        refine append_inj ?_ ?_
        · rw [hbytes,← flatMap_append,hsplit]
        · rw [Message.length_flatMap_wire,hchunk]
      have hrest:=ih (fun m hm=>hvalid m (mem_of_mem_drop hm)) (fun c hc=>hchunks c (mem_cons_of_mem chunk hc)) hwire.2
      have hmap : sent.map Message.content=
          (sent.take k).map Message.content++(sent.drop k).map Message.content:=by
        rw [← map_append,hsplit]
      have hsizes : sent.map Message.wireSize=
          (sent.take k).map Message.wireSize++(sent.drop k).map Message.wireSize:=by
        rw [← map_append,hsplit]
      rw [map_append,hcontent,hmap,append_cancel_left_eq,hrest,hsizes]
      constructor
      · intro h j
        cases j with
        | zero=>exact isBoundary_zero _
        | succ j=>
          rw [take_succ_cons,flatten_cons,length_append,← hchunk,isBoundary_append]
          exact h j
      · intro h j
        have hj:=h (j+1)
        rw [take_succ_cons,flatten_cons,length_append,← hchunk,isBoundary_append] at hj
        exact hj
    · refine iff_of_false ?_ fun h=>?_
      · rintro ⟨hsame,-⟩
        have htotal:=Message.sum_wireSize_eq hsame
        have hparsed:=tcpServerParse_count e config halloc chunk.length chunk
        have hrest:=tcpServerMessages_count e config halloc chunks
        have hlen:=congrArg length hbytes
        rw [length_append,Message.length_flatMap_wire] at hlen
        rw [hparse] at hparsed
        dsimp only at hparsed
        rw [map_append,List.sum_append] at htotal
        have hne : ((sent.take k).map Message.wireSize).sum≠chunk.length:=fun heq=>halign (hboundary.2 heq)
        omega
      · have hone:=h 1
        simp only [take_succ_cons,take_zero,flatten_cons,flatten_nil,append_nil] at hone
        exact halign hone

end

/-- The messages given to the message callback. -/
def callbackMessages {Handler UserData : Type*} (deliveries : List (ServerDelivery Handler UserData)) : List Message:=
  deliveries.filterMap fun
    | .messageCallback _ msg=>some msg
    | .dataObserver _ _=>none

def observerCalls {Handler UserData : Type*} (deliveries : List (ServerDelivery Handler UserData)) :
    List (DataObserver Handler UserData × Message):=
  deliveries.filterMap fun
    | .messageCallback _ _=>none
    | .dataObserver o msg=>some (o,msg)

namespace TcpServer
variable {Handler UserData : Type*} {e : Endian} {config : Option ℕ} {alloc : ℕ→Bool}
  {server : TcpServer Handler UserData} {client : TcpClientInfo}

lemma callbackMessages_deliver (h : server.messageCallback=true) (clientFd : ℕ)
    (msgs : List Message) : callbackMessages (msgs.flatMap (server.deliver clientFd))=msgs:=by
  induction msgs with
  | nil=>rfl
  | cons msg msgs ih=>
    rw [callbackMessages] at ih
    simp [callbackMessages,deliver,h,ih,filterMap_map]

lemma observerCalls_deliver (clientFd : ℕ) (msgs : List Message) :
    observerCalls (msgs.flatMap (server.deliver clientFd))=msgs.flatMap server.dataObservers.notify:=by
  induction msgs with
  | nil=>rfl
  | cons msg msgs ih=>
    rw [observerCalls] at ih
    rw [flatMap_cons,flatMap_cons,observerCalls,filterMap_append,ih,deliver]
    split <;> simp [filterMap_map]

lemma received_flatMap_notify [DecidableEq Handler] {o : DataObserver Handler UserData}
    (ho : o∈server.dataObservers.items) (msgs : List Message) :
    received o.handler (msgs.flatMap server.dataObservers.notify)=msgs:=by
  induction msgs with
  | nil=>rfl
  | cons msg msgs ih=>
    rw [flatMap_cons,received_append,received_notify ho,ih,singleton_append]

lemma serve_of_findClient_eq_none {clientFd : ℕ} (h : server.findClient clientFd=none)
    (chunks : List Bytes) : server.serve e config alloc clientFd chunks=(server,[]):=by
  induction chunks with
  | nil=>rfl
  | cons chunk chunks ih=>
    rw [serve,handleClientEvents,clientEvents,h]
    simp only [if_true,ih,append_nil]

lemma serve_eq (hclient : client∈server.clients) (hact : client.active=true) (chunks : List Bytes) :
    server.serve e config alloc client.fd chunks=
      (if (tcpServerMessages e config alloc chunks).2 then server
        else server.removeClient client.fd,
        (tcpServerMessages e config alloc chunks).1.flatMap (server.deliver client.fd)):=by
  have hfind : server.findClient client.fd=some client:=KeyedList.find?_key_of_mem server.nodup hclient
  have hgone : (server.removeClient client.fd).findClient client.fd=none:=KeyedList.find?_eraseP_key server.nodup client.fd
  induction chunks with
  | nil=>rfl
  | cons chunk chunks ih=>
    rw [serve,handleClientEvents,clientEvents,hfind]
    simp only [hact,if_true,Bool.true_and,Bool.not_false,Bool.and_true,tcpServerMessages]
    cases hparsed : (tcpServerReceive e config alloc (some chunk)).2 with
    | true=>simp only [if_true,ih,flatMap_append]
    | false=>
      simp only [Bool.false_eq_true,if_false,serve_of_findClient_eq_none hgone,hparsed, append_nil]

/-- The server hands over exactly the messages sent if and only if every chunk ends at a boundary.
-/
theorem tcp_server_framing_iff [DecidableEq Handler] (e : Endian) (config : Option ℕ)
    (alloc : ℕ→Bool) (halloc : ∀ n, alloc n=true) (server : TcpServer Handler UserData)
    (hcallback : server.messageCallback=true) (client : TcpClientInfo)
    (hclient : client∈server.clients) (hactive : client.active=true) (sent : List Message)
    (hvalid : ∀ m∈sent, m.Valid config) (chunks : List Bytes)
    (hchunks : ∀ chunk∈chunks, chunk≠[]) (hbytes : chunks.flatten=sent.flatMap Message.wire) :
    ((callbackMessages (server.serve e config alloc client.fd chunks).2).map Message.content=
        sent.map Message.content ∧
      (∀ o∈server.dataObservers.items,
        (received o.handler
          (observerCalls (server.serve e config alloc client.fd chunks).2)).map Message.content=
          sent.map Message.content) ∧
      client∈(server.serve e config alloc client.fd chunks).1.clients) ↔
      ∀ k, IsBoundary (sent.map Message.wireSize) (chunks.take k).flatten.length:=by
  have hgone : client∉(server.removeClient client.fd).clients:=by
    intro hmem
    have hnone : (server.removeClient client.fd).findClient client.fd=none:=
      KeyedList.find?_eraseP_key server.nodup client.fd
    exact find?_eq_none.1 hnone client hmem (decide_eq_true rfl)
  rw [serve_eq hclient hactive,callbackMessages_deliver hcallback,observerCalls_deliver,
    ← tcpServerMessages_iff (e:=e) halloc hvalid hchunks hbytes]
  cases (tcpServerMessages e config alloc chunks).2 with
  | false=>simp [hgone]
  | true=>
    simp only [if_true,hclient,and_true,and_iff_left_iff_imp]
    intro hsame o ho
    rw [received_flatMap_notify ho,hsame]

/-- A server with one connected client, a callback and an observer. -/
def sampleServer : TcpServer Unit Unit where
  clients:=[⟨5,true,[99],true⟩]
  messageCallback:=true
  dataObservers:=soleObserver
  nodup:=nodup_singleton _

/-- Two messages, each of which a socket read returns whole, are delivered. -/
theorem tcp_server_framing_whole_message :
    let served:=sampleServer.serve .little none (fun _=>true) 5 [samplePublication.wire,samplePublication.wire]
    (callbackMessages served.2).map Message.content=
        [samplePublication,samplePublication].map Message.content ∧
      (∀ o∈sampleServer.dataObservers.items, (received o.handler (observerCalls served.2)).map Message.content=
          [samplePublication,samplePublication].map Message.content) ∧
      ⟨5,true,[99],true⟩∈served.1.clients:=by
  refine (tcp_server_framing_iff .little none (fun _=>true) (fun _=>rfl) sampleServer rfl ⟨5,true,[99],
    true⟩ (mem_singleton_self _) rfl [samplePublication,samplePublication]
    (by simpa using samplePublication_valid) [samplePublication.wire,samplePublication.wire]
    (by decide +kernel) (by simp)).2 fun k=>?_
  match k with
  | 0=>exact isBoundary_zero _
  | 1=>exact ⟨1,by simp [Message.wireSize]⟩
  | k+2=>exact ⟨2,by simp [Message.wireSize]⟩

/-- A message that two socket reads return in part is not delivered. -/
theorem tcp_server_drops_split_message :
    samplePublication.Valid none ∧
      [samplePublication.wire.take 50,samplePublication.wire.drop 50].flatten=[samplePublication].flatMap Message.wire ∧
      callbackMessages (sampleServer.serve .little none (fun _=>true) 5
        [samplePublication.wire.take 50,samplePublication.wire.drop 50]).2=[]:=
  ⟨samplePublication_valid,by simp,List.isEmpty_iff.1 (by decide +kernel)⟩

section
variable {kernelSend : Bytes→Option ℕ} {msg : Message}

def bytesWrittenTo (clientFd : ℕ) (writes : List (TcpClientInfo × Bytes)) : Bytes:=
  (writes.filter fun write=>write.1.fd=clientFd).flatMap Prod.snd

section
variable (kernelSend : Bytes→Option ℕ)

lemma length_sendPayload_le (client : TcpClientInfo) (msg : Message) :
    (sendPayload kernelSend client msg).2.length ≤ msg.header.payloadSize.toNat:=by
  rw [sendPayload]
  cases msg.payload with
  | none=>exact Nat.zero_le _
  | some payload=>
    simp only [Option.map_some,zooSocketSend]
    split
    · exact Nat.zero_le _
    split
    · exact Nat.zero_le _
    split
    · exact Nat.zero_le _
    · simp only [length_take]
      omega

variable (server : TcpServer Handler UserData)

lemma broadcastMessage_writes (msg : Message) :
    (server.broadcastMessage kernelSend msg).2=(server.clients.filter TcpClientInfo.active).map
      fun client=>(client,(sendPayload kernelSend client msg).2):=by
  have hfold (clients : List TcpClientInfo) (result : ErrorType × List (TcpClientInfo × Bytes)) :
      (clients.foldl (fun result client=>
        let sent:=sendPayload kernelSend client msg
        (if sent.1 = .ok then result.1 else sent.1,result.2++[(client,sent.2)])) result).2=
        result.2++clients.map fun client=>(client,(sendPayload kernelSend client msg).2):=by
    induction clients generalizing result with
    | nil=>simp
    | cons client clients ih=>simp [ih]
  exact hfold _ _

lemma length_bytesWrittenTo_le (msg : Message) (receiver : Option Bytes) (clientFd : ℕ) :
    (bytesWrittenTo clientFd (server.send kernelSend msg receiver).2).length ≤ msg.header.payloadSize.toNat:=by
  cases receiver with
  | none=>
    have hnodup : ((server.clients.filter TcpClientInfo.active).map TcpClientInfo.fd).Nodup:=
      server.nodup.sublist (filter_sublist.map _)
    rw [send,broadcastMessage_writes,bytesWrittenTo,List.filter_map]
    have hfilter:=KeyedList.filter_key_eq_toList hnodup clientFd
    simp only [Function.comp_def,hfilter]
    cases (server.clients.filter TcpClientInfo.active).find? fun client=>client.fd=clientFd with
    | none=>exact Nat.zero_le _
    | some client=>
      simpa using length_sendPayload_le kernelSend client msg
  | some receiver=>
    rw [send]
    split
    next client _=>
      have hle:=length_sendPayload_le kernelSend client msg
      simp only [bytesWrittenTo,filter_cons,filter_nil]
      split
      · simpa using hle
      · exact Nat.zero_le _
    · exact Nat.zero_le _

end

/-- No observer of a client is handed a message that the server sends. -/
theorem tcp_server_send_never_delivered [DecidableEq Handler] (e : Endian) (config : Option ℕ)
    (alloc : ℕ→Bool) (halloc : ∀ n, alloc n=true) (kernelSend : Bytes→Option ℕ)
    (server : TcpServer Handler UserData) (msg : Message) (hmsg : msg.Valid config)
    (receiver : Option Bytes) (clientFd : ℕ) (observers : DataObservers Handler UserData)
    (o : DataObserver Handler UserData) (ho : o∈observers.items) (rounds : ℕ) :
    (received o.handler (tcpClientEventLoop e config alloc observers rounds
      ⟨bytesWrittenTo clientFd (server.send kernelSend msg receiver).2,[]⟩)).map
      Message.content≠[msg].map Message.content:=by
  intro hsame
  have hsum:=Message.sum_wireSize_eq hsame
  have hcount:=received_tcpClientEventLoop_count e config halloc ho rounds
    ⟨bytesWrittenTo clientFd (server.send kernelSend msg receiver).2,[]⟩
  have hle:=length_bytesWrittenTo_le kernelSend server msg receiver clientFd
  have hsize:=hmsg.wireSize_eq
  have hheader : headerSize=106:=rfl
  simp only [Stream.contents_mk,flatMap_nil,append_nil] at hcount
  rw [map_singleton,sum_singleton] at hsum
  omega

theorem tcp_server_send_sample_not_delivered :
    (received () (tcpClientEventLoop .little none (fun _=>true) soleObserver 200
      ⟨bytesWrittenTo 5 (sampleServer.send (fun data=>some data.length) samplePublication
        (some [99])).2,[]⟩)).map Message.content≠[samplePublication].map Message.content:=
  tcp_server_send_never_delivered .little none (fun _=>true) (fun _=>rfl)
    (fun data=>some data.length) sampleServer samplePublication samplePublication_valid
    (some [99]) 5 soleObserver ⟨(),()⟩ (mem_singleton_self _) 200

/-- For a unicast and for a broadcast the client gets the payload and hands nothing over. -/
theorem tcp_server_send_writes_payload_only :
    samplePublication.Valid none ∧
      sampleServer.send (fun data=>some data.length) samplePublication (some [99])=(.ok,[(⟨5,true,[99],true⟩,[1,2,3])]) ∧
      sampleServer.send (fun data=>some data.length) samplePublication none=(.ok,[(⟨5,true,[99],true⟩,[1,2,3])]) ∧
      received () (tcpClientEventLoop .little none (fun _=>true) soleObserver 200 ⟨[1,2,3],[]⟩)=[]:=
  ⟨samplePublication_valid,by decide +kernel,by decide +kernel, List.isEmpty_iff.1 (by decide +kernel)⟩

end
end TcpServer
end SoftMessageBus
