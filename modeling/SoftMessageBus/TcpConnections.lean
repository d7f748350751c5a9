import SoftMessageBus.CString
import SoftMessageBus.StepRuns
import SoftMessageBus.TcpServer
import Mathlib.Algebra.Order.BigOperators.Group.List

/-!
# Connections of the TCP server

The event loop accepts clients and registers their sockets.
-/
namespace SoftMessageBus
open ByteEncoding StepRuns List

def tcpMaxClients : ℕ:=1024

/-- How the kernel chooses the descriptor of a new connection: one that is not open. -/
structure DescriptorTable where
  choose : List ℕ→ℕ
  choose_notMem : ∀ used, choose used∉used

/-- `TCP_SERVER_TRANSPORT_STRUCT` in its event loop. -/
structure TcpListener (Handler UserData : Type*) where
  server : TcpServer Handler UserData
  maxClients : ℕ
  hasEpoll : Bool
  openFds : List ℕ
  monitored : List ℕ
  open_of_mem : ∀ client∈server.clients, client.fd∈openFds

/-- What the environment answers when a peer connects. -/
structure ConnectionAttempt where
  clientAlloc : Bool
  accepted : Bool
  nodeAlloc : Bool
  epollAdded : Bool

/-- An event of the loop: a peer connects, or a client socket is ready. -/
inductive ListenerEvent where
  | connection (attempt : ConnectionAttempt)
  | client (clientFd : ℕ) (epollin hangup : Bool) (recv : Option Bytes)

/-- The client that `tcp_server_accept_client` creates. -/
def TcpClientInfo.accepted (fd : ℕ) : TcpClientInfo:=⟨fd,true,[],true⟩

namespace TcpListener
variable {Handler UserData : Type*} (l : TcpListener Handler UserData)

/-- The server after `tcp_server_init`, in its loop. -/
def init (messageCallback : Bool) (dataObservers : DataObservers Handler UserData)
    (hasEpoll : Bool) (openFds monitored : List ℕ) : TcpListener Handler UserData where
  server:=⟨[],messageCallback,dataObservers,nodup_nil⟩
  maxClients:=tcpMaxClients
  hasEpoll:=hasEpoll
  openFds:=openFds
  monitored:=monitored
  open_of_mem:=forall_mem_nil _

variable {fd : ℕ}

lemma nodup_append_accepted (hfd : fd∉l.openFds) :
    ((l.server.clients++[TcpClientInfo.accepted fd]).map TcpClientInfo.fd).Nodup:=by
  rw [map_append,nodup_append_comm]
  refine List.nodup_cons.2 ⟨fun hmem=>?_,l.server.nodup⟩
  obtain ⟨client,hclient,hclients⟩:=List.mem_map.1 hmem
  have hopen:=l.open_of_mem client hclient
  rw [hclients] at hopen
  exact hfd hopen

lemma open_of_mem_append :
    ∀ client∈l.server.clients++[TcpClientInfo.accepted fd], client.fd∈fd::l.openFds:=by
  intro client hclient
  rcases mem_append.1 hclient with hclient | hclient
  · exact mem_cons_of_mem fd (l.open_of_mem client hclient)
  · rw [mem_singleton.1 hclient]
    exact mem_cons_self

lemma open_of_mem_cons : ∀ client∈l.server.clients, client.fd∈fd::l.openFds:=
  fun client hclient=>mem_cons_of_mem fd (l.open_of_mem client hclient)

lemma open_of_mem_removed :
    ∀ client∈(l.server.removeClient fd).clients, client.fd∈l.openFds.filter fun other=>other≠fd:=by
  intro client hclient
  obtain ⟨hmem,hne⟩:=(KeyedList.mem_eraseP_key l.server.nodup).1 hclient
  exact mem_filter.2 ⟨l.open_of_mem client hmem,decide_eq_true hne⟩

def listed (fd : ℕ) (hfd : fd∉l.openFds) : TcpListener Handler UserData where
  server:={l.server with
    clients:=l.server.clients++[TcpClientInfo.accepted fd]
    nodup:=l.nodup_append_accepted hfd}
  maxClients:=l.maxClients
  hasEpoll:=l.hasEpoll
  openFds:=fd::l.openFds
  monitored:=l.monitored
  open_of_mem:=l.open_of_mem_append

def unlisted (fd : ℕ) : TcpListener Handler UserData where
  server:=l.server
  maxClients:=l.maxClients
  hasEpoll:=l.hasEpoll
  openFds:=fd::l.openFds
  monitored:=l.monitored
  open_of_mem:=l.open_of_mem_cons

def closeClient (fd : ℕ) : TcpListener Handler UserData where
  server:=l.server.removeClient fd
  maxClients:=l.maxClients
  hasEpoll:=l.hasEpoll
  openFds:=l.openFds.filter fun other=>other≠fd
  monitored:=l.monitored.filter fun other=>other≠fd
  open_of_mem:=l.open_of_mem_removed

def removeClient (fd : ℕ) : TcpListener Handler UserData:=
  match l.server.findClient fd with
  | none=>l
  | some client=>l.closeClient client.fd

/-- `zoo_list_push_back` on the client list succeeds. -/
def hasPlace (nodeAlloc : Bool) : Bool:=l.server.clients.length<l.maxClients && nodeAlloc

/-- `tcp_server_accept_client`. -/
def acceptClient (table : DescriptorTable) (attempt : ConnectionAttempt) :
    Bool × TcpListener Handler UserData:=
  if !attempt.clientAlloc then (false,l)
  else if !attempt.accepted then (false,l)
  else if l.hasPlace attempt.nodeAlloc then
    (true,l.listed (table.choose l.openFds) (table.choose_notMem l.openFds))
  else (true,l.unlisted (table.choose l.openFds))

/-- Register the socket of the last client of the list; `epoll_ctl` refuses a socket that is
registered. -/
def monitorLast (epollAdded : Bool) : TcpListener Handler UserData:=
  match l.server.clients.getLast? with
  | none=>l
  | some client=>
    if epollAdded && !l.monitored.contains client.fd then
      {l with monitored:=client.fd::l.monitored}
    else l.removeClient client.fd

/-- `tcp_server_handle_listen_events` for an event with `EPOLLIN`. -/
def handleListenEvents (table : DescriptorTable) (attempt : ConnectionAttempt) :
    TcpListener Handler UserData:=
  let (accepted,l):=l.acceptClient table attempt
  if !accepted then l
  else if !l.hasEpoll then l
  else l.monitorLast attempt.epollAdded

def handleClientEvents (e : Endian) (config : Option ℕ) (alloc : ℕ→Bool) (clientFd : ℕ)
    (epollin hangup : Bool) (recv : Option Bytes) :
    TcpListener Handler UserData × List (ServerDelivery Handler UserData):=
  let (stays,delivered):=l.server.clientEvents e config alloc clientFd epollin hangup recv
  (if stays then l else l.removeClient clientFd,delivered)

/-- One event of the loop, and the messages that it delivers. -/
def step (e : Endian) (config : Option ℕ) (alloc : ℕ→Bool) (table : DescriptorTable) :
    ListenerEvent→TcpListener Handler UserData × List (ServerDelivery Handler UserData)
  | .connection attempt=>(l.handleListenEvents table attempt,[])
  | .client clientFd epollin hangup recv=>
    l.handleClientEvents e config alloc clientFd epollin hangup recv

def run (e : Endian) (config : Option ℕ) (alloc : ℕ→Bool) (table : DescriptorTable)
    (l : TcpListener Handler UserData) :
    List ListenerEvent→TcpListener Handler UserData × List (ServerDelivery Handler UserData)
  | []=>(l,[])
  | event::events=>
    let now:=l.step e config alloc table event
    let rest:=run e config alloc table now.1 events
    (rest.1,now.2++rest.2)

/-- All clients are still on the list with their sockets, and no descriptor is without one. -/
structure Unharmed (l t : TcpListener Handler UserData) : Prop where
  listed : ∀ client∈l.server.clients, client∈t.server.clients
  connected : ∀ client∈l.server.clients, client.fd∈t.openFds
  monitored : ∀ client∈l.server.clients, client.fd∈l.monitored→client.fd∈t.monitored
  closed : ∀ fd∈t.openFds, fd∈l.openFds ∨ ∃ client∈t.server.clients, client.fd=fd

def overflows (attempt : ConnectionAttempt) : Bool:=
  attempt.clientAlloc && attempt.accepted && !l.hasPlace attempt.nodeAlloc

variable {l}

lemma Unharmed.refl : Unharmed l l:=⟨fun _ h=>h,l.open_of_mem,fun _ _ h=>h,fun _ h=>.inl h⟩

lemma removeClient_of_mem {client : TcpClientInfo} (h : client∈l.server.clients) :
    l.removeClient client.fd=l.closeClient client.fd:=by
  have hfind : l.server.findClient client.fd=some client:=KeyedList.find?_key_of_mem l.server.nodup h
  rw [removeClient,hfind]

lemma mem_clients_closeClient {client : TcpClientInfo} :
    client∈(l.closeClient fd).server.clients ↔ client∈l.server.clients ∧ client.fd≠fd:=
  KeyedList.mem_eraseP_key l.server.nodup

lemma mem_openFds_closeClient {other : ℕ} :
    other∈(l.closeClient fd).openFds ↔ other∈l.openFds ∧ other≠fd:=by simp [closeClient]

lemma mem_monitored_closeClient {other : ℕ} :
    other∈(l.closeClient fd).monitored ↔ other∈l.monitored ∧ other≠fd:=by simp [closeClient]

lemma monitorLast_cases (t : TcpListener Handler UserData) (epollAdded : Bool) :
    t.monitorLast epollAdded=t ∨
      ∃ client, t.server.clients.getLast?=some client ∧
        (t.monitorLast epollAdded = {t with monitored:=client.fd::t.monitored} ∨
          t.monitorLast epollAdded=t.closeClient client.fd):=by
  rw [monitorLast]
  cases hlast : t.server.clients.getLast? with
  | none=>exact .inl rfl
  | some client=>
    refine .inr ⟨client,rfl,?_⟩
    dsimp only
    split
    · exact .inl rfl
    · exact .inr (removeClient_of_mem (mem_of_getLast? hlast))

lemma unharmed_listed (hfd : fd∉l.openFds) (hasEpoll epollAdded : Bool) :
    Unharmed l (if !hasEpoll then l.listed fd hfd else (l.listed fd hfd).monitorLast epollAdded):=by
  have hlisted : Unharmed l (l.listed fd hfd):=by
    refine ⟨fun _ h=>mem_append_left _ h,fun client h=>mem_cons_of_mem fd (l.open_of_mem client h),fun _ _ h=>h,?_⟩
    intro other hother
    rcases mem_cons.1 hother with rfl | hother
    · exact .inr ⟨_,mem_append_right _ (mem_singleton_self _),rfl⟩
    · exact .inl hother
  split
  · exact hlisted
  rcases monitorLast_cases (l.listed fd hfd) epollAdded with hsame | ⟨client,hlast,hmon⟩
  · rw [hsame]
    exact hlisted
  obtain rfl : TcpClientInfo.accepted fd=client:=by
    have happ : (l.listed fd hfd).server.clients.getLast?=some (.accepted fd):=getLast?_concat
    exact Option.some.inj (happ.symm.trans hlast)
  rcases hmon with hmon | hmon
  · rw [hmon]
    exact {hlisted with monitored:=fun _ _ h=>mem_cons_of_mem _ h}
  · -- Only the new client is removed: its descriptor was not open before.
    rw [hmon]
    have hne {client : TcpClientInfo} (h : client∈l.server.clients) : client.fd≠fd:=
      fun heq=>hfd (heq ▸ l.open_of_mem client h)
    refine ⟨fun client h=>mem_clients_closeClient.2 ⟨hlisted.listed client h,hne h⟩,
      fun client h=>mem_openFds_closeClient.2 ⟨hlisted.connected client h,hne h⟩,
      fun client h hm=>mem_monitored_closeClient.2 ⟨hm,hne h⟩,fun other hother=>?_⟩
    obtain ⟨hmem,hother⟩:=mem_openFds_closeClient.1 hother
    rcases mem_cons.1 hmem with rfl | hmem
    · exact absurd rfl hother
    · exact .inl hmem

lemma not_unharmed_unlisted (hfd : fd∉l.openFds) (hasEpoll epollAdded : Bool) :
    ¬Unharmed l (if !hasEpoll then l.unlisted fd else (l.unlisted fd).monitorLast epollAdded):=by
  have hleak {t : TcpListener Handler UserData} (hopen : fd∈t.openFds)
      (hfresh : ∀ client∈t.server.clients, client∈l.server.clients) : ¬Unharmed l t:=by
    intro h
    rcases h.closed fd hopen with hmem | ⟨client,hclient,hclients⟩
    · exact hfd hmem
    · exact hfd (hclients ▸ l.open_of_mem client (hfresh client hclient))
  have hunl : ¬Unharmed l (l.unlisted fd):=hleak mem_cons_self fun _ h=>h
  split
  · exact hunl
  rcases monitorLast_cases (l.unlisted fd) epollAdded with hsame | ⟨client,hlast,hmon⟩
  · rw [hsame]
    exact hunl
  rcases hmon with hmon | hmon
  · rw [hmon]
    exact hleak mem_cons_self fun _ h=>h
  · rw [hmon]
    have hclient : client∈l.server.clients:=mem_of_getLast? hlast
    refine hleak (mem_openFds_closeClient.2 ⟨mem_cons_self,?_⟩) fun _ h=>(mem_clients_closeClient.1 h).1
    rintro rfl
    exact hfd (l.open_of_mem client hclient)

lemma unharmed_iff (table : DescriptorTable) (attempt : ConnectionAttempt) :
    Unharmed l (l.handleListenEvents table attempt) ↔ l.overflows attempt=false:=by
  rw [handleListenEvents,acceptClient,overflows]
  cases attempt.clientAlloc with
  | false=>exact iff_of_true Unharmed.refl rfl
  | true=>
    cases attempt.accepted with
    | false=>exact iff_of_true Unharmed.refl rfl
    | true=>
      have hfresh:=table.choose_notMem l.openFds
      cases l.hasPlace attempt.nodeAlloc with
      | true=>exact iff_of_true (unharmed_listed hfresh l.hasEpoll attempt.epollAdded) rfl
      | false=>
        exact iff_of_false (not_unharmed_unlisted hfresh l.hasEpoll attempt.epollAdded) Bool.noConfusion

/-- Attempts leave the clients unharmed exactly when none is accepted without a place. -/
theorem attempts_unharmed_iff (table : DescriptorTable) (l : TcpListener Handler UserData)
    (attempts : List ConnectionAttempt) :
    Along (fun l attempt=>l.handleListenEvents table attempt)
        (fun l attempt=>Unharmed l (l.handleListenEvents table attempt)) l attempts ↔
      Along (fun l attempt=>l.handleListenEvents table attempt) (fun l attempt=>l.overflows attempt=false) l attempts:=
  along_iff_of_invariant (fun _=>True) (fun _ _ _ _=>trivial)
    (fun _ attempt _=>unharmed_iff table attempt) trivial attempts

section
variable (count : ℕ)

def fullClients : List TcpClientInfo:=(range count).map TcpClientInfo.accepted

lemma map_fd_fullClients : (fullClients count).map TcpClientInfo.fd=range count:=by
  rw [fullClients,List.map_map]
  exact List.map_id _

lemma nodup_fullClients : ((fullClients count).map TcpClientInfo.fd).Nodup:=map_fd_fullClients count ▸ nodup_range

lemma fd_mem_range_of_mem_fullClients : ∀ client∈fullClients count, client.fd∈range count:=
  fun _ hclient=>map_fd_fullClients count ▸ List.mem_map_of_mem hclient

def fullListener : TcpListener Unit Unit where
  server:=⟨fullClients count,false,soleObserver,nodup_fullClients count⟩
  maxClients:=count
  hasEpoll:=true
  openFds:=range count
  monitored:=range count
  open_of_mem:=fd_mem_range_of_mem_fullClients count

end

def sampleTable : DescriptorTable where
  choose:=fun used=>used.sum+1
  choose_notMem:=fun _ hmem=>Nat.not_succ_le_self _ (le_sum_of_mem hmem)

/-- With all places taken a further connection disconnects the last client. -/
theorem overflow_disconnects_client :
    let l:=fullListener tcpMaxClients
    let t:=l.handleListenEvents sampleTable ⟨true,true,true,true⟩
    l.server.clients.length=1024 ∧ TcpClientInfo.accepted 1023∈l.server.clients ∧
      t.server.clients.length=1023 ∧ TcpClientInfo.accepted 1023∉t.server.clients ∧
      1023∉t.openFds ∧ 523777∉l.openFds ∧ 523777∈t.openFds ∧
      523777∉t.server.clients.map TcpClientInfo.fd:=by decide +kernel

def Nameless (l : TcpListener Handler UserData) : Prop:=∀ client∈l.server.clients, client = .accepted client.fd

section
variable (h : l.Nameless)
include h

lemma Nameless.closeClient (fd : ℕ) : (l.closeClient fd).Nameless:=
  fun client hclient=>h client (mem_clients_closeClient.1 hclient).1

lemma Nameless.removeClient (fd : ℕ) : (l.removeClient fd).Nameless:=by
  rw [TcpListener.removeClient]
  split
  · exact h
  · exact h.closeClient _

lemma Nameless.monitorLast (epollAdded : Bool) : (l.monitorLast epollAdded).Nameless:=by
  rcases monitorLast_cases l epollAdded with hsame | ⟨client,-,hmon | hmon⟩
  · rw [hsame]
    exact h
  · rw [hmon]
    exact h
  · rw [hmon]
    exact h.closeClient client.fd

lemma Nameless.acceptClient (table : DescriptorTable) (attempt : ConnectionAttempt) :
    (l.acceptClient table attempt).2.Nameless:=by
  rw [TcpListener.acceptClient]
  split
  · exact h
  split
  · exact h
  split
  · intro client hclient
    rcases mem_append.1 hclient with hclient | hclient
    · exact h client hclient
    · rw [mem_singleton.1 hclient]
      rfl
  · exact h

variable (e : Endian) (config : Option ℕ) (alloc : ℕ→Bool) (table : DescriptorTable)

lemma Nameless.step (event : ListenerEvent) : (l.step e config alloc table event).1.Nameless:=by
  cases event with
  | connection attempt=>
    rw [TcpListener.step,handleListenEvents]
    dsimp only
    split
    · exact h.acceptClient table attempt
    split
    · exact h.acceptClient table attempt
    · exact (h.acceptClient table attempt).monitorLast attempt.epollAdded
  | client clientFd epollin hangup recv=>
    rw [TcpListener.step,handleClientEvents]
    dsimp only
    split
    · exact h
    · exact h.removeClient clientFd

lemma Nameless.run (events : List ListenerEvent) : (l.run e config alloc table events).1.Nameless:=by
  induction events generalizing l with
  | nil=>exact h
  | cons event events ih=>exact ih (h.step e config alloc table event)

lemma Nameless.find?_receiver (receiver : Bytes) :
    (l.server.clients.find? fun client=>client.active && client.clientName == receiver)=
      if receiver=[] then l.server.clients.head? else none:=by
  have hmatch (client : TcpClientInfo) (hclient : client∈l.server.clients) :
      (client.active && client.clientName == receiver)=decide (receiver=[]):=by
    rw [h client hclient]
    cases receiver <;> rfl
  by_cases hrec : receiver=[]
  · rw [if_pos hrec]
    cases hclients : l.server.clients with
    | nil=>rfl
    | cons client clients=>
      have hfirst:=hmatch client (hclients ▸ mem_cons_self)
      rw [decide_eq_true hrec] at hfirst
      simp only [find?_cons,hfirst,head?_cons]
  · rw [if_neg hrec,find?_eq_none]
    intro client hclient
    rw [hmatch client hclient,decide_eq_false hrec]
    exact Bool.false_ne_true

end

lemma sendPayload_ok_iff (kernelSend : Bytes→Option ℕ) (fd : ℕ) (msg : Message) :
    (TcpServer.sendPayload kernelSend (.accepted fd) msg).1 = .ok ↔
      ∃ payload, msg.payload=some payload ∧
        payload.take msg.header.payloadSize.toNat≠[] ∧
        (kernelSend (payload.take msg.header.payloadSize.toNat)).isSome=true:=by
  rw [TcpServer.sendPayload]
  cases msg.payload with
  | none=>simp [TcpServer.zooSocketSend]
  | some payload=>
    generalize hdata : payload.take msg.header.payloadSize.toNat=data
    simp only [Option.map_some,hdata,TcpServer.zooSocketSend,TcpClientInfo.accepted,Option.some.injEq,exists_eq_left']
    split
    next hlen=>simp [length_eq_zero_iff.1 hlen]
    next hlen=>cases kernelSend data <;> simp_all

/-- A message reaches a client by name exactly when the name is empty and the client is the first.
-/
theorem reply_reaches_client_iff (e : Endian) (config : Option ℕ) (alloc : ℕ→Bool)
    (table : DescriptorTable) (messageCallback : Bool) (dataObservers : DataObservers Handler UserData) (hasEpoll : Bool)
    (openFds monitored : List ℕ) (events : List ListenerEvent)
    (kernelSend : Bytes→Option ℕ) (client : TcpClientInfo) (receiver : Bytes) (msg : Message) :
    let l:=init messageCallback dataObservers hasEpoll openFds monitored
    let s:=(l.run e config alloc table events).1
    (∃ bytes, s.server.send kernelSend msg (some receiver)=(.ok,[(client,bytes)])) ↔
      receiver=[] ∧ s.server.clients.head?=some client ∧
        ∃ payload, msg.payload=some payload ∧
          payload.take msg.header.payloadSize.toNat≠[] ∧
          (kernelSend (payload.take msg.header.payloadSize.toNat)).isSome=true:=by
  intro l s
  have hinit : l.Nameless:=forall_mem_nil _
  have hs : s.Nameless:=hinit.run e config alloc table events
  have hfind:=hs.find?_receiver receiver
  rw [TcpServer.send,hfind]
  by_cases hreceiver : receiver=[]
  · rw [if_pos hreceiver]
    cases hhead : s.server.clients.head? with
    | none=>simp
    | some head=>
      have hname:=hs head (mem_of_head? hhead)
      have hok:=sendPayload_ok_iff kernelSend head.fd msg
      rw [← hname] at hok
      simp only [hreceiver,true_and,Option.some.injEq,← hok]
      constructor
      · rintro ⟨bytes,hsent⟩
        obtain ⟨hresult,hwritten⟩:=Prod.mk.inj hsent
        exact ⟨(Prod.mk.inj (singleton_inj.1 hwritten)).1,hresult⟩
      · rintro ⟨rfl,hresult⟩
        exact ⟨_,by rw [hresult]⟩
  · simp [hreceiver]

/-- A publication of the client `a`. -/
def namedPublication : Message:=
  {samplePublication with
    header:={samplePublication.header with
      sender:=List.Vector.cons 97 (List.Vector.replicate 31 0)} }

/-- A client has sent a message with its name, and a message to that name is refused. -/
theorem reply_to_sender_refused :
    let l : TcpListener Unit Unit:=init false soleObserver true [3,4] [3]
    let r:=l.run .little none (fun _=>true) sampleTable
      [.connection ⟨true,true,true,true⟩,.client 8 true false (some namedPublication.wire)]
    r.1.server.clients=[.accepted 8] ∧
      (observerCalls r.2).map (fun call=>CString.ofMemory call.2.header.sender.toList)=[CString.ofMemory [97]] ∧
      r.1.server.send (fun data=>some data.length) samplePublication (some [97])=(.invalidParam,[]):=by
  decide +kernel

end TcpListener
end SoftMessageBus
