import SoftMessageBus.MessageHeader

/-!
# Waiting for several sockets

Each socket set registers its sockets with an epoll instance of its own.
-/
namespace SoftMessageBus

def selectMaxSockets : ℕ:=1024
def epollMaxEvents : ℕ:=256

/-- `FD_SETSIZE`. -/
def fdSetSize : ℤ:=1024

/-- The error numbers that `platform_to_zoo_error` tells apart. -/
inductive Errno where
  | badf
  | intr
  | inval
  | nomem
  | other
  deriving DecidableEq

def platformToZooError : Errno→ErrorType
  | .badf=>.invalidParam
  | .intr=>.timeout
  | .inval=>.invalidParam
  | .nomem=>.outOfMemory
  | .other=>.general

lemma platformToZooError_ne_ok (errno : Errno) : platformToZooError errno ≠ .ok:=by cases errno <;> nofun

/-- A `ZOO_SOCKET_INFO_STRUCT`: pointers to it are compared, so it is named by its address. -/
structure SocketInfo where
  address : ℕ
  fd : ℤ
  deriving DecidableEq

inductive SelectCondition where
  | read
  | write
  | error
  deriving DecidableEq

/-- What the kernel has for a descriptor: `EPOLLIN`, `EPOLLOUT`, `EPOLLPRI`, `EPOLLERR` and
`EPOLLHUP`. -/
structure PollFlags where
  input : Bool
  output : Bool
  urgent : Bool
  error : Bool
  hangup : Bool
  deriving DecidableEq

namespace PollFlags
variable (flags : PollFlags)

def wakesEpoll : Bool:=flags.input || flags.output || flags.error || flags.hangup

def epollReports : SelectCondition→Bool
  | .read=>flags.input
  | .write=>flags.output
  | .error=>flags.error || flags.hangup

/-- The events for which `select` keeps a descriptor in each of its three sets. -/
def selectReports : SelectCondition→Bool
  | .read=>flags.input || flags.hangup || flags.error
  | .write=>flags.output || flags.error
  | .error=>flags.urgent

end PollFlags

abbrev KernelState:=ℤ→PollFlags

inductive WaitEnding where
  | expired
  | failed (errno : Errno)
  | blocked

/-- The kernel during a call. -/
structure SelectEnvironment where
  create : Option Errno
  ctl : SelectCondition→SocketInfo→Option Errno
  states : List KernelState
  ending : WaitEnding
  order : List SocketInfo→List SocketInfo
  order_perm : ∀ sockets, (order sockets).Perm sockets

/-- `ZOO_SOCKET_SET_IMPL_STRUCT`. -/
structure SocketSet where
  sockets : List SocketInfo
  ready : SelectCondition→ℕ→Bool
  registered : Option (List SocketInfo)

/-- `epoll_ctl` with `EPOLL_CTL_ADD`: a descriptor is registered only once. -/
def epollCtlAdd (registered : List SocketInfo) (socket : SocketInfo) :
    Option Errno→Except Errno (List SocketInfo)
  | some errno=>.error errno
  | none=>
    if socket.fd<0 then .error .badf
    else if socket.fd∈registered.map SocketInfo.fd then .error .other
    else .ok (registered++[socket])

namespace SocketSet

def init : SocketSet where
  sockets:=[]
  ready _ _:=false
  registered:=none

def findSocketIndex (set : SocketSet) (socket : SocketInfo) : Option ℕ:=set.sockets.findIdx? fun other=>other=socket

def initEpoll (set : SocketSet) (create : Option Errno) : ErrorType × SocketSet:=
  match set.registered, create with
  | some _, _=>(.ok,set)
  | none, some errno=>(platformToZooError errno,set)
  | none, none=>(.ok,{set with registered:=some []})

def addSocketToEpoll (set : SocketSet) (socket : SocketInfo) (create ctl : Option Errno) :
    ErrorType × SocketSet:=
  match set.initEpoll create with
  | (.ok,set)=>
    match epollCtlAdd (set.registered.getD []) socket ctl with
    | .ok registered=>(.ok,{set with registered:=some registered})
    | .error errno=>(platformToZooError errno,set)
  | (code,set)=>(code,set)

def add (set : SocketSet) (socket : SocketInfo) (create ctl : Option Errno) : ErrorType × SocketSet:=
  if selectMaxSockets ≤ set.sockets.length then (.outOfMemory,set)
  else if (set.findSocketIndex socket).isSome then (.ok,set)
  else
    let added : SocketSet:=
      {set with
        sockets:=set.sockets++[socket]
        ready:=fun cond=>Function.update (set.ready cond) set.sockets.length false}
    match added.addSocketToEpoll socket create ctl with
    | (.ok,added)=>(.ok,added)
    | (code,added)=>(code,{added with sockets:=set.sockets})

def build (adds : List (SocketInfo × Option Errno × Option Errno)) : SocketSet:=
  adds.foldl (fun set entry=>(set.add entry.1 entry.2.1 entry.2.2).2) init

def mark (set : SocketSet) (cond : SelectCondition) (index : ℕ) : SocketSet:=
  {set with
    ready:=Function.update set.ready cond (Function.update (set.ready cond) index true)}

def clear (set : SocketSet) (cond : SelectCondition) : SocketSet:=
  {set with ready:=Function.update set.ready cond fun _=>false}

end SocketSet

/-- The three sets of a call, where a missing one is a null pointer. -/
abbrev SelectSets:=SelectCondition→Option SocketSet

/-- What a call leaves behind: its result, the sets, and `ZOO_SELECT_RESULT_STRUCT`. -/
structure SelectReturn where
  code : ErrorType
  sets : SelectSets
  readyCount : ℕ
  counts : SelectCondition→ℕ
  timeoutOccurred : Bool

inductive Wait (α : Type) where
  | ready (events : α)
  | ended (ending : WaitEnding)

namespace SelectReturn

def mark (r : SelectReturn) (cond : SelectCondition) (index : ℕ) : SelectReturn:=
  {r with
    sets:=Function.update r.sets cond ((r.sets cond).map fun set=>set.mark cond index)
    readyCount:=r.readyCount+1
    counts:=Function.update r.counts cond (r.counts cond+1)}

def checkEvent (event : SocketInfo × PollFlags) (r : SelectReturn) (cond : SelectCondition) :
    SelectReturn:=
  match r.sets cond with
  | some set=>
    if event.2.epollReports cond then
      match set.findSocketIndex event.1 with
      | some index=>r.mark cond index
      | none=>r
    else r
  | none=>r

def processEvent (r : SelectReturn) (event : SocketInfo × PollFlags) : SelectReturn:=
  [SelectCondition.read,.write,.error].foldl (checkEvent event) r

/-- One turn of the loop over the sockets of a set after `select`. -/
def checkDescriptor (fds : List ℤ) (cond : SelectCondition) (r : SelectReturn)
    (entry : SocketInfo × ℕ) : SelectReturn:=
  if 0≤entry.1.fd ∧ entry.1.fd∈fds then r.mark cond entry.2 else r

/-- The loop over the sockets of a set after `select`. -/
def checkDescriptors (fds : SelectCondition→List ℤ) (r : SelectReturn) (cond : SelectCondition) : SelectReturn:=
  match r.sets cond with
  | some set=>set.sockets.zipIdx.foldl (checkDescriptor (fds cond) cond) r
  | none=>r

def afterWait (r : SelectReturn) : WaitEnding→Option SelectReturn
  | .expired=>some {r with code:=.timeout, timeoutOccurred:=true}
  | .failed errno=>some {r with code:=platformToZooError errno}
  | .blocked=>none

end SelectReturn
namespace SelectSets
variable (sets : SelectSets)

/-- The sets with all marks cleared. -/
def start : SelectReturn where
  code:=.ok
  sets cond:=(sets cond).map fun set=>set.clear cond
  readyCount:=0
  counts _:=0
  timeoutOccurred:=false

/-- The set on whose instance the call waits: the first that is given. -/
def primary : Option (SelectCondition × SocketSet):=
  match sets .read, sets .write, sets .error with
  | some set, _, _=>some (.read,set)
  | none, some set, _=>some (.write,set)
  | none, none, some set=>some (.error,set)
  | none, none, none=>none

def members (cond : SelectCondition) : List SocketInfo:=((sets cond).map SocketSet.sockets).getD []

def register (env : SelectEnvironment) (set : SocketSet) (cond : SelectCondition) : SocketSet:=
  (sets.members cond).foldl
    (fun set socket=>(set.addSocketToEpoll socket env.create (env.ctl cond socket)).2) set

def prepareEpoll (env : SelectEnvironment) (cond : SelectCondition) (set : SocketSet) : Option SocketSet:=
  match set.registered with
  | some _=>some set
  | none=>
    match set.initEpoll env.create with
    | (.ok,set)=>
      some (([SelectCondition.read,.write,.error].filter fun other=>other≠cond).foldl (sets.register env) set)
    | _=>none

/-- The descriptors of a set that are handed to `select`. -/
def descriptors (cond : SelectCondition) : List ℤ:=((sets.members cond).map SocketInfo.fd).filter fun fd=>0≤fd

end SelectSets

def epollReported (registered : List SocketInfo) (env : SelectEnvironment) (kernel : KernelState) :
    List SocketInfo:=
  (env.order (registered.filter fun socket=>(kernel socket.fd).wakesEpoll)).take epollMaxEvents

/-- `epoll_wait`: it returns in the first state in which a registered socket has an event. -/
def epollWait (registered : List SocketInfo) (env : SelectEnvironment) :
    Wait (List (SocketInfo × PollFlags)):=
  match env.states.find? fun kernel=>
      registered.any fun socket=>(kernel socket.fd).wakesEpoll with
  | some kernel=>
    .ready ((epollReported registered env kernel).map fun socket=>(socket,kernel socket.fd))
  | none=>.ended env.ending

/-- `select` returns in the first state in which a descriptor of a set is ready. -/
def selectWait (fds : SelectCondition→List ℤ) (env : SelectEnvironment) : Wait (SelectCondition→List ℤ):=
  match env.states.find? fun kernel=>[SelectCondition.read,.write,.error].any fun cond=>
      (fds cond).any fun fd=>(kernel fd).selectReports cond with
  | some kernel=>
    .ready fun cond=>(fds cond).filter fun fd=>(kernel fd).selectReports cond
  | none=>.ended env.ending

namespace SelectSets
variable (sets : SelectSets)

variable (env : SelectEnvironment)

/-- The part of `zoo_socket_select_multiple` that uses `select`. -/
def useSelect : Option SelectReturn:=
  match selectWait sets.descriptors env with
  | .ready fds=>
    some ([SelectCondition.read,.write,.error].foldl (SelectReturn.checkDescriptors fds) sets.start)
  | .ended ending=>sets.start.afterWait ending

/-- `zoo_socket_select_multiple` where epoll is used. -/
def selectMultiple : Option SelectReturn:=
  match sets.start.sets.primary with
  | none=>some {sets.start with code:=.invalidParam}
  | some (cond,set)=>
    match sets.start.sets.prepareEpoll env cond set with
    | none=>sets.useSelect env
    | some set=>
      let r : SelectReturn:=
        {sets.start with sets:=Function.update sets.start.sets cond (some set)}
      match epollWait (set.registered.getD []) env with
      | .ready events=>some (events.foldl SelectReturn.processEvent r)
      | .ended ending=>r.afterWait ending

/-- `zoo_socket_select_multiple` where epoll is not used. -/
def selectMultipleSelect : Option SelectReturn:=
  match sets.start.sets.primary with
  | none=>some {sets.start with code:=.invalidParam}
  | some _=>sets.useSelect env

end SelectSets

lemma epollCtlAdd_cases (registered : List SocketInfo) (socket : SocketInfo) (failure : Option Errno) :
    (0 ≤ socket.fd ∧ socket.fd∉registered.map SocketInfo.fd ∧
        epollCtlAdd registered socket failure = .ok (registered++[socket])) ∨
      ∃ errno, epollCtlAdd registered socket failure = .error errno:=by
  unfold epollCtlAdd
  split
  · exact .inr ⟨_,rfl⟩
  · split
    · exact .inr ⟨_,rfl⟩
    · split
      · exact .inr ⟨_,rfl⟩
      next hfd hfresh=>exact .inl ⟨Int.not_lt.1 hfd,hfresh,rfl⟩

namespace SocketSet

structure Sound (set : SocketSet) : Prop where
  registered : set.registered.getD []=set.sockets
  nonneg : ∀ socket∈set.sockets, 0 ≤ socket.fd
  fds : (set.sockets.map SocketInfo.fd).Nodup

lemma sound_init : init.Sound:=⟨rfl,nofun,List.nodup_nil⟩

variable {set : SocketSet}

lemma Sound.nodup (h : set.Sound) : set.sockets.Nodup:=h.fds.of_map _

lemma initEpoll_cases (set : SocketSet) (create : Option Errno) :
    (∃ registered, set.registered.getD []=registered ∧
        set.initEpoll create=(.ok,{set with registered:=some registered})) ∨
      ∃ errno, set.registered=none ∧ set.initEpoll create=(platformToZooError errno,set):=by
  unfold initEpoll
  split
  next registered hreg=>
    refine .inl ⟨registered,?_,?_⟩
    · rw [hreg,Option.getD_some]
    · rw [← hreg]
  next errno hreg=>exact .inr ⟨errno,hreg,rfl⟩
  next hreg=>
    refine .inl ⟨[],?_,rfl⟩
    rw [hreg,Option.getD_none]

lemma addSocketToEpoll_cases (set : SocketSet) (socket : SocketInfo) (create ctl : Option Errno) :
    (0 ≤ socket.fd ∧ socket.fd∉(set.registered.getD []).map SocketInfo.fd ∧
        set.addSocketToEpoll socket create ctl=(.ok,{set with registered:=some (set.registered.getD []++[socket])})) ∨
      ∃ errno registered, Option.getD registered []=set.registered.getD [] ∧
        set.addSocketToEpoll socket create ctl=(platformToZooError errno,{set with registered:=registered}):=by
  unfold addSocketToEpoll
  rcases set.initEpoll_cases create with ⟨registered,hreg,hinit⟩ | ⟨errno,hnone,hinit⟩
  · rw [hinit]
    dsimp only
    rw [Option.getD_some,hreg]
    rcases epollCtlAdd_cases registered socket ctl with ⟨hfd,hfresh,hctl⟩ | ⟨errno,hctl⟩
    · rw [hctl]
      exact .inl ⟨hfd,hfresh,rfl⟩
    · rw [hctl]
      exact .inr ⟨errno,some registered,rfl,rfl⟩
  · refine .inr ⟨errno,set.registered,rfl,?_⟩
    rw [hinit]
    cases errno <;> rfl

lemma Sound.add (h : set.Sound) (socket : SocketInfo) (create ctl : Option Errno) :
    (set.add socket create ctl).2.Sound:=by
  unfold SocketSet.add
  split
  · exact h
  · split
    · exact h
    · dsimp only
      generalize hadded : ({set with
        sockets:=set.sockets++[socket]
        ready:=fun cond=>Function.update (set.ready cond) set.sockets.length false} : SocketSet)=added
      have hkept : added.registered.getD []=set.sockets:=by
        rw [← hadded]
        exact h.registered
      have hsockets : added.sockets=set.sockets++[socket]:=by rw [← hadded]
      rcases added.addSocketToEpoll_cases socket create ctl with
        ⟨hfd,hfresh,heq⟩ | ⟨errno,registered,hreg,heq⟩
      · rw [heq]
        rw [hkept] at hfresh
        refine ⟨?_,fun other hother=>?_,?_⟩
        · change added.registered.getD []++[socket]=added.sockets
          rw [hkept,hsockets]
        · change other∈added.sockets at hother
          rw [hsockets] at hother
          rcases List.mem_append.1 hother with hother | hother
          · exact h.nonneg other hother
          · rw [List.mem_singleton.1 hother]
            exact hfd
        · change (added.sockets.map SocketInfo.fd).Nodup
          rw [hsockets,List.map_append,List.nodup_append_comm]
          exact List.nodup_cons.2 ⟨hfresh,h.fds⟩
      · have hrolled : Sound {added with sockets:=set.sockets, registered:=registered}:=⟨hreg.trans hkept,h.nonneg,h.fds⟩
        rw [heq]
        cases errno <;> exact hrolled

lemma Sound.foldl_add (h : set.Sound) (adds : List (SocketInfo × Option Errno × Option Errno)) :
    (adds.foldl (fun set entry=>(set.add entry.1 entry.2.1 entry.2.2).2) set).Sound:=by
  induction adds generalizing set with
  | nil=>exact h
  | cons entry adds ih=>exact ih (h.add entry.1 entry.2.1 entry.2.2)

lemma sound_build (adds : List (SocketInfo × Option Errno × Option Errno)) : (build adds).Sound:=
  sound_init.foldl_add adds

def Distinct (set : SocketSet) : Prop:=((set.registered.getD []).map SocketInfo.fd).Nodup

lemma Distinct.addSocketToEpoll (h : set.Distinct) (socket : SocketInfo)
    (create ctl : Option Errno) : (set.addSocketToEpoll socket create ctl).2.Distinct:=by
  rcases set.addSocketToEpoll_cases socket create ctl with
    ⟨-,hfresh,heq⟩ | ⟨errno,registered,hreg,heq⟩
  · rw [heq,Distinct]
    change ((set.registered.getD []++[socket]).map SocketInfo.fd).Nodup
    rw [List.map_append,List.nodup_append_comm]
    exact List.nodup_cons.2 ⟨hfresh,h⟩
  · rw [heq,Distinct]
    change ((registered.getD []).map SocketInfo.fd).Nodup
    rw [hreg]
    exact h

end SocketSet

namespace SelectSets
variable {set : SocketSet}

lemma register_spec (sets : SelectSets) (env : SelectEnvironment) (h : set.Distinct) (cond : SelectCondition) :
    (sets.register env set cond).Distinct ∧
      (sets.register env set cond).sockets=set.sockets ∧
      (sets.register env set cond).ready=set.ready:=by
  unfold register
  induction sets.members cond generalizing set with
  | nil=>exact ⟨h,rfl,rfl⟩
  | cons socket sockets ih=>
    rw [List.foldl_cons]
    obtain ⟨hdistinct,hsockets,hready⟩:=ih (h.addSocketToEpoll socket env.create (env.ctl cond socket))
    refine ⟨hdistinct,hsockets.trans ?_,hready.trans ?_⟩
    all_goals
      rcases set.addSocketToEpoll_cases socket env.create (env.ctl cond socket) with
        ⟨-,-,heq⟩ | ⟨errno,registered,-,heq⟩ <;> rw [heq]

lemma foldl_register_spec (sets : SelectSets) (env : SelectEnvironment) (h : set.Distinct)
    (conditions : List SelectCondition) :
    (conditions.foldl (sets.register env) set).Distinct ∧
      (conditions.foldl (sets.register env) set).sockets=set.sockets ∧
      (conditions.foldl (sets.register env) set).ready=set.ready:=by
  induction conditions generalizing set with
  | nil=>exact ⟨h,rfl,rfl⟩
  | cons cond conditions ih=>
    obtain ⟨hdistinct,hsockets,hready⟩:=sets.register_spec env h cond
    obtain ⟨hdistinct',hsockets',hready'⟩:=ih hdistinct
    exact ⟨hdistinct',hsockets'.trans hsockets,hready'.trans hready⟩

lemma prepareEpoll_spec {sets : SelectSets} {env : SelectEnvironment}
    {cond : SelectCondition} {prepared : SocketSet} (h : set.Distinct)
    (hprepared : sets.prepareEpoll env cond set=some prepared) :
    prepared.Distinct ∧ prepared.sockets=set.sockets ∧ prepared.ready=set.ready:=by
  unfold prepareEpoll at hprepared
  split at hprepared
  · cases hprepared
    exact ⟨h,rfl,rfl⟩
  next hnone=>
    rcases set.initEpoll_cases env.create with ⟨registered,hreg,hinit⟩ | ⟨errno,-,hinit⟩
    · rw [hinit] at hprepared
      cases hprepared
      refine sets.foldl_register_spec env ?_ _
      rw [SocketSet.Distinct,Option.getD_some,← hreg]
      exact h
    · rw [hinit] at hprepared
      cases errno <;> cases hprepared

end SelectSets

/-! ## Socket addresses -/

open ByteEncoding MemoryBlocks List

/-- `AF_INET` of the system. -/
def afInet : UInt16:=2
def zooAfInet : UInt32:=0
def zooAfInet6 : UInt32:=1

section
variable (e : Endian)

/-- `zoo_sockaddr_inet_init`: `sin_port` and `sin_addr` are at 2 and 4, the fields of `in` at 0, 4
and 8. -/
def sockaddrInetInit (ipAddress : UInt32) (port : UInt16) : Bytes:=
  let addr:=overwrite (replicate 128 0) 0 (store e afInet)
  let addr:=overwrite addr 4 (store e (htobe e ipAddress))
  let addr:=overwrite addr 2 (store e (htobe e port))
  let addr:=overwrite addr 0 (store e zooAfInet)
  let addr:=overwrite addr 0 (store e zooAfInet)
  let addr:=overwrite addr 4 (store e port)
  overwrite addr 8 (store e ipAddress)

def sockaddrFamily (addr : Bytes) : UInt32:=load e (slice addr 0 4)

/-- `zoo_sockaddr_set_port`; the two families have their ports at the same places. -/
def sockaddrSetPort (addr : Bytes) (port : UInt16) : Bytes:=
  if sockaddrFamily e addr=zooAfInet ∨ sockaddrFamily e addr=zooAfInet6 then
    overwrite (overwrite addr 2 (store e (htobe e port))) 4 (store e port)
  else addr

def sockaddrGetPort (addr : Bytes) : UInt16:=
  if sockaddrFamily e addr=zooAfInet ∨ sockaddrFamily e addr=zooAfInet6 then
    htobe e (load e (slice addr 2 2))
  else 0

def sockaddrEqual (addr other : Bytes) : Bool:=
  if sockaddrFamily e addr≠sockaddrFamily e other then false
  else if sockaddrFamily e addr=zooAfInet then
    slice addr 4 4=slice other 4 4 && slice addr 2 2=slice other 2 2
  else if sockaddrFamily e addr=zooAfInet6 then
    slice addr 8 16=slice other 8 16 && slice addr 2 2=slice other 2 2 &&
      slice addr 4 4=slice other 4 4 && slice addr 24 4=slice other 24 4
  else false

/-- An address after the initialisation and perhaps a new port. -/
def sockaddrOf (ipAddress : UInt32) (port : UInt16) (newPort : Option UInt16) : Bytes:=
  newPort.elim (sockaddrInetInit e ipAddress port) (sockaddrSetPort e (sockaddrInetInit e ipAddress port))

/-- The bytes of a `sockaddr_in`, as the kernel reads them. -/
def EncodesInet (addr : Bytes) (ipAddress : UInt32) (port : UInt16) : Prop:=
  slice addr 0 2=store e afInet ∧ slice addr 2 2=store .big port ∧ slice addr 4 4=store .big ipAddress

end

/-- A write behind the family leaves it. -/
lemma take_overwrite {mem : Bytes} {pos : ℕ} (h : mem.take 2=[0,0]) (hpos : 2≤pos)
    (xs : Bytes) : (overwrite mem pos xs).take 2=[0,0]:=by
  have hlen:=congrArg length h
  rw [length_take] at hlen
  rw [overwrite,append_assoc,take_append_of_le_length (by rw [length_take]; grind),take_take,Nat.min_eq_left hpos,h]

variable (e : Endian)

/-- The family of the application ends up in the place of the family of the system. -/
lemma take_sockaddrInetInit (ipAddress : UInt32) (port : UInt16) :
    (sockaddrInetInit e ipAddress port).take 2=[0,0]:=by
  refine take_overwrite (take_overwrite ?_ (by decide) _) (by decide) _
  cases e <;> rfl

lemma take_sockaddrOf (ipAddress : UInt32) (port : UInt16) (newPort : Option UInt16) :
    (sockaddrOf e ipAddress port newPort).take 2=[0,0]:=by
  have hinit:=take_sockaddrInetInit e ipAddress port
  cases newPort with
  | none=>exact hinit
  | some newPort=>
    change (sockaddrSetPort e _ newPort).take 2=[0,0]
    unfold sockaddrSetPort
    split
    · exact take_overwrite (take_overwrite hinit (by decide) _) (by decide) _
    · exact hinit

/-- No address is laid out as the kernel expects it, whatever is set and compared. -/
theorem sockaddr_never_as_expected (ipAddress other : UInt32) (port otherPort : UInt16) (newPort : Option UInt16) :
    ¬(EncodesInet e (sockaddrOf e ipAddress port newPort) ipAddress (newPort.getD port) ∧
      sockaddrGetPort e (sockaddrOf e ipAddress port newPort)=newPort.getD port ∧
      (sockaddrEqual e (sockaddrOf e ipAddress port newPort) (sockaddrOf e other otherPort none) ↔
        ipAddress=other ∧ newPort.getD port=otherPort)):=by
  rintro ⟨⟨hfamily,-⟩,-⟩
  rw [slice,drop_zero,take_sockaddrOf] at hfamily
  cases e <;> exact absurd hfamily (by decide)

/-- For 127.0.0.1 and port 8080 the kernel reads the family 0, port 0 and 144.31.0.1. -/
theorem sockaddr_loopback_bytes :
    slice (sockaddrInetInit .little 0x7F000001 8080) 0 8=[0,0,0,0,0x90,0x1F,0,1]:=by decide

end SoftMessageBus
