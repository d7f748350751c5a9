import SoftMessageBus.RoutingIngress
import SoftMessageBus.TcpReceive
import SoftMessageBus.ZooQueue

/-!
# Admission of messages to the queue of the engine

Messages that arrive are copied and share the queue with those to be sent.
-/
namespace SoftMessageBus
open LinkedChains List

/-- `process_message_and_notify_observer` as a handler in the queue. -/
def ingressHandler : ℕ:=1

/-- `engine_handle_route_message` as a handler in the queue. -/
def routeHandler : ℕ:=2
def defaultMaxQueueSize : ℕ:=1024

/-- The size with which `zoo_smb_create_routing_engine` creates the queue. -/
def queueCapacity (maxQueue : UInt32) : ℕ:=if 0 < maxQueue then maxQueue.toNat else defaultMaxQueueSize

lemma queueCapacity_lt (maxQueue : UInt32) : queueCapacity maxQueue<2^32:=by
  unfold queueCapacity
  split
  · exact maxQueue.toNat_lt
  · decide

/-- A message that the queue has taken for a rule, and the address of its copy. -/
structure IngressCopy where
  addr : ℕ
  rule : ℕ
  message : Message

def IngressCopy.item (c : IngressCopy) : QueueItem:=⟨c.addr,0,ingressHandler,c.rule⟩

structure IngressCopy.IsCopy (c : IngressCopy) (m : Message) : Prop where
  header : m.header=c.message.header
  payload : m.payloadBytes=c.message.payloadBytes

/-- A call of `process_message_and_notify_observer`. -/
structure IngressCompletion where
  addr : ℕ
  rule : ℕ
  message : Message
  observers : Option (List NodeObserver)

inductive IngressAction where
  | notify (observer : NodeObserver) (message : Message)
  | destroy (addr : ℕ)

/-- The observers that wait for the type are called once, then the message is destroyed. -/
def IngressCompletion.actions (c : IngressCompletion) : List IngressAction:=
  (processMessageAndNotifyObserver (c.observers.getD []) c.message).map
    (IngressAction.notify · c.message)++[.destroy c.addr]

/-- The completion is that of the message. -/
structure IngressCopy.CompletedAs (c : IngressCopy) (d : IngressCompletion) : Prop where
  addr : d.addr=c.addr
  rule : d.rule=c.rule
  isCopy : c.IsCopy d.message

/-- The engine: the queue, the copies in the memory pool and the count of messages in flight. -/
structure AdmissionState where
  queue : ZooQueue
  messages : Heap Message
  inFlight : UInt32
  accepted : List IngressCopy
  completed : List IngressCompletion
  actions : List IngressAction

/-- A message arrives, the dispatcher takes an entry, a message to be sent is queued. -/
inductive AdmissionEvent where
  | arrive (arrival : IngressArrival) (nodeAlloc : Bool)
  | dispatch (observersOf : ℕ→Option (List NodeObserver))
  | route (msg context transportManager : ℕ) (nodeAlloc : Bool) (now : ℤ)

namespace AdmissionState

def create (maxQueue : UInt32) : Option AdmissionState:=do
  let queue ← ZooQueue.zooCreateQueue (queueCapacity maxQueue)
  some ⟨queue,Heap.empty,0,[],[],[]⟩

section
variable (cfg : IngressSettings) (malloc pool : Allocator) (s : AdmissionState)

/-- `zoo_queue_enqueue`. -/
def enqueue (item : QueueItem) (nodeAlloc : Bool) (now : ℤ) : Option (Bool × ZooQueue):=
  if nodeAlloc then s.queue.zooQueueEnqueue malloc pool item now else some (false,s.queue)

def giveBack : AdmissionState:={s with inFlight:=s.inFlight-1}

def enqueueCopy (arrival : IngressArrival) (copy : Message) (nodeAlloc : Bool) : Option AdmissionState:=do
  let (addr,messages):=s.messages.alloc pool clearedMessage
  let messages ← messages.store addr copy
  let (accepted,queue) ← s.enqueue malloc pool ⟨addr,0,ingressHandler,arrival.rule⟩ nodeAlloc
    arrival.now
  if accepted then
    some {s with
      queue:=queue
      messages:=messages
      accepted:=s.accepted++[⟨addr,arrival.rule,arrival.message⟩]}
  else do
    let messages ← messages.free addr
    some {s.giveBack with queue:=queue, messages:=messages}

def discardCopy : Option AdmissionState:=do
  let (addr,messages):=s.messages.alloc pool clearedMessage
  let messages ← messages.free addr
  some {s.giveBack with messages:=messages}

def arrive (arrival : IngressArrival) (nodeAlloc : Bool) : Option AdmissionState:=
  if !cfg.isRunning then some s
  else match cfg.check arrival with
    | some _=>some s
    | none=>
      let admitted:={s with inFlight:=s.inFlight+1}
      if cfg.highWatermark<admitted.inFlight then some admitted.giveBack
      else if !arrival.structAlloc then some admitted.giveBack
      else match copyMessage (fun _=>arrival.payloadAlloc) arrival.message with
        | none=>admitted.discardCopy pool
        | some copy=>admitted.enqueueCopy malloc pool arrival copy nodeAlloc

def process (item : QueueItem) (observersOf : ℕ→Option (List NodeObserver)) : Option AdmissionState:=do
  let message ← s.messages.load item.msg
  let messages ← s.messages.free item.msg
  let completion : IngressCompletion:=
    ⟨item.msg,item.userData,message,observersOf item.userData⟩
  some {s.giveBack with
    messages:=messages
    completed:=s.completed++[completion]
    actions:=s.actions++completion.actions}

/-- `process_message` of the dispatcher. -/
def dispatch (observersOf : ℕ→Option (List NodeObserver)) : Option AdmissionState:=do
  let (item,queue) ← s.queue.zooQueueDequeue
  match item with
  | none=>some {s with queue:=queue}
  | some item=>
    if item.handler=ingressHandler then
      AdmissionState.process {s with queue:=queue} item observersOf
    else some {s with queue:=queue}

def step : AdmissionEvent→Option AdmissionState
  | .arrive arrival nodeAlloc=>s.arrive cfg malloc pool arrival nodeAlloc
  | .dispatch observersOf=>s.dispatch observersOf
  | .route msg context transportManager nodeAlloc now=>do
    let (_,queue) ← s.enqueue malloc pool ⟨msg,context,routeHandler,transportManager⟩ nodeAlloc
      now
    some {s with queue:=queue}

end

def run (cfg : IngressSettings) (malloc pool : Allocator) (maxQueue : UInt32)
    (events : List AdmissionEvent) : Option AdmissionState:=do
  let s ← create maxQueue
  events.foldlM (step cfg malloc pool) s

end AdmissionState

lemma alloc_store_spec {α : Type} (A : Allocator) (h : Heap α) (x y : α) :
    ∃ a h₁ h₂, h.alloc A x=(a,h₁) ∧ h₁.store a y=some h₂ ∧ a≠0 ∧ h.load a=none ∧
      h₂.load a=some y ∧ ∀ b z, h.load b=some z→h₂.load b=some z:=by
  obtain ⟨a,h₁,halloc,hne,hfresh,hself,hkept⟩:=h.alloc_spec A x
  obtain ⟨h₂,hstore,hself',hoth⟩:=Heap.store_of_load hself y
  refine ⟨a,h₁,h₂,halloc,hstore,hne,hfresh,hself',?_⟩
  intro b z hb
  refine (hoth b ?_).trans (hkept b z hb)
  rintro rfl
  exact Option.some_ne_none z (hb.symm.trans hfresh)

namespace AdmissionState

def isIngress (item : QueueItem) : Bool:=item.handler=ingressHandler

/-- The queue holds `entries`, and the messages `waiting` have been taken by it and not been
completed. -/
structure Inv (cfg : IngressSettings) (maxQueue : UInt32) (s : AdmissionState)
    (entries : List (ℕ × QueueNode)) (waiting : List IngressCopy) : Prop where
  holds : s.queue.Holds entries
  capacity : s.queue.maxQueueSize=queueCapacity maxQueue
  queued : (ZooQueue.items entries).filter isIngress=waiting.map IngressCopy.item
  nodup : (waiting.map IngressCopy.addr).Nodup
  copies : ∀ c∈waiting, ∃ m, s.messages.load c.addr=some m ∧ c.IsCopy m
  history : ∃ done, s.accepted=done++waiting ∧ Forall₂ IngressCopy.CompletedAs done s.completed
  inFlight : s.inFlight.toNat=waiting.length
  le_high : waiting.length≤cfg.highWatermark.toNat
  actions : s.actions=s.completed.flatMap IngressCompletion.actions

variable {cfg : IngressSettings} {maxQueue : UInt32} {s : AdmissionState}
  {entries : List (ℕ × QueueNode)} {waiting : List IngressCopy}

lemma inv_create (cfg : IngressSettings) (maxQueue : UInt32) :
    ∃ s, create maxQueue=some s ∧ s.Inv cfg maxQueue [] []:=by
  obtain ⟨queue,hcreate,hholds,hcap⟩:=ZooQueue.Holds.create (queueCapacity maxQueue)
  refine ⟨⟨queue,Heap.empty,0,[],[],[]⟩,by simp [create,hcreate],?_⟩
  exact ⟨hholds,hcap,rfl,nodup_nil,forall_mem_nil _,⟨[],rfl,.nil⟩,rfl, Nat.zero_le _,rfl⟩

lemma giveBack_admitted (s : AdmissionState) :
    ({s with inFlight:=s.inFlight+1} : AdmissionState).giveBack=s:=by simp [giveBack]

lemma Inv.length_le (h : s.Inv cfg maxQueue entries waiting) : waiting.length≤entries.length:=by
  have hlen:=congrArg length h.queued
  have hfilter:=length_filter_le isIngress (ZooQueue.items entries)
  rw [length_map] at hlen
  rwa [hlen,ZooQueue.items,length_map] at hfilter

lemma Inv.enqueue (h : s.Inv cfg maxQueue entries waiting) (malloc pool : Allocator)
    (item : QueueItem) (nodeAlloc : Bool) (now : ℤ) :
    ∃ accepted queue entries', s.enqueue malloc pool item nodeAlloc now=some (accepted,queue) ∧
      queue.Holds entries' ∧ queue.maxQueueSize=queueCapacity maxQueue ∧
      (ZooQueue.items entries').filter isIngress=
        waiting.map IngressCopy.item++(if accepted then [item].filter isIngress else []) ∧
      (accepted=true→waiting.length<queueCapacity maxQueue):=by
  cases nodeAlloc with
  | false=>
    refine ⟨false,s.queue,entries,rfl,h.holds,h.capacity,?_,?_⟩
    · simpa using h.queued
    · intro hfalse
      cases hfalse
  | true=>
    obtain ⟨accepted,queue,entries',henq,hholds',hmax,hacc,hitems'⟩:=h.holds.enqueue malloc pool item now
    refine ⟨accepted,queue,entries',henq,hholds',hmax.trans h.capacity,?_,?_⟩
    · rw [hitems',filter_append,h.queued]
      cases accepted <;> rfl
    · intro htrue
      have hlt:=(hacc.1 htrue).2.2
      rw [h.capacity] at hlt
      exact Nat.lt_of_le_of_lt h.length_le hlt

variable {queue : ZooQueue} {entries' : List (ℕ × QueueNode)}

lemma Inv.frame (h : s.Inv cfg maxQueue entries waiting) {messages : Heap Message}
    (hholds : queue.Holds entries') (hcap : queue.maxQueueSize=queueCapacity maxQueue)
    (hqueued : (ZooQueue.items entries').filter isIngress=waiting.map IngressCopy.item)
    (hkept : ∀ a m, s.messages.load a=some m→messages.load a=some m) :
    ({s with queue:=queue, messages:=messages} : AdmissionState).Inv cfg maxQueue entries' waiting where
  holds:=hholds
  capacity:=hcap
  queued:=hqueued
  nodup:=h.nodup
  copies:=fun c hc=>by
    obtain ⟨m,hload,hcopy⟩:=h.copies c hc
    exact ⟨m,hkept _ _ hload,hcopy⟩
  history:=h.history
  inFlight:=h.inFlight
  le_high:=h.le_high
  actions:=h.actions

lemma load_free_of_fresh {h h₁ h₂ : Heap Message} {a : ℕ} (hfresh : h.load a=none)
    (hkept : ∀ b z, h.load b=some z→h₁.load b=some z) (hoth : ∀ b, b≠a→h₂.load b=h₁.load b) :
    ∀ b z, h.load b=some z→h₂.load b=some z:=by
  intro b z hb
  refine (hoth b ?_).trans (hkept b z hb)
  rintro rfl
  exact Option.some_ne_none z (hb.symm.trans hfresh)

section
variable (h : s.Inv cfg maxQueue entries waiting)
include h

lemma Inv.discardCopy (pool : Allocator) :
    ∃ t, ({s with inFlight:=s.inFlight+1} : AdmissionState).discardCopy pool=some t ∧
      t.Inv cfg maxQueue entries waiting:=by
  obtain ⟨a,h₁,halloc,-,hfresh,hself,hkept⟩:=s.messages.alloc_spec pool clearedMessage
  obtain ⟨h₂,hfree,-,hoth⟩:=Heap.free_of_load hself
  refine ⟨{s with messages:=h₂},?_,h.frame h.holds h.capacity h.queued (load_free_of_fresh hfresh hkept hoth)⟩
  simp [AdmissionState.discardCopy,halloc,hfree,giveBack]

lemma Inv.accept (hhigh : ¬cfg.highWatermark<s.inFlight+1) {arrival : IngressArrival} {copy : Message}
    (hcopy : copyMessage (fun _=>arrival.payloadAlloc) arrival.message=some copy)
    {messages : Heap Message} {a : ℕ} (hholds : queue.Holds entries')
    (hcap : queue.maxQueueSize=queueCapacity maxQueue)
    (hqueued : (ZooQueue.items entries').filter isIngress=waiting.map IngressCopy.item++[⟨a,0,ingressHandler,arrival.rule⟩])
    (hroom : waiting.length<queueCapacity maxQueue) (hfresh : s.messages.load a=none)
    (hself : messages.load a=some copy) (hkept : ∀ b z, s.messages.load b=some z→messages.load b=some z) :
    ({s with
      queue:=queue
      messages:=messages
      inFlight:=s.inFlight+1
      accepted:=s.accepted++[⟨a,arrival.rule,arrival.message⟩]} : AdmissionState).Inv cfg
      maxQueue entries' (waiting++[⟨a,arrival.rule,arrival.message⟩]):=by
  -- The count does not wrap: the queue holds fewer entries than the type has values.
  have hnext : (s.inFlight+1).toNat=waiting.length+1:=by
    rw [UInt32.toNat_add,h.inFlight]
    exact Nat.mod_eq_of_lt (Nat.lt_of_le_of_lt (Nat.succ_le_of_lt hroom) (queueCapacity_lt maxQueue))
  obtain ⟨done,hacc,hcompleted⟩:=h.history
  refine ⟨hholds,hcap,by rw [hqueued,map_append]; rfl,?_,?_,
    ⟨done,by rw [hacc,append_assoc],hcompleted⟩,?_,?_,h.actions⟩
  · rw [map_append,nodup_append_comm]
    refine List.nodup_cons.2 ⟨fun hmem=>?_,h.nodup⟩
    obtain ⟨c,hc,rfl⟩:=List.mem_map.1 hmem
    obtain ⟨m,hload,-⟩:=h.copies c hc
    exact Option.some_ne_none m (hload.symm.trans hfresh)
  · intro c hc
    rcases mem_append.1 hc with hc | hc
    · obtain ⟨m,hload,hsame⟩:=h.copies c hc
      exact ⟨m,hkept _ _ hload,hsame⟩
    · rw [mem_singleton.1 hc]
      exact ⟨copy,hself,header_copyMessage hcopy,payloadBytes_copyMessage hcopy⟩
  · rw [hnext,length_append]
    rfl
  · rw [length_append,length_singleton,← hnext]
    exact UInt32.le_iff_toNat_le.1 (UInt32.not_lt.1 hhigh)

lemma Inv.enqueueCopy (malloc pool : Allocator) (hhigh : ¬cfg.highWatermark<s.inFlight+1)
    {arrival : IngressArrival} {copy : Message}
    (hcopy : copyMessage (fun _=>arrival.payloadAlloc) arrival.message=some copy) (nodeAlloc : Bool) :
    ∃ t entries' waiting', ({s with inFlight:=s.inFlight+1} : AdmissionState).enqueueCopy
      malloc pool arrival copy nodeAlloc=some t ∧ t.Inv cfg maxQueue entries' waiting':=by
  obtain ⟨a,h₁,h₂,halloc,hstore,-,hfresh,hself,hkept⟩:=alloc_store_spec pool s.messages clearedMessage copy
  obtain ⟨accepted,queue,entries',henq,hholds,hcap,hqueued,hroom⟩:=
    h.enqueue malloc pool ⟨a,0,ingressHandler,arrival.rule⟩ nodeAlloc arrival.now
  have henq' : ({s with inFlight:=s.inFlight+1} : AdmissionState).enqueue malloc pool
      ⟨a,0,ingressHandler,arrival.rule⟩ nodeAlloc arrival.now=some (accepted,queue):=henq
  cases accepted with
  | true=>
    refine ⟨_,_,_,?_, h.accept hhigh hcopy hholds hcap hqueued (hroom rfl) hfresh hself hkept⟩
    simp [AdmissionState.enqueueCopy,halloc,hstore,henq']
  | false=>
    obtain ⟨h₃,hfree,-,hoth⟩:=Heap.free_of_load hself
    refine ⟨{s with queue:=queue, messages:=h₃},entries',waiting,?_,
      h.frame hholds hcap (by simpa using hqueued) (load_free_of_fresh hfresh hkept hoth)⟩
    simp [AdmissionState.enqueueCopy,halloc,hstore,henq',hfree,giveBack]

lemma Inv.arrive (malloc pool : Allocator) (arrival : IngressArrival) (nodeAlloc : Bool) :
    ∃ t entries' waiting', s.arrive cfg malloc pool arrival nodeAlloc=some t ∧ t.Inv cfg maxQueue entries' waiting':=by
  unfold AdmissionState.arrive
  split
  · exact ⟨s,entries,waiting,rfl,h⟩
  split
  · exact ⟨s,entries,waiting,rfl,h⟩
  dsimp only
  rw [giveBack_admitted]
  split
  · exact ⟨s,entries,waiting,rfl,h⟩
  rename_i hhigh
  split
  · exact ⟨s,entries,waiting,rfl,h⟩
  split
  · obtain ⟨t,ht,hinv⟩:=h.discardCopy pool
    exact ⟨t,entries,waiting,ht,hinv⟩
  next copy hcopy=>exact h.enqueueCopy malloc pool hhigh hcopy nodeAlloc

end

lemma Inv.process {c : IngressCopy} (h : s.Inv cfg maxQueue entries (c::waiting))
    (hholds : queue.Holds entries') (hcap : queue.maxQueueSize=queueCapacity maxQueue)
    (hqueued : (ZooQueue.items entries').filter isIngress=waiting.map IngressCopy.item)
    (observersOf : ℕ→Option (List NodeObserver)) :
    ∃ t, ({s with queue:=queue} : AdmissionState).process c.item observersOf=some t ∧
      t.accepted=s.accepted ∧ t.Inv cfg maxQueue entries' waiting:=by
  obtain ⟨m,hload,hcopy⟩:=h.copies c mem_cons_self
  obtain ⟨messages,hfree,-,hoth⟩:=Heap.free_of_load hload
  obtain ⟨done,hacc,hcompleted⟩:=h.history
  have hnodup:=h.nodup
  have hcount:=h.inFlight
  have hhigh:=h.le_high
  rw [map_cons,List.nodup_cons] at hnodup
  rw [length_cons] at hcount hhigh
  let completion : IngressCompletion:=⟨c.addr,c.rule,m,observersOf c.rule⟩
  refine ⟨{s with
      queue:=queue
      messages:=messages
      inFlight:=s.inFlight-1
      completed:=s.completed++[completion]
      actions:=s.actions++completion.actions},
    by simp [AdmissionState.process,IngressCopy.item,hload,hfree,giveBack,completion],rfl,
    hholds,hcap,hqueued,hnodup.2,?_,⟨done++[c],?_,?_⟩,?_,by omega,?_⟩
  · intro c' hc'
    obtain ⟨m',hload',hcopy'⟩:=h.copies c' (mem_cons_of_mem c hc')
    refine ⟨m',(hoth c'.addr ?_).trans hload',hcopy'⟩
    intro heq
    exact hnodup.1 (heq ▸ List.mem_map_of_mem hc')
  · simp [hacc]
  · exact rel_append hcompleted (.cons ⟨rfl,rfl,hcopy⟩ .nil)
  · have hpos : (1 : UInt32) ≤ s.inFlight:=by
      rw [UInt32.le_iff_toNat_le,hcount]
      exact Nat.le_add_left 1 _
    rw [UInt32.toNat_sub_of_le _ _ hpos,hcount]
    rfl
  · simp [h.actions]

section
variable (h : s.Inv cfg maxQueue entries waiting)
include h

lemma Inv.dispatch (observersOf : ℕ→Option (List NodeObserver)) :
    ∃ t entries' waiting', s.dispatch observersOf=some t ∧ t.accepted=s.accepted ∧
      ZooQueue.items entries'=(ZooQueue.items entries).tail ∧
      t.Inv cfg maxQueue entries' waiting':=by
  obtain ⟨queue,entries',hdeq,hholds',hmax,hrest⟩:=h.holds.dequeue
  have hcap:=hmax.trans h.capacity
  have hqueued:=h.queued
  cases hhead : ZooQueue.items entries with
  | nil=>
    rw [hhead] at hdeq hrest hqueued
    refine ⟨{s with queue:=queue},entries',waiting,by simp [AdmissionState.dispatch,hdeq],rfl,hrest,
      h.frame hholds' hcap ?_ fun _ _ hload=>hload⟩
    rw [hrest]
    exact hqueued
  | cons item rest=>
    rw [hhead] at hdeq hrest hqueued
    by_cases hingress : item.handler=ingressHandler
    · rw [filter_cons_of_pos (show isIngress item=true from decide_eq_true hingress)] at hqueued
      cases waiting with
      | nil=>cases hqueued
      | cons c waiting=>
        obtain ⟨rfl,hrestQ⟩:=List.cons.inj hqueued
        obtain ⟨t,ht,hacc,hinv⟩:=h.process hholds' hcap (by rw [hrest]; exact hrestQ) observersOf
        refine ⟨t,entries',waiting,?_,hacc,hrest,hinv⟩
        simp [AdmissionState.dispatch,hdeq,hingress,ht]
    · rw [filter_cons_of_neg (by simpa [isIngress] using hingress)] at hqueued
      refine ⟨{s with queue:=queue},entries',waiting,?_,rfl,hrest,
        h.frame hholds' hcap (by rw [hrest]; exact hqueued) fun _ _ hload=>hload⟩
      simp [AdmissionState.dispatch,hdeq,hingress]

variable (malloc pool : Allocator)

lemma Inv.step (event : AdmissionEvent) :
    ∃ t entries' waiting', s.step cfg malloc pool event=some t ∧ t.Inv cfg maxQueue entries' waiting':=by
  cases event with
  | arrive arrival nodeAlloc=>exact h.arrive malloc pool arrival nodeAlloc
  | dispatch observersOf=>
    obtain ⟨t,entries',waiting',ht,-,-,hinv⟩:=h.dispatch observersOf
    exact ⟨t,entries',waiting',ht,hinv⟩
  | route msg context transportManager nodeAlloc now=>
    obtain ⟨accepted,queue,entries',henq,hholds,hcap,hqueued,-⟩:=
      h.enqueue malloc pool ⟨msg,context,routeHandler,transportManager⟩ nodeAlloc now
    refine ⟨{s with queue:=queue},entries',waiting,by simp [AdmissionState.step,henq],
      h.frame hholds hcap (hqueued.trans ?_) fun _ _ hload=>hload⟩
    cases accepted <;> exact append_nil _

lemma Inv.run (events : List AdmissionEvent) :
    ∃ t entries' waiting', events.foldlM (AdmissionState.step cfg malloc pool) s=some t ∧
      t.Inv cfg maxQueue entries' waiting':=by
  induction events generalizing s entries waiting with
  | nil=>exact ⟨s,entries,waiting,rfl,h⟩
  | cons event events ih=>
    obtain ⟨t,entries₁,waiting₁,ht,hinv⟩:=h.step malloc pool event
    obtain ⟨u,entries₂,waiting₂,hu,hinv'⟩:=ih hinv
    exact ⟨u,entries₂,waiting₂,by rw [foldlM_cons,ht]; exact hu,hinv'⟩

lemma Inv.drain (observersOf : ℕ→Option (List NodeObserver)) :
    ∃ t, (replicate entries.length (AdmissionEvent.dispatch observersOf)).foldlM
        (AdmissionState.step cfg malloc pool) s=some t ∧
      t.accepted=s.accepted ∧ t.Inv cfg maxQueue [] []:=by
  generalize hn : entries.length=n
  induction n generalizing s entries waiting with
  | zero=>
    obtain rfl:=length_eq_zero_iff.1 hn
    have hwaiting : waiting=[]:=length_eq_zero_iff.1 (Nat.le_zero.1 h.length_le)
    exact ⟨s,rfl,rfl,hwaiting ▸ h⟩
  | succ n ih=>
    obtain ⟨t,entries',waiting',ht,hacc,hitems,hinv⟩:=h.dispatch observersOf
    have hlen:=congrArg length hitems
    rw [ZooQueue.items,ZooQueue.items,length_tail,length_map,length_map,hn,Nat.add_sub_cancel] at hlen
    obtain ⟨u,hu,hacc',hinv'⟩:=ih hinv hlen
    refine ⟨u,?_,hacc'.trans hacc,hinv'⟩
    rw [replicate_succ,foldlM_cons,AdmissionState.step,ht]
    exact hu

lemma Inv.exact :
    s.completed.length+waiting.length=s.accepted.length ∧
      Forall₂ IngressCopy.CompletedAs (s.accepted.take s.completed.length) s.completed:=by
  obtain ⟨done,hacc,hcompleted⟩:=h.history
  have hlen:=hcompleted.length_eq
  rw [hacc,length_append,hlen]
  refine ⟨rfl,?_⟩
  rw [← hlen,take_left]
  exact hcompleted

end

end AdmissionState
end SoftMessageBus
