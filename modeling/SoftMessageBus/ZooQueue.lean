import SoftMessageBus.ZooList
import SoftMessageBus.BoundedFifo

/-!
# The message queue

`zoo_queue.c`: a bounded queue of nodes from the memory pool.
-/
namespace SoftMessageBus
open LinkedChains BoundedFifo List

/-- `ZOO_QUEUE_STRUCT` and the nodes allocated for it from the pool. -/
structure ZooQueue where
  messages : ZooList
  maxQueueSize : ℕ
  exitFlag : Bool
  nodes : Heap QueueNode

namespace ZooQueue

def zooCreateQueue (maxQueueSize : ℕ) : Option ZooQueue:=do
  let messages ← ZooList.zooListCreate (if maxQueueSize=0 then 64 else maxQueueSize)
  some ⟨messages,maxQueueSize,false,Heap.empty⟩

section
variable (malloc pool : Allocator) (q : ZooQueue)

/-- `zoo_queue_enqueue` at time `now`. -/
def zooQueueEnqueue (item : QueueItem) (now : ℤ) : Option (Bool × ZooQueue):=
  if item.msg=0 ∨ item.handler=0 then some (false,q)
  else if q.maxQueueSize≤q.messages.size then some (false,q)
  else do
    let (node,nodes):=q.nodes.alloc pool ⟨item,0,now⟩
    let (result,messages) ← q.messages.zooListPushBack malloc node
    if result = .ok then some (true,{q with messages:=messages, nodes:=nodes})
    else do
      let nodes ← nodes.free node
      some (false,{q with messages:=messages, nodes:=nodes})

/-- `zoo_queue_dequeue` without blocking. -/
def zooQueueDequeue : Option (Option QueueItem × ZooQueue):=
  if q.exitFlag then some (none,q)
  else do
    let (node,messages) ← q.messages.zooListPopFront
    if node=0 then some (none,{q with messages:=messages})
    else do
      let entry ← q.nodes.load node
      let nodes ← q.nodes.free node
      some (some entry.toQueueItem,{q with messages:=messages, nodes:=nodes})

/-- The loop of `zoo_queue_set_priority`, for `count` positions from `i` on. -/
def setPriorityLoop (msg : ℕ) (priority : ℤ) : ℕ→ℕ→Option (Bool × ZooQueue)
  | 0, _=>some (false,q)
  | count+1, i=>do
    let node ← q.messages.zooListAt i
    if node=0 then setPriorityLoop msg priority count (i+1)
    else do
      let entry ← q.nodes.load node
      if entry.msg=msg then do
        let nodes ← q.nodes.store node {entry with priority:=priority}
        some (true,{q with nodes:=nodes})
      else setPriorityLoop msg priority count (i+1)

def zooQueueSetPriority (msg : ℕ) (priority : ℤ) : Option (Bool × ZooQueue):=
  if msg=0 then some (false,q) else q.setPriorityLoop msg priority q.messages.size 0

/-- The copying loop of `zoo_queue_sort`, for `count` positions from `i` on; no array if a
pointer is NULL. -/
def copyNodes (l : ZooList) : ℕ→ℕ→Array ℕ→Option (Option (Array ℕ))
  | 0, _, copied=>some (some copied)
  | count+1, i, copied=>do
    let node ← l.zooListAt i
    if node=0 then some none else copyNodes l count (i+1) (copied.push node)

/-- The rebuilding loop of `zoo_queue_sort`. -/
def pushNodes : List ℕ→ZooList→Option ZooList
  | [], l=>some l
  | node::rest, l=>do
    let (result,l) ← l.zooListPushBack malloc node
    if result = .ok then pushNodes rest l else some l

def zooQueueSort (strategy : ℤ) : Option ZooQueue:=
  if strategy=SortStrategy.none ∨ strategy=SortStrategy.fifo then some q
  else if q.messages.size≤1 then some q
  else do
    match ← copyNodes q.messages q.messages.size 0 #[] with
    | none=>some q
    | some copied=>
      let sorted ← quickSort (compareMessages q.nodes strategy) q.messages.size copied 0
        (q.messages.size-1)
      let cleared ← q.messages.zooListClear
      let messages ← pushNodes malloc sorted.toList cleared
      some {q with messages:=messages}

end

def held (q : ZooQueue) : List QueueItem:=
  (range q.messages.size).filterMap fun i=>
    (q.messages.zooListAt i).bind fun node=>(q.nodes.load node).map QueueNode.toQueueItem

/-- The nodes in the order in which they are queued. -/
def queued (q : ZooQueue) : List QueueNode:=
  (range q.messages.size).filterMap fun i=>(q.messages.zooListAt i).bind q.nodes.load

/-- A call of the queue. -/
inductive QueueCall where
  | enqueue (item : QueueItem) (now : ℤ)
  | dequeue
  | setPriority (msg : ℕ) (priority : ℤ)
  | sort (strategy : ℤ)
deriving DecidableEq

/-- One call, and what its caller sees. -/
def call (malloc pool : Allocator) (q : ZooQueue) :
    QueueCall→Option (Observation QueueItem × ZooQueue)
  | .enqueue item now=>do
    let (accepted,q) ← q.zooQueueEnqueue malloc pool item now
    some (if accepted then .push item else .idle,q)
  | .dequeue=>do
    let (item,q) ← q.zooQueueDequeue
    some (item.elim .idle .pop,q)
  | .setPriority msg priority=>do
    let (_,q) ← q.zooQueueSetPriority msg priority
    some (.idle,q)
  | .sort strategy=>do
    let q ← q.zooQueueSort malloc strategy
    some (.idle,q)

def run (malloc pool : Allocator) :
    List QueueCall→ZooQueue→Option (List (Observation QueueItem) × ZooQueue)
  | [], q=>some ([],q)
  | c::calls, q=>do
    let (o,q) ← q.call malloc pool c
    let (os,q) ← run malloc pool calls q
    some (o::os,q)

structure Holds (q : ZooQueue) (entries : List (ℕ × QueueNode)) : Prop where
  list : q.messages.Holds (entries.map Prod.fst)
  nodup : (entries.map Prod.fst).Nodup
  load : ∀ e∈entries, q.nodes.load e.1=some e.2
  ne_zero : ∀ e∈entries, e.1≠0
  length_le : entries.length≤q.maxQueueSize
  room : q.maxQueueSize≤q.messages.maxListLength
  running : q.exitFlag=false

def entryAt (q : ZooQueue) (node : ℕ) : ℕ × QueueNode:=(node,(q.nodes.load node).getD ⟨⟨0,0,0,0⟩,0,0⟩)
def items (entries : List (ℕ × QueueNode)) : List QueueItem:=entries.map fun e=>e.2.toQueueItem

lemma filterMap_range_getElem? {α β : Type} (f : α → β) (l : List α) :
    ((range l.length).filterMap fun i=>l[i]?.map f)=l.map f:=by
  induction l with
  | nil=>rfl
  | cons x l ih=>
    rw [length_cons,range_succ_eq_map,filterMap_cons,filterMap_map]
    simpa using ih

lemma copyNodes_eq {l : ZooList} {xs : List ℕ} (h : l.Holds xs) (hne : ∀ x∈xs, x≠0)
    {count i : ℕ} (hcount : i+count=xs.length) :
    copyNodes l count i (xs.take i).toArray=some (some xs.toArray):=by
  induction count generalizing i with
  | zero=>rw [copyNodes,take_of_length_le (by omega)]
  | succ count ih=>
    have hi : i<xs.length:=by omega
    have hat : l.zooListAt i=some xs[i]:=by simp [h.at_eq,List.getD,hi]
    simp only [copyNodes,hat,hne _ (getElem_mem hi),if_false,Option.bind_eq_bind,
      Option.bind_some,push_toArray,take_append_getElem]
    exact ih (by omega)

lemma pushNodes_holds (malloc : Allocator) {l : ZooList} {xs ys : List ℕ} (h : l.Holds xs)
    (hne : ∀ y∈ys, y≠0) (hroom : xs.length+ys.length≤l.maxListLength) :
    ∃ l', pushNodes malloc ys l=some l' ∧ l'.Holds (xs++ys) ∧ l'.maxListLength=l.maxListLength:=by
  induction ys generalizing l xs with
  | nil=>exact ⟨l,rfl,by rwa [append_nil],rfl⟩
  | cons y ys ih=>
    rw [length_cons] at hroom
    obtain ⟨l₁,hpush,hholds,hmax⟩:=h.pushBack malloc (hne y mem_cons_self) (by rw [h.size_eq]; omega)
    obtain ⟨l',hrest,hholds',hmax'⟩:=ih hholds
      (fun y' hy'=>hne y' (mem_cons_of_mem y hy'))
      (by rw [hmax,length_append,length_singleton]; omega)
    refine ⟨l',?_,by simpa using hholds',hmax'.trans hmax⟩
    simp [pushNodes,hpush,hrest]

namespace Holds
variable {q : ZooQueue} {entries : List (ℕ × QueueNode)} (malloc pool : Allocator)

lemma size_eq (h : q.Holds entries) : q.messages.size=entries.length:=by rw [h.list.size_eq,length_map]

lemma at_getElem (h : q.Holds entries) {i : ℕ} (hi : i<entries.length) :
    q.messages.zooListAt i=some entries[i].1:=by simp [h.list.at_eq,List.getD,hi]

lemma isSome_load (h : q.Holds entries) {node : ℕ} (hnode : node∈(entries.map Prod.fst).toArray) :
    (q.nodes.load node).isSome:=by
  obtain ⟨e,he,rfl⟩:=List.mem_map.1 (List.mem_toArray.1 hnode)
  rw [h.load e he]
  rfl

lemma queued_eq (h : q.Holds entries) : q.queued=entries.map Prod.snd:=by
  rw [queued,h.size_eq,← filterMap_range_getElem?]
  refine filterMap_congr ?_
  intro i hi
  have hlt:=mem_range.1 hi
  rw [h.at_getElem hlt,Option.bind_some,h.load _ (getElem_mem hlt),getElem?_eq_getElem hlt]
  rfl

lemma held_eq (h : q.Holds entries) : q.held=items entries:=by
  have hheld : q.held=q.queued.map QueueNode.toQueueItem:=by
    simp only [queued,map_filterMap,Option.map_bind]
    rfl
  rw [hheld,h.queued_eq,List.map_map]
  rfl

lemma create (capacity : ℕ) : ∃ q, zooCreateQueue capacity=some q ∧ q.Holds [] ∧ q.maxQueueSize=capacity:=by
  obtain ⟨l,hcreate,hholds,hmax⟩:=
    ZooList.zooListCreate_holds (show (if capacity=0 then 64 else capacity)≠0 by
      split <;> omega)
  refine ⟨⟨l,capacity,false,Heap.empty⟩,by simp [zooCreateQueue,hcreate],?_,rfl⟩
  refine ⟨hholds,nodup_nil,nofun,nofun,Nat.zero_le _,?_,rfl⟩
  change capacity≤l.maxListLength
  rw [hmax]
  split <;> omega

section
variable (h : q.Holds entries)
include h

lemma enqueue (item : QueueItem) (now : ℤ) :
    ∃ accepted q' entries', q.zooQueueEnqueue malloc pool item now=some (accepted,q') ∧
      q'.Holds entries' ∧ q'.maxQueueSize=q.maxQueueSize ∧
      (accepted=true ↔ item.msg≠0 ∧ item.handler≠0 ∧ entries.length<q.maxQueueSize) ∧
      items entries'=items entries++(if accepted then [item] else []):=by
  by_cases hnull : item.msg=0 ∨ item.handler=0
  · refine ⟨false,q,entries,if_pos hnull,h,rfl,?_,by simp⟩
    simp only [Bool.false_eq_true,false_iff,not_and]
    intro hmsg hhandler
    exact absurd hnull (not_or.2 ⟨hmsg,hhandler⟩)
  by_cases hfull : q.maxQueueSize≤q.messages.size
  · refine ⟨false,q,entries,?_,h,rfl,?_,by simp⟩
    · rw [zooQueueEnqueue,if_neg hnull,if_pos hfull]
    · rw [h.size_eq] at hfull
      simp only [Bool.false_eq_true,false_iff,not_and]
      intro _ _ hlt
      omega
  obtain ⟨node,nodes,halloc,hnode,hfresh,hself,hkept⟩:=q.nodes.alloc_spec pool ⟨item,0,now⟩
  have hroom:=h.room
  obtain ⟨messages,hpush,hlist,hmax⟩:=h.list.pushBack malloc hnode (by omega)
  rw [h.size_eq,not_le] at hfull
  rw [not_or] at hnull
  refine ⟨true,{q with messages:=messages, nodes:=nodes},
    entries++[(node,⟨item,0,now⟩)],?_,?_,rfl,?_,by simp [items]⟩
  · simp [zooQueueEnqueue,hnull,h.size_eq,hfull,halloc,hpush]
  · refine ⟨by simpa using hlist,?_,?_,?_,?_,hmax ▸ h.room,h.running⟩
    · refine Heap.nodup_append_fresh h.nodup ?_ hfresh _
      intro e he hnone
      exact Option.some_ne_none _ ((h.load e he).symm.trans hnone)
    · intro e he
      rcases mem_append.1 he with he | he
      · exact hkept _ _ (h.load e he)
      · rw [mem_singleton.1 he]
        exact hself
    · intro e he
      rcases mem_append.1 he with he | he
      · exact h.ne_zero e he
      · rw [mem_singleton.1 he]
        exact hnode
    · rw [length_append]
      exact hfull
  · simpa [hnull] using hfull

lemma dequeue :
    ∃ q' entries', q.zooQueueDequeue=some ((items entries).head?,q') ∧ q'.Holds entries' ∧
      q'.maxQueueSize=q.maxQueueSize ∧ items entries'=(items entries).tail:=by
  have hrunning : ¬q.exitFlag=true:=by simp [h.running]
  cases entries with
  | nil=>
    have hpop:=h.list.popFront_nil
    refine ⟨q,[],?_,h,rfl,rfl⟩
    rw [zooQueueDequeue,if_neg hrunning,hpop]
    rfl
  | cons e entries=>
    obtain ⟨messages,hpop,hlist,hmax⟩:=h.list.popFront_cons
    have hload:=h.load e mem_cons_self
    have hne:=h.ne_zero e mem_cons_self
    obtain ⟨nodes,hfree,-,hoth⟩:=Heap.free_of_load hload
    have hnodup:=h.nodup
    have hlen:=h.length_le
    rw [map_cons,List.nodup_cons] at hnodup
    rw [length_cons] at hlen
    refine ⟨{q with messages:=messages, nodes:=nodes},entries,?_,
      ⟨hlist,hnodup.2,?_,?_,Nat.le_of_succ_le hlen,hmax ▸ h.room,h.running⟩,rfl,rfl⟩
    · simp [zooQueueDequeue,hrunning,hpop,hne,hload,hfree,items]
    · intro e' he'
      refine (hoth e'.1 ?_).trans (h.load e' (mem_cons_of_mem e he'))
      intro heq
      exact hnodup.1 (heq ▸ List.mem_map_of_mem he')
    · intro e' he'
      exact h.ne_zero e' (mem_cons_of_mem e he')

lemma store {e : ℕ × QueueNode} (he : e∈entries) (priority : ℤ) :
    ∃ nodes entries', q.nodes.store e.1 {e.2 with priority:=priority}=some nodes ∧
      ({q with nodes:=nodes} : ZooQueue).Holds entries' ∧ items entries'=items entries:=by
  obtain ⟨nodes,hstore,hself,hoth⟩:=Heap.store_of_load (h.load e he) {e.2 with priority:=priority}
  let change (e' : ℕ × QueueNode) : ℕ × QueueNode:=
    if e'.1=e.1 then (e.1,{e.2 with priority:=priority}) else e'
  have hfst : ∀ e', (change e').1=e'.1:=by
    intro e'
    simp only [change]
    split
    next heq=>exact heq.symm
    next=>rfl
  have hmap : (entries.map change).map Prod.fst=entries.map Prod.fst:=by
    rw [List.map_map]
    exact map_congr_left fun e' _=>hfst e'
  refine ⟨nodes,entries.map change,hstore,
    ⟨hmap ▸ h.list,hmap ▸ h.nodup,?_,?_,by simpa using h.length_le,h.room,h.running⟩,?_⟩
  · intro e' he'
    obtain ⟨e',hmem,rfl⟩:=List.mem_map.1 he'
    simp only [change]
    split
    next=>exact hself
    next hne=>exact (hoth e'.1 hne).trans (h.load e' hmem)
  · intro e' he'
    obtain ⟨e',hmem,rfl⟩:=List.mem_map.1 he'
    rw [hfst]
    exact h.ne_zero e' hmem
  · rw [items,List.map_map]
    refine map_congr_left ?_
    intro e' hmem
    simp only [Function.comp_apply,change]
    split
    next heq=>
      have hsame:=h.load e' hmem
      rw [heq,h.load e he,Option.some.injEq] at hsame
      rw [hsame]
    next=>rfl

lemma setPriorityLoop (msg : ℕ) (priority : ℤ) {count i : ℕ} (hcount : i+count≤entries.length) :
    ∃ found q' entries', q.setPriorityLoop msg priority count i=some (found,q') ∧
      q'.Holds entries' ∧ q'.maxQueueSize=q.maxQueueSize ∧ items entries'=items entries:=by
  induction count generalizing i with
  | zero=>exact ⟨false,q,entries,rfl,h,rfl,rfl⟩
  | succ count ih=>
    have hi : i<entries.length:=by omega
    have hmem:=getElem_mem hi
    simp only [ZooQueue.setPriorityLoop,h.at_getElem hi,h.ne_zero _ hmem,h.load _ hmem,if_false,
      Option.bind_eq_bind,Option.bind_some]
    split
    · obtain ⟨nodes,entries',hstore,hholds,hitems⟩:=h.store hmem priority
      exact ⟨true,_,entries',by rw [hstore]; rfl,hholds,rfl,hitems⟩
    · exact ih (by omega)

lemma setPriority (msg : ℕ) (priority : ℤ) :
    ∃ found q' entries', q.zooQueueSetPriority msg priority=some (found,q') ∧
      q'.Holds entries' ∧ q'.maxQueueSize=q.maxQueueSize ∧ items entries'=items entries:=by
  rw [zooQueueSetPriority]
  split
  · exact ⟨false,q,entries,rfl,h,rfl,rfl⟩
  · exact h.setPriorityLoop msg priority (by rw [h.size_eq,Nat.zero_add])

lemma map_entryAt : (entries.map Prod.fst).map q.entryAt=entries:=by
  have hsame : ∀ e∈entries, q.entryAt e.1=e:=by
    intro e he
    rw [entryAt,h.load e he]
    rfl
  rw [List.map_map]
  exact (map_congr_left hsame).trans (List.map_id entries)

lemma sort (strategy : ℤ) :
    ∃ q' entries', q.zooQueueSort malloc strategy=some q' ∧ q'.Holds entries' ∧
      q'.maxQueueSize=q.maxQueueSize ∧ (items entries).Perm (items entries') ∧
      (¬(strategy=SortStrategy.none ∨ strategy=SortStrategy.fifo)→
        (entries'.map Prod.snd).Pairwise fun a b=>a.sortKey strategy≤b.sortKey strategy):=by
  by_cases hnone : strategy=SortStrategy.none ∨ strategy=SortStrategy.fifo
  · exact ⟨q,entries,if_pos hnone,h,rfl,.rfl,(absurd hnone ·)⟩
  by_cases hsmall : q.messages.size≤1
  · refine ⟨q,entries,?_,h,rfl,.rfl,fun _=>pairwise_iff_getElem.2 fun i j hi hj hij=>?_⟩
    · rw [zooQueueSort,if_neg hnone,if_pos hsmall]
    · rw [h.size_eq] at hsmall
      rw [length_map] at hj
      omega
  have hne : ∀ node∈entries.map Prod.fst, node≠0:=by
    intro node hnode
    obtain ⟨e,he,rfl⟩:=List.mem_map.1 hnode
    exact h.ne_zero e he
  have hcopy:=copyNodes_eq h.list hne (show 0+q.messages.size=_ by
    rw [h.size_eq,length_map,Nat.zero_add])
  have hcompare : Comparable (compareMessages q.nodes strategy)
      (entries.map Prod.fst).toArray:=by
    intro a ha b hb
    exact isSome_compareMessages (h.isSome_load ha) (h.isSome_load hb) strategy
  have hord : Orders (compareMessages q.nodes strategy)
      (fun node=>(q.entryAt node).2.sortKey strategy) (entries.map Prod.fst).toArray:=by
    intro a ha b hb order horder
    obtain ⟨nodeA,hnodeA⟩:=Option.isSome_iff_exists.1 (h.isSome_load ha)
    obtain ⟨nodeB,hnodeB⟩:=Option.isSome_iff_exists.1 (h.isSome_load hb)
    have hiff:=compareMessages_nonpos_iff hnodeA hnodeB
      ⟨hne a (List.mem_toArray.1 ha),hne b (List.mem_toArray.1 hb)⟩ horder
    simpa only [entryAt,hnodeA,hnodeB,Option.getD_some] using hiff
  obtain ⟨sorted,hsort,hre,hascending⟩:=quickSort_spec hcompare hord
    (show q.messages.size-1<(entries.map Prod.fst).toArray.size by
      rw [List.size_toArray,length_map,← h.size_eq]
      omega)
    (show q.messages.size-1-0<q.messages.size by omega)
  obtain ⟨cleared,hclear,hempty,hmax⟩:=h.list.clear
  have hsorted : sorted.toList.Perm (entries.map Prod.fst):=Array.perm_iff_toList_perm.1 hre.perm
  obtain ⟨messages,hpush,hlist,hmax'⟩:=pushNodes_holds malloc hempty
    (show ∀ node∈sorted.toList, node≠0 from fun node hnode=>hne node (hsorted.mem_iff.1 hnode))
    (by
      rw [hsorted.length_eq,length_map,hmax,length_nil,Nat.zero_add]
      exact h.length_le.trans h.room)
  have hentries : (sorted.toList.map q.entryAt).Perm entries:=by
    simpa only [h.map_entryAt] using hsorted.map q.entryAt
  have hfst : (sorted.toList.map q.entryAt).map Prod.fst=sorted.toList:=by
    rw [List.map_map]
    exact List.map_id _
  refine ⟨{q with messages:=messages},sorted.toList.map q.entryAt,?_,
    ⟨?_,?_,?_,?_,?_,?_,h.running⟩,rfl,(hentries.map _).symm,fun _=>?_⟩
  · simp only [zooQueueSort,hnone,hsmall,if_false,Option.bind_eq_bind]
    rw [show (#[] : Array ℕ)=((entries.map Prod.fst).take 0).toArray from rfl,hcopy]
    simp only [Option.bind_some,hsort,hclear,hpush]
  · rw [hfst]
    simpa using hlist
  · rw [hfst]
    exact hsorted.nodup_iff.2 h.nodup
  · intro e he
    exact h.load e (hentries.mem_iff.1 he)
  · intro e he
    exact h.ne_zero e (hentries.mem_iff.1 he)
  · rw [hentries.length_eq]
    exact h.length_le
  · rw [hmax',hmax]
    exact h.room
  · rw [List.map_map,pairwise_map,pairwise_iff_getElem]
    intro i j hi hj hij
    exact hascending i j (Nat.zero_le i) hij
      (by rw [hsorted.length_eq,length_map,← h.size_eq] at hj; omega) _ (by simp) _ (by simp)

end
end Holds

def QueueCall.KeepsOrder (c : QueueCall) : Prop:=∀ strategy, c ≠ .sort strategy

variable (malloc pool : Allocator) {q : ZooQueue} {entries : List (ℕ × QueueNode)}

lemma Holds.call (h : q.Holds entries) (c : QueueCall) :
    ∃ o q' entries', q.call malloc pool c=some (o,q') ∧ q'.Holds entries' ∧
      q'.maxQueueSize=q.maxQueueSize ∧
      (Step (items entries) o (items entries') ∨ ¬c.KeepsOrder ∧ o = .idle ∧ (items entries).Perm (items entries')):=by
  cases c with
  | enqueue item now=>
    obtain ⟨accepted,q',entries',hcall,hholds,hmax,-,hitems⟩:=h.enqueue malloc pool item now
    refine ⟨_,q',entries',by rw [ZooQueue.call,hcall]; rfl,hholds,hmax,.inl ?_⟩
    rw [hitems]
    cases accepted with
    | true=>exact .push (items entries) item
    | false=>
      rw [if_neg Bool.false_ne_true]
      exact (append_nil (items entries)).symm ▸ .idle (items entries)
  | dequeue=>
    obtain ⟨q',entries',hcall,hholds,hmax,hitems⟩:=h.dequeue
    refine ⟨_,q',entries',by rw [ZooQueue.call,hcall]; rfl,hholds,hmax,.inl ?_⟩
    rw [hitems]
    cases items entries with
    | nil=>exact .idle []
    | cons item rest=>exact .pop item rest
  | setPriority msg priority=>
    obtain ⟨found,q',entries',hcall,hholds,hmax,hitems⟩:=h.setPriority msg priority
    refine ⟨_,q',entries',by rw [ZooQueue.call,hcall]; rfl,hholds,hmax,.inl ?_⟩
    rw [hitems]
    exact .idle (items entries)
  | sort strategy=>
    obtain ⟨q',entries',hcall,hholds,hmax,hperm,-⟩:=h.sort malloc strategy
    refine ⟨_,q',entries',by rw [ZooQueue.call,hcall]; rfl,hholds,hmax,.inr ⟨?_,rfl,hperm⟩⟩
    exact fun hkeeps=>hkeeps strategy rfl

lemma Holds.run (h : q.Holds entries) (calls : List QueueCall) :
    ∃ os q' entries', run malloc pool calls q=some (os,q') ∧ q'.Holds entries' ∧
      q'.maxQueueSize=q.maxQueueSize ∧ MixedTrace (items entries) os (items entries') ∧
      ((∀ c∈calls, c.KeepsOrder)→Trace (items entries) os (items entries')):=by
  induction calls generalizing q entries with
  | nil=>exact ⟨[],q,entries,rfl,h,rfl,.nil _,fun _=>.nil _⟩
  | cons c calls ih=>
    obtain ⟨o,q₁,entries₁,hcall,hholds,hmax,hstep⟩:=h.call malloc pool c
    obtain ⟨os,q',entries',hrun,hholds',hmax',hmixed,htrace⟩:=ih hholds
    refine ⟨o::os,q',entries',by simp [ZooQueue.run,hcall,hrun],hholds',hmax'.trans hmax,?_,?_⟩
    · rcases hstep with hstep | ⟨-,rfl,hperm⟩
      · exact .step hstep hmixed
      · exact .reorder hperm hmixed
    · intro hkeeps
      rcases hstep with hstep | ⟨hsort,-,-⟩
      · exact .cons hstep (htrace fun c' hc'=>hkeeps c' (mem_cons_of_mem c hc'))
      · exact absurd (hkeeps c mem_cons_self) hsort

/-- The queue is a bounded FIFO that loses and duplicates nothing. -/
theorem run_lossless_fifo (malloc pool : Allocator) (capacity : ℕ) (calls : List QueueCall) :
    ∃ q₀ os q, zooCreateQueue capacity=some q₀ ∧ run malloc pool calls q₀=some (os,q) ∧
      q.held.length≤capacity ∧
      (pushed os).Perm (popped os++q.held) ∧
      (∀ item now, ∃ accepted q', q.zooQueueEnqueue malloc pool item now=some (accepted,q') ∧
        (accepted=true ↔ item.msg≠0 ∧ item.handler≠0 ∧ q.held.length<capacity) ∧
        q'.held=q.held++(if accepted then [item] else [])) ∧
      (∃ q', q.zooQueueDequeue=some (q.held.head?,q') ∧ q'.held=q.held.tail) ∧
      ∀ later, (∀ c∈later, c.KeepsOrder)→
        ∃ os' q', run malloc pool later q=some (os',q') ∧ q.held++pushed os'=popped os' ++ q'.held:=by
  obtain ⟨q₀,hcreate,hholds₀,hcapacity⟩:=Holds.create capacity
  obtain ⟨os,q,entries,hrun,hholds,hmax,hmixed,-⟩:=hholds₀.run malloc pool calls
  rw [hcapacity] at hmax
  have hlength : (items entries).length=entries.length:=length_map _
  refine ⟨q₀,os,q,hcreate,hrun,?_,hholds.held_eq ▸ hmixed.balance,?_,?_,?_⟩
  · rw [hholds.held_eq,hlength,← hmax]
    exact hholds.length_le
  · intro item now
    obtain ⟨accepted,q',entries',hcall,hholds',-,haccepted,hitems⟩:=hholds.enqueue malloc pool item now
    rw [hholds.held_eq,hlength,← hmax]
    exact ⟨accepted,q',hcall,haccepted,hholds'.held_eq.trans hitems⟩
  · obtain ⟨q',entries',hcall,hholds',-,hitems⟩:=hholds.dequeue
    rw [hholds.held_eq]
    exact ⟨q',hcall,hholds'.held_eq.trans hitems⟩
  · intro later hkeeps
    obtain ⟨os',q',entries',hlater,hholds',-,-,htrace⟩:=hholds.run malloc pool later
    rw [hholds.held_eq]
    exact ⟨os',q',hlater,hholds'.held_eq ▸ (htrace hkeeps).balance⟩

/-- A sort with the strategy keeps the messages and puts them in ascending order. -/
def SortsBy (malloc : Allocator) (q : ZooQueue) (strategy : ℤ) (key : QueueNode→ℤ) : Prop:=
  ∃ q', q.zooQueueSort malloc strategy=some q' ∧ q'.held.Perm q.held ∧ q'.queued.Pairwise fun a b=>key a≤key b

lemma Holds.sortsBy (h : q.Holds entries) {strategy : ℤ}
    (hstrategy : ¬(strategy=SortStrategy.none ∨ strategy=SortStrategy.fifo)) :
    q.SortsBy malloc strategy (QueueNode.sortKey strategy):=by
  obtain ⟨q',entries',hsort,hholds,-,hperm,hpairwise⟩:=h.sort malloc strategy
  refine ⟨q',hsort,?_,?_⟩
  · rw [hholds.held_eq,h.held_eq]
    exact hperm.symm
  · rw [hholds.queued_eq]
    exact hpairwise hstrategy

/-- Both sorting strategies sort every queue. -/
theorem run_sortsBy (malloc pool : Allocator) (capacity : ℕ) (calls : List QueueCall) :
    ∃ q₀ os q, zooCreateQueue capacity=some q₀ ∧ run malloc pool calls q₀=some (os,q) ∧
      q.SortsBy malloc SortStrategy.priority QueueNode.priority ∧
      q.SortsBy malloc SortStrategy.timestamp QueueNode.arrivedTimestamp:=by
  obtain ⟨q₀,hcreate,hholds₀,-⟩:=Holds.create capacity
  obtain ⟨os,q,entries,hrun,hholds,-⟩:=hholds₀.run malloc pool calls
  exact ⟨q₀,os,q,hcreate,hrun,hholds.sortsBy malloc (by decide),hholds.sortsBy malloc (by decide)⟩

end ZooQueue
end SoftMessageBus
