import SoftMessageBus.LinkedChains

/-!
# The linked list

`zoo_list.c`: a bounded list of pointers in linked nodes.
-/
namespace SoftMessageBus
open LinkedChains List Option

/-- `ZOO_LIST_STRUCT` and the nodes (`NODE_STRUCT`) allocated for it. -/
structure ZooList where
  head : ℕ
  tail : ℕ
  size : ℕ
  maxListLength : ℕ
  nodes : Heap (Cell ℕ)

/-- The results of `zoo_list_push_back`. -/
inductive PushResult where
  | ok
  | invalidParam
  | bufferFull
deriving DecidableEq

namespace ZooList

def zooListCreate (maxListLength : ℕ) : Option ZooList:=
  if maxListLength=0 then none else some ⟨0,0,0,maxListLength,Heap.empty⟩

section
variable (l : ZooList)

def isListFull : Bool:=l.maxListLength≤l.size

def zooListPushBack (malloc : Allocator) (l : ZooList) (data : ℕ) : Option (PushResult × ZooList):=
  if data=0 then some (.invalidParam,l)
  else if l.isListFull then some (.bufferFull,l)
  else
    let (node,nodes):=l.nodes.alloc malloc ⟨data,0⟩
    if l.head=0 then
      some (.ok,{l with head:=node, tail:=node, size:=l.size+1, nodes:=nodes})
    else do
      let last ← nodes.load l.tail
      let nodes ← nodes.store l.tail {last with next:=node}
      some (.ok,{l with tail:=node, size:=l.size+1, nodes:=nodes})

/-- `zoo_list_pop_front`. -/
def zooListPopFront : Option (ℕ × ZooList):=
  if l.head=0 then some (0,l)
  else do
    let node ← l.nodes.load l.head
    let nodes ← l.nodes.free l.head
    some (node.data,
      {l with
        head:=node.next
        tail:=if node.next=0 then 0 else l.tail
        size:=l.size-1
        nodes:=nodes})

/-- The loop of `zoo_list_clear`. -/
def freeNodes : ℕ→Heap (Cell ℕ)→ℕ→Option (Heap (Cell ℕ))
  | 0, nodes, current=>if current=0 then some nodes else none
  | fuel+1, nodes, current=>
    if current=0 then some nodes
    else do
      let node ← nodes.load current
      let nodes ← nodes.free current
      freeNodes fuel nodes node.next

def zooListClear : Option ZooList:=do
  let nodes ← freeNodes l.nodes.cells.keys.card l.nodes l.head
  some {l with head:=0, tail:=0, size:=0, nodes:=nodes}

/-- The loop of `zoo_list_at`, from a node on. -/
def nodeAt (nodes : Heap (Cell ℕ)) : ℕ→ℕ→Option (Cell ℕ)
  | 0, current=>nodes.load current
  | index+1, current=>do
    let node ← nodes.load current
    nodeAt nodes index node.next

/-- `zoo_list_at`. -/
def zooListAt (index : ℕ) : Option ℕ:=if l.size ≤ index then some 0 else (nodeAt l.nodes index l.head).map Cell.data

structure Owns (l : ZooList) (cells : List (ℕ × ℕ)) : Prop where
  chain : Chain l.nodes l.head cells
  nodup : (cells.map Prod.fst).Nodup
  tail_eq : l.tail=(cells.map Prod.fst).getLastD 0
  size_eq : l.size=cells.length

def Holds (xs : List ℕ) : Prop:=∃ cells, l.Owns cells ∧ cells.map Prod.snd=xs

end

variable {l : ZooList} {xs : List ℕ}

lemma Holds.size_eq (h : l.Holds xs) : l.size=xs.length:=by
  obtain ⟨cells,howns,rfl⟩:=h
  rw [howns.size_eq,length_map]

lemma zooListCreate_holds {maxListLength : ℕ} (h : maxListLength≠0) :
    ∃ l, zooListCreate maxListLength=some l ∧ l.Holds [] ∧ l.maxListLength=maxListLength:=
  ⟨_,if_neg h,⟨[],⟨rfl,nodup_nil,rfl,rfl⟩,rfl⟩,rfl⟩

variable {cells : List (ℕ × ℕ)}

lemma Owns.pushBack (malloc : Allocator) (h : l.Owns cells) {data : ℕ} (hdata : data≠0)
    (hroom : l.size<l.maxListLength) :
    ∃ l' node, l.zooListPushBack malloc data=some (.ok,l') ∧
      l'.Owns (cells++[(node,data)]) ∧ l'.maxListLength=l.maxListLength:=by
  obtain ⟨node,nodes,halloc,hnode,hfresh,hself,hkept⟩:=l.nodes.alloc_spec malloc ⟨data,0⟩
  have hload : ∀ e∈cells, l.nodes.load e.1≠none:=by
    intro e he hnone
    obtain ⟨next,hsome⟩:=h.chain.load_of_mem he
    exact some_ne_none _ (hsome.symm.trans hnone)
  have hnodup:=Heap.nodup_append_fresh h.nodup hload hfresh data
  have hfull : l.isListFull=false:=by simpa [isListFull] using hroom
  simp only [zooListPushBack,hdata,hfull,halloc,if_false,Bool.false_eq_true]
  cases cells using reverseRecOn with
  | nil=>
    have hhead : l.head=0:=h.chain
    refine ⟨_,node,if_pos hhead,⟨?_,hnodup,rfl,?_⟩,rfl⟩
    · exact ⟨rfl,hnode,0,hself,rfl⟩
    · simp [h.size_eq]
  | append_singleton init last=>
    obtain ⟨t,y⟩:=last
    have hhead : l.head≠0:=fun hzero=>by simpa using h.chain.eq_zero_iff.1 hzero
    have htail : l.tail=t:=by simpa using h.tail_eq
    have hlast : nodes.load t=some ⟨y,0⟩:=hkept _ _ h.chain.load_getLast
    obtain ⟨nodes',hstore,hstores,hoth⟩:=Heap.store_of_load hlast ⟨y,node⟩
    have hne : node≠t:=by
      rintro rfl
      exact hload (node,y) (mem_append_right init mem_cons_self) hfresh
    simp only [hhead,if_false,htail,hlast,hstore,bind_eq_bind,bind_some]
    refine ⟨_,node,rfl,⟨?_,hnodup,?_,?_⟩,rfl⟩
    · refine h.chain.snoc h.nodup hnode hstores ((hoth node hne).trans hself) ?_
      intro e he het
      obtain ⟨next,hsome⟩:=h.chain.load_of_mem (mem_append_left [(t,y)] he)
      rw [hoth e.1 het,hkept _ _ hsome,hsome]
    · simp
    · simp [h.size_eq]

lemma Holds.pushBack (malloc : Allocator) (h : l.Holds xs) {data : ℕ} (hdata : data≠0) (hroom : l.size<l.maxListLength) :
    ∃ l', l.zooListPushBack malloc data=some (.ok,l') ∧ l'.Holds (xs++[data]) ∧ l'.maxListLength=l.maxListLength:=by
  obtain ⟨cells,howns,rfl⟩:=h
  obtain ⟨l',node,hpush,howns',hmax⟩:=howns.pushBack malloc hdata hroom
  exact ⟨l',hpush,⟨_,howns',by simp⟩,hmax⟩

lemma Holds.popFront_nil (h : l.Holds []) : l.zooListPopFront=some (0,l):=by
  obtain ⟨cells,howns,hnil⟩:=h
  rw [map_eq_nil_iff.1 hnil] at howns
  exact if_pos howns.chain

lemma Holds.popFront_cons {x : ℕ} (h : l.Holds (x::xs)) :
    ∃ l', l.zooListPopFront=some (x,l') ∧ l'.Holds xs ∧ l'.maxListLength=l.maxListLength:=by
  obtain ⟨cells,howns,hcells⟩:=h
  obtain ⟨⟨a,y⟩,cells,rfl,rfl,rfl⟩:=map_eq_cons_iff.1 hcells
  obtain ⟨hhead,hne,next,hload,hrest⟩:=howns.chain
  obtain ⟨nodes,hfree,-,hoth⟩:=Heap.free_of_load hload
  have hnodup:=howns.nodup
  rw [map_cons,List.nodup_cons] at hnodup
  have hpop : l.zooListPopFront=some (y, ⟨next,if next=0 then 0 else l.tail,l.size-1,
      l.maxListLength,nodes⟩):=by simp [zooListPopFront,hhead,hne,hload,hfree]
  refine ⟨_,hpop,⟨cells,⟨?_,hnodup.2,?_,?_⟩,rfl⟩,rfl⟩
  · exact hrest.frame hnodup.1 hoth
  · change (if next=0 then 0 else l.tail)=_
    rw [howns.tail_eq]
    cases cells with
    | nil=>rw [if_pos (show next=0 from hrest),map_nil,getLastD_nil]
    | cons e cells=>
      rw [if_neg (fun hzero=>cons_ne_nil _ _ (hrest.eq_zero_iff.1 hzero))]
      simp
  · change l.size-1=cells.length
    rw [howns.size_eq]
    rfl

lemma freeNodes_chain {nodes : Heap (Cell ℕ)} {current : ℕ}
    (hchain : Chain nodes current cells) (hnodup : (cells.map Prod.fst).Nodup) {fuel : ℕ}
    (hfuel : cells.length≤fuel) : ∃ nodes', freeNodes fuel nodes current=some nodes':=by
  induction cells generalizing nodes current fuel with
  | nil=>exact ⟨nodes,by cases fuel <;> exact if_pos hchain⟩
  | cons e cells ih=>
    obtain ⟨rfl,hne,next,hload,hrest⟩:=hchain
    obtain ⟨nodes',hfree,-,hoth⟩:=Heap.free_of_load hload
    rw [map_cons,List.nodup_cons] at hnodup
    rw [length_cons] at hfuel
    obtain ⟨fuel,rfl⟩:=Nat.exists_eq_add_of_lt (Nat.lt_of_lt_of_le (Nat.succ_pos _) hfuel)
    have hrest' : Chain nodes' next cells:=hrest.frame hnodup.1 hoth
    obtain ⟨final,hfinal⟩:=ih hrest' hnodup.2 (show cells.length≤fuel by omega)
    refine ⟨final,?_⟩
    rw [Nat.zero_add,freeNodes,if_neg hne]
    simp only [hload,hfree,bind_eq_bind,bind_some,hfinal]

lemma Holds.clear (h : l.Holds xs) :
    ∃ l', l.zooListClear=some l' ∧ l'.Holds [] ∧ l'.maxListLength=l.maxListLength:=by
  obtain ⟨cells,howns,-⟩:=h
  obtain ⟨nodes,hfreed⟩:=freeNodes_chain howns.chain howns.nodup (howns.chain.length_le howns.nodup)
  have hclear : l.zooListClear=some ⟨0,0,0,l.maxListLength,nodes⟩:=by
    rw [zooListClear,hfreed]
    rfl
  exact ⟨_,hclear,⟨[],⟨rfl,nodup_nil,rfl,rfl⟩,rfl⟩,rfl⟩

lemma nodeAt_chain {nodes : Heap (Cell ℕ)} {current : ℕ} (hchain : Chain nodes current cells)
    {index : ℕ} (hindex : index<cells.length) :
    ∃ node, nodeAt nodes index current=some node ∧ node.data=cells[index].2:=by
  induction cells generalizing current index with
  | nil=>cases hindex
  | cons e cells ih=>
    obtain ⟨rfl,-,next,hload,hrest⟩:=hchain
    cases index with
    | zero=>exact ⟨_,hload,rfl⟩
    | succ index=>
      obtain ⟨node,hnode,hdata⟩:=ih hrest (Nat.lt_of_succ_lt_succ hindex)
      refine ⟨node,?_,hdata⟩
      rw [nodeAt,hload]
      exact hnode

lemma Holds.at_eq (h : l.Holds xs) (index : ℕ) : l.zooListAt index=some (xs.getD index 0):=by
  obtain ⟨cells,howns,rfl⟩:=h
  rw [zooListAt,howns.size_eq]
  split
  next hle=>simp [List.getD,hle]
  next hlt=>
    rw [not_le] at hlt
    obtain ⟨node,hnode,hdata⟩:=nodeAt_chain howns.chain hlt
    simp [hnode,hdata,List.getD,hlt]

end ZooList

/-- What the caller of `zoo_queue_enqueue` hands over: pointers, with 0 as NULL. -/
structure QueueItem where
  msg : ℕ
  context : ℕ
  handler : ℕ
  userData : ℕ
deriving DecidableEq

/-- `QUEUE_NODE_STRUCT`. -/
structure QueueNode extends QueueItem where
  priority : ℤ
  arrivedTimestamp : ℤ
deriving DecidableEq

namespace SortStrategy

def none : ℤ:=0
def priority : ℤ:=1
def timestamp : ℤ:=2
def fifo : ℤ:=3

end SortStrategy

/-- `compare_messages` on the values of one field. -/
def compareValues (a b : ℤ) : ℤ:=if a<b then -1 else if b<a then 1 else 0

def compareMessages (nodes : Heap QueueNode) (strategy : ℤ) (a b : ℕ) : Option ℤ:=
  if a=0 ∨ b=0 then some 0
  else if strategy=SortStrategy.priority then do
    let nodeA ← nodes.load a
    let nodeB ← nodes.load b
    some (compareValues nodeA.priority nodeB.priority)
  else if strategy=SortStrategy.timestamp then do
    let nodeA ← nodes.load a
    let nodeB ← nodes.load b
    some (compareValues nodeA.arrivedTimestamp nodeB.arrivedTimestamp)
  else some 0

lemma isSome_compareMessages {nodes : Heap QueueNode} {a b : ℕ}
    (ha : (nodes.load a).isSome) (hb : (nodes.load b).isSome) (strategy : ℤ) :
    (compareMessages nodes strategy a b).isSome:=by
  obtain ⟨nodeA,ha⟩:=isSome_iff_exists.1 ha
  obtain ⟨nodeB,hb⟩:=isSome_iff_exists.1 hb
  simp only [compareMessages,ha,hb,bind_eq_bind,bind_some]
  split_ifs <;> rfl

/-- The field that a strategy sorts by. -/
def QueueNode.sortKey (strategy : ℤ) (node : QueueNode) : ℤ:=
  if strategy=SortStrategy.priority then node.priority
  else if strategy=SortStrategy.timestamp then node.arrivedTimestamp
  else 0

lemma compareValues_nonpos_iff (a b : ℤ) : compareValues a b≤0 ↔ a≤b:=by
  unfold compareValues
  split_ifs <;> omega

lemma compareMessages_nonpos_iff {nodes : Heap QueueNode} {a b : ℕ} {nodeA nodeB : QueueNode}
    (ha : nodes.load a=some nodeA) (hb : nodes.load b=some nodeB) (hne : a≠0 ∧ b≠0)
    {strategy order : ℤ} (h : order∈compareMessages nodes strategy a b) :
    order≤0 ↔ nodeA.sortKey strategy≤nodeB.sortKey strategy:=by
  rw [compareMessages,if_neg (not_or.2 hne)] at h
  simp only [ha,hb,Option.bind_eq_bind,Option.bind_some] at h
  unfold QueueNode.sortKey
  split_ifs at h ⊢ <;> cases h
  · exact compareValues_nonpos_iff _ _
  · exact compareValues_nonpos_iff _ _
  · exact iff_of_true le_rfl le_rfl

section
variable {α : Type} (compare : α → α→Option ℤ)

def swapNodes (nodes : Array α) (i j : ℕ) : Option (Array α):=
  if h : i<nodes.size ∧ j<nodes.size then some (nodes.swap i j h.1 h.2) else none

/-- The loop of `partition`, for `count` values of `j`. -/
def partitionLoop (pivot : α) : ℕ→ℕ→ℕ→Array α→Option (ℕ × Array α)
  | 0, _, i, nodes=>some (i,nodes)
  | count+1, j, i, nodes=>do
    let node ← nodes[j]?
    let order ← compare node pivot
    if order≤0 then
      let nodes ← swapNodes nodes i j
      partitionLoop pivot count (j+1) (i+1) nodes
    else partitionLoop pivot count (j+1) i nodes

def partition (nodes : Array α) (low high : ℕ) : Option (ℕ × Array α):=do
  let pivot ← nodes[high]?
  let (i,nodes) ← partitionLoop compare pivot (high-low) low low nodes
  let nodes ← swapNodes nodes i high
  some (i,nodes)

def quickSort : ℕ→Array α→ℕ→ℕ→Option (Array α)
  | 0, _, _, _=>none
  | fuel+1, nodes, low, high=>
    if low<high then do
      let (pi,nodes) ← partition compare nodes low high
      let left:=if 0<pi then quickSort fuel nodes low (pi-1) else some nodes
      let nodes ← left
      if pi<high then quickSort fuel nodes (pi+1) high else some nodes
    else some nodes

variable {compare}

def Comparable (compare : α → α→Option ℤ) (nodes : Array α) : Prop:=∀ a∈nodes, ∀ b∈nodes, (compare a b).isSome

lemma Comparable.perm {nodes nodes' : Array α} (h : Comparable compare nodes)
    (hperm : nodes'.Perm nodes) : Comparable compare nodes':=by
  intro a ha b hb
  exact h a (hperm.mem_iff.1 ha) b (hperm.mem_iff.1 hb)

/-- The nodes of the positions from `low` up to `high` are rearranged among themselves. -/
structure Rearranged (low high : ℕ) (nodes nodes' : Array α) : Prop where
  perm : nodes'.Perm nodes
  outside : ∀ k, k<low ∨ high≤k→nodes'[k]?=nodes[k]?
  inside : ∀ k, low≤k→k<high→∃ j, low≤j ∧ j<high ∧ nodes'[k]?=nodes[j]?

/-- The comparison is the one of the values of `f`. -/
def Orders (compare : α → α→Option ℤ) (f : α→ℤ) (nodes : Array α) : Prop:=
  ∀ a∈nodes, ∀ b∈nodes, ∀ order∈compare a b, order≤0 ↔ f a≤f b

def SortedFrom (f : α→ℤ) (low high : ℕ) (nodes : Array α) : Prop:=
  ∀ i j, low ≤ i→i<j→j<high→∀ x∈nodes[i]?, ∀ y∈nodes[j]?, f x≤f y

/-- The pivot separates the positions before `i` from those from `i` up to `j`. -/
def SplitAt (f : α→ℤ) (pivot : α) (low i j : ℕ) (nodes : Array α) : Prop:=
  (∀ k, low≤k→k < i→∀ x∈nodes[k]?, f x≤f pivot) ∧ ∀ k, i≤k→k<j→∀ x∈nodes[k]?, f pivot≤f x

variable {nodes nodes' nodes'' : Array α} {low high i j : ℕ} {f : α→ℤ}

lemma Orders.perm (h : Orders compare f nodes) (hperm : nodes'.Perm nodes) : Orders compare f nodes':=
  fun a ha b hb=>h a (hperm.mem_iff.1 ha) b (hperm.mem_iff.1 hb)

namespace Rearranged

lemma refl (low high : ℕ) (nodes : Array α) : Rearranged low high nodes nodes:=
  ⟨.rfl,fun _ _=>rfl,fun k hlow hhigh=>⟨k,hlow,hhigh,rfl⟩⟩

lemma trans (h : Rearranged low high nodes nodes') (h' : Rearranged low high nodes' nodes'') :
    Rearranged low high nodes nodes'' := by
  refine ⟨h'.perm.trans h.perm,fun k hk=>(h'.outside k hk).trans (h.outside k hk),?_⟩
  intro k hlow hhigh
  obtain ⟨j,hj,hj',heq⟩:=h'.inside k hlow hhigh
  obtain ⟨m,hm,hm',heq'⟩:=h.inside j hj hj'
  exact ⟨m,hm,hm',heq.trans heq'⟩

lemma mono (h : Rearranged i j nodes nodes') (hlow : low ≤ i) (hhigh : j≤high) :
    Rearranged low high nodes nodes':=by
  refine ⟨h.perm,fun k hk=>h.outside k (by omega),fun k hk hk'=>?_⟩
  by_cases hin : i≤k ∧ k<j
  · obtain ⟨m,hm,hm',heq⟩:=h.inside k hin.1 hin.2
    exact ⟨m,by omega,by omega,heq⟩
  · exact ⟨k,hk,hk',h.outside k (by omega)⟩

lemma swap (hlow : low ≤ i) (hij : i≤j) (hhigh : j<high) (hj : j<nodes.size) :
    ∃ nodes', swapNodes nodes i j=some nodes' ∧ Rearranged low high nodes nodes' ∧
      nodes'[i]?=nodes[j]? ∧ nodes'[j]?=nodes[i]? ∧
      ∀ k, k≠i→k≠j→nodes'[k]?=nodes[k]?:=by
  have hi : i<nodes.size:=by omega
  have hoth (k : ℕ) (hki : k≠i) (hkj : k≠j) : (nodes.swap i j)[k]?=nodes[k]?:=by grind
  have hfirst : (nodes.swap i j)[i]?=nodes[j]?:=by grind
  have hsec : (nodes.swap i j)[j]?=nodes[i]?:=by grind
  refine ⟨_,dif_pos ⟨hi,hj⟩,⟨Array.swap_perm hi hj,fun k hk=>hoth k (by omega) (by omega),?_⟩,hfirst,hsec,hoth⟩
  intro k hk hk'
  by_cases hki : k=i
  · exact ⟨j,by omega,hhigh,hki ▸ hfirst⟩
  · by_cases hkj : k=j
    · exact ⟨i,hlow,by omega,hkj ▸ hsec⟩
    · exact ⟨k,hk,hk',hoth k hki hkj⟩

lemma forall_mem (h : Rearranged low high nodes nodes') {P : α→Prop}
    (hP : ∀ k, low≤k→k<high→∀ x∈nodes[k]?, P x) : ∀ k, low≤k→k<high→∀ x∈nodes'[k]?, P x:=by
  intro k hlow hhigh x hx
  obtain ⟨m,hm,hm',heq⟩:=h.inside k hlow hhigh
  exact hP m hm hm' x (heq ▸ hx)

end Rearranged

lemma partitionLoop_spec {pivot : α} {count : ℕ} (hcompare : Comparable compare nodes)
    (hf : Orders compare f nodes) (hpivot : pivot∈nodes) (hlow : low ≤ i) (hij : i≤j)
    (hj : j+count≤nodes.size) (hinv : SplitAt f pivot low i j nodes) :
    ∃ i' nodes', partitionLoop compare pivot count j i nodes=some (i',nodes') ∧
      Rearranged low (j+count) nodes nodes' ∧ i ≤ i' ∧ i' ≤ j+count ∧
      SplitAt f pivot low i' (j+count) nodes':=by
  induction count generalizing j i nodes with
  | zero=>exact ⟨i,nodes,rfl,.refl _ _ _,le_rfl,hij,hinv⟩
  | succ count ih=>
    have hlt : j<nodes.size:=by omega
    have hmem:=Array.getElem_mem hlt
    obtain ⟨order,horder⟩:=Option.isSome_iff_exists.1 (hcompare nodes[j] hmem pivot hpivot)
    have hget : nodes[j]?=some nodes[j]:=Array.getElem?_eq_getElem hlt
    have hle:=hf _ hmem pivot hpivot order horder
    simp only [partitionLoop,hget,horder,Option.bind_eq_bind,Option.bind_some]
    rw [show j+(count+1)=j+1+count by omega] at hj ⊢
    split
    next hnonpos=>
      -- the node at `j` moves to `i`, and the one at `i` to the end of the second part
      obtain ⟨swapped,hswap,hre,hi,hj',hoth⟩:=Rearranged.swap hlow hij (show j<j+1+count by omega) hlt
      have hinv' : SplitAt f pivot low (i+1) (j+1) swapped:=by
        constructor
        · intro k hk hki x hx
          rcases Nat.lt_succ_iff_lt_or_eq.1 hki with hki | rfl
          · exact hinv.1 k hk hki x (hoth k (by omega) (by omega) ▸ hx)
          · rw [hi,hget] at hx
            cases hx
            exact hle.1 hnonpos
        · intro k hik hkj x hx
          by_cases hkj' : k=j
          · exact hinv.2 i le_rfl (by omega) x (hj' ▸ hkj' ▸ hx)
          · exact hinv.2 k (by omega) (by omega) x (hoth k (by omega) hkj' ▸ hx)
      obtain ⟨i',nodes',hloop,hre',hge,hle',hsplit⟩:=ih (hcompare.perm hre.perm)
        (hf.perm hre.perm) (hre.perm.mem_iff.2 hpivot) (Nat.le_succ_of_le hlow)
        (Nat.succ_le_succ hij) (by rw [hre.perm.size_eq]; exact hj) hinv'
      exact ⟨i',nodes',by rw [hswap]; exact hloop,hre.trans hre',by omega,hle',hsplit⟩
    next hpos=>
      refine ih hcompare hf hpivot hlow (Nat.le_succ_of_le hij) hj ⟨hinv.1,?_⟩
      intro k hik hkj x hx
      rcases Nat.lt_succ_iff_lt_or_eq.1 hkj with hkj | rfl
      · exact hinv.2 k hik hkj x hx
      · rw [hget] at hx
        cases hx
        exact le_of_not_ge fun h=>hpos (hle.2 h)

lemma partition_spec (hcompare : Comparable compare nodes) (hf : Orders compare f nodes)
    (hlow : low≤high) (hhigh : high<nodes.size) :
    ∃ pi pivot nodes', partition compare nodes low high=some (pi,nodes') ∧
      Rearranged low (high+1) nodes nodes' ∧ low≤pi ∧ pi≤high ∧
      nodes'[pi]?=some pivot ∧ SplitAt f pivot low pi (high+1) nodes':=by
  obtain ⟨pi,looped,hloop,hre,hge,hle,hleft,hright⟩:=partitionLoop_spec hcompare hf
    (Array.getElem_mem hhigh) le_rfl le_rfl (show low+(high-low)≤nodes.size by omega)
    ⟨fun k hk hk'=>by omega,fun k hk hk'=>by omega⟩
  rw [Nat.add_sub_cancel' hlow] at hre hle hright
  obtain ⟨nodes',hswap,hre',hpi,hlast,hoth⟩:=Rearranged.swap hge hle (Nat.lt_succ_self high) (hre.perm.size_eq ▸ hhigh)
  -- the pivot stands at `high` until it is swapped with the node at `pi`
  have hpivot : nodes'[pi]?=some nodes[high]:=
    hpi.trans ((hre.outside high (.inr le_rfl)).trans (Array.getElem?_eq_getElem hhigh))
  refine ⟨pi,nodes[high],nodes',?_,(hre.mono le_rfl (Nat.le_succ _)).trans hre',hge,hle,hpivot,
    fun k hk hk' x hx=>hleft k hk hk' x (hoth k (by omega) (by omega) ▸ hx),?_⟩
  · simp only [partition,Array.getElem?_eq_getElem hhigh,hloop,hswap,Option.bind_eq_bind,Option.bind_some]
  · intro k hk hk' x hx
    by_cases hkpi : k=pi
    · rw [hkpi,hpivot] at hx
      cases hx
      exact le_rfl
    · by_cases hkhigh : k=high
      · exact hright pi le_rfl (by omega) x (hlast ▸ hkhigh ▸ hx)
      · exact hright k hk (by omega) x (hoth k hkpi hkhigh ▸ hx)

lemma quickSort_spec {fuel : ℕ} (hcompare : Comparable compare nodes)
    (hf : Orders compare f nodes) (hhigh : high<nodes.size) (hfuel : high-low<fuel) :
    ∃ nodes', quickSort compare fuel nodes low high=some nodes' ∧
      Rearranged low (high+1) nodes nodes' ∧ SortedFrom f low (high+1) nodes':=by
  induction fuel generalizing nodes low high with
  | zero=>exact absurd hfuel (Nat.not_lt_zero _)
  | succ fuel ih=>
    rw [quickSort]
    split
    next hlt=>
      obtain ⟨pi,pivot,parted,hpart,hre,hlow,hpi,hpivot,hbelow,habove⟩:=partition_spec hcompare hf hlt.le hhigh
      have hsize:=hre.perm.size_eq
      obtain ⟨left,hleft,hreL,hsortL⟩ : ∃ left,
          (if 0<pi then quickSort compare fuel parted low (pi-1) else some parted)=
            some left ∧ Rearranged low pi parted left ∧ SortedFrom f low pi left:=by
        split
        next hpos=>
          have hsorted:=ih (hcompare.perm hre.perm) (hf.perm hre.perm)
            (show pi-1<parted.size by omega) (show pi-1-low<fuel by omega)
          rwa [Nat.sub_add_cancel hpos] at hsorted
        next hzero=>exact ⟨parted,rfl,.refl _ _ _,fun i j hi hij hj=>by omega⟩
      have hperm:=hreL.perm.trans hre.perm
      have hsiz:=hperm.size_eq
      obtain ⟨right,hright,hreR,hsort⟩ : ∃ right,
          (if pi<high then quickSort compare fuel left (pi+1) high else some left)=
            some right ∧ Rearranged (pi+1) (high+1) left right ∧
            SortedFrom f (pi+1) (high+1) right:=by
        split
        next hpos=>
          exact ih (hcompare.perm hperm) (hf.perm hperm) (show high<left.size by omega) (show high-(pi+1)<fuel by omega)
        next=>exact ⟨left,rfl,.refl _ _ _,fun i j hi hij hj=>by omega⟩
      refine ⟨right,?_,(hre.trans (hreL.mono le_rfl (by omega))).trans
        (hreR.mono (by omega) le_rfl),fun i j hi hij hj x hx y hy=>?_⟩
      · simp only [hpart,hleft,hright,Option.bind_eq_bind,Option.bind_some]
      -- both parts keep to their sides of the pivot, which stays at `pi`
      have hkept (k : ℕ) (hk : k≤pi) : right[k]?=left[k]?:=hreR.outside k (by omega)
      have hmid : right[pi]?=some pivot:=(hkept pi le_rfl).trans ((hreL.outside pi (.inr le_rfl)).trans hpivot)
      have hlow' (k : ℕ) (hk : low≤k) (hkpi : k<pi) (x : α) (hx : x∈right[k]?) :
          f x≤f pivot:=hreL.forall_mem hbelow k hk hkpi x (hkept k hkpi.le ▸ hx)
      have hhigh':=hreR.forall_mem fun k hk hk' x hx=>habove k (by omega) hk' x (hreL.outside k (.inr (by omega)) ▸ hx)
      rcases Nat.lt_trichotomy i pi with hipi | rfl | hipi
      · rcases Nat.lt_trichotomy j pi with hjpi | rfl | hjpi
        · rw [hkept _ hipi.le] at hx
          rw [hkept _ hjpi.le] at hy
          exact hsortL i j hi hij hjpi x hx y hy
        · rw [hmid] at hy
          cases hy
          exact hlow' i hi hipi x hx
        · exact (hlow' i hi hipi x hx).trans (hhigh' j hjpi hj y hy)
      · rw [hmid] at hx
        cases hx
        exact hhigh' j hij hj y hy
      · exact hsort i j hipi hij hj x hx y hy
    next hge=>exact ⟨nodes,rfl,.refl _ _ _,fun i j hi hij hj=>by omega⟩

end
end SoftMessageBus
