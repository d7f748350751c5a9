import Mathlib.Data.Finmap
import Mathlib.Order.Lattice.Nat

/-!
# Singly linked chains in a heap

Cells are allocated and freed under addresses; address 0 is null.
-/
namespace SoftMessageBus.LinkedChains
open List

variable {α β : Type*}

structure Heap (α : Type*) where
  cells : Finmap (fun _ : ℕ=>α)
  allocations : ℕ

/-- Chooses the address of every allocation. -/
structure Allocator where
  choose : ℕ→Finset ℕ→ℕ
  choose_ne_zero : ∀ n used, choose n used≠0
  choose_notMem : ∀ n used, choose n used∉used

instance : Inhabited Allocator where
  default:=
    { choose:=fun _ used=>used.sup id+1
      choose_ne_zero:=fun _ _=>Nat.succ_ne_zero _
      choose_notMem:=fun _ _ hmem=>Nat.not_succ_le_self _ (Finset.le_sup (f:=id) hmem)}

namespace Heap

def empty : Heap α:=⟨∅,0⟩
def load (h : Heap α) (a : ℕ) : Option α:=h.cells.lookup a

def alloc (A : Allocator) (h : Heap α) (x : α) : ℕ × Heap α:=
  let a:=A.choose h.allocations h.cells.keys
  (a,⟨h.cells.insert a x,h.allocations+1⟩)

def store (h : Heap α) (a : ℕ) (x : α) : Option (Heap α):=
  if a∈h.cells then some {h with cells:=h.cells.insert a x} else none

def free (h : Heap α) (a : ℕ) : Option (Heap α):=if a∈h.cells then some {h with cells:=h.cells.erase a} else none

lemma alloc_spec (A : Allocator) (h : Heap α) (x : α) :
    ∃ a h', h.alloc A x=(a,h') ∧ a≠0 ∧ h.load a=none ∧ h'.load a=some x ∧ ∀ b y, h.load b=some y→h'.load b=some y:=by
  have hfresh : h.load (A.choose h.allocations h.cells.keys)=none:=by
    refine Finmap.lookup_eq_none.2 (fun hmem=>?_)
    exact A.choose_notMem _ _ (Finmap.mem_keys.2 hmem)
  refine ⟨_,_,rfl,A.choose_ne_zero _ _,hfresh,Finmap.lookup_insert _,?_⟩
  intro b y hb
  refine (Finmap.lookup_insert_of_ne _ ?_).trans hb
  rintro rfl
  exact Option.some_ne_none y (hb.symm.trans hfresh)

variable {a : ℕ}

section
variable {h : Heap α} {x : α} (hload : h.load a=some x)
include x hload

lemma store_of_load (y : α) : ∃ h', h.store a y=some h' ∧ h'.load a=some y ∧ ∀ b, b≠a→h'.load b=h.load b:=by
  refine ⟨_,if_pos (Finmap.mem_of_lookup_eq_some hload),Finmap.lookup_insert _,?_⟩
  intro b hb
  exact Finmap.lookup_insert_of_ne _ hb

lemma free_of_load :
    ∃ h', h.free a=some h' ∧ h'.cells.keys=h.cells.keys.erase a ∧ ∀ b, b≠a→h'.load b=h.load b:=by
  refine ⟨_,if_pos (Finmap.mem_of_lookup_eq_some hload),Finmap.keys_erase a h.cells,?_⟩
  intro b hb
  exact Finmap.lookup_erase_ne hb

lemma mem_keys_of_load : a∈h.cells.keys:=Finmap.mem_keys.2 (Finmap.mem_of_lookup_eq_some hload)

end

lemma nodup_append_fresh {h : Heap α} {l : List (ℕ × β)} (hnodup : (l.map Prod.fst).Nodup)
    (hload : ∀ e∈l, h.load e.1≠none) (ha : h.load a=none) (x : β) : ((l++[(a,x)]).map Prod.fst).Nodup:=by
  rw [map_append,nodup_append_comm]
  refine List.nodup_cons.2 ⟨?_,hnodup⟩
  intro hmem
  obtain ⟨e,he,rfl⟩:=List.mem_map.1 hmem
  exact hload e he ha

end Heap

structure Cell (β : Type*) where
  data : β
  next : ℕ

def Chain (h : Heap (Cell β)) : ℕ→List (ℕ × β)→Prop
  | p, []=>p=0
  | p, (a,x)::l=>p=a ∧ a≠0 ∧ ∃ next, h.load a=some ⟨x,next⟩ ∧ Chain h next l

namespace Chain
variable {h h' : Heap (Cell β)} {p : ℕ} {l : List (ℕ × β)}

lemma congr (hchain : Chain h p l) (hload : ∀ e∈l, h'.load e.1=h.load e.1) : Chain h' p l:=by
  induction l generalizing p with
  | nil=>exact hchain
  | cons e l ih=>
    obtain ⟨hp,hne,next,he,hrest⟩:=hchain
    refine ⟨hp,hne,next,(hload e mem_cons_self).trans he,ih hrest ?_⟩
    intro e' he'
    exact hload e' (mem_cons_of_mem e he')

lemma frame {a : ℕ} (hchain : Chain h p l) (ha : a∉l.map Prod.fst)
    (hload : ∀ b, b≠a→h'.load b=h.load b) : Chain h' p l:=by
  refine hchain.congr ?_
  intro e he
  refine hload e.1 ?_
  intro heq
  exact ha (heq ▸ List.mem_map_of_mem he)

lemma eq_zero_iff (hchain : Chain h p l) : p=0 ↔ l=[]:=by
  cases l with
  | nil=>exact ⟨fun _=>rfl,fun _=>hchain⟩
  | cons e l=>exact ⟨fun hp=>absurd (hchain.1.symm.trans hp) hchain.2.1,nofun⟩

lemma load_of_mem (hchain : Chain h p l) {e : ℕ × β} (he : e∈l) : ∃ next, h.load e.1=some ⟨e.2,next⟩:=by
  induction l generalizing p with
  | nil=>cases he
  | cons e' l ih=>
    obtain ⟨-,-,next,hload,hrest⟩:=hchain
    rcases mem_cons.1 he with rfl | he
    · exact ⟨next,hload⟩
    · exact ih hrest he

lemma load_getLast {t : ℕ} {y : β} (hchain : Chain h p (l++[(t,y)])) : h.load t=some ⟨y,0⟩:=by
  induction l generalizing p with
  | nil=>
    obtain ⟨-,-,next,hload,hnext⟩:=hchain
    rw [hload,show next=0 from hnext]
  | cons e l ih=>
    obtain ⟨-,-,next,-,hrest⟩:=hchain
    exact ih hrest

lemma snoc {t a : ℕ} {x y : β} (hchain : Chain h p (l++[(t,y)]))
    (hnodup : ((l++[(t,y)]).map Prod.fst).Nodup) (ha : a≠0) (hlast : h'.load t=some ⟨y,a⟩)
    (hnew : h'.load a=some ⟨x,0⟩) (hkept : ∀ e∈l, e.1≠t→h'.load e.1=h.load e.1) :
    Chain h' p (l++[(t,y)]++[(a,x)]):=by
  induction l generalizing p with
  | nil=>
    obtain ⟨hp,hne,-⟩:=hchain
    exact ⟨hp,hne,a,hlast,rfl,ha,0,hnew,rfl⟩
  | cons e l ih=>
    obtain ⟨hp,hne,next,hload,hrest⟩:=hchain
    rw [cons_append,map_cons,List.nodup_cons] at hnodup
    have hdiff : e.1≠t:=by
      intro heq
      exact hnodup.1 (by simp [heq])
    refine ⟨hp,hne,next,(hkept e mem_cons_self hdiff).trans hload,ih hrest hnodup.2 ?_⟩
    intro e' he'
    exact hkept e' (mem_cons_of_mem e he')

lemma length_le (hchain : Chain h p l) (hnodup : (l.map Prod.fst).Nodup) : l.length≤h.cells.keys.card:=by
  have hsub : (l.map Prod.fst).toFinset ⊆ h.cells.keys:=by
    intro a ha
    obtain ⟨e,he,rfl⟩:=List.mem_map.1 (List.mem_toFinset.1 ha)
    obtain ⟨next,hload⟩:=hchain.load_of_mem he
    exact Heap.mem_keys_of_load hload
  calc l.length=(l.map Prod.fst).toFinset.card:=by rw [toFinset_card_of_nodup hnodup,length_map]
    _≤h.cells.keys.card:=Finset.card_le_card hsub

end Chain
end SoftMessageBus.LinkedChains
