import Mathlib.Data.List.Nodup

/-!
# Doubly linked rings with a head

Nodes are linked into rings by a successor and a predecessor map.
-/
namespace SoftMessageBus.LinkedRings
open Function List

variable {α ι : Type*} {next prev next' prev' : α → α}

/-- The nodes `l` lie on the way from `a` to `b`. -/
def Linked (next prev : α → α) : α→List α → α→Prop
  | a, [], b=>next a=b
  | a, x::l, b=>next a=x ∧ prev x=a ∧ Linked next prev x l b

lemma Linked.next_eq {a b : α} {l : List α} (h : Linked next prev a l b) : next a=l.headD b:=by
  cases l with
  | nil=>exact h
  | cons x l=>exact h.1

lemma Linked.congr {a b : α} {l : List α} (h : Linked next prev a l b)
    (hnext : ∀ x∈a::l, next' x=next x) (hprev : ∀ x∈l, prev' x=prev x) : Linked next' prev' a l b:=by
  induction l generalizing a with
  | nil=>exact (hnext a mem_cons_self).trans h
  | cons x l ih=>
    obtain ⟨hx,hback,hrest⟩:=h
    refine ⟨(hnext a mem_cons_self).trans hx,(hprev x mem_cons_self).trans hback,ih hrest ?_ ?_⟩
    · intro y hy
      exact hnext y (mem_cons_of_mem a hy)
    · intro y hy
      exact hprev y (mem_cons_of_mem x hy)

lemma linked_append_cons {a b x : α} {l₁ l₂ : List α} :
    Linked next prev a (l₁++x::l₂) b ↔ Linked next prev a l₁ x ∧ prev x=l₁.getLastD a ∧ Linked next prev x l₂ b:=by
  induction l₁ generalizing a with
  | nil=>rfl
  | cons y l₁ ih=>
    simp only [cons_append,Linked,ih,getLastD_cons,and_assoc]

lemma Linked.next_getLastD {a b : α} {l₁ l₂ : List α}
    (h : Linked next prev a (l₁++l₂) b) : next (l₁.getLastD a)=l₂.headD b:=by
  induction l₁ generalizing a with
  | nil=>exact h.next_eq
  | cons x l₁ ih=>
    rw [getLastD_cons]
    exact ih h.2.2

/-- The nodes from one on until `b` is reached, at most `fuel` of them. -/
def walk [DecidableEq α] (next : α → α) (b : α) : ℕ → α→List α
  | 0, _=>[]
  | fuel+1, x=>if x=b then [] else x::walk next b fuel (next x)

lemma Linked.walk_eq [DecidableEq α] {a b : α} {l : List α} (h : Linked next prev a l b)
    (hb : b∉l) (fuel : ℕ) : walk next b fuel (next a)=l.take fuel:=by
  induction l generalizing a fuel with
  | nil=>
    rw [show next a=b from h,take_nil]
    cases fuel with
    | zero=>rfl
    | succ fuel=>exact if_pos rfl
  | cons x l ih=>
    obtain ⟨hx,-,hrest⟩:=h
    rw [mem_cons,not_or] at hb
    cases fuel with
    | zero=>rfl
    | succ fuel=>rw [hx,walk,if_neg (Ne.symm hb.1),ih hrest hb.2,take_succ_cons]

lemma headD_mem (b : α) (l : List α) : l.headD b∈b::l:=by
  cases l with
  | nil=>exact mem_cons_self
  | cons x l=>exact mem_cons_of_mem b mem_cons_self

section
variable [DecidableEq α]

lemma Linked.unlink {a b x : α} {l₁ l₂ : List α} (h : Linked next prev a (l₁++x::l₂) b)
    (hnodup : (a::(l₁++x::l₂)).Nodup) (hb : b∉l₁++x::l₂) :
    Linked (update next (prev x) (next x)) (update prev (next x) (prev x)) a (l₁++l₂) b:=by
  induction l₁ generalizing a with
  | nil=>
    obtain ⟨-,hback,hrest⟩:=h
    rw [hback]
    cases l₂ with
    | nil=>simpa [Linked] using hrest
    | cons y l₂=>
      obtain ⟨hy,-,hrest⟩:=hrest
      rw [hy]
      refine ⟨update_self a y next,update_self y a prev,hrest.congr ?_ ?_⟩
      · intro z hz
        refine update_of_ne ?_ _ _
        rintro rfl
        simp_all
      · intro z hz
        refine update_of_ne ?_ _ _
        rintro rfl
        simp_all
  | cons z l₁ ih=>
    obtain ⟨hz,hback,hrest⟩:=h
    obtain ⟨-,hprev,hnext⟩:=linked_append_cons.1 hrest
    rw [cons_append,List.nodup_cons] at hnodup
    refine ⟨?_,?_,ih hrest hnodup.2 (fun hmem=>hb (mem_cons_of_mem z hmem))⟩
    · refine (update_of_ne ?_ _ _).trans hz
      rintro rfl
      have hmem:=l₁.getLastD_mem_cons (a:=z)
      rw [← hprev] at hmem
      exact hnodup.1 (by simp_all)
    · refine (update_of_ne ?_ _ _).trans hback
      rintro rfl
      have hmem:=headD_mem b l₂
      rw [← hnext.next_eq] at hmem
      simp_all

lemma Linked.pushFront {a b x : α} {l : List α} (h : Linked next prev a l b)
    (hnodup : (a::l).Nodup) (hx : x∉a::l) (hxb : x≠b) :
    Linked (update (update next x (next a)) a x) (update (update prev x a) (next a) x) a (x::l) b:=by
  have hxa : x≠a:=fun heq=>hx (heq ▸ mem_cons_self)
  have hxn : x≠next a:=by
    intro heq
    rw [h.next_eq] at heq
    have hmem:=headD_mem b l
    simp_all
  refine ⟨update_self _ _ _,by simp [hxn],?_⟩
  cases l with
  | nil=>simpa [Linked,hxa] using h
  | cons y l=>
    obtain ⟨hy,hback,hrest⟩:=h
    rw [hy]
    refine ⟨by simp [hxa],by simp,hrest.congr ?_ ?_⟩
    · intro z hz
      have hza : z≠a:=by
        rintro rfl
        simp_all
      have hzx : z≠x:=by
        rintro rfl
        simp_all
      simp [hza,hzx]
    · intro z hz
      have hzy : z≠y:=by
        rintro rfl
        simp_all
      have hzx : z≠x:=by
        rintro rfl
        simp_all
      simp [hzy,hzx]

lemma Linked.insert {a b x : α} {l₁ l₂ : List α} (h : Linked next prev a (l₁++l₂) b)
    (hnodup : (a::(l₁++l₂)).Nodup) (hb : b∉l₁++l₂) (hx : x∉a::(l₁++l₂)) (hxb : x≠b) :
    Linked (update (update next x (next (l₁.getLastD a))) (l₁.getLastD a) x)
      (update (update prev x (l₁.getLastD a)) (next (l₁.getLastD a)) x) a (l₁++x::l₂) b:=by
  induction l₁ generalizing a with
  | nil=>exact h.pushFront hnodup hx hxb
  | cons z l₁ ih=>
    obtain ⟨hz,hback,hrest⟩:=h
    rw [cons_append,List.nodup_cons] at hnodup
    have hlast:=l₁.getLastD_mem_cons (a:=z)
    have hnext:=headD_mem b l₂
    rw [← hrest.next_getLastD] at hnext
    have htail:=ih hrest hnodup.2 (fun hmem=>hb (mem_cons_of_mem z hmem)) (fun hmem=>hx (mem_cons_of_mem a hmem))
    rw [getLastD_cons]
    generalize l₁.getLastD z=p at*
    refine ⟨?_,?_,htail⟩
    · have hap : a≠p:=by
        rintro rfl
        exact hnodup.1 (by simp_all)
      have hax : a≠x:=by
        rintro rfl
        simp_all
      rw [update_of_ne hap,update_of_ne hax,hz]
    · have hzn : z≠next p:=by
        rintro rfl
        simp_all
      have hzx : z≠x:=by
        rintro rfl
        simp_all
      rw [update_of_ne hzn,update_of_ne hzx,hback]

end

lemma mem_replace_iff [DecidableEq α] {x y z : α} {l : List α} (hnodup : l.Nodup) (hx : x∈l) :
    z∈l.replace x y ↔ z=y ∨ (z∈l ∧ z≠x):=by
  obtain ⟨l₁,l₂,rfl⟩:=append_of_mem hx
  rw [nodup_middle,List.nodup_cons,mem_append,not_or] at hnodup
  obtain ⟨⟨hx₁,hx₂⟩,-⟩:=hnodup
  rw [replace_append_right hx₁,replace_cons_self]
  simp only [mem_append,mem_cons]
  constructor
  · rintro (hz | rfl | hz)
    · exact .inr ⟨.inl hz,fun heq=>hx₁ (heq ▸ hz)⟩
    · exact .inl rfl
    · exact .inr ⟨.inr (.inr hz),fun heq=>hx₂ (heq ▸ hz)⟩
  · rintro (rfl | ⟨hz | hz | hz,hne⟩)
    · exact .inr (.inl rfl)
    · exact .inl hz
    · exact absurd hz hne
    · exact .inr (.inr hz)

structure Rings (next prev : α → α) (head : ι → α) (ring : ι→List α) : Prop where
  linked : ∀ i, Linked next prev (head i) (ring i) (head i)
  nodup : ∀ i, (ring i).Nodup
  disjoint : ∀ i j x, x∈ring i→x∈ring j→i=j
  head_notMem : ∀ i j, head i∉ring j
  head_injective : Injective head

namespace Rings
variable {head : ι → α} {ring : ι→List α} {i : ι} {x : α}

section
variable (h : Rings next prev head ring)
include h

lemma nodup_cons (i : ι) : (head i::ring i).Nodup:=List.nodup_cons.2 ⟨h.head_notMem i i,h.nodup i⟩

lemma notMem_of_mem (hx : x∈head i::ring i) {j : ι} (hij : j≠i) : x∉head j::ring j:=by
  intro hj
  rcases mem_cons.1 hx with rfl | hx
  · rcases mem_cons.1 hj with heq | hj
    · exact hij (h.head_injective heq).symm
    · exact h.head_notMem i j hj
  · rcases mem_cons.1 hj with rfl | hj
    · exact h.head_notMem j i hx
    · exact hij (h.disjoint j i x hj hx)

lemma next_mem (hx : x∈ring i) : next x∈head i::ring i:=by
  obtain ⟨l₁,l₂,hring⟩:=append_of_mem hx
  have hlinked:=h.linked i
  rw [hring] at hlinked ⊢
  rw [(linked_append_cons.1 hlinked).2.2.next_eq]
  refine cons_subset_cons _ ?_ (headD_mem (head i) l₂)
  intro y hy
  exact mem_append_right l₁ (mem_cons_of_mem x hy)

lemma next_head_mem (i : ι) : next (head i)∈head i::ring i:=by
  rw [(h.linked i).next_eq]
  exact headD_mem (head i) (ring i)

lemma prev_mem (hx : x∈ring i) : prev x∈head i::ring i:=by
  obtain ⟨l₁,l₂,hring⟩:=append_of_mem hx
  have hlinked:=h.linked i
  rw [hring] at hlinked ⊢
  rw [(linked_append_cons.1 hlinked).2.1]
  refine cons_subset_cons _ ?_ getLastD_mem_cons
  intro y hy
  exact mem_append_left _ hy

lemma prev_ne_self (hx : x∈ring i) : prev x≠x:=by
  obtain ⟨l₁,l₂,hring⟩:=append_of_mem hx
  have hlinked:=h.linked i
  have hnodup:=h.nodup_cons i
  rw [hring] at hlinked hnodup
  rw [(linked_append_cons.1 hlinked).2.1]
  intro heq
  have hmem:=l₁.getLastD_mem_cons (a:=head i)
  rw [heq] at hmem
  rw [← cons_append,nodup_middle,List.nodup_cons] at hnodup
  exact hnodup.1 (mem_append_left l₂ hmem)

lemma next_ne_self (hx : x∈ring i) : next x≠x:=by
  obtain ⟨l₁,l₂,hring⟩:=append_of_mem hx
  have hlinked:=h.linked i
  have hnodup:=h.nodup_cons i
  rw [hring] at hlinked hnodup
  rw [(linked_append_cons.1 hlinked).2.2.next_eq]
  intro heq
  have hmem:=headD_mem (head i) l₂
  rw [heq] at hmem
  rw [← cons_append,nodup_middle,List.nodup_cons] at hnodup
  rcases mem_cons.1 hmem with rfl | hmem
  · exact hnodup.1 mem_cons_self
  · exact hnodup.1 (mem_append_right (head i::l₁) hmem)

lemma congr (hnext : ∀ i, ∀ x∈head i::ring i, next' x=next x)
    (hprev : ∀ i, ∀ x∈ring i, prev' x=prev x) : Rings next' prev' head ring:=
  {h with linked:=fun i=>(h.linked i).congr (hnext i) (hprev i)}

end

variable [DecidableEq ι]

lemma update_ring (h : Rings next prev head ring) {l : List α}
    (hlinked : Linked next' prev' (head i) l (head i)) (hnodup : l.Nodup)
    (hmem : ∀ y∈l, y∈ring i ∨ ∀ j, y∉head j::ring j) (hnext : ∀ j≠i, ∀ y∈head j::ring j, next' y=next y)
    (hprev : ∀ j≠i, ∀ y∈ring j, prev' y=prev y) : Rings next' prev' head (update ring i l):=by
  have hdisj (j : ι) (y : α) (hy : y∈l) (hj : y∈ring j) : i=j:=by
    rcases hmem y hy with hi | hnew
    · exact h.disjoint i j y hi hj
    · exact absurd (mem_cons_of_mem _ hj) (hnew j)
  refine ⟨fun j=>?_,fun j=>?_,fun j k y hj hk=>?_,fun j k hjk=>?_,h.head_injective⟩
  · by_cases hji : j=i
    · subst hji
      rwa [update_self]
    · rw [update_of_ne hji]
      exact (h.linked j).congr (hnext j hji) (hprev j hji)
  · by_cases hji : j=i
    · subst hji
      rwa [update_self]
    · rw [update_of_ne hji]
      exact h.nodup j
  · by_cases hji : j=i <;> by_cases hki : k=i
    · exact hji.trans hki.symm
    · subst hji
      rw [update_self] at hj
      rw [update_of_ne hki] at hk
      exact hdisj k y hj hk
    · subst hki
      rw [update_self] at hk
      rw [update_of_ne hji] at hj
      exact (hdisj j y hk hj).symm
    · rw [update_of_ne hji] at hj
      rw [update_of_ne hki] at hk
      exact h.disjoint j k y hj hk
  · by_cases hki : k=i
    · subst hki
      rw [update_self] at hjk
      rcases hmem _ hjk with hk | hnew
      · exact h.head_notMem j k hk
      · exact hnew j mem_cons_self
    · rw [update_of_ne hki] at hjk
      exact h.head_notMem j k hjk

variable [DecidableEq α]

section
variable (h : Rings next prev head ring)
include h

lemma notMem_update_erase (hx : x∈ring i) (j : ι) : x∉head j::update ring i ((ring i).erase x) j:=by
  intro hmem
  rcases mem_cons.1 hmem with rfl | hmem
  · exact h.head_notMem j i hx
  · by_cases hji : j=i
    · subst hji
      rw [update_self] at hmem
      exact (h.nodup j).not_mem_erase hmem
    · rw [update_of_ne hji] at hmem
      exact hji (h.disjoint j i x hmem hx)

lemma unlink (hx : x∈ring i) :
    Rings (update next (prev x) (next x)) (update prev (next x) (prev x)) head (update ring i ((ring i).erase x)):=by
  refine h.update_ring ?_ ((h.nodup i).erase x) (fun y hy=>.inl (mem_of_mem_erase hy))
    (fun j hji y hy=>update_of_ne ?_ _ _) (fun j hji y hy=>update_of_ne ?_ _ _)
  · obtain ⟨l₁,l₂,hring⟩:=append_of_mem hx
    have hcons:=h.nodup_cons i
    have hlinked:=h.linked i
    have hhead:=h.head_notMem i i
    have hnodup:=h.nodup i
    rw [hring] at hcons hlinked hhead hnodup
    rw [nodup_middle,List.nodup_cons] at hnodup
    have hx₁ : x∉l₁:=fun hmem=>hnodup.1 (mem_append_left l₂ hmem)
    rw [hring,erase_append_right _ hx₁,erase_cons_head]
    exact hlinked.unlink hcons hhead
  · rintro rfl
    exact h.notMem_of_mem (h.prev_mem hx) hji hy
  · rintro rfl
    exact h.notMem_of_mem (h.next_mem hx) hji (mem_cons_of_mem _ hy)

lemma insert {l₁ l₂ : List α} (hring : ring i=l₁++l₂) (hx : ∀ j, x∉head j::ring j) :
    Rings (update (update next x (next (l₁.getLastD (head i)))) (l₁.getLastD (head i)) x)
      (update (update prev x (l₁.getLastD (head i))) (next (l₁.getLastD (head i))) x) head
      (update ring i (l₁++x::l₂)):=by
  have hlinked:=h.linked i
  have hcons:=h.nodup_cons i
  have hhead:=h.head_notMem i i
  have hxi:=hx i
  have hp : l₁.getLastD (head i)∈head i::ring i:=by
    rw [hring]
    exact cons_subset_cons _ (subset_append_left l₁ l₂) getLastD_mem_cons
  have hn : next (l₁.getLastD (head i))∈head i::ring i:=by
    rw [hring] at hlinked ⊢
    rw [hlinked.next_getLastD]
    exact cons_subset_cons _ (subset_append_right l₁ l₂) (headD_mem _ l₂)
  refine h.update_ring ?_ ?_ ?_ ?_ ?_
  · rw [hring] at hlinked hcons hhead hxi
    exact hlinked.insert hcons hhead hxi fun heq=>hx i (heq ▸ mem_cons_self)
  · rw [hring] at hcons hxi
    rw [nodup_middle,List.nodup_cons]
    exact ⟨fun hmem=>hxi (mem_cons_of_mem _ hmem),(List.nodup_cons.1 hcons).2⟩
  · intro y hy
    rw [hring]
    rcases mem_append.1 hy with hy | hy
    · exact .inl (mem_append_left l₂ hy)
    · rcases mem_cons.1 hy with rfl | hy
      · exact .inr hx
      · exact .inl (mem_append_right l₁ hy)
  · intro j hji y hy
    have hyx : y≠x:=fun heq=>hx j (heq ▸ hy)
    have hyp : y≠l₁.getLastD (head i):=by
      rintro rfl
      exact h.notMem_of_mem hp hji hy
    rw [update_of_ne hyp,update_of_ne hyx]
  · intro j hji y hy
    have hyx : y≠x:=fun heq=>hx j (heq ▸ mem_cons_of_mem _ hy)
    have hyn : y≠next (l₁.getLastD (head i)):=by
      rintro rfl
      exact h.notMem_of_mem hn hji (mem_cons_of_mem _ hy)
    rw [update_of_ne hyn,update_of_ne hyx]

lemma push (hx : ∀ j, x∉head j::ring j) :
    Rings (update (update next x (next (head i))) (head i) x)
      (update (update prev x (head i)) (next (head i)) x) head (update ring i (x::ring i)):=
  h.insert (nil_append (ring i)).symm hx

lemma replace (hx : x∈ring i) {y : α} (hy : ∀ j, y∉head j::ring j) :
    Rings (update (update next y (next x)) (prev x) y) (update (update prev y (prev x)) (next x) y)
      head (update ring i ((ring i).replace x y)):=by
  obtain ⟨l₁,l₂,hring⟩:=append_of_mem hx
  have hnodup:=h.nodup i
  have hlinked:=h.linked i
  rw [hring] at hnodup hlinked
  rw [nodup_middle,List.nodup_cons] at hnodup
  have hx₁ : x∉l₁:=fun hmem=>hnodup.1 (mem_append_left l₂ hmem)
  have hprev : prev x=l₁.getLastD (head i):=(linked_append_cons.1 hlinked).2.1
  have herase : (ring i).erase x=l₁++l₂:=by rw [hring,erase_append_right _ hx₁,erase_cons_head]
  have hreplace : (ring i).replace x y=l₁++y::l₂:=by rw [hring,replace_append_right hx₁,replace_cons_self]
  have hunl:=h.unlink hx
  have hfresh : ∀ j, y∉head j::update ring i ((ring i).erase x) j:=by
    intro j hj
    rcases mem_cons.1 hj with rfl | hj
    · exact hy j mem_cons_self
    · by_cases hji : j=i
      · subst hji
        rw [update_self] at hj
        exact hy j (mem_cons_of_mem _ (mem_of_mem_erase hj))
      · rw [update_of_ne hji] at hj
        exact hy j (mem_cons_of_mem _ hj)
  have hins:=hunl.insert (i:=i) ((update_self i _ ring).trans herase) hfresh
  rw [update_idem,← hprev,update_self] at hins
  rw [hreplace]
  refine hins.congr ?_ ?_
  · intro j z _
    simp only [update_apply]
    split_ifs <;> rfl
  · intro j z _
    simp only [update_apply]
    split_ifs <;> rfl

end
end Rings
end SoftMessageBus.LinkedRings
