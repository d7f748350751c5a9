import Mathlib.Algebra.BigOperators.Group.List.Basic
import Mathlib.Data.List.Count
import Mathlib.Data.List.Nodup

/-!
# Counting over the slots of a list

How replacing one value of a list changes a count.
-/
namespace SoftMessageBus.SlotCounts
open List

variable {α : Type*} {p : α→Bool} {l : List α} {i : ℕ} {a : α}

lemma share_le_countP (h : l[i]?=some a) : (if p a then 1 else 0)≤l.countP p:=by
  split
  next hp=>exact countP_pos_iff.2 ⟨a,mem_of_getElem? h,hp⟩
  · exact Nat.zero_le _

lemma countP_set_add (h : l[i]?=some a) (b : α) :
    (l.set i b).countP p+(if p a then 1 else 0)=l.countP p+(if p b then 1 else 0):=by
  obtain ⟨hlt,hget⟩:=List.getElem?_eq_some_iff.1 h
  have hshare:=share_le_countP (p:=p) h
  have hset : (l.set i b).countP p=
      l.countP p-(if p a then 1 else 0)+(if p b then 1 else 0):=by rw [countP_set hlt,hget]
  omega

lemma sum_map_set_add {M : Type*} [AddCommMonoid M] (f : α→M) (h : l[i]?=some a) (b : α) :
    ((l.set i b).map f).sum+f a=(l.map f).sum+f b:=by
  induction l generalizing i with
  | nil=>cases h
  | cons x l ih=>
    cases i with
    | zero=>
      cases h
      rw [set_cons_zero,map_cons,map_cons,sum_cons,sum_cons]
      ac_rfl
    | succ i=>
      rw [set_cons_succ,map_cons,map_cons,sum_cons,sum_cons,add_assoc,ih h,add_assoc]

lemma countP_contains_comm [DecidableEq α] {l₁ l₂ : List α} (h₁ : l₁.Nodup) (h₂ : l₂.Nodup) (p : α→Bool) :
    l₁.countP (fun x=>p x && l₂.contains x)=l₂.countP (fun x=>p x && l₁.contains x):=by
  rw [countP_eq_length_filter,countP_eq_length_filter]
  apply Perm.length_eq
  rw [perm_ext_iff_of_nodup (h₁.filter _) (h₂.filter _)]
  intro x
  simp only [mem_filter,Bool.and_eq_true,contains_iff_mem]
  tauto

lemma length_flatMap_ite {β : Type*} (q : α→Prop) [DecidablePred q] (f : α → β) (l : List α) :
    (l.flatMap fun x=>if q x then [f x] else []).length=l.countP fun x=>q x:=by
  induction l with
  | nil=>rfl
  | cons x l ih=>
    rw [flatMap_cons,length_append,ih,countP_cons]
    by_cases hx : q x
    · simp [hx,Nat.add_comm]
    · simp [hx]

lemma findIdx?_eq_some_iff_of_nodup [DecidableEq α] (h : l.Nodup) :
    l.findIdx? (fun x=>x=a)=some i ↔ l[i]?=some a:=by
  rw [findIdx?_eq_some_iff_getElem,List.getElem?_eq_some_iff]
  constructor
  · rintro ⟨hlt,ha,-⟩
    exact ⟨hlt,of_decide_eq_true ha⟩
  · rintro ⟨hlt,ha⟩
    refine ⟨hlt,decide_eq_true ha,fun j hj hother=>?_⟩
    have heq : l[j]=l[i]:=(of_decide_eq_true hother).trans ha.symm
    exact Nat.ne_of_lt hj ((h.getElem_inj_iff).1 heq)

end SoftMessageBus.SlotCounts
