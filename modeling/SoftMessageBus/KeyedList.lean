import Mathlib.Data.List.Nodup

/-!
# Lists of records with distinct keys
-/
namespace SoftMessageBus.KeyedList
open List

variable {α κ : Type*} [DecidableEq κ] {key : α → κ} {l : List α}

lemma find?_key_of_mem (hnodup : (l.map key).Nodup) {a : α} (ha : a∈l) :
    l.find? (fun b=>key b=key a)=some a:=by
  induction l with
  | nil=>cases ha
  | cons b l ih=>
    rw [map_cons,List.nodup_cons] at hnodup
    by_cases hkey : key b=key a
    · rcases mem_cons.1 ha with rfl | hmem
      · simp
      · exact absurd (hkey ▸ List.mem_map_of_mem hmem) hnodup.1
    · rcases mem_cons.1 ha with rfl | hmem
      · exact absurd rfl hkey
      · rw [find?_cons_of_neg (by simpa using hkey)]
        exact ih hnodup.2 hmem

lemma filter_key_eq_toList (hnodup : (l.map key).Nodup) (k : κ) :
    l.filter (fun b=>key b=k)=(l.find? (fun b=>key b=k)).toList:=by
  induction l with
  | nil=>rfl
  | cons b l ih=>
    rw [map_cons,List.nodup_cons] at hnodup
    by_cases hkey : key b=k
    · have hrest : l.filter (fun b=>key b=k)=[]:=by
        rw [filter_eq_nil_iff]
        rintro c hc hk
        exact hnodup.1 (List.mem_map.2 ⟨c,hc,(of_decide_eq_true hk).trans hkey.symm⟩)
      rw [filter_cons_of_pos (by simpa using hkey),find?_cons_of_pos (by simpa using hkey),hrest,Option.toList_some]
    · rw [filter_cons_of_neg (by simpa using hkey),find?_cons_of_neg (by simpa using hkey),ih hnodup.2]

lemma find?_filter_key (hnodup : (l.map key).Nodup) (p : α→Bool) (k : κ) :
    (l.filter p).find? (fun b=>key b=k)=(l.find? fun b=>key b=k).filter p:=by
  rw [← head?_filter,filter_comm,filter_key_eq_toList hnodup]
  cases l.find? fun b=>key b=k with
  | none=>rfl
  | some a=>by_cases ha : p a=true <;> simp [ha,Option.filter_some]

lemma find?_eraseP_key (hnodup : (l.map key).Nodup) (k : κ) :
    (l.eraseP (fun b=>key b=k)).find? (fun b=>key b=k)=none:=by
  induction l with
  | nil=>rfl
  | cons b l ih=>
    rw [map_cons,List.nodup_cons] at hnodup
    by_cases hkey : key b=k
    · rw [eraseP_cons_of_pos (by simpa using hkey),find?_eq_none]
      rintro c hc hk
      exact hnodup.1 (List.mem_map.2 ⟨c,hc,(of_decide_eq_true hk).trans hkey.symm⟩)
    · rw [eraseP_cons_of_neg (by simpa using hkey),find?_cons_of_neg (by simpa using hkey)]
      exact ih hnodup.2

lemma find?_eraseP_of_ne {j k : κ} (hne : j≠k) :
    (l.eraseP (fun b=>key b=k)).find? (fun b=>key b=j)=l.find? (fun b=>key b=j):=by
  induction l with
  | nil=>rfl
  | cons b l ih=>
    by_cases hkey : key b=k
    · have hj : key b≠j:=fun h=>hne (h.symm.trans hkey)
      rw [eraseP_cons_of_pos (by simpa using hkey),find?_cons_of_neg (by simpa using hj)]
    · rw [eraseP_cons_of_neg (by simpa using hkey),find?_cons,find?_cons,ih]

lemma mem_eraseP_key (hnodup : (l.map key).Nodup) {k : κ} {a : α} :
    a∈l.eraseP (fun b=>key b=k) ↔ a∈l ∧ key a≠k:=by
  constructor
  · intro ha
    refine ⟨mem_of_mem_eraseP ha,?_⟩
    have hnone:=find?_eraseP_key hnodup k
    rw [find?_eq_none] at hnone
    simpa using hnone a ha
  · rintro ⟨ha,hk⟩
    exact (mem_eraseP_of_neg (by simpa using hk)).2 ha

omit [DecidableEq κ] in
lemma eraseP_congr {p q : α→Bool} (h : ∀ a∈l, p a=q a) : l.eraseP p=l.eraseP q:=by
  induction l with
  | nil=>rfl
  | cons a l ih=>
    rw [eraseP_cons,eraseP_cons,h a mem_cons_self,ih fun b hb=>h b (mem_cons_of_mem a hb)]

end SoftMessageBus.KeyedList
