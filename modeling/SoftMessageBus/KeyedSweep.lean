import Mathlib.Data.List.Nodup

/-!
# Sweeping over the records of a list

A sweep changes the records of a list one after the other and carries a state along.
-/
namespace SoftMessageBus.KeyedSweep
open List

variable {α σ κ ω : Type*}

def sweep (f : α → σ → α × σ) : List α → σ→List α × σ
  | [], s=>([],s)
  | a::l, s=>
    let next:=sweep f l (f a s).2
    ((f a s).1::next.1,next.2)

def stateBefore [DecidableEq κ] (f : α → σ → α × σ) (key : α → κ) (k : κ) : List α → σ → σ
  | [], s=>s
  | a::l, s=>if key a=k then s else stateBefore f key k l (f a s).2

variable {f : α → σ → α × σ} {key : α → κ}

lemma forall_mem_sweep {P Q : α→Prop} (hstep : ∀ a s, P a→Q (f a s).1) {l : List α}
    (hl : ∀ a∈l, P a) (s : σ) : ∀ a∈(sweep f l s).1, Q a:=by
  induction l generalizing s with
  | nil=>exact fun a ha=>absurd ha not_mem_nil
  | cons b l ih=>
    intro a ha
    rcases mem_cons.1 ha with rfl | ha
    · exact hstep b s (hl b mem_cons_self)
    · exact ih (fun c hc=>hl c (mem_cons_of_mem b hc)) (f b s).2 a ha

lemma exists_of_mem_sweep {l : List α} {s : σ} {a : α} (ha : a∈(sweep f l s).1) :
    ∃ b∈l, ∃ t, a=(f b t).1:=by
  induction l generalizing s with
  | nil=>exact absurd ha not_mem_nil
  | cons b l ih=>
    rcases mem_cons.1 ha with rfl | ha
    · exact ⟨b,mem_cons_self,s,rfl⟩
    · obtain ⟨c,hc,t,rfl⟩:=ih ha
      exact ⟨c,mem_cons_of_mem b hc,t,rfl⟩

lemma sweep_snd (f : α → σ → α × σ) (l : List α) (s : σ) :
    (sweep f l s).2=l.foldl (fun s a=>(f a s).2) s:=by
  induction l generalizing s with
  | nil=>rfl
  | cons a l ih=>exact ih (f a s).2

lemma mem_sweep_iff {l : List α} {s : σ} {a : α} :
    a∈(sweep f l s).1 ↔ ∃ before b rest, l=before++b::rest ∧ a=(f b (sweep f before s).2).1:=by
  induction l generalizing s with
  | nil=>
    refine iff_of_false not_mem_nil ?_
    rintro ⟨before,b,rest,heq,-⟩
    exact absurd heq.symm (append_ne_nil_of_right_ne_nil _ (cons_ne_nil b rest))
  | cons b l ih=>
    rw [sweep,mem_cons,ih]
    constructor
    · rintro (rfl | ⟨before,c,rest,rfl,rfl⟩)
      · exact ⟨[],b,l,rfl,rfl⟩
      · exact ⟨b::before,c,rest,rfl,rfl⟩
    · rintro ⟨before,c,rest,heq,rfl⟩
      cases before with
      | nil=>
        cases heq
        exact Or.inl rfl
      | cons d before=>
        cases heq
        exact Or.inr ⟨before,c,rest,rfl,rfl⟩

lemma le_of_sweep {g : σ→ℕ} (hle : ∀ a s, g (f a s).2≤g s) {before rest : List α} {b : α}
    {s : σ} : g (sweep f (before++b::rest) s).2≤g (f b (sweep f before s).2).2:=by
  have hrest (l : List α) (t : σ) : g (l.foldl (fun s a=>(f a s).2) t)≤g t:=by
    induction l generalizing t with
    | nil=>exact Nat.le_refl _
    | cons a l ih=>exact Nat.le_trans (ih (f a t).2) (hle a t)
  rw [sweep_snd,sweep_snd,foldl_append,foldl_cons]
  exact hrest rest _

lemma map_key_sweep (hkey : ∀ a s, key (f a s).1=key a) (l : List α) (s : σ) :
    (sweep f l s).1.map key=l.map key:=by
  induction l generalizing s with
  | nil=>rfl
  | cons a l ih=>rw [sweep,map_cons,map_cons,hkey,ih]

variable [DecidableEq κ]

lemma find?_sweep (hkey : ∀ a s, key (f a s).1=key a) (k : κ) (l : List α) (s : σ) :
    (sweep f l s).1.find? (fun a=>key a=k)=(l.find? fun a=>key a=k).map fun a=>(f a (stateBefore f key k l s)).1:=by
  induction l generalizing s with
  | nil=>rfl
  | cons a l ih=>
    by_cases hk : key a=k
    · rw [sweep,find?_cons_of_pos (by simpa [hkey] using hk),
        find?_cons_of_pos (by simpa using hk),stateBefore,if_pos hk,Option.map_some]
    · rw [sweep,find?_cons_of_neg (by simpa [hkey] using hk),
        find?_cons_of_neg (by simpa using hk),stateBefore,if_neg hk,ih]

section
variable (out : σ→List ω) (owner : ω → κ) {new : α → σ→List ω}

section
variable (hout : ∀ a s, out (f a s).2=out s++new a s)
include hout

omit [DecidableEq κ] in
lemma forall_mem_out_sweep {P : ω→Prop} (hnew : ∀ a s, ∀ o∈new a s, P o) (l : List α) {s : σ}
    (hs : ∀ o∈out s, P o) : ∀ o∈out (sweep f l s).2, P o:=by
  induction l generalizing s with
  | nil=>exact hs
  | cons a l ih=>
    refine ih fun o ho=>?_
    rw [hout,mem_append] at ho
    exact ho.elim (hs o) (hnew a s o)

lemma filter_out_sweep_of_not_mem (howner : ∀ a s, ∀ o∈new a s, owner o=key a) {k : κ}
    {l : List α} (hk : k∉l.map key) (s : σ) :
    (out (sweep f l s).2).filter (fun o=>owner o=k)=(out s).filter fun o=>owner o=k:=by
  induction l generalizing s with
  | nil=>rfl
  | cons a l ih=>
    rw [map_cons,mem_cons,not_or] at hk
    have hnew : (new a s).filter (fun o=>owner o=k)=[]:=by
      rw [filter_eq_nil_iff]
      intro o ho howned
      exact hk.1 ((of_decide_eq_true howned).symm.trans (howner a s o ho))
    rw [sweep,ih hk.2,hout,filter_append,hnew,append_nil]

lemma filter_out_sweep (howner : ∀ a s, ∀ o∈new a s, owner o=key a) {k : κ} {l : List α}
    (hnodup : (l.map key).Nodup) {a : α} (ha : l.find? (fun a=>key a=k)=some a) (s : σ) :
    (out (sweep f l s).2).filter (fun o=>owner o=k)=(out s).filter (fun o=>owner o=k)++new a (stateBefore f key k l s):=by
  induction l generalizing s with
  | nil=>cases ha
  | cons b l ih=>
    rw [map_cons,List.nodup_cons] at hnodup
    by_cases hk : key b=k
    · rw [find?_cons_of_pos (by simpa using hk),Option.some_inj] at ha
      subst ha hk
      have hown : (new b s).filter (fun o=>owner o=key b)=new b s:=
        filter_eq_self.2 fun o ho=>by simpa using howner b s o ho
      rw [sweep,filter_out_sweep_of_not_mem out owner hout howner hnodup.1,hout,filter_append,hown,stateBefore,if_pos rfl]
    · rw [find?_cons_of_neg (by simpa using hk)] at ha
      have hnew : (new b s).filter (fun o=>owner o=k)=[]:=by
        rw [filter_eq_nil_iff]
        intro o ho howned
        exact hk ((howner b s o ho).symm.trans (of_decide_eq_true howned))
      rw [sweep,ih hnodup.2 ha,hout,filter_append,hnew,append_nil,stateBefore,if_neg hk]

end
end
end SoftMessageBus.KeyedSweep
