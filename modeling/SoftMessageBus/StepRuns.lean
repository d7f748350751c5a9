import Mathlib.Data.List.Basic
import Mathlib.Data.Nat.Find

/-!
# Properties of the steps of a run

A deterministic system takes one step for each input.
-/
namespace SoftMessageBus.StepRuns
variable {σ ι : Type*}

/-- Every step of the run from `s` over the given inputs satisfies `P`. -/
def Along (step : σ → ι → σ) (P : σ → ι→Prop) : σ→List ι→Prop
  | _, []=>True
  | s, i::is=>P s i ∧ Along step P (step s i) is

variable {step : σ → ι → σ} {P Q : σ → ι→Prop}

instance Along.decidable [∀ s i, Decidable (P s i)] :
    ∀ (s : σ) (is : List ι), Decidable (Along step P s is)
  | _, []=>inferInstanceAs (Decidable True)
  | s, i::is=>
    have:=Along.decidable (step s i) is
    inferInstanceAs (Decidable (P s i ∧ Along step P (step s i) is))

lemma along_iff_of_invariant (Inv : σ→Prop)
    (hstep : ∀ s i, Inv s→Q s i→Inv (step s i)) (hiff : ∀ s i, Inv s→(P s i ↔ Q s i)) {s : σ}
    (hs : Inv s) (is : List ι) : Along step P s is ↔ Along step Q s is:=by
  induction is generalizing s with
  | nil=>exact Iff.rfl
  | cons i is ih=>
    constructor
    · rintro ⟨hp,hrest⟩
      have hq:=(hiff s i hs).1 hp
      exact ⟨hq,(ih (hstep s i hs hq)).1 hrest⟩
    · rintro ⟨hq,hrest⟩
      exact ⟨(hiff s i hs).2 hq,(ih (hstep s i hs hq)).2 hrest⟩

lemma Along.foldl (Inv : σ→Prop) (hstep : ∀ s i, Inv s→P s i→Inv (step s i)) {s : σ}
    {is : List ι} (h : Along step P s is) (hs : Inv s) : Inv (is.foldl step s):=by
  induction is generalizing s with
  | nil=>exact hs
  | cons i is ih=>exact ih h.2 (hstep s i hs h.1)

lemma Along.append_right {s : σ} {before after : List ι}
    (h : Along step P s (before++after)) : Along step P (before.foldl step s) after:=by
  induction before generalizing s with
  | nil=>exact h
  | cons i before ih=>exact ih h.2

lemma flag_foldl_iff {flag : σ→Bool} {sets clears : σ → ι→Prop} (Inv : σ→Prop)
    (hstep : ∀ s i, Inv s→Inv (step s i)) (hset : ∀ s i, Inv s→sets s i→flag (step s i)=true)
    (hclear : ∀ s i, Inv s→clears s i→flag (step s i)=false)
    (hkeep : ∀ s i, Inv s→¬sets s i→¬clears s i→flag (step s i)=flag s) {s : σ} (hs : Inv s) (is : List ι) :
    flag (is.foldl step s)=true ↔
      (flag s=true ∧ Along step (fun s i=>¬clears s i) s is) ∨
      ∃ before i rest, is=before++i::rest ∧ sets (before.foldl step s) i ∧
        Along step (fun s i=>¬clears s i) ((before++[i]).foldl step s) rest:=by
  induction is generalizing s with
  | nil=>
    constructor
    · exact fun h=>Or.inl ⟨h,trivial⟩
    · rintro (⟨h,-⟩ | ⟨before,i,rest,heq,-⟩)
      · exact h
      · exact absurd heq.symm (List.append_ne_nil_of_right_ne_nil _ (List.cons_ne_nil i rest))
  | cons i is ih=>
    rw [List.foldl_cons,ih (hstep s i hs)]
    constructor
    · rintro (⟨hflag,hrest⟩ | ⟨before,j,rest,rfl,hj,hrest⟩)
      · by_cases hi : sets s i
        · exact Or.inr ⟨[],i,is,rfl,hi,hrest⟩
        · have hnot : ¬clears s i:=fun h=>by
            rw [hclear s i hs h] at hflag
            exact Bool.false_ne_true hflag
          rw [hkeep s i hs hi hnot] at hflag
          exact Or.inl ⟨hflag,hnot,hrest⟩
      · exact Or.inr ⟨i::before,j,rest,rfl,hj,hrest⟩
    · rintro (⟨hflag,hnot,hrest⟩ | ⟨before,j,rest,heq,hj,hrest⟩)
      · refine Or.inl ⟨?_,hrest⟩
        by_cases hi : sets s i
        · exact hset s i hs hi
        · rw [hkeep s i hs hi hnot,hflag]
      · cases before with
        | nil=>
          cases heq
          exact Or.inl ⟨hset s i hs hj,hrest⟩
        | cons b before=>
          cases heq
          exact Or.inr ⟨before,j,rest,rfl,hj,hrest⟩

/-- Every step of the run from `s` over the given inputs is taken in a state in which `P` allows it.
-/
def Throughout (step : σ → ι→Option σ) (P : σ → ι→Prop) : σ→List ι→Prop
  | _, []=>True
  | s, i::is=>P s i ∧ ∀ t, step s i=some t→Throughout step P t is

lemma Throughout.foldlM {step : σ → ι→Option σ} (Inv : σ→Prop)
    (hstep : ∀ s i, Inv s→P s i→∃ t, step s i=some t ∧ Inv t) {s : σ} {is : List ι}
    (h : Throughout step P s is) (hs : Inv s) : ∃ t, is.foldlM step s=some t ∧ Inv t:=by
  induction is generalizing s with
  | nil=>exact ⟨s,rfl,hs⟩
  | cons i is ih=>
    obtain ⟨t,ht,hinv⟩:=hstep s i hs h.1
    obtain ⟨u,hu,hinv'⟩:=ih (h.2 t ht) hinv
    refine ⟨u,?_,hinv'⟩
    rw [List.foldlM_cons,ht]
    exact hu

def stateAt (step : σ → ι → σ) (s : σ) (is : ℕ → ι) : ℕ → σ
  | 0=>s
  | n+1=>step (stateAt step s is n) (is n)

variable {s : σ} {is : ℕ → ι}

@[simp] lemma stateAt_zero : stateAt step s is 0=s:=rfl
@[simp] lemma stateAt_succ (n : ℕ) : stateAt step s is (n+1)=step (stateAt step s is n) (is n):=rfl

variable {m n : ℕ}

lemma holds_from {R : σ→Prop} (hm : R (stateAt step s is m))
    (hstep : ∀ n, m≤n→R (stateAt step s is n)→R (stateAt step s is (n+1))) (hn : m≤n) :
    R (stateAt step s is n):=by
  induction n, hn using Nat.le_induction with
  | base=>exact hm
  | succ n hn ih=>exact hstep n hn ih

lemma holds_at_next {R : σ→Prop} {E : ι→Prop} (hm : R (stateAt step s is m))
    (hkeep : ∀ s i, R s→¬E i→R (step s i)) (hnext : ∃ n, m≤n ∧ E (is n)) :
    ∃ n, m≤n ∧ E (is n) ∧ R (stateAt step s is n):=by
  classical
  have hspec:=Nat.find_spec hnext
  refine ⟨Nat.find hnext,hspec.1,hspec.2,?_⟩
  have huntil : ∀ n, m≤n→n≤Nat.find hnext→R (stateAt step s is n):=by
    intro n hn
    induction n, hn using Nat.le_induction with
    | base=>exact fun _=>hm
    | succ n hn ih=>
      intro hlt
      exact hkeep _ _ (ih (Nat.le_of_succ_le hlt)) fun he=>Nat.find_min hnext hlt ⟨hn,he⟩
  exact huntil _ hspec.1 le_rfl

lemma leads_to {τ : Type*} {G : σ → ι→Prop} {M : τ → ι→Prop} {R : ℕ → τ → σ→Prop}
    (hstep : ∀ k j s i, R k j s→G s i ∨ (R k j (step s i) ∧ ¬M j i) ∨ ∃ k' < k, ∃ j', R k' j' (step s i))
    (hfair : ∀ j m, ∃ n, m≤n ∧ M j (is n)) {k m : ℕ} {j : τ} (h : R k j (stateAt step s is m)) :
    ∃ n, m≤n ∧ G (stateAt step s is n) (is n):=by
  induction k using Nat.strong_induction_on generalizing j m with
  | _ k ih=>
    obtain ⟨n,hmn,hn⟩:=hfair j m
    -- the distance to the next step of the helpful party decreases until the rank does
    induction hd : n-m generalizing m with
    | zero=>
      obtain rfl : m=n:=by omega
      rcases hstep k j _ (is m) h with hgood | ⟨-,hnot⟩ | ⟨k',hk',j',hr⟩
      · exact ⟨m,le_rfl,hgood⟩
      · exact absurd hn hnot
      · have hnext : R k' j' (stateAt step s is (m+1)):=hr
        obtain ⟨n',hn',hgood⟩:=ih k' hk' hnext
        exact ⟨n',Nat.le_of_succ_le hn',hgood⟩
    | succ d ihd=>
      rcases hstep k j _ (is m) h with hgood | ⟨hr,-⟩ | ⟨k',hk',j',hr⟩
      · exact ⟨m,le_rfl,hgood⟩
      · have hnext : R k j (stateAt step s is (m+1)):=hr
        obtain ⟨n',hn',hgood⟩:=ihd hnext (by omega) (by omega)
        exact ⟨n',Nat.le_of_succ_le hn',hgood⟩
      · have hnext : R k' j' (stateAt step s is (m+1)):=hr
        obtain ⟨n',hn',hgood⟩:=ih k' hk' hnext
        exact ⟨n',Nat.le_of_succ_le hn',hgood⟩

section
variable {period : ℕ} (hinput : ∀ n, is (n+period)=is n)
  (hstate : stateAt step s is (m+period)=stateAt step s is m) (hn : m≤n)
include hinput hstate hn

lemma stateAt_add_period : stateAt step s is (n+period)=stateAt step s is n:=by
  induction n, hn using Nat.le_induction with
  | base=>exact hstate
  | succ n hn ih=>rw [Nat.add_right_comm,stateAt_succ,ih,hinput,stateAt_succ]

lemma stateAt_add_mul_period (q : ℕ) : stateAt step s is (n+q*period)=stateAt step s is n:=by
  induction q with
  | zero=>rw [Nat.zero_mul,Nat.add_zero]
  | succ q ih=>
    rw [Nat.succ_mul,← Nat.add_assoc,stateAt_add_period hinput hstate (Nat.le_trans hn (Nat.le_add_right n _)),ih]

end
end SoftMessageBus.StepRuns
