import Mathlib.Algebra.Order.BigOperators.Group.Finset
import Mathlib.Order.Interval.Finset.Nat
import Mathlib.Tactic.Linarith

/-!
# Tilings of an initial segment by intervals

The lengths of the intervals at their starts describe a tiling of `[0, n)`.
-/
namespace SoftMessageBus.IntervalTiling
open Function

/-- The intervals `[a, a + k)` with `len a = some k` are disjoint and cover `[0, n)`. -/
structure Tiles (len : ℕ→Option ℕ) (n : ℕ) : Prop where
  pos : ∀ a k, len a=some k → 0<k
  le : ∀ a k, len a=some k→a+k≤n
  disjoint : ∀ a b k j, len a=some k→len b=some j→a<b→a+k≤b
  cover : ∀ p<n, ∃ a k, len a=some k ∧ a≤p ∧ p<a+k

namespace Tiles
variable {len : ℕ→Option ℕ} {n a b k j p : ℕ}

lemma unique (h : Tiles len n) (ha : len a=some k) (hb : len b=some j) (hpa : a≤p ∧ p<a+k) (hpb : b≤p ∧ p<b+j) : a=b:=by
  rcases Nat.lt_trichotomy a b with hlt | heq | hlt
  · have hle:=h.disjoint a b k j ha hb hlt
    omega
  · exact heq
  · have hle:=h.disjoint b a j k hb ha hlt
    omega

lemma sum_le (h : Tiles len n) {l : List ℕ} (hnodup : l.Nodup) {f : ℕ→ℕ}
    (hlen : ∀ a∈l, len a=some (f a)) : (l.map f).sum≤n:=by
  have hdisj : (l.toFinset : Set ℕ).PairwiseDisjoint fun a=>Finset.Ico a (a+f a):=by
    intro a ha b hb hab
    rw [Finset.mem_coe,List.mem_toFinset] at ha hb
    refine Finset.disjoint_left.2 fun p hpa hpb=>hab ?_
    rw [Finset.mem_Ico] at hpa hpb
    exact h.unique (hlen a ha) (hlen b hb) hpa hpb
  have hsub : (l.toFinset.biUnion fun a=>Finset.Ico a (a+f a)) ⊆ Finset.range n:=by
    intro p hp
    obtain ⟨a,ha,hp⟩:=Finset.mem_biUnion.1 hp
    have hle:=h.le a (f a) (hlen a (List.mem_toFinset.1 ha))
    rw [Finset.mem_Ico] at hp
    rw [Finset.mem_range]
    omega
  have hcard:=Finset.card_le_card hsub
  rw [Finset.card_biUnion hdisj,Finset.card_range] at hcard
  simp only [Nat.card_Ico,Nat.add_sub_cancel_left] at hcard
  rwa [List.sum_toFinset f hnodup] at hcard

lemma single (hn : 0<n) : Tiles (update (fun _=>none) 0 (some n)) n:=by
  have hzero {a k : ℕ} (h : update (fun _=>none) 0 (some n) a=some k) : a=0 ∧ k=n:=by
    by_cases ha : a=0
    · subst ha
      rw [update_self,Option.some.injEq] at h
      exact ⟨rfl,h.symm⟩
    · rw [update_of_ne ha] at h
      cases h
  refine ⟨?_,?_,?_,fun p hp=>⟨0,n,update_self _ _ _,Nat.zero_le p,by omega⟩⟩
  · intro a k h
    obtain ⟨-,rfl⟩:=hzero h
    exact hn
  · intro a k h
    obtain ⟨rfl,rfl⟩:=hzero h
    omega
  · intro a b k j ha hb hlt
    obtain ⟨rfl,-⟩:=hzero ha
    obtain ⟨rfl,-⟩:=hzero hb
    omega

lemma eq_none_of_inside (h : Tiles len n) (ha : len a=some k) (hp : a<p ∧ p<a+k) : len p=none:=by
  cases hlen : len p with
  | none=>rfl
  | some j=>
    have hle:=h.disjoint a p k j ha hlen hp.1
    omega

lemma split (h : Tiles len n) (ha : len a=some (k+j)) (hk : 0<k) (hj : 0<j) :
    Tiles (update (update len (a+k) (some j)) a (some k)) n:=by
  have hcases {b m : ℕ} (hb : update (update len (a+k) (some j)) a (some k) b=some m) :
      (b=a ∧ m=k) ∨ (b=a+k ∧ m=j) ∨ (b≠a ∧ b≠a+k ∧ len b=some m):=by
    by_cases hba : b=a
    · subst hba
      rw [update_self,Option.some.injEq] at hb
      exact .inl ⟨rfl,hb.symm⟩
    · rw [update_of_ne hba] at hb
      by_cases hbk : b=a+k
      · subst hbk
        rw [update_self,Option.some.injEq] at hb
        exact .inr (.inl ⟨rfl,hb.symm⟩)
      · rw [update_of_ne hbk] at hb
        exact .inr (.inr ⟨hba,hbk,hb⟩)
  refine ⟨?_,?_,?_,?_⟩
  · intro b m hb
    rcases hcases hb with ⟨-,rfl⟩ | ⟨-,rfl⟩ | ⟨-,-,hb⟩
    · exact hk
    · exact hj
    · exact h.pos b m hb
  · intro b m hb
    have hle:=h.le a (k+j) ha
    rcases hcases hb with ⟨rfl,rfl⟩ | ⟨rfl,rfl⟩ | ⟨-,-,hb⟩
    · omega
    · omega
    · exact h.le b m hb
  · intro b c m m' hb hc hlt
    rcases hcases hb with ⟨rfl,rfl⟩ | ⟨rfl,rfl⟩ | ⟨hba,-,hlenb⟩ <;>
      rcases hcases hc with ⟨rfl,rfl⟩ | ⟨rfl,rfl⟩ | ⟨hca,-,hlenc⟩
    · omega
    · omega
    · have hle:=h.disjoint b c _ _ ha hlenc hlt
      omega
    · omega
    · omega
    · have hle:=h.disjoint a c _ _ ha hlenc (by omega)
      omega
    · exact h.disjoint b c _ _ hlenb ha hlt
    · rcases Nat.lt_or_ge b a with hba' | hba'
      · have hle:=h.disjoint b a _ _ hlenb ha hba'
        omega
      · have hle:=h.disjoint a b _ _ ha hlenb (by omega)
        omega
    · exact h.disjoint b c _ _ hlenb hlenc hlt
  · intro p hp
    obtain ⟨b,m,hb,hle,hlt⟩:=h.cover p hp
    by_cases hba : b=a
    · subst hba
      obtain rfl : m=k+j:=Option.some.inj (hb.symm.trans ha)
      rcases Nat.lt_or_ge p (b+k) with hpk | hpk
      · exact ⟨b,k,update_self _ _ _,hle,hpk⟩
      · exact ⟨b+k,j,by rw [update_of_ne (by omega),update_self],hpk,by omega⟩
    · have hbk : b≠a+k:=by
        rintro rfl
        rw [h.eq_none_of_inside ha (by omega)] at hb
        cases hb
      exact ⟨b,m,by rw [update_of_ne hba,update_of_ne hbk,hb],hle,hlt⟩

end Tiles
end SoftMessageBus.IntervalTiling
