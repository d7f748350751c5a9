import Mathlib.Data.List.Basic

/-!
# Bit maps in machine words

Bits of a 64-bit word are set, cleared and tested with masks.
-/
namespace SoftMessageBus.BitWords
open List

abbrev Word:=BitVec 64

/-- The word `1 << i`. -/
def bit (i : ℕ) : Word:=BitVec.twoPow 64 i

/-- The word with `n` bits set from bit `lo` on. -/
def mask (lo n : ℕ) : Word:=(bit n-1) <<< lo

variable {w : Word} {i j lo n : ℕ}

@[simp] lemma getLsbD_or_bit (hj : j<64) : (w ||| bit i).getLsbD j=(w.getLsbD j || decide (i=j)):=by
  have hij : (decide (i<64) && decide (i=j))=decide (i=j):=by
    by_cases hij : i=j
    · simp [hij,hj]
    · simp [hij]
  rw [bit,BitVec.getLsbD_or,BitVec.getLsbD_twoPow,hij]

@[simp] lemma getLsbD_and_not_bit : (w &&& ~~~bit i).getLsbD j=(w.getLsbD j && !decide (i=j)):=by
  rw [bit,BitVec.getLsbD_and,BitVec.getLsbD_not,BitVec.getLsbD_twoPow]
  by_cases hj : j<64
  · by_cases hij : i=j <;> simp [hij,hj]
  · simp [BitVec.getLsbD_of_ge w j (Nat.le_of_not_lt hj)]

lemma and_bit_eq_zero_iff (hi : i<64) : w &&& bit i=0 ↔ w.getLsbD i=false:=by
  rw [bit,BitVec.and_twoPow]
  cases hw : w.getLsbD i with
  | false=>simp
  | true=>
    simp only [if_true,reduceCtorEq,iff_false]
    intro hzero
    have hbit:=congrArg (fun v : Word=>v.getLsbD i) hzero
    simp [hi] at hbit

lemma eq_allOnes_iff : w=BitVec.allOnes 64 ↔ ∀ i<64, w.getLsbD i=true:=by
  constructor
  · rintro rfl i hi
    rw [BitVec.getLsbD_allOnes,decide_eq_true hi]
  · intro h
    apply BitVec.eq_of_getLsbD_eq
    intro i hi
    rw [h i hi,BitVec.getLsbD_allOnes,decide_eq_true hi]

lemma getLsbD_mask (hn : n<64) (hlo : lo+n≤64) :
    (mask lo n).getLsbD j=(decide (lo≤j) && decide (j<lo+n)):=by
  have hpos : 0<2^n:=Nat.two_pow_pos n
  have hlt : 2^n<2^64:=Nat.pow_lt_pow_right (by decide) hn
  have hone : bit n-1=BitVec.ofNat 64 (2^n-1):=by
    apply BitVec.eq_of_toNat_eq
    rw [bit,BitVec.toNat_sub,BitVec.toNat_twoPow,BitVec.toNat_ofNat,Nat.mod_eq_of_lt hlt]
    change (2^64-1+2^n) % 2^64=(2^n-1) % 2^64
    rw [show 2^64-1+2^n=2^n-1+2^64 by omega,Nat.add_mod_right]
  rw [mask,hone,BitVec.getLsbD_shiftLeft,BitVec.getLsbD_ofNat,Nat.testBit_two_pow_sub_one]
  by_cases hj : lo≤j
  · by_cases hjn : j<lo+n
    · simp [hj,hjn]
      omega
    · simp [hj,hjn]
      omega
  · simp [hj]

lemma and_mask_eq_zero_iff (hn : n<64) (hlo : lo+n≤64) :
    w &&& mask lo n=0 ↔ ∀ i<n, w.getLsbD (lo+i)=false:=by
  constructor
  · intro h i hi
    have hbit:=congrArg (fun v : Word=>v.getLsbD (lo+i)) h
    simpa [getLsbD_mask hn hlo,hi] using hbit
  · intro h
    apply BitVec.eq_of_getLsbD_eq
    intro j hj
    rw [BitVec.getLsbD_and,getLsbD_mask hn hlo]
    by_cases hfield : lo≤j ∧ j<lo+n
    · obtain ⟨i,rfl⟩:=Nat.exists_eq_add_of_le hfield.1
      simp [h i (by omega)]
    · rw [not_and_or] at hfield
      rcases hfield with hlo | hn
      · simp [hlo]
      · simp [hn]

lemma and_mask_eq_mask_iff {m : ℕ} (hm : m<64) (hlo : lo+m≤64) (hn : n ≤ m) :
    w &&& mask lo m=mask lo n ↔ (∀ i<n, w.getLsbD (lo+i)=true) ∧ ∀ i, n ≤ i→i < m→w.getLsbD (lo+i)=false:=by
  have hbits : w &&& mask lo m=mask lo n ↔
      ∀ j, (w &&& mask lo m).getLsbD j=(mask lo n).getLsbD j:=by
    constructor
    · intro h j
      rw [h]
    · intro h
      exact BitVec.eq_of_getLsbD_eq fun j _=>h j
  simp only [hbits,BitVec.getLsbD_and,getLsbD_mask hm hlo,getLsbD_mask (Nat.lt_of_le_of_lt hn hm) (by omega : lo+n≤64)]
  constructor
  · intro h
    refine ⟨fun i hi=>?_,fun i hni him=>?_⟩
    · have hi':=h (lo+i)
      simpa [hi,Nat.lt_of_lt_of_le hi hn] using hi'
    · have hi':=h (lo+i)
      simpa [him,Nat.not_lt.2 hni] using hi'
  · rintro ⟨hset,hclear⟩ j
    by_cases hj : lo≤j
    · obtain ⟨i,rfl⟩:=Nat.exists_eq_add_of_le hj
      by_cases hi : i<n
      · simp [hset i hi,hi,Nat.lt_of_lt_of_le hi hn]
      · by_cases him : i < m
        · simp [hclear i (Nat.not_lt.1 hi) him,hi]
        · simp [hi,him]
    · simp [hj]

lemma eq_zero_iff : w=0 ↔ ∀ i<64, w.getLsbD i=false:=by
  constructor
  · rintro rfl i _
    exact BitVec.getLsbD_zero
  · intro h
    apply BitVec.eq_of_getLsbD_eq
    intro i hi
    rw [h i hi]
    exact BitVec.getLsbD_zero.symm

lemma and_not_mask_eq_zero_iff (hn : n<64) : w &&& ~~~mask 0 n=0 ↔ ∀ i<64, n ≤ i→w.getLsbD i=false:=by
  rw [eq_zero_iff]
  refine forall₂_congr fun i hi=>?_
  rw [BitVec.getLsbD_and,BitVec.getLsbD_not,getLsbD_mask hn (by omega),decide_eq_true hi]
  by_cases hni : n ≤ i
  · simp [hni,Nat.not_lt.2 hni]
  · simp [hni,Nat.not_le.1 hni]

lemma or_bit_and_mask (hn : n<64) (hi : n ≤ i) : (w ||| bit i) &&& mask 0 n=w &&& mask 0 n:=by
  apply BitVec.eq_of_getLsbD_eq
  intro j hj
  rw [BitVec.getLsbD_and,BitVec.getLsbD_and,getLsbD_or_bit hj,getLsbD_mask hn (by omega)]
  by_cases hjn : j<n
  · simp [show i≠j by omega]
  · simp [hjn]

lemma and_not_bit_and_mask (hn : n<64) (hi : n ≤ i) : (w &&& ~~~bit i) &&& mask 0 n=w &&& mask 0 n:=by
  apply BitVec.eq_of_getLsbD_eq
  intro j hj
  rw [BitVec.getLsbD_and,getLsbD_and_not_bit,BitVec.getLsbD_and,getLsbD_mask hn (by omega)]
  by_cases hjn : j<n
  · simp [show i≠j by omega]
  · simp [hjn]

/-- The lowest of the first `n` bits from bit `lo` on that is clear. -/
def firstClear (w : Word) (lo n : ℕ) : Option ℕ:=(range n).find? fun i=>w &&& bit (lo+i)=0

lemma firstClear_eq_some (hlo : lo+n≤64) (h : firstClear w lo n=some i) : i<n ∧ w.getLsbD (lo+i)=false:=by
  have hi : i<n:=mem_range.1 (mem_of_find?_eq_some h)
  have hclear:=find?_some h
  rw [decide_eq_true_eq,and_bit_eq_zero_iff (by omega)] at hclear
  exact ⟨hi,hclear⟩

lemma firstClear_eq_none_iff (hlo : lo+n≤64) : firstClear w lo n=none ↔ ∀ i<n, w.getLsbD (lo+i)=true:=by
  rw [firstClear,find?_range_eq_none]
  refine forall₂_congr fun i hi=>?_
  rw [Bool.not_eq_true',decide_eq_false_iff_not,and_bit_eq_zero_iff (by omega),Bool.not_eq_false]

end SoftMessageBus.BitWords
