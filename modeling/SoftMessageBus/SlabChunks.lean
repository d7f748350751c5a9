import SoftMessageBus.SlabRefinement

/-!
# Taking and giving back chunks

The three kinds of slab pages keep their chunk maps in different places.
-/
namespace SoftMessageBus
open BitWords Function

lemma slabShiftMask_eq : slabShiftMask=mask 0 4:=by decide

lemma slabMapMask_eq : slabMapMask=mask 32 32:=rfl

lemma shift_field {w : Word} {shift : ℕ} (hw : w &&& slabShiftMask=0) (hshift : shift<16) :
    ((w ||| BitVec.ofNat 64 shift) &&& slabShiftMask).toNat=shift:=by
  have hdistinct : (w ||| BitVec.ofNat 64 shift) &&& slabShiftMask=
      (w &&& slabShiftMask) ||| (BitVec.ofNat 64 shift &&& slabShiftMask):=by
    apply BitVec.eq_of_getLsbD_eq
    intro i _
    simp only [BitVec.getLsbD_and,BitVec.getLsbD_or,Bool.and_or_distrib_right]
  rw [hdistinct,hw,show (0 : Word)=0#64 from rfl,BitVec.zero_or,BitVec.toNat_and,BitVec.toNat_ofNat,
    Nat.mod_eq_of_lt (by omega),show slabShiftMask.toNat=2^4-1 from rfl,
    Nat.and_two_pow_sub_one_eq_mod,Nat.mod_eq_of_lt hshift]

lemma map_field {w : Word} {shift : ℕ} (hshift : shift<16) (c : ℕ) :
    (w ||| BitVec.ofNat 64 shift).getLsbD (slabMapShift+c)=w.getLsbD (slabMapShift+c):=by
  have hlow : shift.testBit (slabMapShift+c)=false:=by
    refine Nat.testBit_lt_two_pow (lt_of_lt_of_le hshift ?_)
    refine Nat.pow_le_pow_right (n:=2) (by decide) (show 4 ≤ slabMapShift+c from ?_)
    rw [show slabMapShift=32 from rfl]
    omega
  rw [BitVec.getLsbD_or,BitVec.getLsbD_ofNat,hlow,Bool.and_false,Bool.or_false]

lemma smallMapWords_lt {shift : ℕ} (h : minShift ≤ shift) : chunkCount shift/64≤8:=by
  have hle : chunkCount shift≤2^9:=Nat.pow_le_pow_right (by decide) (by
    have hmin : minShift=3:=rfl
    omega)
  omega

lemma smallMapWords_mul {shift : ℕ} (h : shift<6) : 64*(chunkCount shift/64)=chunkCount shift:=by
  refine Nat.mul_div_cancel' ?_
  exact Nat.pow_dvd_pow 2 (by omega : 6≤12-shift)

lemma chunkCount_le {shift : ℕ} (h : 6<shift) : chunkCount shift≤32:=by
  exact Nat.pow_le_pow_right (by decide) (by omega : 12-shift≤5)

namespace SlabState
variable {l : SegmentLayout} {s : SlabState} {a shift : ℕ} {used : ℕ→Bool}

lemma chunkMap_small (h : shift<6) :
    s.ChunkMap l a shift used ↔ s.tag (.page a) = .small ∧ s.SmallMap l a shift used:=by
  simp [ChunkMap,slabTypeOf,h]

lemma chunkMap_exact : s.ChunkMap l a 6 used ↔ s.tag (.page a) = .exact ∧ s.ExactMap a used:=by
  simp [ChunkMap,slabTypeOf]

lemma chunkMap_big (h : 6<shift) :
    s.ChunkMap l a shift used ↔ s.tag (.page a) = .big ∧ s.BigMap a shift used:=by
  simp [ChunkMap,slabTypeOf,show ¬shift<6 by omega,show shift≠6 by omega]

lemma SmallMap.setWord (h : s.SmallMap l a shift used) {n : ℕ} {w v : Word}
    {used' : ℕ→Bool} (hshift : v &&& slabShiftMask=s.slab (.page a) &&& slabShiftMask)
    (hsummary : v.getLsbD (slabMapShift+n)=true ↔ w≠slabBusy)
    (hother : ∀ m≠n, v.getLsbD (slabMapShift+m)=(s.slab (.page a)).getLsbD (slabMapShift+m))
    (hword : ∀ i<64, w.getLsbD i=used' (64*n+i)) (hused : ∀ m≠n, ∀ i<64, used' (64*m+i)=used (64*m+i)) :
    ((s.setSlab (.page a) v).setWord (l.start+4096*a+8*n) w).SmallMap l a shift used':=by
  simp only [SmallMap,slab_setWord,slab_setSlab,memory_setWord,memory_setSlab,update_self]
  refine ⟨by rw [hshift]; exact h.1,fun m hm=>?_⟩
  by_cases hmn : m=n
  · subst hmn
    rw [update_self]
    exact ⟨hsummary,hword⟩
  · have hne : l.start+4096*a+8*m≠l.start+4096*a+8*n:=by omega
    rw [update_of_ne hne,hother m hmn]
    refine ⟨(h.2 m hm).1,fun i hi=>?_⟩
    rw [hused m hmn i hi]
    exact (h.2 m hm).2 i hi

lemma ExactMap.take (h : s.ExactMap a used) (c : ℕ) :
    (s.setSlab (.page a) (s.slab (.page a) ||| bit c)).ExactMap a (update used c true):=by
  intro i hi
  rw [slab_setSlab,update_self,getLsbD_or_bit hi,h i hi]
  by_cases hic : i=c
  · simp [hic]
  · simp [hic,Ne.symm hic]

lemma ExactMap.give (h : s.ExactMap a used) (c : ℕ) :
    (s.setSlab (.page a) (s.slab (.page a) &&& ~~~bit c)).ExactMap a (update used c false):=by
  intro i hi
  rw [slab_setSlab,update_self,getLsbD_and_not_bit,h i hi]
  by_cases hic : i=c
  · simp [hic]
  · simp [hic,Ne.symm hic]

lemma ExactMap.full_iff (h : s.ExactMap a used) : s.slab (.page a)=slabBusy ↔ Full 6 used:=by
  rw [slabBusy,eq_allOnes_iff]
  exact forall₂_congr fun c hc=>by rw [h c hc]

lemma BigMap.take (h : s.BigMap a shift used) (hbig : 6<shift) {c : ℕ} (hc : c<chunkCount shift) :
    (s.setSlab (.page a) (s.slab (.page a) ||| bit (slabMapShift+c))).BigMap a shift (update used c true):=by
  have hmax:=chunkCount_le hbig
  have hmap : slabMapShift=32:=rfl
  simp only [BigMap,slab_setSlab,update_self]
  refine ⟨?_,fun i hi=>?_,fun i hi hlt=>?_⟩
  · rw [slabShiftMask_eq,or_bit_and_mask (by decide) (by omega),← slabShiftMask_eq]
    exact h.1
  · rw [getLsbD_or_bit (by omega),h.2.1 i hi]
    by_cases hic : i=c
    · simp [hic]
    · simp [hic,Ne.symm hic]
  · rw [getLsbD_or_bit (by omega),h.2.2 i hi hlt]
    simp only [Bool.false_or,decide_eq_false_iff_not]
    omega

lemma BigMap.give (h : s.BigMap a shift used) (c : ℕ) :
    (s.setSlab (.page a) (s.slab (.page a) &&& ~~~bit (c+slabMapShift))).BigMap a shift (update used c false):=by
  have hmap : slabMapShift=32:=rfl
  simp only [BigMap,slab_setSlab,update_self]
  refine ⟨?_,fun i hi=>?_,fun i hi hlt=>?_⟩
  · rw [slabShiftMask_eq,and_not_bit_and_mask (by decide) (by omega),← slabShiftMask_eq]
    exact h.1
  · rw [getLsbD_and_not_bit,h.2.1 i hi]
    by_cases hic : i=c
    · simp [hic,Nat.add_comm]
    · simp only [update_of_ne hic]
      rw [decide_eq_false (by omega),Bool.not_false,Bool.and_true]
  · rw [getLsbD_and_not_bit,h.2.2 i hi hlt,Bool.false_and]

lemma BigMap.full_iff (h : s.BigMap a shift used) (hbig : 6<shift) :
    s.slab (.page a) &&& slabMapMask=mask slabMapShift (chunkCount shift) ↔ Full shift used:=by
  have hmax:=chunkCount_le hbig
  rw [slabMapMask_eq,show slabMapShift=32 from rfl,and_mask_eq_mask_iff (by decide) (by decide) hmax]
  constructor
  · rintro ⟨hset,-⟩ c hc
    rw [← h.2.1 c hc]
    exact hset c hc
  · intro hfull
    refine ⟨fun c hc=>?_,fun c hc hlt=>h.2.2 c hc hlt⟩
    rw [show 32=slabMapShift from rfl,h.2.1 c hc]
    exact hfull c hc

lemma SmallMap.take (h : s.SmallMap l a shift used) {n i : ℕ} (hn : n<chunkCount shift/64)
    (hi : i<64) (hfree : used (64*n+i)=false) :
    let w:=s.memory (l.start+4096*a+8*n) ||| bit i
    let v:=if w=slabBusy then s.slab (.page a) &&& ~~~smbSlabSmallSummaryBit n
      else s.slab (.page a)
    ((s.setSlab (.page a) v).setWord (l.start+4096*a+8*n) w).SmallMap l a shift (update used (64*n+i) true):=by
  intro w v
  have hmap : slabMapShift=32:=rfl
  refine h.setWord ?_ ?_ (fun m hmn=>?_) (fun j hj=>?_) (fun m hmn j hj=>update_of_ne ?_ _ _)
  · by_cases hw : w=slabBusy
    · simp only [v,if_pos hw,smbSlabSmallSummaryBit]
      rw [slabShiftMask_eq,and_not_bit_and_mask (by decide) (by omega)]
    · simp only [v,if_neg hw]
  · by_cases hw : w=slabBusy
    · simp only [v,if_pos hw,smbSlabSmallSummaryBit,getLsbD_and_not_bit]
      simp [hw]
    · simp only [v,if_neg hw]
      rw [(h.2 n hn).1]
      refine iff_of_true ?_ hw
      intro hbusy
      have hbit:=(h.2 n hn).2 i hi
      rw [hfree,eq_allOnes_iff.1 hbusy i hi] at hbit
      cases hbit
  · by_cases hw : w=slabBusy
    · simp only [v,if_pos hw,smbSlabSmallSummaryBit,getLsbD_and_not_bit]
      rw [decide_eq_false (by omega),Bool.not_false,Bool.and_true]
    · simp only [v,if_neg hw]
  · rw [getLsbD_or_bit hj,(h.2 n hn).2 j hj]
    by_cases hij : j=i
    · simp [hij]
    · rw [update_of_ne (by omega),decide_eq_false (Ne.symm hij),Bool.or_false]
  · omega

lemma SmallMap.give (h : s.SmallMap l a shift used) {n i : ℕ} (hn : n<chunkCount shift/64) (hn8 : n<8) (hi : i<64) :
    let w:=s.memory (l.start+4096*a+8*n)
    let v:=if w=slabBusy then s.slab (.page a) ||| smbSlabSmallSummaryBit n
      else s.slab (.page a)
    ((s.setSlab (.page a) v).setWord (l.start+4096*a+8*n) (w &&& ~~~bit i)).SmallMap l a
      shift (update used (64*n+i) false):=by
  intro w v
  have hmap : slabMapShift=32:=rfl
  refine h.setWord ?_ ?_ (fun m hmn=>?_) (fun j hj=>?_) (fun m hmn j hj=>update_of_ne ?_ _ _)
  · by_cases hw : w=slabBusy
    · simp only [v,if_pos hw,smbSlabSmallSummaryBit]
      rw [slabShiftMask_eq,or_bit_and_mask (by decide) (by omega)]
    · simp only [v,if_neg hw]
  · have hne : w &&& ~~~bit i≠slabBusy:=by
      intro hbusy
      have hbit:=eq_allOnes_iff.1 hbusy i hi
      rw [getLsbD_and_not_bit] at hbit
      simp at hbit
    refine iff_of_true ?_ hne
    by_cases hw : w=slabBusy
    · simp only [v,if_pos hw,smbSlabSmallSummaryBit]
      rw [getLsbD_or_bit (by omega),decide_eq_true rfl,Bool.or_true]
    · simp only [v,if_neg hw]
      exact (h.2 n hn).1.2 hw
  · by_cases hw : w=slabBusy
    · simp only [v,if_pos hw,smbSlabSmallSummaryBit]
      by_cases hm : slabMapShift+m<64
      · rw [getLsbD_or_bit hm,decide_eq_false (by omega),Bool.or_false]
      · rw [BitVec.getLsbD_of_ge _ _ (by omega),BitVec.getLsbD_of_ge _ _ (by omega)]
    · simp only [v,if_neg hw]
  · rw [getLsbD_and_not_bit,(h.2 n hn).2 j hj]
    by_cases hij : j=i
    · simp [hij]
    · rw [update_of_ne (by omega),decide_eq_false (Ne.symm hij),Bool.not_false,Bool.and_true]
  · omega

lemma forall_chunk_iff (hsmall : shift<6) {P : ℕ→Prop} :
    (∀ c<chunkCount shift, P c) ↔ ∀ n<chunkCount shift/64, ∀ i<64, P (64*n+i):=by
  have hmul:=smallMapWords_mul hsmall
  constructor
  · intro h n hn i hi
    exact h (64*n+i) (by omega)
  · intro h c hc
    have hdiv:=h (c/64) (by omega) (c % 64) (Nat.mod_lt c (by decide))
    rwa [Nat.div_add_mod] at hdiv

lemma SmallMap.full_iff (h : s.SmallMap l a shift used) (hmin : minShift ≤ shift) (hsmall : shift<6) :
    s.slab (.page a) &&& mask slabMapShift (chunkCount shift/64)=0 ↔ Full shift used:=by
  have hwords:=smallMapWords_lt hmin
  rw [and_mask_eq_zero_iff (by omega) (by rw [show slabMapShift=32 from rfl]; omega),Full,forall_chunk_iff hsmall]
  refine forall₂_congr fun n hn=>?_
  rw [← Bool.not_eq_true,(h.2 n hn).1,not_not,slabBusy,eq_allOnes_iff]
  exact forall₂_congr fun i hi=>by rw [(h.2 n hn).2 i hi]

end SlabState
end SoftMessageBus
