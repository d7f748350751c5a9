import SoftMessageBus.SlabChunks

/-!
# Allocating from a segment

An allocation takes a chunk of a page, or whole pages.
-/
namespace SoftMessageBus
open BitWords Function IntervalTiling LinkedRings List

def Ledger.takeChunk (L : Ledger) (a k : ℕ) (used : ℕ→Bool) (c : ℕ) : Ledger:=
  let L':=L.setExtent a ⟨1,.slab (minShift+k) (update used c true)⟩
  if Full (minShift+k) (update used c true) then
    L'.setRing (.slot k) ((L.ring (.slot k)).erase (.page a))
  else L'

namespace Represents
variable {l : SegmentLayout} {s : SlabState} {L : Ledger} {a k : ℕ} {used : ℕ→Bool}

lemma takeChunk (h : Represents l s L) (he : L.extents a=some ⟨1,.slab (minShift+k) used⟩)
    (hmem : .page a∈L.ring (.slot k)) (t : SlabState) (c : ℕ) (hnext : t.next=s.next) (hprev : t.prev=s.prev)
    (hslab : ∀ r ≠ .page a, t.slab r=s.slab r)
    (hmemory : ∀ w, (w<l.start+4096*a ∨ l.start+4096*a+4096≤w)→
      t.memory w=s.memory w) (hmap : t.ChunkMap l a (minShift+k) (update used c true))
    {s' : SlabState} (hs' : s' =
      if Full (minShift+k) (update used c true) then
        smbSlabDetachFullPage t (.page a) (slabTypeOf (minShift+k))
      else t) : Represents l s' (L.takeChunk a k used c):=by
  rw [hs']
  have hres : ∀ i < reservedChunks (minShift+k), update used c true i=true:=by
    intro i hi
    by_cases hic : i=c
    · rw [hic,update_self]
    · rw [update_of_ne hic]
      exact (h.coherent.slab a 1 _ used he).2.2.2 i hi
  have hset:=h.setMap he hnext hprev hslab hmemory hmap hres
  unfold Ledger.takeChunk
  split
  · exact hset.detach (L.extents_set_self a _) hmem
  · exact hset

lemma next_slot (h : Represents l s L) {rest : List SlabRef}
    (hring : L.ring (.slot k) = .page a::rest) : s.next (.slot k) = .page a:=by
  have hlinked:=(h.rings.linked (.slot k)).next_eq
  rw [hring] at hlinked
  exact hlinked

lemma walkPages_of_some {attempt : SlabRef→Option (ℕ × SlabState)} {page : SlabRef}
    {result : ℕ × SlabState} (h : attempt page=some result) (n : ℕ) :
    walkPages attempt s (n+1) page=some result:=by rw [walkPages,h]

lemma tryAllocExact (h : Represents l s L) (hl : l.WellFormed) (hexact : minShift+k=6)
    (he : L.extents a=some ⟨1,.slab (minShift+k) used⟩) (hmem : .page a∈L.ring (.slot k))
    (hfull : ¬Full (minShift+k) used) :
    ∃ c s', c<chunkCount (minShift+k) ∧ used c=false ∧
      smbSlabTryAllocExact l s (.page a) (minShift+k)=some (l.start+4096*a+c*2^(minShift+k),s') ∧
      Represents l s' (L.takeChunk a k used c):=by
  have hmap : s.ExactMap a used:=by
    have hdesc:=h.describes a _ he
    rw [SlabState.Describes,hexact] at hdesc
    exact (SlabState.chunkMap_exact.1 hdesc).2
  have htag : s.tag (.page a) = .exact:=by
    rw [h.tag_of_mem hmem,Head.tag,hexact]
    rfl
  rw [hexact,← hmap.full_iff] at hfull
  cases hclear : firstClear (s.slab (.page a)) 0 64 with
  | none=>
    rw [firstClear_eq_none_iff (by decide)] at hclear
    exact absurd (eq_allOnes_iff.2 fun i hi=>by simpa using hclear i hi) hfull
  | some c=>
    obtain ⟨hc,hfree⟩:=firstClear_eq_some (by decide) hclear
    rw [Nat.zero_add,hmap c hc] at hfree
    have htake:=hmap.take c
    refine ⟨c,takeExactChunk s (.page a) c,by rw [hexact]; exact hc,hfree,?_,?_⟩
    · refine walkPages_of_some ?_ _
      simp only [if_pos hfull,hclear,Option.map_some,hl.pageAddr_eq,Nat.shiftLeft_eq]
    · refine h.takeChunk he hmem (s.setSlab (.page a) (s.slab (.page a) ||| bit c)) c
        rfl rfl (fun r hr=>update_of_ne hr _ _) (fun w _=>rfl)
        (by rw [hexact]; exact SlabState.chunkMap_exact.2 ⟨htag,htake⟩) ?_
      rw [hexact]
      simp only [takeExactChunk,htake.full_iff]
      rfl

lemma tryAllocBig (h : Represents l s L) (hl : l.WellFormed) (hbig : 6 < minShift+k)
    (he : L.extents a=some ⟨1,.slab (minShift+k) used⟩) (hmem : .page a∈L.ring (.slot k))
    (hfull : ¬Full (minShift+k) used) :
    ∃ c s', c<chunkCount (minShift+k) ∧ used c=false ∧
      smbSlabTryAllocBig l s (.page a) (minShift+k)=some (l.start+4096*a+c*2^(minShift+k),s') ∧
      Represents l s' (L.takeChunk a k used c):=by
  obtain ⟨htag,hmap⟩:=(SlabState.chunkMap_big hbig).1 (h.describes a _ he)
  have hmax:=chunkCount_le hbig
  have hbits : slabMapShift+chunkCount (minShift+k)≤64:=by
    rw [show slabMapShift=32 from rfl]
    omega
  have hchunks : 2^(l.pagesizeShift-(s.slab (.page a) &&& slabShiftMask).toNat)=
      chunkCount (minShift+k):=by rw [hl.pagesizeShift_eq,hmap.1,chunkCount]
  rw [← hmap.full_iff hbig] at hfull
  cases hclear : firstClear (s.slab (.page a)) slabMapShift (chunkCount (minShift+k)) with
  | none=>
    rw [firstClear_eq_none_iff hbits] at hclear
    refine absurd ((hmap.full_iff hbig).2 fun c hc=>?_) hfull
    rw [← hmap.2.1 c hc]
    exact hclear c hc
  | some c=>
    obtain ⟨hc,hfree⟩:=firstClear_eq_some hbits hclear
    rw [hmap.2.1 c hc] at hfree
    have htake:=hmap.take hbig hc
    refine ⟨c,takeBigChunk s (.page a) (chunkCount (minShift+k)) c,hc,hfree,?_,?_⟩
    · rw [smbSlabTryAllocBig,hchunks]
      refine walkPages_of_some ?_ _
      simp only [ne_eq,if_pos hfull,hclear,Option.map_some,hl.pageAddr_eq,Nat.shiftLeft_eq]
    · refine h.takeChunk he hmem
        (s.setSlab (.page a) (s.slab (.page a) ||| bit (slabMapShift+c))) c rfl rfl
        (fun r hr=>update_of_ne hr _ _) (fun w _=>rfl)
        ((SlabState.chunkMap_big hbig).2 ⟨htag,htake⟩) ?_
      rw [slabTypeOf_big hbig]
      simp only [takeBigChunk,htake.full_iff hbig]

lemma findSmallChunk_eq_some (hl : l.WellFormed) (hmin : minShift ≤ minShift+k)
    (hsmall : minShift+k<6) (hmap : s.SmallMap l a (minShift+k) used) (hfull : ¬Full (minShift+k) used) :
    ∃ n i, findSmallChunk l s (.page a) (minShift+k)=some (n,i) ∧
      n<chunkCount (minShift+k)/64 ∧ i<64 ∧ used (64*n+i)=false:=by
  have hwords:=smallMapWords_lt hmin
  rw [← hmap.full_iff hmin hsmall] at hfull
  rw [findSmallChunk,smbSlabSmallSummaryMask,hl.smallMapWords_eq,if_neg hfull,hl.pageAddr_eq]
  cases hfound : (range (chunkCount (minShift+k)/64)).findSome? fun n=>
      if s.slab (.page a) &&& smbSlabSmallSummaryBit n=0 then none
      else (firstClear (s.memory (l.start+4096*a+8*n)) 0 64).map fun i=>(n,i) with
  | none=>
    refine absurd ?_ hfull
    rw [and_mask_eq_zero_iff (by omega) (by rw [show slabMapShift=32 from rfl]; omega)]
    intro n hn
    rw [findSome?_eq_none_iff] at hfound
    have hnone:=hfound n (mem_range.2 hn)
    by_contra hset
    rw [Bool.not_eq_false] at hset
    have hbit : ¬s.slab (.page a) &&& smbSlabSmallSummaryBit n=0:=by
      rw [smbSlabSmallSummaryBit,and_bit_eq_zero_iff (by rw [show slabMapShift=32 from rfl]; omega),hset]
      simp
    rw [if_neg hbit,Option.map_eq_none_iff,firstClear_eq_none_iff (by decide)] at hnone
    exact (hmap.2 n hn).1.1 hset (eq_allOnes_iff.2 fun i hi=>by simpa using hnone i hi)
  | some found=>
    obtain ⟨n,hn,hsome⟩:=exists_of_findSome?_eq_some hfound
    rw [mem_range] at hn
    split at hsome
    · cases hsome
    · obtain ⟨i,hclear,rfl⟩:=Option.map_eq_some_iff.1 hsome
      obtain ⟨hi,hfree⟩:=firstClear_eq_some (by decide) hclear
      rw [Nat.zero_add,(hmap.2 n hn).2 i hi] at hfree
      exact ⟨n,i,rfl,hn,hi,hfree⟩

lemma tryAllocSmall (h : Represents l s L) (hl : l.WellFormed) (hsmall : minShift+k<6)
    (he : L.extents a=some ⟨1,.slab (minShift+k) used⟩) (hmem : .page a∈L.ring (.slot k))
    (hfull : ¬Full (minShift+k) used) :
    ∃ c s', c<chunkCount (minShift+k) ∧ used c=false ∧
      smbSlabTryAllocSmall l s (.page a) (minShift+k)=some (l.start+4096*a+c*2^(minShift+k),s') ∧
      Represents l s' (L.takeChunk a k used c):=by
  obtain ⟨htag,hmap⟩:=(SlabState.chunkMap_small hsmall).1 (h.describes a _ he)
  have hmin : minShift ≤ minShift+k:=Nat.le_add_right _ _
  obtain ⟨n,i,hfound,hn,hi,hfree⟩:=findSmallChunk_eq_some hl hmin hsmall hmap hfull
  have hmul:=smallMapWords_mul hsmall
  have hword:=SlabState.mapWord_lt hn
  have htake:=hmap.take hn hi hfree
  refine ⟨64*n+i,takeSmallChunk l s (.page a) (minShift+k) n i,by omega,hfree,?_,?_⟩
  · refine walkPages_of_some ?_ _
    simp only [hfound,Option.map_some,hl.pageAddr_eq,Nat.shiftLeft_eq]
    rw [← Nat.add_mul,Nat.mul_comm n 64]
  · simp only at htake
    generalize hw : s.memory (l.start+4096*a+8*n) ||| bit i=w at htake
    generalize hv : (if w=slabBusy then s.slab (.page a) &&& ~~~smbSlabSmallSummaryBit n else s.slab (.page a))=v at htake
    refine h.takeChunk he hmem
      ((s.setSlab (.page a) v).setWord (l.start+4096*a+8*n) w) (64*n+i) rfl rfl
      (fun r hr=>update_of_ne hr _ _) (fun x hx=>update_of_ne (by omega) _ _)
      ((SlabState.chunkMap_small hsmall).2 ⟨htag,htake⟩) ?_
    have hfull_iff:=htake.full_iff hmin hsmall
    rw [slabTypeOf_small hsmall]
    simp only [takeSmallChunk,hl.pageAddr_eq,hw,SlabState.memory_setWord,update_self,
      ← hfull_iff,smbSlabSmallSummaryMask,hl.smallMapWords_eq]
    by_cases hbusy : w=slabBusy
    · rw [if_pos hbusy] at hv ⊢
      rw [← hv]
      rfl
    · rw [if_neg hbusy] at hv ⊢
      have hnotfull : ¬v &&& mask slabMapShift (chunkCount (minShift+k)/64)=0:=by
        rw [and_mask_eq_zero_iff (by have:=smallMapWords_lt hmin; omega)
          (by have:=smallMapWords_lt hmin; rw [show slabMapShift=32 from rfl]; omega)]
        intro hclear
        have hsummary:=(htake.2 n hn).1
        simp only [SlabState.slab_setWord,SlabState.slab_setSlab,update_self,SlabState.memory_setWord,
          hclear n hn,ne_eq,hbusy,not_false_eq_true,iff_true,Bool.false_eq_true] at hsummary
      simp only [SlabState.slab_setWord,SlabState.slab_setSlab,update_self,if_neg hnotfull]
      rw [← hv]
      simp [SlabState.setSlab]

lemma tryAllocSlot_cons (h : Represents l s L) (hl : l.WellFormed) {rest : List SlabRef}
    (hring : L.ring (.slot k) = .page a::rest)
    (he : L.extents a=some ⟨1,.slab (minShift+k) used⟩) (hfull : ¬Full (minShift+k) used) :
    ∃ c s', c<chunkCount (minShift+k) ∧ used c=false ∧
      tryAllocSlot l s (minShift+k)=some (l.start+4096*a+c*2^(minShift+k),s') ∧
      Represents l s' (L.takeChunk a k used c):=by
  have hmem : .page a∈L.ring (.slot k):=by
    rw [hring]
    exact mem_cons_self
  rw [tryAllocSlot,Nat.add_sub_cancel_left,h.next_slot hring,if_pos (h.rings.next_ne_self hmem),hl.slabExactShift_eq]
  rcases Nat.lt_trichotomy (minShift+k) 6 with hsmall | hexact | hbig
  · rw [if_pos hsmall]
    exact h.tryAllocSmall hl hsmall he hmem hfull
  · rw [if_neg (by omega),if_pos hexact]
    exact h.tryAllocExact hl hexact he hmem hfull
  · rw [if_neg (by omega),if_neg (by omega)]
    exact h.tryAllocBig hl hbig he hmem hfull

lemma tryAllocSlot_nil (h : Represents l s L) (hring : L.ring (.slot k)=[]) :
    tryAllocSlot l s (minShift+k)=some (0,s):=by
  have hnext : s.next (.slot k) = .slot k:=by
    have hlinked:=h.rings.linked (.slot k)
    rw [hring] at hlinked
    exact hlinked
  rw [tryAllocSlot,Nat.add_sub_cancel_left,hnext,if_neg (not_not_intro hnext)]

end Represents

def freshMap (shift c : ℕ) : Bool:=decide (c≤reservedChunks shift)

namespace Represents
variable {l : SegmentLayout} {s : SlabState} {L : Ledger} {a k : ℕ}

lemma linkFirstPage (h : RepresentsExcept l s L a) (he : L.extents a=some ⟨1,.run⟩)
    (hk : minShift+k<12) (hring : L.ring (.slot k)=[]) (w : Word)
    (hmap : (SoftMessageBus.linkFirstPage s (.page a) (.slot k) w
      (slabTypeOf (minShift+k))).ChunkMap l a (minShift+k) (freshMap (minShift+k))) :
    Represents l (SoftMessageBus.linkFirstPage s (.page a) (.slot k) w (slabTypeOf (minShift+k)))
      ((L.setExtent a ⟨1,.slab (minShift+k) (freshMap (minShift+k))⟩).setRing (.slot k) [.page a]):=by
  have hnext : s.next (.slot k) = .slot k:=by
    have hlinked:=h.rings.linked (.slot k)
    rw [hring] at hlinked
    exact hlinked
  have hcoh : (L.setExtent a ⟨1,.slab (minShift+k) (freshMap (minShift+k))⟩).Coherent
      l.realPages:=by
    refine h.coherent.setExtent he rfl (by simp) (by simp)
      (fun j hj=>absurd hj (h.notMem (.slot j))) (fun shift used hrole=>?_)
    cases hrole
    exact ⟨rfl,Nat.le_add_right _ _,hk,fun c hc=>decide_eq_true hc.le⟩
  refine h.link (.slot k) (fun r hr=>update_of_ne hr _ _) rfl ?_ (fun r hr=>?_) (fun p hpa=>?_)
    (hcoh.setSlot fun r hr=>?_) (fun b hba=>L.extents_set_of_ne hba _) ?_
    (L.extents_set_self a _) hmap
  · simp [SoftMessageBus.linkFirstPage,Head.ref,hnext]
  · rw [show (Head.slot k).ref = .slot k from rfl] at hr ⊢
    rw [hnext,update_of_ne hr]
    simp [SoftMessageBus.linkFirstPage]
  · simp only [SoftMessageBus.linkFirstPage,SlabState.tag_setNext,SlabState.tag_setPrev,SlabState.tag_setSlab]
    exact update_of_ne (by simpa using hpa) _ _
  · rw [mem_singleton] at hr
    exact ⟨a,_,hr,L.extents_set_self a _⟩
  · rw [hring]
    rfl

lemma linkFirstPage_fields (s : SlabState) (a k : ℕ) (w : Word) (t : SlabType) :
    (SoftMessageBus.linkFirstPage s (.page a) (.slot k) w t).slab (.page a)=w ∧
    (SoftMessageBus.linkFirstPage s (.page a) (.slot k) w t).tag (.page a)=t ∧
    (SoftMessageBus.linkFirstPage s (.page a) (.slot k) w t).memory=s.memory:=by
  simp [SoftMessageBus.linkFirstPage]

section
variable (h : Represents l s L) (hl : l.WellFormed) (he : L.extents a=some ⟨1,.run⟩) (hring : L.ring (.slot k)=[])
include h hl he hring

lemma initExactPage (hexact : minShift+k=6) :
    (smbSlabInitExactPage l s (.page a) (.slot k)).1=l.start+4096*a+reservedChunks (minShift+k)*2^(minShift+k) ∧
    Represents l (smbSlabInitExactPage l s (.page a) (.slot k)).2
      ((L.setExtent a ⟨1,.slab (minShift+k) (freshMap (minShift+k))⟩).setRing (.slot k) [.page a]):=by
  refine ⟨by rw [hexact]; exact hl.pageAddr_eq a,?_⟩
  have htype : slabTypeOf (minShift+k) = .exact:=by
    rw [hexact]
    rfl
  obtain ⟨hslab,htag,-⟩:=linkFirstPage_fields s a k 1 .exact
  rw [smbSlabInitExactPage,← htype]
  refine linkFirstPage (h.except (h.run_notMem he)) he (by omega) hring 1 ?_
  rw [htype,hexact,SlabState.chunkMap_exact]
  refine ⟨htag,fun c hc=>?_⟩
  rw [hslab,show (1 : Word)=BitVec.ofNat 64 (2^1-1) from rfl,BitVec.getLsbD_ofNat,
    Nat.testBit_two_pow_sub_one,decide_eq_true hc,Bool.true_and,freshMap]
  rw [show reservedChunks 6=0 from rfl]
  exact decide_eq_decide.2 Nat.lt_succ_iff

lemma initBigPage (hbig : 6 < minShift+k) (hk : minShift+k<12) :
    (smbSlabInitBigPage l s (.page a) (.slot k) (minShift+k)).1=l.start+4096*a+reservedChunks (minShift+k)*2^(minShift+k) ∧
    Represents l (smbSlabInitBigPage l s (.page a) (.slot k) (minShift+k)).2
      ((L.setExtent a ⟨1,.slab (minShift+k) (freshMap (minShift+k))⟩).setRing (.slot k) [.page a]):=by
  have hres : reservedChunks (minShift+k)=0:=by
    simp [reservedChunks,show minShift+k≠3 by omega,show minShift+k≠4 by omega,show minShift+k≠5 by omega]
  have htype:=slabTypeOf_big hbig
  refine ⟨by rw [hres,Nat.zero_mul]; exact hl.pageAddr_eq a,?_⟩
  obtain ⟨hslab,htag,-⟩:=linkFirstPage_fields s a k (bit slabMapShift ||| BitVec.ofNat 64 (minShift+k)) .big
  rw [smbSlabInitBigPage,← htype]
  refine linkFirstPage (h.except (h.run_notMem he)) he hk hring _ ?_
  rw [htype,SlabState.chunkMap_big hbig]
  have hbit (c : ℕ) (hc : c<32) : (bit slabMapShift ||| BitVec.ofNat 64 (minShift+k)).getLsbD
      (slabMapShift+c)=decide (c≤0):=by
    rw [map_field (by omega),bit,BitVec.getLsbD_twoPow,decide_eq_true (by decide),Bool.true_and]
    exact decide_eq_decide.2 (by omega)
  have hshift:=shift_field (show bit slabMapShift &&& slabShiftMask=0 by decide)
    (by omega : minShift+k<16)
  refine ⟨htag,by rw [hslab]; exact hshift,fun c hc=>?_,fun c hc hlt=>?_⟩
  · rw [hslab,hbit c (by have:=chunkCount_le hbig; omega),freshMap,hres]
  · have hpos : 0<chunkCount (minShift+k):=Nat.two_pow_pos _
    rw [hslab,hbit c hlt,decide_eq_false (by omega)]

end

lemma foldl_setWord (s : SlabState) (p m : ℕ) :
    let t:=(range' 1 m).foldl (fun s i=>s.setWord (p+8*i) 0) s
    t.slab=s.slab ∧ t.next=s.next ∧ t.prev=s.prev ∧
      (∀ n, 1≤n→n ≤ m→t.memory (p+8*n)=0) ∧
      ∀ w, (∀ n, 1≤n→n ≤ m→w≠p+8*n)→t.memory w=s.memory w:=by
  induction m with
  | zero=>
    refine ⟨rfl,rfl,rfl,fun n h1 h0=>by omega,fun w _=>rfl⟩
  | succ m ih=>
    obtain ⟨hslab,hnext,hprev,hzero,hother⟩:=ih
    rw [range'_1_concat,foldl_append]
    refine ⟨hslab,hnext,hprev,fun n h1 hn=>?_,fun w hw=>?_⟩
    · by_cases hnm : n=1+m
      · subst hnm
        exact update_self _ _ _
      · exact (update_of_ne (by omega) _ _).trans (hzero n h1 (by omega))
    · refine (update_of_ne (hw (1+m) (by omega) (by omega)) _ _).trans (hother w ?_)
      intro n h1 hn
      exact hw n h1 (by omega)

lemma getLsbD_firstWord (shift : ℕ) {i : ℕ} (hi : i<64) :
    (BitVec.ofNat 64 (2*2^reservedChunks shift-1)).getLsbD i=freshMap shift i:=by
  rw [BitVec.getLsbD_ofNat,← Nat.pow_succ',Nat.testBit_two_pow_sub_one,decide_eq_true hi,Bool.true_and,freshMap]
  exact decide_eq_decide.2 Nat.lt_succ_iff

lemma firstWord_ne_busy (shift : ℕ) : BitVec.ofNat 64 (2*2^reservedChunks shift-1)≠slabBusy:=by
  intro hbusy
  have hle:=reservedChunks_le shift
  have hbit:=eq_allOnes_iff.1 hbusy 63 (by decide)
  rw [getLsbD_firstWord shift (by decide),freshMap,decide_eq_true_eq] at hbit
  omega

section
variable (h : Represents l s L) (hl : l.WellFormed) (he : L.extents a=some ⟨1,.run⟩) (hring : L.ring (.slot k)=[])
include h hl he hring

lemma initSmallPage (hsmall : minShift+k<6) :
    (smbSlabInitSmallPage l s (.page a) (.slot k) (minShift+k)).1=
      l.start+4096*a+reservedChunks (minShift+k)*2^(minShift+k) ∧
    Represents l (smbSlabInitSmallPage l s (.page a) (.slot k) (minShift+k)).2
      ((L.setExtent a ⟨1,.slab (minShift+k) (freshMap (minShift+k))⟩).setRing (.slot k) [.page a]):=by
  have hmin : minShift ≤ minShift+k:=Nat.le_add_right _ _
  have hwords:=smallMapWords_lt hmin
  have htype:=slabTypeOf_small hsmall
  have hne:=firstWord_ne_busy (minShift+k)
  have hbits (i : ℕ) (hi : i<64):=getLsbD_firstWord (minShift+k) hi
  have hres:=reservedChunks_le (minShift+k)
  simp only [smbSlabInitSmallPage,hl.pageAddr_eq,hl.reservedWords_eq hmin hsmall,
    hl.smallMapWords_eq,smbSlabSmallSummaryMask]
  refine ⟨by rw [Nat.mul_comm (2^(minShift+k))],?_⟩
  generalize BitVec.ofNat 64 (2*2^reservedChunks (minShift+k)-1)=first at*
  obtain ⟨hslab,hnext,hprev,hzero,hother⟩:=
    foldl_setWord (s.setWord (l.start+4096*a) first) (l.start+4096*a) (chunkCount (minShift+k)/64-1)
  generalize (range' 1 (chunkCount (minShift+k)/64-1)).foldl
    (fun s i=>s.setWord (l.start+4096*a+8*i) 0) (s.setWord (l.start+4096*a) first)=t
    at*
  have hfirst : t.memory (l.start+4096*a)=first:=by
    rw [hother _ fun n h1 _=>by omega]
    exact update_self _ _ _
  have hagree : AgreesOutside l s t a 1:=by
    refine ⟨fun r _=>congrFun hslab r,fun r _=>congrFun hnext r,fun r _=>congrFun hprev r,fun w hw=>?_⟩
    rw [hother w fun n h1 hn=>by omega]
    exact update_of_ne (by omega) _ _
  rw [if_neg (by rw [hfirst]; exact hne),BitVec.or_comm,← htype]
  refine linkFirstPage ((h.except (h.run_notMem he)).agreesOutside he hagree) he (by omega) hring _ ?_
  obtain ⟨hslab',htag',hmem'⟩:=linkFirstPage_fields t a k
    (mask slabMapShift (chunkCount (minShift+k)/64) ||| BitVec.ofNat 64 (minShift+k)) .small
  rw [htype,SlabState.chunkMap_small hsmall]
  refine ⟨htag',?_,fun n hn=>?_⟩
  · rw [hslab']
    refine shift_field ?_ (by omega)
    apply BitVec.eq_of_getLsbD_eq
    intro i hi
    rw [BitVec.getLsbD_and,getLsbD_mask (by omega) (by rw [show slabMapShift=32 from rfl]; omega),
      slabShiftMask_eq,getLsbD_mask (by decide) (by decide),show slabMapShift=32 from rfl]
    by_cases hi4 : i<4
    · simp [show ¬32 ≤ i by omega]
    · simp [hi4]
  · have hsummary : (mask slabMapShift (chunkCount (minShift+k)/64) |||
        BitVec.ofNat 64 (minShift+k)).getLsbD (slabMapShift+n)=true:=by
      rw [map_field (by omega),getLsbD_mask (by omega) (by rw [show slabMapShift=32 from rfl]; omega)]
      simp [hn]
    rw [hslab',hmem',hsummary]
    by_cases hn0 : n=0
    · subst hn0
      rw [Nat.mul_zero,Nat.add_zero,hfirst]
      refine ⟨iff_of_true rfl hne,fun i hi=>?_⟩
      rw [Nat.zero_add]
      exact hbits i hi
    · rw [hzero n (by omega) (by omega)]
      refine ⟨iff_of_true rfl (by decide),fun i _=>?_⟩
      rw [freshMap,decide_eq_false (by omega)]
      exact BitVec.getLsbD_zero

lemma initPage (hk : minShift+k<12) :
    (SoftMessageBus.initPage l s (.page a) (minShift+k)).1=l.start+4096*a+reservedChunks (minShift+k)*2^(minShift+k) ∧
    Represents l (SoftMessageBus.initPage l s (.page a) (minShift+k)).2
      ((L.setExtent a ⟨1,.slab (minShift+k) (freshMap (minShift+k))⟩).setRing (.slot k) [.page a]):=by
  rw [SoftMessageBus.initPage,Nat.add_sub_cancel_left,hl.slabExactShift_eq]
  rcases Nat.lt_trichotomy (minShift+k) 6 with hsmall | hexact | hbig
  · rw [if_pos hsmall]
    exact h.initSmallPage hl he hring hsmall
  · rw [if_neg (by omega),if_pos hexact]
    exact h.initExactPage hl he hring hexact
  · rw [if_neg (by omega),if_neg (by omega)]
    exact h.initBigPage hl he hring hbig hk

end
end Represents
namespace Ledger
variable {L : Ledger} {a k c n : ℕ} {used : ℕ→Bool}

lemma extents_takeChunk_self :
    (L.takeChunk a k used c).extents a=some ⟨1,.slab (minShift+k) (update used c true)⟩:=by
  unfold takeChunk
  split <;> simp

variable {b : ℕ}

lemma extents_takeChunk_of_ne (hba : b≠a) : (L.takeChunk a k used c).extents b=L.extents b:=by
  unfold takeChunk
  split <;> simp [hba]

lemma settled_takeChunk (h : L.Settled) (hmem : .page a∈L.ring (.slot k))
    (hnodup : (L.ring (.slot k)).Nodup) : (L.takeChunk a k used c).Settled:=by
  intro b shift used' hb
  by_cases hba : b=a
  · subst hba
    rw [extents_takeChunk_self,Option.some.injEq,Extent.mk.injEq,Role.slab.injEq] at hb
    obtain ⟨-,rfl,rfl⟩:=hb
    rw [Nat.add_sub_cancel_left,takeChunk]
    by_cases hfull : Full (minShift+k) (update used c true)
    · simp [hfull,hnodup.not_mem_erase]
    · simp [hfull,hmem]
  · rw [extents_takeChunk_of_ne hba] at hb
    rw [← h b shift used' hb,takeChunk]
    by_cases hfull : Full (minShift+k) (update used c true)
    · rw [if_pos hfull]
      by_cases hslot : shift-minShift=k
      · rw [hslot,ring_setRing_self]
        exact mem_erase_of_ne (by simpa using hba)
      · rw [ring_setRing_of_ne _ (by simpa using hslot),ring_setExtent]
    · rw [if_neg hfull,ring_setExtent]

section
variable (h : L.Coherent n) (he : L.extents a=some ⟨1,.slab (minShift+k) used⟩)
  (hc : c<chunkCount (minShift+k)) (hfree : used c=false)
include h he hc hfree

lemma Coherent.block_takeChunk (off len : ℕ) :
    (L.takeChunk a k used c).Block off len ↔ L.Block off len ∨ (off=4096*a+c*2^(minShift+k) ∧ len=2^(minShift+k)):=by
  refine block_add (fun b hba=>blockAt_of_extents (extents_takeChunk_of_ne hba)) ?_ off len
  intro o len
  rw [blockAt_slab_iff extents_takeChunk_self,blockAt_slab_iff he]
  have hres : reservedChunks (minShift+k)≤c:=by
    by_contra hlt
    have hused:=(h.slab a 1 _ used he).2.2.2 c (by omega)
    rw [hfree] at hused
    cases hused
  constructor
  · rintro ⟨d,hd,hdc,hused,rfl,rfl⟩
    by_cases heq : d=c
    · subst heq
      exact .inr ⟨rfl,rfl⟩
    · rw [update_of_ne heq] at hused
      exact .inl ⟨d,hd,hdc,hused,rfl,rfl⟩
  · rintro (⟨d,hd,hdc,hused,rfl,rfl⟩ | ⟨rfl,rfl⟩)
    · refine ⟨d,hd,hdc,?_,rfl,rfl⟩
      by_cases heq : d=c
      · rw [heq,update_self]
      · rw [update_of_ne heq,hused]
    · exact ⟨c,hres,hc,update_self _ _ _,rfl,rfl⟩

lemma Coherent.occupied_takeChunk (hocc : L.Occupied) : (L.takeChunk a k used c).Occupied:=by
  refine hocc.of_extents a (fun b hba e hb _=>(extents_takeChunk_of_ne hba).symm.trans hb) fun e hb _=>?_
  rw [extents_takeChunk_self,Option.some.injEq] at hb
  subst hb
  have hres : reservedChunks (minShift+k)≤c:=by
    by_contra hlt
    have hused:=(h.slab a 1 _ used he).2.2.2 c (by omega)
    rw [hfree] at hused
    cases hused
  exact ⟨_,_,c,hres,hc,update_self _ _ _,rfl,rfl⟩

lemma Coherent.block_disjoint_chunk {off len : ℕ} (hblock : L.Block off len) :
    off+len≤4096*a+c*2^(minShift+k) ∨ 4096*a+c*2^(minShift+k)+2^(minShift+k)≤off:=by
  obtain ⟨b,e,o,hb,hblock,rfl⟩:=hblock
  have hmul:=Nat.mul_le_mul_right (2^(minShift+k)) (Nat.succ_le_of_lt hc)
  rw [chunkCount_mul (h.slab a 1 _ used he).2.2.1,Nat.succ_mul] at hmul
  by_cases hba : b=a
  · subst hba
    rw [he,Option.some.injEq] at hb
    subst hb
    obtain ⟨d,-,-,hused,rfl,rfl⟩:=hblock
    have hdc : d≠c:=by
      rintro rfl
      rw [hfree] at hused
      cases hused
    rcases Nat.lt_or_gt_of_ne hdc with hlt | hlt
    · have hle:=Nat.mul_le_mul_right (2^(minShift+k)) (Nat.succ_le_of_lt hlt)
      rw [Nat.succ_mul] at hle
      omega
    · have hle:=Nat.mul_le_mul_right (2^(minShift+k)) (Nat.succ_le_of_lt hlt)
      rw [Nat.succ_mul] at hle
      omega
  · exact h.disjoint_of_ne hb he hba (h.block_le hb hblock) hmul

lemma Coherent.not_block_chunk (len : ℕ) : ¬L.Block (4096*a+c*2^(minShift+k)) len:=by
  intro hblock
  have hpos:=Nat.two_pow_pos (minShift+k)
  have hlen : 0<len:=by
    obtain ⟨b,e,o,hb,hblock,-⟩:=hblock
    exact hblock.pos (h.extent_pos hb)
  rcases h.block_disjoint_chunk he hc hfree hblock with hle | hle <;> omega

end

lemma extents_claimPages_self : (L.claimPages a k n).extents a=some ⟨k,.run⟩:=by
  unfold claimPages
  split <;> rw [extents_setRing,extents_set_self]

lemma extents_claimPages_of_ne (hba : b≠a) :
    (L.claimPages a k n).extents b=if k<n ∧ b=a+k then some ⟨n-k,.free⟩ else L.extents b:=by
  unfold claimPages
  by_cases hlt : k<n
  · rw [if_pos hlt,extents_setRing,extents_set_of_ne _ hba]
    by_cases hb : b=a+k
    · rw [if_pos ⟨hlt,hb⟩,hb,extents_set_self]
    · rw [if_neg (fun h=>hb h.2),extents_set_of_ne _ hb]
  · rw [if_neg hlt,if_neg (fun h=>hlt h.1),extents_setRing,extents_set_of_ne _ hba]

lemma ring_claimPages_slot (j : ℕ) : (L.claimPages a k n).ring (.slot j)=L.ring (.slot j):=by
  unfold claimPages
  split <;> rw [ring_setRing_of_ne _ (by simp)] <;> rfl

lemma settled_claimPages (h : L.Settled) : (L.claimPages a k n).Settled:=by
  intro b shift used hb
  rw [ring_claimPages_slot]
  by_cases hba : b=a
  · subst hba
    rw [extents_claimPages_self,Option.some.injEq,Extent.mk.injEq] at hb
    cases hb.2
  · rw [extents_claimPages_of_ne hba] at hb
    split at hb
    · rw [Option.some.injEq,Extent.mk.injEq] at hb
      cases hb.2
    · exact h b shift used hb

lemma occupied_claimPages (hocc : L.Occupied) : (L.claimPages a k n).Occupied:=by
  refine hocc.of_extents a (fun b hba e hb hrole=>?_) fun e hb _=>?_
  · rw [extents_claimPages_of_ne hba] at hb
    split at hb
    · cases hb
      exact absurd rfl hrole
    · exact hb
  · rw [extents_claimPages_self,Option.some.injEq] at hb
    subst hb
    exact ⟨0,4096*k,rfl,rfl⟩

variable {N : ℕ}

section
variable (h : L.Coherent N) (he : L.extents a=some ⟨n,.free⟩)
include h he

lemma Coherent.blockAt_claimPages (hk : 0<k) (hba : b≠a) (o len : ℕ) :
    (L.claimPages a k n).BlockAt b o len ↔ L.BlockAt b o len:=by
  by_cases hb : k<n ∧ b=a+k
  · have hfree : (L.claimPages a k n).extents b=some ⟨n-k,.free⟩:=by
      rw [extents_claimPages_of_ne hba,if_pos hb]
    have hnone : L.extents b=none:=by
      have hlen:=h.tiles.eq_none_of_inside (p:=b) (len_of_extents he) (by simp only; omega)
      rwa [Ledger.len,Option.map_eq_none_iff] at hlen
    exact iff_of_false (not_blockAt_of_free hfree o len) (not_blockAt_of_none hnone o len)
  · exact blockAt_of_extents (by rw [extents_claimPages_of_ne hba,if_neg hb]) o len

lemma Coherent.not_block_free {o : ℕ} (ho : o<4096*n) (len : ℕ) : ¬L.Block (4096*a+o) len:=by
  rintro ⟨b,e,o',hb,hblock,hoff⟩
  have hlen:=hblock.pos (h.extent_pos hb)
  by_cases hba : b=a
  · subst hba
    rw [he,Option.some.injEq] at hb
    subst hb
    exact hblock
  · rcases h.disjoint_of_ne hb he hba (h.block_le hb hblock) (by simp only; omega : o+1≤4096*_) with hlt | hlt <;> omega

lemma Coherent.block_claimPages (hk : 0<k) (off len : ℕ) :
    (L.claimPages a k n).Block off len ↔ L.Block off len ∨ (off=4096*a+0 ∧ len=4096*k):=by
  refine block_add (fun b hba=>h.blockAt_claimPages he hk hba) (fun o len=>?_) off len
  rw [blockAt_run_iff extents_claimPages_self]
  exact ⟨.inr,fun hb=>hb.resolve_left (not_blockAt_of_free he o len)⟩

end

def formatPage (L : Ledger) (a k n : ℕ) : Ledger:=
  ((L.claimPages a 1 n).setExtent a ⟨1,.slab (minShift+k) (freshMap (minShift+k))⟩).setRing (.slot k) [.page a]

lemma extents_formatPage_self :
    (L.formatPage a k n).extents a=some ⟨1,.slab (minShift+k) (freshMap (minShift+k))⟩:=by
  rw [formatPage,extents_setRing,extents_set_self]

lemma extents_formatPage_of_ne (hba : b≠a) :
    (L.formatPage a k n).extents b=(L.claimPages a 1 n).extents b:=by
  rw [formatPage,extents_setRing,extents_set_of_ne _ hba]

lemma settled_formatPage (h : L.Settled) (hk : minShift+k<12)
    (hring : L.ring (.slot k)=[]) : (L.formatPage a k n).Settled:=by
  intro b shift used hb
  by_cases hba : b=a
  · subst hba
    rw [extents_formatPage_self,Option.some.injEq,Extent.mk.injEq,Role.slab.injEq] at hb
    obtain ⟨-,rfl,rfl⟩:=hb
    rw [Nat.add_sub_cancel_left,formatPage,ring_setRing_self]
    refine iff_of_true mem_cons_self fun hfull=>?_
    have hlt:=reservedChunks_lt (Nat.le_add_right minShift k) hk
    have hused:=hfull (reservedChunks (minShift+k)+1) hlt
    rw [freshMap,decide_eq_true_eq] at hused
    omega
  · rw [extents_formatPage_of_ne hba] at hb
    have hsettled:=settled_claimPages (a:=a) (k:=1) (n:=n) h b shift used hb
    by_cases hslot : shift-minShift=k
    · rw [hslot,ring_claimPages_slot,hring] at hsettled
      rw [hslot,formatPage,ring_setRing_self,← hsettled]
      refine iff_of_false ?_ not_mem_nil
      simpa using hba
    · rw [← hsettled,formatPage,ring_setRing_of_ne _ (by simpa using hslot),ring_setExtent]

lemma occupied_formatPage (hk : minShift+k<12) (hocc : L.Occupied) : (L.formatPage a k n).Occupied:=by
  refine (occupied_claimPages (a:=a) (k:=1) (n:=n) hocc).of_extents a
    (fun b hba e hb _=>(extents_formatPage_of_ne hba).symm.trans hb) fun e hb _=>?_
  rw [extents_formatPage_self,Option.some.injEq] at hb
  subst hb
  have hlt:=reservedChunks_lt (Nat.le_add_right minShift k) hk
  exact ⟨_,_,_,le_rfl,by omega,decide_eq_true le_rfl,rfl,rfl⟩

lemma Coherent.block_formatPage (h : L.Coherent N) (he : L.extents a=some ⟨n,.free⟩) (hk : minShift+k<12) (off len : ℕ) :
    (L.formatPage a k n).Block off len ↔ L.Block off len ∨
      (off=4096*a+reservedChunks (minShift+k)*2^(minShift+k) ∧ len=2^(minShift+k)):=by
  refine block_add (fun b hba o len=>?_) (fun o len=>?_) off len
  · exact (blockAt_of_extents (extents_formatPage_of_ne hba) o len).trans (h.blockAt_claimPages he Nat.one_pos hba o len)
  · rw [blockAt_slab_iff extents_formatPage_self]
    have hlt:=reservedChunks_lt (Nat.le_add_right minShift k) hk
    constructor
    · rintro ⟨c,hc,-,hused,rfl,rfl⟩
      rw [freshMap,decide_eq_true_eq] at hused
      obtain rfl : c=reservedChunks (minShift+k):=by omega
      exact .inr ⟨rfl,rfl⟩
    · rintro (hb | ⟨rfl,rfl⟩)
      · exact absurd hb (not_blockAt_of_free he o len)
      · exact ⟨_,le_rfl,by omega,decide_eq_true le_rfl,rfl,rfl⟩

end Ledger

def slabCapacity (l : SegmentLayout) (size : ℕ) : ℕ:=
  if l.slabMaxSize ≤ size then slabPages l size*l.pagesize else 2^slabShift size

lemma slabShift_bounds {size : ℕ} (h : size<2048) : minShift ≤ slabShift size ∧ slabShift size<12:=by
  have hmin : minShift=3:=rfl
  have hminS : minSize=8:=rfl
  unfold slabShift
  split
  · have hlo : 3≤Nat.log2 (size-1):=(Nat.le_log2 (by omega)).2 (by omega)
    have hhi : Nat.log2 (size-1)<11:=(Nat.log2_lt (by omega)).2 (by omega)
    omega
  · omega

lemma le_two_pow_slabShift (size : ℕ) : size≤2^slabShift size:=by
  have hminS : minSize=8:=rfl
  unfold slabShift
  split
  · have hlt:=Nat.lt_log2_self (n:=size-1)
    omega
  · have hpow : 2^minShift=8:=rfl
    omega

lemma SegmentLayout.WellFormed.le_slabCapacity {l : SegmentLayout} (hl : l.WellFormed)
    (size : ℕ) : size ≤ slabCapacity l size:=by
  unfold slabCapacity
  split
  · rw [slabPages,hl.pagesize_eq,hl.pagesizeShift_eq,Nat.shiftRight_eq_div_pow]
    split <;> omega
  · exact le_two_pow_slabShift size

namespace Represents
variable {l : SegmentLayout} {s : SlabState} {L : Ledger}

section
variable (h : Represents l s L) (hl : l.WellFormed) (hs : L.Settled)
include h hl hs

lemma alloc_pages {size : ℕ} (hsize : l.slabMaxSize ≤ size) :
    ∃ p s' L', smbSlabAllocLocked l s size=some (p,s') ∧ Represents l s' L' ∧ L'.Settled ∧
      (L.Occupied→L'.Occupied) ∧ ((p=0 ∧ L'=L) ∨ ∃ off, p=l.start+off ∧
        (∀ len, ¬L.Block off len) ∧ ∀ o len, L'.Block o len ↔ L.Block o len ∨ (o=off ∧ len=slabCapacity l size)):=by
  have hpages : 0<slabPages l size:=by
    rw [hl.slabMaxSize_eq] at hsize
    rw [slabPages,hl.pagesize_eq,hl.pagesizeShift_eq,Nat.shiftRight_eq_div_pow]
    split <;> omega
  have hcap : slabCapacity l size=4096*slabPages l size:=by
    rw [slabCapacity,if_pos hsize,hl.pagesize_eq,Nat.mul_comm]
  rw [smbSlabAllocLocked,if_pos hsize,hcap]
  rcases h.allocPages hl hpages with ⟨b,n,hb,hkn,halloc,hrep⟩ | ⟨-,halloc⟩
  · rw [halloc]
    refine ⟨_,_,_,rfl,hrep,Ledger.settled_claimPages hs,Ledger.occupied_claimPages,.inr ⟨4096*b+0,?_,?_,?_⟩⟩
    · simp [hl.pageAddr_eq]
    · exact h.coherent.not_block_free hb (by have:=h.coherent.extent_pos hb; simp only at this; omega)
    · exact h.coherent.block_claimPages hb hpages
  · rw [halloc]
    exact ⟨_,_,L,rfl,h,hs,id,.inl ⟨by simp,rfl⟩⟩

lemma alloc_chunk {size : ℕ} (hsize : ¬l.slabMaxSize ≤ size) :
    ∃ p s' L', smbSlabAllocLocked l s size=some (p,s') ∧ Represents l s' L' ∧ L'.Settled ∧
      (L.Occupied→L'.Occupied) ∧ ((p=0 ∧ L'=L) ∨ ∃ off, p=l.start+off ∧
        (∀ len, ¬L.Block off len) ∧ ∀ o len, L'.Block o len ↔ L.Block o len ∨ (o=off ∧ len=slabCapacity l size)):=by
  have hpos:=hl.start_pos
  have hlt : size<2048:=by
    rw [hl.slabMaxSize_eq] at hsize
    omega
  have hbounds:=slabShift_bounds hlt
  rw [smbSlabAllocLocked,if_neg hsize,slabCapacity,if_neg hsize]
  generalize slabShift size=shift at hbounds
  obtain ⟨k,rfl⟩:=Nat.exists_eq_add_of_le hbounds.1
  cases hring : L.ring (.slot k) with
  | nil=>
    rw [h.tryAllocSlot_nil hring]
    simp only [Option.bind_some,ne_eq,not_true_eq_false,if_false]
    rcases h.allocPages hl Nat.one_pos with ⟨b,n,hb,-,halloc,hrep⟩ | ⟨-,halloc⟩
    · obtain ⟨haddr,hinit⟩:=hrep.initPage hl Ledger.extents_claimPages_self
        ((Ledger.ring_claimPages_slot k).trans hring) hbounds.2
      rw [halloc]
      simp only [Option.map_some,reduceCtorEq,not_false_eq_true,if_true]
      refine ⟨_,_,L.formatPage b k n,rfl,hinit,Ledger.settled_formatPage hs hbounds.2 hring,
        Ledger.occupied_formatPage hbounds.2,.inr ⟨_,haddr.trans (Nat.add_assoc _ _ _),?_,h.coherent.block_formatPage hb hbounds.2⟩⟩
      refine h.coherent.not_block_free hb ?_
      have hn:=h.coherent.extent_pos hb
      have hlt:=reservedChunks_lt hbounds.1 hbounds.2
      have hmul:=Nat.mul_lt_mul_of_pos_right (Nat.lt_of_succ_lt hlt) (Nat.two_pow_pos (minShift+k))
      rw [chunkCount_mul hbounds.2] at hmul
      simp only at hn
      omega
    · rw [halloc]
      exact ⟨_,_,L,rfl,h,hs,id,.inl ⟨by simp,rfl⟩⟩
  | cons r rest=>
    have hmem : r∈L.ring (.slot k):=by
      rw [hring]
      exact mem_cons_self
    obtain ⟨a,used,rfl,ha⟩:=h.coherent.mem_slot k r hmem
    have hfull : ¬Full (minShift+k) used:=by
      rw [← hs a _ used ha,Nat.add_sub_cancel_left]
      exact hmem
    obtain ⟨c,s',hc,hfree,htry,hrep⟩:=h.tryAllocSlot_cons hl hring ha hfull
    rw [htry]
    simp only [Option.bind_some,ne_eq]
    rw [if_pos (by omega)]
    refine ⟨_,_,_,rfl,hrep,Ledger.settled_takeChunk hs hmem (h.rings.nodup (.slot k)),
      h.coherent.occupied_takeChunk ha hc hfree,.inr ⟨_,Nat.add_assoc _ _ _,?_,h.coherent.block_takeChunk ha hc hfree⟩⟩
    exact h.coherent.not_block_chunk ha hc hfree

lemma alloc (size : ℕ) :
    ∃ p s' L', smbSlabAllocLocked l s size=some (p,s') ∧ Represents l s' L' ∧ L'.Settled ∧
      (L.Occupied→L'.Occupied) ∧ ((p=0 ∧ L'=L) ∨ ∃ off, p=l.start+off ∧
        (∀ len, ¬L.Block off len) ∧ ∀ o len, L'.Block o len ↔ L.Block o len ∨ (o=off ∧ len=slabCapacity l size)):=by
  by_cases hsize : l.slabMaxSize ≤ size
  · exact h.alloc_pages hl hs hsize
  · exact h.alloc_chunk hl hs hsize

end
end Represents
end SoftMessageBus
