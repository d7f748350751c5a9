import SoftMessageBus.SlabAllocation

/-!
# Freeing a block of a segment

Freeing a block gives back its chunk or its pages.
-/
namespace SoftMessageBus
open BitWords Function List

lemma SegmentLayout.WellFormed.chunk_addr {l : SegmentLayout} (hl : l.WellFormed)
    {a shift c : ℕ} (hshift : shift<12) (hc : c<chunkCount shift) :
    let p:=l.start+4096*a+c*2^shift
    (p-l.start) >>> l.pagesizeShift=a ∧ p &&& (2^shift-1)=0 ∧
      (p &&& (l.pagesize-1)) >>> shift=c ∧
      p-(p &&& (l.pagesize-1))=l.start+4096*a:=by
  intro p
  obtain ⟨t,ht⟩:=hl.start_aligned
  have hlt : c*2^shift<4096:=by
    rw [← chunkCount_mul hshift]
    exact Nat.mul_lt_mul_of_pos_right hc (Nat.two_pow_pos shift)
  have hmod : p &&& (l.pagesize-1)=c*2^shift:=by
    rw [hl.pagesize_eq,show 4096-1=2^12-1 from rfl,Nat.and_two_pow_sub_one_eq_mod]
    simp only [p,ht]
    omega
  refine ⟨?_,?_,?_,?_⟩
  · rw [hl.pagesizeShift_eq,Nat.shiftRight_eq_div_pow]
    simp only [p]
    omega
  · rw [Nat.and_two_pow_sub_one_eq_mod]
    apply Nat.mod_eq_zero_of_dvd
    have hdvd : 2^shift ∣ 4096:=⟨chunkCount shift,by rw [Nat.mul_comm,chunkCount_mul hshift]⟩
    simp only [p,ht]
    exact Nat.dvd_add (Nat.dvd_add (hdvd.mul_right t) (hdvd.mul_right a)) (Nat.dvd_mul_left _ _)
  · rw [hmod,Nat.shiftRight_eq_div_pow,Nat.mul_div_cancel _ (Nat.two_pow_pos shift)]
  · rw [hmod]
    simp only [p]
    omega

def Vacant (shift : ℕ) (used : ℕ→Bool) : Prop:=∀ c<chunkCount shift, reservedChunks shift≤c→used c=false

instance (shift : ℕ) (used : ℕ→Bool) : Decidable (Vacant shift used):=
  inferInstanceAs (Decidable (∀ c<chunkCount shift, reservedChunks shift≤c→used c=false))

namespace SlabState
variable {l : SegmentLayout} {s : SlabState} {a shift : ℕ} {used : ℕ→Bool}

lemma ExactMap.vacant_iff (h : s.ExactMap a used) : s.slab (.page a)=0 ↔ Vacant 6 used:=by
  rw [eq_zero_iff]
  refine forall₂_congr fun c hc=>?_
  rw [h c hc]
  exact ⟨fun hfree _=>hfree,fun hfree=>hfree (Nat.zero_le c)⟩

lemma BigMap.vacant_iff (h : s.BigMap a shift used) (hbig : 6<shift) :
    s.slab (.page a) &&& slabMapMask=0 ↔ Vacant shift used:=by
  have hmax:=chunkCount_le hbig
  have hres : reservedChunks shift=0:=by
    simp [reservedChunks,show shift≠3 by omega,show shift≠4 by omega,show shift≠5 by omega]
  rw [slabMapMask_eq,and_mask_eq_zero_iff (by decide) (by decide),Vacant,hres]
  constructor
  · intro hclear c hc _
    rw [← h.2.1 c hc]
    exact hclear c (by omega)
  · intro hvac c hc
    rw [show 32=slabMapShift from rfl]
    by_cases hcc : c<chunkCount shift
    · rw [h.2.1 c hcc]
      exact hvac c hcc (Nat.zero_le c)
    · exact h.2.2 c (Nat.not_lt.1 hcc) hc

lemma SmallMap.vacant_iff (h : s.SmallMap l a shift used) (hsmall : shift<6) :
    (s.memory (l.start+4096*a) &&& ~~~mask 0 (reservedChunks shift)=0 ∧
      ∀ n∈range' 1 (chunkCount shift/64-1), s.memory (l.start+4096*a+8*n)=0) ↔
    Vacant shift used:=by
  have hres:=reservedChunks_le shift
  have hpos : 0<chunkCount shift/64:=by
    have hmul:=smallMapWords_mul hsmall
    have hcount : 0<chunkCount shift:=Nat.two_pow_pos _
    omega
  have hfirst:=h.2 0 hpos
  rw [Nat.mul_zero,Nat.add_zero] at hfirst
  rw [and_not_mask_eq_zero_iff (by omega),Vacant,forall_chunk_iff hsmall]
  constructor
  · rintro ⟨hlow,hrest⟩ n hn i hi hle
    by_cases hn0 : n=0
    · subst hn0
      rw [← hfirst.2 i hi]
      exact hlow i hi (by omega)
    · rw [← (h.2 n hn).2 i hi,hrest n (mem_range'_1.2 (by omega))]
      exact BitVec.getLsbD_zero
  · intro hvac
    refine ⟨fun i hi hle=>?_,fun n hn=>?_⟩
    · have hbit:=hvac 0 hpos i hi (by omega)
      rwa [← hfirst.2 i hi] at hbit
    · rw [mem_range'_1] at hn
      rw [eq_zero_iff]
      intro i hi
      rw [(h.2 n (by omega)).2 i hi]
      exact hvac n (by omega) i hi (by omega)

lemma SmallMap.freeVacant_eq (h : s.SmallMap l a shift used) (hsmall : shift<6) {t : SlabState} :
    (if s.memory (l.start+4096*a) &&& ~~~mask 0 (reservedChunks shift)≠0 then s
      else if (range' 1 (chunkCount shift/64-1)).any fun n=>
          s.memory (l.start+4096*a+8*n)≠0 then s
      else t)=if Vacant shift used then t else s:=by
  have hvac:=h.vacant_iff hsmall
  split
  next hfirst=>rw [if_neg fun hv=>hfirst (hvac.2 hv).1]
  next hfirst=>
    split
    next hrest=>
      obtain ⟨n,hn,hword⟩:=List.any_eq_true.1 hrest
      rw [if_neg fun hv=>of_decide_eq_true hword ((hvac.2 hv).2 n hn)]
    next hrest=>
      rw [if_pos (hvac.1 ⟨not_not.1 hfirst,fun n hn=>?_⟩)]
      by_contra hword
      exact hrest (List.any_eq_true.2 ⟨n,hn,decide_eq_true hword⟩)

end SlabState
namespace Ledger

def relinkPage (L : Ledger) (a k : ℕ) : Ledger:=
  if .page a∈L.ring (.slot k) then L
  else L.setRing (.slot k) (.page a::L.ring (.slot k))

def giveChunk (L : Ledger) (a k : ℕ) (used : ℕ→Bool) (c : ℕ) : Ledger:=
  let L':=(L.relinkPage a k).setExtent a ⟨1,.slab (minShift+k) (update used c false)⟩
  if Vacant (minShift+k) (update used c false) then
    ((L'.setRing (.slot k) ((L'.ring (.slot k)).erase (.page a))).setExtent a ⟨1,.free⟩).setRing
      .free (.page a::L.ring .free)
  else L'

variable {L : Ledger} {a k c : ℕ} {used : ℕ→Bool}

@[simp] lemma extents_relinkPage : (L.relinkPage a k).extents=L.extents:=by
  unfold relinkPage
  split <;> rfl

lemma mem_relinkPage_self : .page a∈(L.relinkPage a k).ring (.slot k):=by
  unfold relinkPage
  split
  · assumption
  · rw [ring_setRing_self]
    exact mem_cons_self

lemma ring_relinkPage_free : (L.relinkPage a k).ring .free=L.ring .free:=by
  unfold relinkPage
  split
  · rfl
  · exact ring_setRing_of_ne _ (by simp) _

lemma mem_relinkPage_of_ne {b j : ℕ} (hba : b≠a) :
    .page b∈(L.relinkPage a k).ring (.slot j) ↔ .page b∈L.ring (.slot j):=by
  unfold relinkPage
  split
  · rfl
  · by_cases hjk : j=k
    · subst hjk
      rw [ring_setRing_self,mem_cons,or_iff_right (by simpa using hba)]
    · rw [ring_setRing_of_ne _ (by simpa using hjk)]

lemma extents_giveChunk_self :
    (L.giveChunk a k used c).extents a=
      if Vacant (minShift+k) (update used c false) then some ⟨1,.free⟩
      else some ⟨1,.slab (minShift+k) (update used c false)⟩:=by
  unfold giveChunk
  simp only
  split <;> simp

lemma extents_giveChunk_of_ne {b : ℕ} (hba : b≠a) : (L.giveChunk a k used c).extents b=L.extents b:=by
  unfold giveChunk
  simp only
  split <;> simp [hba]

lemma settled_giveChunk (h : L.Settled) (hc : c<chunkCount (minShift+k)) :
    (L.giveChunk a k used c).Settled:=by
  intro b shift used' hb
  by_cases hba : b=a
  · subst hba
    rw [extents_giveChunk_self] at hb
    split at hb
    · rw [Option.some.injEq,Extent.mk.injEq] at hb
      cases hb.2
    next hvac=>
      rw [Option.some.injEq,Extent.mk.injEq,Role.slab.injEq] at hb
      obtain ⟨-,rfl,rfl⟩:=hb
      rw [Nat.add_sub_cancel_left]
      refine iff_of_true ?_ fun hfull=>?_
      · simp only [giveChunk,if_neg hvac,ring_setExtent]
        exact mem_relinkPage_self
      · have hused:=hfull c hc
        rw [update_self] at hused
        cases hused
  · rw [extents_giveChunk_of_ne hba] at hb
    rw [← h b shift used' hb,← mem_relinkPage_of_ne (L:=L) (a:=a) (k:=k) hba]
    unfold giveChunk
    simp only
    split
    · rw [ring_setRing_of_ne _ (by simp),ring_setExtent]
      by_cases hslot : shift-minShift=k
      · rw [hslot,ring_setRing_self,ring_setExtent]
        exact mem_erase_of_ne (by simpa using hba)
      · rw [ring_setRing_of_ne _ (by simpa using hslot),ring_setExtent]
    · rw [ring_setExtent]

lemma occupied_giveChunk (hocc : L.Occupied) : (L.giveChunk a k used c).Occupied:=by
  refine hocc.of_extents a (fun b hba e hb _=>(extents_giveChunk_of_ne hba).symm.trans hb) fun e hb hrole=>?_
  rw [extents_giveChunk_self] at hb
  split at hb
  · cases hb
    exact absurd rfl hrole
  next hvac=>
    cases hb
    simp only [Vacant,not_forall,Bool.not_eq_false] at hvac
    obtain ⟨d,hd,hres,hused⟩:=hvac
    exact ⟨_,_,d,hres,hd,hused,rfl,rfl⟩

lemma Coherent.block_giveChunk {n : ℕ} (h : L.Coherent n) (he : L.extents a=some ⟨1,.slab (minShift+k) used⟩)
    (hres : reservedChunks (minShift+k)≤c) (hc : c<chunkCount (minShift+k)) (hused : used c=true) (off len : ℕ) :
    (L.giveChunk a k used c).Block off len ↔ L.Block off len ∧ off≠4096*a+c*2^(minShift+k):=by
  have hpos:=Nat.two_pow_pos (minShift+k)
  have hblock:=(blockAt_slab_iff he _ _).2 ⟨c,hres,hc,hused,rfl,rfl⟩
  refine h.block_remove (fun b hba=>blockAt_of_extents (extents_giveChunk_of_ne hba)) (fun o len=>?_) hblock off len
  rw [blockAt_slab_iff he]
  by_cases hvac : Vacant (minShift+k) (update used c false)
  · have hfree : (L.giveChunk a k used c).extents a=some ⟨1,.free⟩:=by rw [extents_giveChunk_self,if_pos hvac]
    refine iff_of_false (not_blockAt_of_free hfree o len) ?_
    rintro ⟨⟨d,hd,hdc,hdused,rfl,rfl⟩,hne⟩
    have hclear:=hvac d hdc hd
    rw [update_of_ne (by rintro rfl; exact hne rfl),hdused] at hclear
    cases hclear
  · have hslab : (L.giveChunk a k used c).extents a=
        some ⟨1,.slab (minShift+k) (update used c false)⟩:=by
      rw [extents_giveChunk_self,if_neg hvac]
    rw [blockAt_slab_iff hslab]
    constructor
    · rintro ⟨d,hd,hdc,hdused,rfl,rfl⟩
      by_cases hdc' : d=c
      · rw [hdc',update_self] at hdused
        cases hdused
      · rw [update_of_ne hdc'] at hdused
        exact ⟨⟨d,hd,hdc,hdused,rfl,rfl⟩,fun heq=>hdc' (Nat.eq_of_mul_eq_mul_right hpos heq)⟩
    · rintro ⟨⟨d,hd,hdc,hdused,rfl,rfl⟩,hne⟩
      refine ⟨d,hd,hdc,?_,rfl,rfl⟩
      rw [update_of_ne (by rintro rfl; exact hne rfl),hdused]

end Ledger
namespace Represents
variable {l : SegmentLayout} {s : SlabState} {L : Ledger} {a k c : ℕ} {used : ℕ→Bool}

section
variable (h : Represents l s L) (he : L.extents a=some ⟨1,.slab (minShift+k) used⟩)
include h he

lemma slab_notMem (hslot : .page a∉L.ring (.slot k)) (head : Head) : .page a∉L.ring head:=by
  intro hmem
  cases head with
  | free=>
    obtain ⟨b,m,hab,hb⟩:=(h.coherent.mem_free _).1 hmem
    cases hab
    rw [he,Option.some.injEq,Extent.mk.injEq] at hb
    cases hb.2
  | slot j=>
    obtain ⟨b,used',hab,hb⟩:=h.coherent.mem_slot j _ hmem
    cases hab
    rw [he,Option.some.injEq,Extent.mk.injEq,Role.slab.injEq,Nat.add_left_cancel_iff] at hb
    rw [hb.2.1] at hslot
    exact hslot hmem

lemma next_eq_null_iff : s.next (.page a) = .null ↔ .page a∉L.ring (.slot k):=
  ⟨fun hnull hmem=>h.next_ne_null hmem hnull, fun hslot=>h.unlinked a _ he (h.slab_notMem he hslot)⟩

lemma relinkPage {P : Prop} [Decidable P] (hP : P ↔ .page a∉L.ring (.slot k)) :
    Represents l
      (if P then SoftMessageBus.relinkPage s (.page a) (minShift+k) (slabTypeOf (minShift+k)) else s)
      (L.relinkPage a k):=by
  unfold Ledger.relinkPage
  by_cases hmem : .page a∈L.ring (.slot k)
  · rw [if_neg (fun hp=>hP.1 hp hmem),if_pos hmem]
    exact h
  · rw [if_pos (hP.2 hmem),if_neg hmem]
    exact h.relink he (h.slab_notMem he hmem)

end

lemma giveChunk (h : Represents l s (L.relinkPage a k)) (he : L.extents a=some ⟨1,.slab (minShift+k) used⟩)
    (hc : reservedChunks (minShift+k)≤c) (t : SlabState) (hnext : t.next=s.next)
    (hprev : t.prev=s.prev) (hslab : ∀ r ≠ .page a, t.slab r=s.slab r)
    (hmemory : ∀ w, (w<l.start+4096*a ∨ l.start+4096*a+4096≤w)→
      t.memory w=s.memory w) (hmap : t.ChunkMap l a (minShift+k) (update used c false))
    {s' : SlabState} (hs' : s' = if Vacant (minShift+k) (update used c false) then smbSlabFreePages t (.page a) 1 else t) :
    Represents l s' (L.giveChunk a k used c):=by
  rw [hs']
  rw [← Ledger.extents_relinkPage (a:=a) (k:=k)] at he
  have hres : ∀ i < reservedChunks (minShift+k), update used c false i=true:=by
    intro i hi
    rw [update_of_ne (by omega)]
    exact (h.coherent.slab a 1 _ used he).2.2.2 i hi
  have hset:=h.setMap he hnext hprev hslab hmemory hmap hres
  unfold Ledger.giveChunk
  by_cases hvac : Vacant (minShift+k) (update used c false)
  · have hfree:=hset.freeSlabPage (Ledger.extents_set_self _ a _) Ledger.mem_relinkPage_self
    simp only [if_pos hvac]
    rw [Ledger.ring_setExtent,Ledger.ring_relinkPage_free] at hfree
    exact hfree
  · simp only [if_neg hvac]
    exact hset

section
variable (h : Represents l s L) (hl : l.WellFormed)
include h hl

lemma freeExact (hs : L.Settled) (hexact : minShift+k=6)
    (he : L.extents a=some ⟨1,.slab (minShift+k) used⟩) (hc : c<chunkCount (minShift+k))
    (hused : used c=true) (hres : reservedChunks (minShift+k)≤c) :
    Represents l
      (SoftMessageBus.freeExact l s (.page a) (l.start+4096*a+c*2^(minShift+k)))
      (L.giveChunk a k used c):=by
  obtain ⟨-,halign,hchunk,-⟩:=hl.chunk_addr (a:=a) (show minShift+k<12 by omega) hc
  have hc64 : c<64:=by
    rw [hexact] at hc
    exact hc
  have hmap : s.ExactMap a used:=by
    have hdesc:=h.describes a _ he
    rw [SlabState.Describes,hexact] at hdesc
    exact (SlabState.chunkMap_exact.1 hdesc).2
  have hunl : s.slab (.page a)=slabBusy ↔ .page a∉L.ring (.slot k):=by
    have hsettled:=hs a _ used he
    rw [Nat.add_sub_cancel_left] at hsettled
    rw [hmap.full_iff,hsettled,not_not,hexact]
  have hset : s.slab (.page a) &&& bit c≠0:=by
    rw [Ne,and_bit_eq_zero_iff hc64,hmap c hc64,hused]
    simp
  have hlinked:=h.relinkPage he hunl
  have hdesc:=hlinked.describes a _ (by rw [Ledger.extents_relinkPage]; exact he)
  generalize hlink : (if s.slab (.page a)=slabBusy then
    SoftMessageBus.relinkPage s (.page a) (minShift+k) (slabTypeOf (minShift+k)) else s)=t
    at hlinked hdesc
  rw [SlabState.Describes,hexact,SlabState.chunkMap_exact] at hdesc
  have hgive:=hdesc.2.give c
  refine hlinked.giveChunk he hres
    (t.setSlab (.page a) (t.slab (.page a) &&& ~~~bit c)) rfl rfl
    (fun r hr=>update_of_ne hr _ _) (fun w _=>rfl)
    (by rw [hexact]; exact SlabState.chunkMap_exact.2 ⟨hdesc.1,hgive⟩) ?_
  rw [hexact] at halign hchunk hlink ⊢
  simp only [SoftMessageBus.freeExact,hl.slabExactSize_eq,hl.slabExactShift_eq,hchunk]
  rw [show 2^6-1=64-1 from rfl] at halign
  rw [if_neg (not_not_intro halign),if_pos hset,show SlabType.exact=slabTypeOf 6 from rfl,
    hlink,if_congr (not_congr hgive.vacant_iff) rfl rfl,ite_not]

lemma freeBig (hbig : 6 < minShift+k) (hk : minShift+k<12)
    (he : L.extents a=some ⟨1,.slab (minShift+k) used⟩) (hc : c<chunkCount (minShift+k))
    (hused : used c=true) (hres : reservedChunks (minShift+k)≤c) :
    Represents l
      (SoftMessageBus.freeBig l s (.page a) (l.start+4096*a+c*2^(minShift+k)))
      (L.giveChunk a k used c):=by
  obtain ⟨-,halign,hchunk,-⟩:=hl.chunk_addr (a:=a) hk hc
  have hmax:=chunkCount_le hbig
  have hmap:=((SlabState.chunkMap_big hbig).1 (h.describes a _ he)).2
  have hset : s.slab (.page a) &&& bit (c+slabMapShift)≠0:=by
    rw [Ne,and_bit_eq_zero_iff (by rw [show slabMapShift=32 from rfl]; omega),Nat.add_comm,hmap.2.1 c hc,hused]
    simp
  have hlinked:=h.relinkPage he (h.next_eq_null_iff he)
  have hdesc:=hlinked.describes a _ (by rw [Ledger.extents_relinkPage]; exact he)
  generalize hlink : (if s.next (.page a) = .null then
    SoftMessageBus.relinkPage s (.page a) (minShift+k) (slabTypeOf (minShift+k)) else s)=t
    at hlinked hdesc
  rw [SlabState.Describes,SlabState.chunkMap_big hbig] at hdesc
  have hgive:=hdesc.2.give c
  refine hlinked.giveChunk he hres
    (t.setSlab (.page a) (t.slab (.page a) &&& ~~~bit (c+slabMapShift))) rfl rfl
    (fun r hr=>update_of_ne hr _ _) (fun w _=>rfl)
    ((SlabState.chunkMap_big hbig).2 ⟨hdesc.1,hgive⟩) ?_
  simp only [SoftMessageBus.freeBig,hmap.1,hchunk]
  rw [if_neg (not_not_intro halign),if_pos hset,← slabTypeOf_big hbig,hlink,
    if_congr (not_congr (hgive.vacant_iff hbig)) rfl rfl,ite_not]

lemma freeSmall (hsmall : minShift+k<6)
    (he : L.extents a=some ⟨1,.slab (minShift+k) used⟩) (hc : c<chunkCount (minShift+k))
    (hused : used c=true) (hres : reservedChunks (minShift+k)≤c) :
    Represents l
      (SoftMessageBus.freeSmall l s (.page a) (l.start+4096*a+c*2^(minShift+k)))
      (L.giveChunk a k used c):=by
  obtain ⟨-,halign,hchunk,hbase⟩:=hl.chunk_addr (a:=a) (show minShift+k<12 by omega) hc
  have hmin : minShift ≤ minShift+k:=Nat.le_add_right _ _
  have hmul:=smallMapWords_mul hsmall
  have hwords:=smallMapWords_lt hmin
  have hn : c/64<chunkCount (minShift+k)/64:=by omega
  have hi : c % 64<64:=Nat.mod_lt c (by decide)
  have hword:=SlabState.mapWord_lt hn
  have hmap:=((SlabState.chunkMap_small hsmall).1 (h.describes a _ he)).2
  have hset : s.memory (l.start+4096*a+8*(c/64)) &&& bit (c % 64)≠0:=by
    rw [Ne,and_bit_eq_zero_iff hi,(hmap.2 _ hn).2 _ hi,Nat.div_add_mod,hused]
    simp
  have hlinked:=h.relinkPage he (h.next_eq_null_iff he)
  have hmemory : (if s.next (.page a) = .null then
      SoftMessageBus.relinkPage s (.page a) (minShift+k) (slabTypeOf (minShift+k))
      else s).memory=s.memory:=by split <;> rfl
  have hdesc:=hlinked.describes a _ (by rw [Ledger.extents_relinkPage]; exact he)
  generalize hlink : (if s.next (.page a) = .null then
    SoftMessageBus.relinkPage s (.page a) (minShift+k) (slabTypeOf (minShift+k)) else s)=t
    at hlinked hdesc hmemory
  rw [SlabState.Describes,SlabState.chunkMap_small hsmall] at hdesc
  have hgive:=hdesc.2.give hn (by omega) hi
  rw [Nat.div_add_mod] at hgive
  simp only at hgive
  generalize hv : (if t.memory (l.start+4096*a+8*(c/64))=slabBusy then
    t.slab (.page a) ||| smbSlabSmallSummaryBit (c/64) else t.slab (.page a))=v at hgive
  refine hlinked.giveChunk he hres
    ((t.setSlab (.page a) v).setWord (l.start+4096*a+8*(c/64))
      (t.memory (l.start+4096*a+8*(c/64)) &&& ~~~bit (c % 64))) rfl rfl
    (fun r hr=>update_of_ne hr _ _) (fun x hx=>update_of_ne (by omega) _ _)
    ((SlabState.chunkMap_small hsmall).2 ⟨hdesc.1,hgive⟩) ?_
  have hsummary : (if t.memory (l.start+4096*a+8*(c/64))=slabBusy then
      t.setSlab (.page a) (t.slab (.page a) ||| smbSlabSmallSummaryBit (c/64)) else t)=
      t.setSlab (.page a) v:=by
    rw [← hv]
    split
    · rfl
    · simp [SlabState.setSlab]
  simp only [SoftMessageBus.freeSmall,hmap.1,hchunk,hbase,hl.smallMapWords_eq,hl.reservedWords_eq hmin hsmall]
  rw [if_neg (not_not_intro halign),if_pos hset,← slabTypeOf_small hsmall,hlink,hsummary,
    SlabState.memory_setSlab,hgive.freeVacant_eq hsmall]

end

lemma runLength_field {n : ℕ} (hn : n<2^52) :
    BitVec.ofNat 64 n ||| slabPageStart≠0 ∧ BitVec.ofNat 64 n ||| slabPageStart≠slabBusy ∧
      ((BitVec.ofNat 64 n ||| slabPageStart) &&& ~~~slabPageStart).toNat=n:=by
  have hhigh (i : ℕ) (hi : 52 ≤ i) : n.testBit i=false:=
    Nat.testBit_lt_two_pow (lt_of_lt_of_le hn (Nat.pow_le_pow_right (by decide) hi))
  rw [slabPageStart]
  refine ⟨fun hzero=>?_,fun hbusy=>?_,?_⟩
  · have hbit:=eq_zero_iff.1 hzero 63 (by decide)
    rw [getLsbD_or_bit (by decide)] at hbit
    simp at hbit
  · have hbit:=eq_allOnes_iff.1 hbusy 62 (by decide)
    rw [getLsbD_or_bit (by decide),BitVec.getLsbD_ofNat,hhigh 62 (by decide)] at hbit
    simp at hbit
  · have heq : (BitVec.ofNat 64 n ||| bit 63) &&& ~~~bit 63=BitVec.ofNat 64 n:=by
      apply BitVec.eq_of_getLsbD_eq
      intro i hi
      rw [getLsbD_and_not_bit,getLsbD_or_bit hi]
      by_cases hi63 : i=63
      · rw [hi63,BitVec.getLsbD_ofNat,hhigh 63 (by decide)]
        simp
      · rw [decide_eq_false (Ne.symm hi63),Bool.or_false,Bool.not_false,Bool.and_true]
    rw [heq,BitVec.toNat_ofNat,Nat.mod_eq_of_lt (by omega)]

lemma freePageRun (h : Represents l s L) (hl : l.WellFormed) {n : ℕ} (he : L.extents a=some ⟨n,.run⟩) :
    Represents l (SoftMessageBus.freePageRun l s (.page a) (l.start+4096*a))
      ((L.setExtent a ⟨n,.free⟩).setRing .free (.page a::L.ring .free)):=by
  have hle:=h.coherent.extent_le he
  have hlt:=hl.realPages_lt
  simp only at hle
  obtain ⟨hzero,hbusy,hlen⟩:=runLength_field (n:=n) (by omega)
  have hslab : s.slab (.page a)=BitVec.ofNat 64 n ||| slabPageStart:=(h.describes a _ he).1
  have halign : l.start+4096*a &&& (l.pagesize-1)=0:=by
    obtain ⟨t,ht⟩:=hl.start_aligned
    rw [hl.pagesize_eq,show 4096-1=2^12-1 from rfl,Nat.and_two_pow_sub_one_eq_mod,ht]
    omega
  rw [SoftMessageBus.freePageRun,if_neg (not_not_intro halign),hslab,if_neg hzero,if_neg hbusy,hlen]
  exact h.freeRun he

end Represents
namespace Ledger
variable {L : Ledger} {a n : ℕ}

lemma settled_freeRun (h : L.Settled) (l : List SlabRef) :
    ((L.setExtent a ⟨n,.free⟩).setRing .free l).Settled:=by
  intro b shift used hb
  rw [ring_setRing_of_ne _ (by simp),ring_setExtent]
  by_cases hba : b=a
  · rw [hba,extents_setRing,extents_set_self,Option.some.injEq,Extent.mk.injEq] at hb
    cases hb.2
  · rw [extents_setRing,extents_set_of_ne _ hba] at hb
    exact h b shift used hb

lemma occupied_freeRun (h : L.Occupied) (l : List SlabRef) :
    ((L.setExtent a ⟨n,.free⟩).setRing .free l).Occupied:=by
  refine h.of_extents a (fun b hba e hb _=>(extents_set_of_ne _ hba _).symm.trans hb) fun e hb hrole=>?_
  rw [extents_setRing,extents_set_self,Option.some.injEq] at hb
  subst hb
  exact absurd rfl hrole

lemma Coherent.block_freeRun {N : ℕ} (h : L.Coherent N) (he : L.extents a=some ⟨n,.run⟩)
    (l : List SlabRef) (off len : ℕ) :
    ((L.setExtent a ⟨n,.free⟩).setRing .free l).Block off len ↔ L.Block off len ∧ off≠4096*a+0:=by
  refine h.block_remove (fun b hba=>blockAt_of_extents ?_) (fun o len=>?_)
    ((blockAt_run_iff he _ _).2 ⟨rfl,rfl⟩) off len
  · rw [extents_setRing,extents_set_of_ne _ hba]
  · rw [blockAt_run_iff he]
    exact iff_of_false (not_blockAt_of_free (L.extents_set_self a _) o len) (fun hb=>hb.2 hb.1.1)

end Ledger
namespace Represents
variable {l : SegmentLayout} {s : SlabState} {L : Ledger}

section
variable (h : Represents l s L) (hl : l.WellFormed)
include h hl

lemma free_chunk (hs : L.Settled) {a k c : ℕ} {used : ℕ→Bool}
    (he : L.extents a=some ⟨1,.slab (minShift+k) used⟩) (hk : minShift+k<12)
    (hc : c<chunkCount (minShift+k)) (hused : used c=true) (hres : reservedChunks (minShift+k)≤c) :
    Represents l (smbSlabFreeLocked l s (l.start+4096*a+c*2^(minShift+k))) (L.giveChunk a k used c):=by
  obtain ⟨hpage,-,-,-⟩:=hl.chunk_addr (a:=a) hk hc
  have hblock : L.Block (4096*a+c*2^(minShift+k)) (2^(minShift+k)):=⟨a,_,_,he,⟨c,hres,hc,hused,rfl,rfl⟩,rfl⟩
  have hins:=(Nat.le_add_right _ _).trans (h.coherent.block_inside hblock)
  have hend:=hl.payload_le
  have hrange : ¬(l.start+4096*a+c*2^(minShift+k)<l.start ∨
      l.endAddr<l.start+4096*a+c*2^(minShift+k)):=by omega
  have htag : s.tag (.page a)=slabTypeOf (minShift+k):=(h.describes a _ he).1
  rw [smbSlabFreeLocked,if_neg hrange,hpage]
  simp only [htag]
  rcases Nat.lt_trichotomy (minShift+k) 6 with hsmall | hexact | hbig
  · rw [slabTypeOf_small hsmall]
    exact h.freeSmall hl hsmall he hc hused hres
  · rw [show slabTypeOf (minShift+k) = .exact by rw [hexact]; rfl]
    exact h.freeExact hl hs hexact he hc hused hres
  · rw [slabTypeOf_big hbig]
    exact h.freeBig hl hbig hk he hc hused hres

lemma free_run {a n : ℕ} (he : L.extents a=some ⟨n,.run⟩) :
    Represents l (smbSlabFreeLocked l s (l.start+4096*a))
      ((L.setExtent a ⟨n,.free⟩).setRing .free (.page a::L.ring .free)):=by
  have hpage : (l.start+4096*a-l.start) >>> l.pagesizeShift=a:=by
    rw [hl.pagesizeShift_eq,Nat.shiftRight_eq_div_pow]
    omega
  have hend:=hl.payload_le
  have hle:=h.coherent.extent_le he
  have hrange : ¬(l.start+4096*a<l.start ∨ l.endAddr<l.start+4096*a):=by omega
  rw [smbSlabFreeLocked,if_neg hrange,hpage]
  simp only [(h.describes a _ he).2.1]
  exact h.freePageRun hl he

lemma free (hs : L.Settled) {off len : ℕ} (hb : L.Block off len) :
    ∃ L', Represents l (smbSlabFreeLocked l s (l.start+off)) L' ∧ L'.Settled ∧
      (L.Occupied→L'.Occupied) ∧ ∀ o m, L'.Block o m ↔ L.Block o m ∧ o≠off:=by
  obtain ⟨a,⟨n,role⟩,o,he,hblock,rfl⟩:=hb
  cases role with
  | free=>exact absurd hblock id
  | run=>
    obtain ⟨rfl,-⟩:=hblock
    exact ⟨_,h.free_run hl he,Ledger.settled_freeRun hs _,
      fun hocc=>Ledger.occupied_freeRun hocc _,h.coherent.block_freeRun he _⟩
  | slab shift used=>
    obtain ⟨rfl,hmin,hmax,-⟩:=h.coherent.slab a n shift used he
    obtain ⟨k,rfl⟩:=Nat.exists_eq_add_of_le hmin
    obtain ⟨c,hres,hc,hused,rfl,-⟩:=hblock
    rw [← Nat.add_assoc]
    exact ⟨_,h.free_chunk hl hs he hmax hc hused hres,Ledger.settled_giveChunk hs hc,
      Ledger.occupied_giveChunk,h.coherent.block_giveChunk he hres hc hused⟩

end
end Represents
end SoftMessageBus
