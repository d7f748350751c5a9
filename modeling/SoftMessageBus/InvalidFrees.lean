import SoftMessageBus.PoolRuns

/-!
# Freeing addresses that are not live blocks

The allocator rejects most frees of addresses that are not live blocks.
-/
namespace SoftMessageBus
open BitWords Function LinkedRings StepRuns List

def PointsToMap (l : SegmentLayout) (s : SlabState) (p : ℕ) : Prop:=
  let page:=SlabRef.page ((p-l.start) >>> l.pagesizeShift)
  let shift:=(s.slab page &&& slabShiftMask).toNat
  s.tag page = .small ∧ p &&& (2^shift-1)=0 ∧ (p &&& (l.pagesize-1)) >>> shift < reservedWords l shift
  deriving Decidable

def BehindLastPage (l : SegmentLayout) (s : SlabState) (p : ℕ) : Prop:=
  let page:=SlabRef.page ((p-l.start) >>> l.pagesizeShift)
  l.realPages≤page.index ∧ page.index<l.descriptors ∧ s.tag page = .page ∧ s.slab page=0

namespace Represents
variable {l : SegmentLayout} {s : SlabState} {L : Ledger} {a n : ℕ}

lemma fill_free (h : Represents l s L) (he : L.extents a=some ⟨n,.free⟩) :
    Represents l (s.fill 0 (.page (a+1)) (n-1)) L:=by
  -- the descriptors that are cleared are not those of linked pages or of other runs
  have hout {b p : ℕ} {e : Extent} (hb : L.extents b=some e) (hbp : b≤p) (hp : p<b+e.len)
      (hne : b≠a ∨ p=a) (q : ℕ) (haq : a+1≤q) (hq : q<a+1+(n-1)) :
      (.page p : SlabRef) ≠ .page q:=by
    intro heq
    cases heq
    rcases hne with hba | rfl
    · exact hba (h.coherent.extent_unique hb he ⟨hbp,hp⟩ ⟨by omega,by simp only; omega⟩)
    · omega
  have hring (head : Head) (r : SlabRef) (hr : r∈head.ref::L.ring head) (q : ℕ)
      (haq : a+1≤q) (hq : q<a+1+(n-1)) : r ≠ .page q:=by
    rcases mem_cons.1 hr with rfl | hr
    · exact head.ref_ne_page q
    · obtain ⟨b,e,rfl,hb,-⟩:=h.coherent.extent_of_mem hr
      have hpos:=h.coherent.extent_pos hb
      exact hout hb le_rfl (by omega) (Decidable.em (b=a)).symm q haq hq
  refine ⟨h.coherent,h.rings.congr (fun head r hr=>?_) (fun head r hr=>?_),fun b e hb=>?_,fun b e hb hun=>?_⟩
  · exact (s.fill_of_notMem 0 (hring head r hr)).2.1
  · rw [SlabState.prevRef,SlabState.prevRef,(s.fill_of_notMem 0 (hring head r (mem_cons_of_mem _ hr))).2.2]
  · have hdesc:=h.describes b e hb
    by_cases hba : b=a
    · subst hba
      obtain rfl : e=⟨n,.free⟩:=Option.some.inj (hb.symm.trans he)
      have hpos:=h.coherent.extent_pos he
      have hfirst:=s.fill_of_notMem 0 (hout he le_rfl (Nat.lt_add_of_pos_right hpos) (.inr rfl))
      refine ⟨hfirst.1.trans hdesc.1,?_,s.body_fill 0 b n⟩
      rw [SlabState.tag,hfirst.2.2]
      exact hdesc.2.1
    · refine hdesc.congr (h.coherent.extent_pos hb) (fun p hbp hp=>?_)
        (fun p hbp hp=>?_) (fun o _=>by rw [SlabState.memory_fill])
      · exact (s.fill_of_notMem 0 (hout hb hbp hp (.inl hba))).1
      · rw [SlabState.tag,(s.fill_of_notMem 0 (hout hb hbp hp (.inl hba))).2.2]
        rfl
  · have hpos:=h.coherent.extent_pos hb
    rw [(s.fill_of_notMem 0 (hout hb le_rfl (by omega) (Decidable.em (b=a)).symm)).2.1]
    exact h.unlinked b e hb hun

lemma freeAgain (h : Represents l s L) (he : L.extents a=some ⟨n,.free⟩) :
    ∃ L', Represents l (smbSlabFreePages s (.page a) n) L' ∧ L'.extents=L.extents ∧
      ∀ k, L'.ring (.slot k)=L.ring (.slot k):=by
  have hfill:=h.fill_free he
  have hmem:=h.page_mem_free he
  have hclaim:=h.coherent.claim he (h.rings.nodup .free)
  have hexcept:=hfill.unlinkPage hmem hclaim (fun b hba=>L.extents_set_of_ne hba _) rfl
  rw [smbSlabFreePages_eq,if_pos (hfill.next_ne_null hmem)]
  have hlink:=hexcept.linkFreeRun (L.extents_set_self a _) ?_
  · refine ⟨_,hlink,?_,fun k=>?_⟩
    · funext b
      by_cases hba : b=a
      · subst hba
        exact (Ledger.extents_set_self _ b _).trans he.symm
      · exact (Ledger.extents_set_of_ne _ hba _).trans (L.extents_set_of_ne hba _)
    · rw [Ledger.ring_setRing_of_ne _ (by simp),Ledger.ring_setExtent,
        Ledger.ring_setRing_of_ne _ (by simp),Ledger.ring_setExtent]
  · intro p hap hp
    obtain ⟨hslab,-,-,-,htag⟩:=SlabState.unlinkPage_fields _ (hfill.rings.prev_ne_self hmem).symm
    obtain ⟨hzero,hpage⟩:=s.body_fill 0 a n p hap hp
    refine ⟨(congrFun hslab _).trans hzero,?_⟩
    rw [htag]
    by_cases hnext : .page p=(s.fill 0 (.page (a+1)) (n-1)).next (.page a)
    · rw [hnext,update_self]
      exact hfill.tag_of_mem hmem
    · rw [update_of_ne hnext,hpage]

end Represents

lemma memory_smbSlabFreePages (s : SlabState) (a n : ℕ) :
    (smbSlabFreePages s (.page a) n).memory=s.memory:=by
  rw [Represents.smbSlabFreePages_eq]
  split
  · exact s.memory_fill 0 (a+1) (n-1)
  · exact s.memory_fill 0 (a+1) (n-1)

variable {p : ℕ}

lemma SegmentLayout.WellFormed.address_parts {l : SegmentLayout} (hl : l.WellFormed) (hp : l.start≤p) :
    ∃ i o, o<4096 ∧ p=l.start+4096*i+o ∧ (p-l.start) >>> l.pagesizeShift=i ∧ p &&& (l.pagesize-1)=o:=by
  obtain ⟨t,ht⟩:=hl.start_aligned
  refine ⟨(p-l.start)/4096,(p-l.start) % 4096,Nat.mod_lt _ (by decide),by omega,?_,?_⟩
  · rw [hl.pagesizeShift_eq,Nat.shiftRight_eq_div_pow]
  · rw [hl.pagesize_eq,show 4096-1=2^12-1 from rfl,Nat.and_two_pow_sub_one_eq_mod]
    omega

lemma SegmentLayout.WellFormed.aligned_chunk {l : SegmentLayout} (hl : l.WellFormed)
    {i o shift : ℕ} (hshift : shift<12) (ho : o<4096) (hp : p=l.start+4096*i+o)
    (halign : p &&& (2^shift-1)=0) : ∃ c<chunkCount shift, o=c*2^shift:=by
  obtain ⟨t,ht⟩:=hl.start_aligned
  have hmul:=chunkCount_mul hshift
  have hdvd : 2^shift ∣ o:=by
    rw [Nat.and_two_pow_sub_one_eq_mod] at halign
    have hpage : 2^shift ∣ 4096*t+4096*i:=by
      rw [← Nat.mul_add,← hmul,Nat.mul_comm (chunkCount shift),Nat.mul_assoc]
      exact Nat.dvd_mul_right _ _
    have hsum : 2^shift ∣ 4096*t+4096*i+o:=by
      rw [← ht,← hp]
      exact Nat.dvd_of_mod_eq_zero halign
    exact (Nat.dvd_add_right hpage).1 hsum
  obtain ⟨c,rfl⟩:=hdvd
  refine ⟨c,?_,Nat.mul_comm _ _⟩
  rw [← hmul,Nat.mul_comm (chunkCount shift)] at ho
  exact Nat.lt_of_mul_lt_mul_left ho

namespace Represents
variable {l : SegmentLayout} {s : SlabState} {L : Ledger} {i : ℕ}

lemma free_slab_invalid (h : Represents l s L) (hl : l.WellFormed) {p o shift : ℕ}
    {used : ℕ→Bool} (he : L.extents i=some ⟨1,.slab shift used⟩) (ho : o<4096)
    (hp : p=l.start+4096*i+o) (hpage : (p-l.start) >>> l.pagesizeShift=i)
    (hoff : p &&& (l.pagesize-1)=o) (hblock : ∀ len, ¬L.Block (4096*i+o) len)
    (hmap : ¬PointsToMap l s p) (hrange : ¬(p<l.start ∨ l.endAddr<p)) : smbSlabFreeLocked l s p=s:=by
  obtain ⟨-,hmin,hmax,-⟩:=h.coherent.slab i 1 shift used he
  have hdesc:=h.describes i _ he
  -- the chunk of an aligned address has a clear bit, as it is no block and does not hold the map
  have hclear (halign : p &&& (2^shift-1)=0)
      (hres : reservedChunks shift≤(p &&& (l.pagesize-1)) >>> shift) :
      ∃ c<chunkCount shift, (p &&& (l.pagesize-1)) >>> shift=c ∧ used c=false:=by
    obtain ⟨c,hc,hco⟩:=hl.aligned_chunk hmax ho hp halign
    have hchunk : (p &&& (l.pagesize-1)) >>> shift=c:=by
      rw [hoff,hco,Nat.shiftRight_eq_div_pow,Nat.mul_div_cancel _ (Nat.two_pow_pos shift)]
    rw [hchunk] at hres
    refine ⟨c,hc,hchunk,?_⟩
    rw [← Bool.not_eq_true]
    intro hset
    exact hblock _ ⟨i,_,o,he,⟨c,hres,hc,hset,hco,rfl⟩,rfl⟩
  rw [smbSlabFreeLocked,if_neg hrange,hpage]
  simp only [hdesc.1]
  rcases Nat.lt_trichotomy shift 6 with hsmall | rfl | hbig
  · rw [slabTypeOf_small hsmall]
    obtain ⟨htag,hshift,hwords⟩:=(SlabState.chunkMap_small hsmall).1 hdesc
    simp only [SoftMessageBus.freeSmall,hshift]
    split
    · rfl
    next halign=>
      have hres : reservedChunks shift≤(p &&& (l.pagesize-1)) >>> shift:=by
        rw [← hl.reservedWords_eq hmin hsmall]
        by_contra hlt
        refine hmap ⟨?_,?_,?_⟩
        · rw [hpage,htag]
        · rw [hpage,hshift]
          exact not_not.1 halign
        · rw [hpage,hshift]
          exact Nat.not_le.1 hlt
      obtain ⟨c,hc,hchunk,hfree⟩:=hclear (not_not.1 halign) hres
      have hmul:=smallMapWords_mul hsmall
      have hbit : s.memory (l.start+4096*i+8*(c/64)) &&& bit (c % 64)=0:=by
        rw [and_bit_eq_zero_iff (Nat.mod_lt c (by decide)),
          (hwords (c/64) (by omega)).2 _ (Nat.mod_lt c (by decide)),Nat.div_add_mod,hfree]
      rw [hchunk,hoff,hp,Nat.add_sub_cancel]
      exact if_neg (not_not_intro hbit)
  · rw [show slabTypeOf 6 = .exact from rfl]
    have hword:=((SlabState.chunkMap_exact (l:=l)).1 hdesc).2
    simp only [SoftMessageBus.freeExact,hl.slabExactSize_eq,hl.slabExactShift_eq]
    split
    · rfl
    next halign=>
      obtain ⟨c,hc,hchunk,hfree⟩:=hclear (not_not.1 halign) (Nat.zero_le _)
      have hbit : s.slab (.page i) &&& bit c=0:=by rw [and_bit_eq_zero_iff hc,hword c hc,hfree]
      rw [hchunk]
      exact if_neg (not_not_intro hbit)
  · rw [slabTypeOf_big hbig]
    obtain ⟨htag,hshift,hword,-⟩:=(SlabState.chunkMap_big hbig).1 hdesc
    have hzero : reservedChunks shift=0:=by
      simp [reservedChunks,show shift≠3 by omega,show shift≠4 by omega, show shift≠5 by omega]
    have hmax:=chunkCount_le hbig
    simp only [SoftMessageBus.freeBig,hshift]
    split
    · rfl
    next halign=>
      obtain ⟨c,hc,hchunk,hfree⟩:=hclear (not_not.1 halign) (by rw [hzero]; exact Nat.zero_le _)
      have hbit : s.slab (.page i) &&& bit (c+slabMapShift)=0:=by
        rw [and_bit_eq_zero_iff (by rw [show slabMapShift=32 from rfl]; omega),Nat.add_comm,hword c hc,hfree]
      rw [hchunk]
      exact if_neg (not_not_intro hbit)

lemma freeLength_field {n : ℕ} (hpos : 0<n) (hn : n<2^52) :
    BitVec.ofNat 64 n≠0 ∧ BitVec.ofNat 64 n≠slabBusy ∧ (BitVec.ofNat 64 n &&& ~~~slabPageStart).toNat=n:=by
  have hnat : (BitVec.ofNat 64 n).toNat=n:=by rw [BitVec.toNat_ofNat,Nat.mod_eq_of_lt (by omega)]
  refine ⟨fun hzero=>?_,fun hbusy=>?_,?_⟩
  · rw [hzero] at hnat
    exact hpos.ne hnat
  · rw [hbusy,slabBusy,BitVec.toNat_allOnes] at hnat
    omega
  · have heq : BitVec.ofNat 64 n &&& ~~~bit 63=BitVec.ofNat 64 n:=by
      apply BitVec.eq_of_getLsbD_eq
      intro i hi
      rw [getLsbD_and_not_bit]
      by_cases hi63 : i=63
      · have hhigh:=(and_bit_eq_zero_iff (by decide)).1 (runLength_start hn).1
        rw [hi63,hhigh,Bool.false_and]
      · rw [decide_eq_false (Ne.symm hi63),Bool.not_false,Bool.and_true]
    rw [slabPageStart,heq,hnat]

lemma free_invalid (h : Represents l s L) (hl : l.WellFormed) {p : ℕ} (hstart : l.start≤p)
    (hend : p<l.start+4096*l.realPages) (hblock : ∀ len, ¬L.Block (p-l.start) len) (hmap : ¬PointsToMap l s p) :
    ∃ L', Represents l (smbSlabFreeLocked l s p) L' ∧ L'.extents=L.extents ∧
      (∀ k, L'.ring (.slot k)=L.ring (.slot k)) ∧
      (smbSlabFreeLocked l s p).memory=s.memory:=by
  obtain ⟨i,o,ho,hp,hpage,hoff⟩:=hl.address_parts hstart
  have hpayload:=hl.payload_le
  have hrange : ¬(p<l.start ∨ l.endAddr<p):=by omega
  rw [show p-l.start=4096*i+o by omega] at hblock
  by_cases hsame : smbSlabFreeLocked l s p=s
  · rw [hsame]
    exact ⟨L,h,rfl,fun _=>rfl,rfl⟩
  have hrun (htag : s.tag (.page i) = .page) :
      smbSlabFreeLocked l s p=if o≠0 then s
        else if s.slab (.page i)=0 then s else if s.slab (.page i)=slabBusy then s
        else smbSlabFreePages s (.page i) (s.slab (.page i) &&& ~~~slabPageStart).toNat:=by
    rw [smbSlabFreeLocked,if_neg hrange,hpage]
    simp only [htag]
    rw [SoftMessageBus.freePageRun,hoff]
  rcases h.page_cases (show i<l.realPages by omega) with ⟨b,n,he,hb,htag,hslab⟩ |
    ⟨b,n,he,hb,htag,hslab⟩ | ⟨shift,used,he,-⟩
  · have hpos:=h.coherent.extent_pos he
    have hle:=h.coherent.extent_le he
    have hlt:=hl.realPages_lt
    simp only at hpos hle
    by_cases hfirst : o=0 ∧ i=b
    · obtain ⟨rfl,rfl⟩:=hfirst
      obtain ⟨hzero,hbusy,hlen⟩:=freeLength_field hpos (by omega)
      obtain ⟨L',hrep,hextents,hslots⟩:=h.freeAgain he
      rw [if_pos rfl] at hslab
      rw [hrun htag,if_neg (not_not_intro rfl),hslab,if_neg hzero,if_neg hbusy,hlen]
      exact ⟨L',hrep,hextents,hslots,memory_smbSlabFreePages s i n⟩
    · refine absurd ?_ hsame
      rw [hrun htag]
      split
      · rfl
      · rw [if_neg (by omega)] at hslab
        rw [if_pos hslab]
  · refine absurd ?_ hsame
    rw [hrun htag]
    split
    · rfl
    next hzero=>
      have hib : i≠b:=by
        rintro rfl
        exact hblock _ ⟨i,_,o,he,⟨not_not.1 hzero,rfl⟩,rfl⟩
      rw [if_neg hib] at hslab
      rw [if_neg (by rw [hslab]; decide),if_pos hslab]
  · exact absurd (h.free_slab_invalid hl he ho hp hpage hoff hblock hmap hrange) hsame

end Represents

lemma PoolSegment.Account.free_invalid {g : PoolSegment} {live : List LiveBlock}
    (h : g.Account live) (hp : g.contains p=true) (hlive : ∀ b∈live, b.addr≠p)
    (hcase : (p<g.layout.start+4096*g.layout.realPages ∧ ¬PointsToMap g.layout g.state p) ∨
      BehindLastPage g.layout g.state p) :
    PoolSegment.Account {g with state:=smbSlabFreeLocked g.layout g.state p} live ∧
      (smbSlabFreeLocked g.layout g.state p).memory=g.state.memory:=by
  obtain ⟨L,hacc,hocc⟩:=h.ledger
  obtain ⟨hstart,hend⟩:=PoolSegment.contains_iff.1 hp
  rcases hcase with ⟨hins,hmap⟩ | ⟨-,-,htag,hslab⟩
  · have hblock (len : ℕ) : ¬L.Block (p-g.layout.start) len:=by
      intro hblock
      obtain ⟨b,hb,haddr,-⟩:=(hacc.block_iff _ _).1 hblock
      exact hlive b (mem_of_mem_filter hb) (by omega)
    obtain ⟨L',hrep,hextents,hslots,hmemory⟩:=hacc.represents.free_invalid h.wellFormed hstart hins hblock hmap
    have hsame (off len : ℕ) : L'.Block off len ↔ L.Block off len:=by rw [Ledger.Block,Ledger.Block,hextents]
    refine ⟨⟨h.wellFormed,L',⟨hrep,?_,hacc.nodup,hacc.start_le,fun off len=>?_⟩,?_⟩,hmemory⟩
    · intro a shift used he
      rw [hextents] at he
      rw [hslots]
      exact hacc.settled a shift used he
    · exact (hsame off len).trans (hacc.block_iff off len)
    · intro a e he
      rw [hextents] at he
      exact hocc a e he
  · have hsame : smbSlabFreeLocked g.layout g.state p=g.state:=by
      rw [smbSlabFreeLocked,if_neg (by omega)]
      simp only [htag]
      rw [freePageRun,if_pos hslab,ite_self]
    rw [hsame]
    exact ⟨h,rfl⟩

lemma memory_freeLocked {chain : MemoryPool} (h : ∀ g∈chain, g.contains p=true→
      (smbSlabFreeLocked g.layout g.state p).memory=g.state.memory) :
    ((smbMemoryPoolFreeLocked p chain).map fun g=>g.state.memory)=chain.map fun g=>g.state.memory:=by
  induction chain with
  | nil=>rfl
  | cons g chain ih=>
    obtain ⟨hg,hchain⟩:=forall_mem_cons.1 h
    rw [smbMemoryPoolFreeLocked]
    split
    next hp=>rw [map_cons,map_cons,hg hp]
    · rw [map_cons,map_cons,ih hchain]

namespace PoolProgram

/-- The program frees live blocks, or addresses with a descriptor that are not chunks of a map. -/
def Harmless (t : PoolProgram) : MemoryPoolEvent→Prop
  | .alloc size buffer=>t.Provides size buffer
  | .free p=>(∃ b∈t.live, b.addr=p) ∨ ∀ g∈t.pool, g.contains p=true→
      (p<g.layout.start+4096*g.layout.realPages ∧ ¬PointsToMap g.layout g.state p) ∨ BehindLastPage g.layout g.state p
  | .write _=>True

/-- The live blocks are disjoint and allocated, and the validator accepts the pool. -/
structure Safe (t : PoolProgram) : Prop where
  disjoint : t.live.Pairwise fun b b'=>b.addr+b.size≤b'.addr ∨ b'.addr+b'.size≤b.addr
  marked : ∀ b∈t.live, ∃ g∈t.pool,
    (∃ a n, b.addr=g.layout.start+4096*a ∧ b.size≤4096*n ∧ (PageUse.pageRun a n).In g.layout g.state) ∨
    ∃ a shift used c, b.addr=g.layout.start+4096*a+c*2^shift ∧ b.size≤2^shift ∧
      g.state.ChunkMap g.layout a shift used ∧ c<chunkCount shift ∧ used c=true
  accepted : zooValidateMemoryPool t.pool=some 0

namespace Account
variable {t : PoolProgram}

lemma pairwise_live (h : t.Account) {live : List LiveBlock} (hsub : live.Sublist t.live) :
    live.Pairwise fun b b'=>b.addr+b.size≤b'.addr ∨ b'.addr+b'.size≤b.addr:=by
  induction live with
  | nil=>exact .nil
  | cons b live ih=>
    refine pairwise_cons.2 ⟨fun b' hb'=>?_,ih ((sublist_cons_self b live).trans hsub)⟩
    obtain ⟨g,hg,hcontains⟩:=h.owned b (hsub.subset mem_cons_self)
    have hmem':=hsub.subset (mem_cons_of_mem b hb')
    have hwell:=(h.account g hg).wellFormed
    have hsize:=hwell.le_slabCapacity b.size
    have hsize':=hwell.le_slabCapacity b'.size
    cases hcontains' : g.contains b'.addr with
    | true=>
      obtain ⟨L,hacc,-⟩:=(h.account g hg).ledger
      have hpair:=(hacc.safe hwell).disjoint.sublist
        (show (g.blocks (b::live)).Sublist (g.blocks t.live) from hsub.filter _)
      rw [PoolSegment.blocks_cons_of_contains hcontains] at hpair
      have hdisj:=(pairwise_cons.1 hpair).1 b' (mem_filter.2 ⟨hb',hcontains'⟩)
      omega
    | false=>
      have hend:=h.block_le (hsub.subset mem_cons_self) hg hcontains
      have hstart:=(PoolSegment.contains_iff.1 hcontains).1
      rcases h.block_outside hmem' hg hcontains' with hlt | hlt <;> omega

lemma safe (h : t.Account) : t.Safe:=by
  refine ⟨h.pairwise_live (Sublist.refl _),fun b hb=>?_,h.validate⟩
  · obtain ⟨g,hg,hcontains⟩:=h.owned b hb
    obtain ⟨L,hacc,-⟩:=(h.account g hg).ledger
    have hwell:=(h.account g hg).wellFormed
    have hrep:=hacc.represents
    have hmem : b∈g.blocks t.live:=mem_filter.2 ⟨hb,hcontains⟩
    obtain ⟨off,haddr,a,⟨n,role⟩,o,he,hblock,rfl⟩:=hacc.block_of_mem hmem
    have hsize:=hwell.le_slabCapacity b.size
    refine ⟨g,hg,?_⟩
    cases role with
    | free=>exact absurd hblock id
    | run=>
      obtain ⟨rfl,hlen⟩:=hblock
      exact .inl ⟨a,n,haddr,hsize.trans_eq hlen,(hrep.use_iff hwell (.pageRun a n)).2 he⟩
    | slab shift used=>
      obtain ⟨c,-,hc,hused,rfl,hlen⟩:=hblock
      exact .inr ⟨a,shift,used,c,haddr.trans (Nat.add_assoc _ _ _).symm,hsize.trans_eq hlen,hrep.describes a _ he,hc,hused⟩

lemma free_invalid (h : t.Account) {p : ℕ} (hharm : t.Harmless (.free p)) (hlive : ∀ b∈t.live, b.addr≠p) :
    ∃ t', t.step (.free p)=some t' ∧ t'.Account ∧ t'.live=t.live ∧
      (t'.pool.map fun g=>g.state.memory)=t.pool.map fun g=>g.state.memory:=by
  have hsame : (t.live.filter fun b=>b.addr≠p)=t.live:=filter_eq_self.2 fun b hb=>decide_eq_true (hlive b hb)
  have hcase:=hharm.resolve_left fun ⟨b,hb,heq⟩=>hlive b hb heq
  have hinv (g : PoolSegment) (hg : g∈t.pool) (hp : g.contains p=true):=
    (h.account g hg).free_invalid hp hlive (hcase g hg hp)
  obtain ⟨t',hstep,haccounts⟩:=h.free_address fun g hg hp=>hsame.symm ▸ (hinv g hg hp).1
  refine ⟨t',hstep,haccounts,?_,?_⟩
  · cases hstep
    exact hsame
  · cases hstep
    rw [zooFreeToPool]
    split
    · exact memory_freeLocked fun g hg hp=>(hinv g hg hp).2
    · rfl

lemma step_harmless (h : t.Account) {event : MemoryPoolEvent} (hharmless : t.Harmless event) :
    ∃ t', t.step event=some t' ∧ t'.Account:=by
  cases event with
  | alloc size buffer=>exact h.alloc hharmless
  | free p=>
    by_cases hlive : ∃ b∈t.live, b.addr=p
    · obtain ⟨b,hb,rfl⟩:=hlive
      exact h.free hb
    · obtain ⟨t',hstep,haccount,-⟩:=h.free_invalid hharmless fun b hb heq=>hlive ⟨b,hb,heq⟩
      exact ⟨t',hstep,haccount⟩
  | write data=>exact h.write data

end Account

/-- In every harmless run the live blocks stay disjoint and allocated, and invalid frees change
nothing. -/
theorem invalid_frees_do_no_harm (totalSize pool : ℕ) (g : PoolSegment)
    (hcreate : smbMemoryPoolCreateSegment 12 totalSize (some pool)=some g)
    (hg : g.layout.WellFormed) (events : List MemoryPoolEvent) (hharmless : Throughout step Harmless ⟨[g],[]⟩ events) :
    ∃ t, run ⟨[g],[]⟩ events=some t ∧ t.Safe ∧
      ∀ p, t.Harmless (.free p)→(∀ b∈t.live, b.addr≠p)→
        ∃ t', t.step (.free p)=some t' ∧ t'.Safe ∧ t'.live=t.live ∧
          (t'.pool.map fun g=>g.state.memory)=t.pool.map fun g=>g.state.memory:=by
  obtain ⟨t,hrun,haccount⟩:=hharmless.foldlM Account (fun t event h=>h.step_harmless) (Account.fresh hcreate hg)
  refine ⟨t,hrun,haccount.safe,fun p hp hlive=>?_⟩
  obtain ⟨t',hstep,haccount',hsame,hmemory⟩:=haccount.free_invalid hp hlive
  exact ⟨t',hstep,haccount'.safe,hsame,hmemory⟩

theorem invalid_frees_do_no_harm_free_chunk :
    ∃ t, run ⟨[sampleSegment],[]⟩ [.alloc 5 none,.free 1052744,.free 1052736]=some t ∧ t.Safe:=by
  have hstate : ((step ⟨[sampleSegment],[]⟩ (.alloc 5 none)).map fun t=>
      (t.live, t.pool.all fun g=>decide (1052744<g.layout.start+4096*g.layout.realPages ∧
        ¬PointsToMap g.layout g.state 1052744)))=some ([⟨1052736,5⟩],true):=by decide +kernel
  have hharmless : Throughout step Harmless ⟨[sampleSegment],[]⟩
      [.alloc 5 none,.free 1052744,.free 1052736]:=by
    refine ⟨fun _ _ _ _ hnone=>?_,fun t ht=>?_⟩
    · cases hnone
    · rw [ht,Option.map_some,Option.some.injEq,Prod.mk.injEq] at hstate
      obtain ⟨hlive,hpages⟩:=hstate
      refine ⟨.inr fun g hg _=>.inl ?_,fun t' ht'=>⟨.inl ?_,fun _ _=>trivial⟩⟩
      · exact of_decide_eq_true (List.all_eq_true.1 hpages g hg)
      · cases ht'
        refine ⟨⟨1052736,5⟩,?_,rfl⟩
        rw [hlive]
        exact mem_singleton_self _
  obtain ⟨t,hrun,hsafe,-⟩:=invalid_frees_do_no_harm 65536 1048592 sampleSegment rfl sampleSegment_wellFormed _ hharmless
  exact ⟨t,hrun,hsafe⟩

def mapChunkEvents : List MemoryPoolEvent:=[.alloc 8 none,.free 1052672,.alloc 8 none,.write fun _=>0x501,.free 1052736]

def firstPage (t : PoolProgram) : List (ℕ × SlabType × Word):=
  t.pool.map fun g=>(g.layout.start,g.state.tag (.page 0),g.state.slab (.page 0))

lemma not_safe_of_free_page {t : PoolProgram} (hlive : ⟨1052672,8⟩∈t.live)
    (hpage : t.firstPage=[(1052672,.page,1)]) : ¬t.Safe:=by
  intro hsafe
  obtain ⟨g,hg,hmarked⟩:=hsafe.marked _ hlive
  have hmem : (g.layout.start,g.state.tag (.page 0),g.state.slab (.page 0))∈t.firstPage:=List.mem_map_of_mem hg
  rw [hpage,mem_singleton,Prod.mk.injEq,Prod.mk.injEq] at hmem
  obtain ⟨hstart,htag,hslab⟩:=hmem
  rcases hmarked with ⟨a,n,haddr,-,-,-,hmark,-⟩ | ⟨a,shift,used,c,haddr,-,hmap,-⟩
  · obtain rfl : a=0:=by
      simp only at haddr
      omega
    rw [hslab] at hmark
    exact hmark (by decide)
  · obtain rfl : a=0:=by
      simp only at haddr
      omega
    exact Represents.slabTypeOf_ne_page shift (hmap.1.symm.trans htag)

/-- After a chunk of a map was freed, an invalid free frees the page of a live block. -/
theorem invalid_free_of_held_page :
    ∃ t t' t'', run ⟨[sampleSegment],[]⟩ mapChunkEvents=some t ∧ t.Safe ∧
      t.live=[⟨1052672,8⟩] ∧ t.step (.free 1052752)=some t' ∧ ¬t'.Safe ∧
      t'.step (.alloc 4096 none)=some t'' ∧ t''.live=[⟨1052672,4096⟩,⟨1052672,8⟩]:=by
  have hbefore : ((run ⟨[sampleSegment],[]⟩ mapChunkEvents).map fun t=>
      (t.live, zooValidateMemoryPool t.pool, t.pool.all fun g=>
        decide (g.layout.start=1052672 ∧ g.state.tag (.page 0) = .small ∧
          (g.state.slab (.page 0) &&& slabShiftMask).toNat=3 ∧
          (g.state.memory 1052672).getLsbD 0=true ∧
          ∀ n∈range 8, (g.state.slab (.page 0)).getLsbD (slabMapShift+n)=true ∧ g.state.memory (1052672+8*n)≠slabBusy)))=
      some ([⟨1052672,8⟩],some 0,true):=by decide +kernel
  have hafter : (((run ⟨[sampleSegment],[]⟩ mapChunkEvents).bind fun t=>
      t.step (.free 1052752)).map fun t=>(t.live,t.firstPage))=
      some ([⟨1052672,8⟩],[(1052672,.page,1)]):=by decide +kernel
  have hlast : ((((run ⟨[sampleSegment],[]⟩ mapChunkEvents).bind fun t=>
      t.step (.free 1052752)).bind fun t=>t.step (.alloc 4096 none)).map live)=
      some [⟨1052672,4096⟩,⟨1052672,8⟩]:=by decide +kernel
  obtain ⟨t,hrun,heq⟩:=Option.map_eq_some_iff.1 hbefore
  rw [Prod.mk.injEq,Prod.mk.injEq] at heq
  obtain ⟨hlive,hvalid,hpages⟩:=heq
  rw [hrun,Option.bind_some] at hafter hlast
  obtain ⟨t',hstep,heq⟩:=Option.map_eq_some_iff.1 hafter
  rw [Prod.mk.injEq] at heq
  rw [hstep,Option.bind_some] at hlast
  obtain ⟨t'',hstep',hlive''⟩:=Option.map_eq_some_iff.1 hlast
  refine ⟨t,t',t'',hrun,⟨?_,fun b hb=>?_,hvalid⟩,hlive,hstep,
    not_safe_of_free_page (by rw [heq.1]; exact mem_singleton_self _) heq.2,hstep',hlive''⟩
  · rw [hlive]
    exact pairwise_singleton _ _
  · rw [hlive] at hb
    obtain rfl:=mem_singleton.1 hb
    obtain ⟨g,hg⟩:=exists_mem_of_ne_nil t.pool fun hnil=>by
      rw [hnil] at hvalid
      cases hvalid
    obtain ⟨hstart,htag,hshift,hbit,hwords⟩:=of_decide_eq_true (List.all_eq_true.1 hpages g hg)
    let used (c : ℕ) : Bool:=(g.state.memory (1052672+8*(c/64))).getLsbD (c % 64)
    refine ⟨g,hg,.inr ⟨0,3,used,0,hstart.symm,by decide,
      (SlabState.chunkMap_small (by decide)).2 ⟨htag,hshift,fun n hn=>?_⟩,by decide,hbit⟩⟩
    rw [hstart]
    obtain ⟨hsummary,hfree⟩:=hwords n (mem_range.2 hn)
    refine ⟨iff_of_true hsummary hfree,fun i hi=>?_⟩
    simp only [used,show (64*n+i)/64=n by omega,show (64*n+i) % 64=i by omega]

end PoolProgram
end SoftMessageBus
