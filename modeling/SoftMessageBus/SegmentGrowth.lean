import SoftMessageBus.MemoryPool
import SoftMessageBus.SlabAllocation

/-!
# Growing the memory pool

A segment that is appended for a request is large enough for it.
-/
namespace SoftMessageBus
open BitWords List

section
variable {minTotal fuel candidate : ℕ}

lemma le_doubleSize (h : minTotal≤candidate*2^fuel) : minTotal≤doubleSize minTotal fuel candidate:=by
  induction fuel generalizing candidate with
  | zero=>simpa [doubleSize] using h
  | succ fuel ih=>
    rw [doubleSize]
    split
    · split
      · exact le_rfl
      · refine ih ?_
        rwa [Nat.mul_assoc,← Nat.pow_succ']
    · omega

lemma doubleSize_le (minTotal fuel candidate : ℕ) :
    doubleSize minTotal fuel candidate ≤ max candidate (2*minTotal):=by
  induction fuel generalizing candidate with
  | zero=>exact Nat.le_max_left _ _
  | succ fuel ih=>
    rw [doubleSize]
    split
    · split
      · omega
      · have hnext:=ih (candidate*2)
        omega
    · exact Nat.le_max_left _ _

lemma doubleSize_lt (fuel : ℕ) (hmin : minTotal<2^64) (hcand : candidate<2^64) :
    doubleSize minTotal fuel candidate<2^64:=by
  induction fuel generalizing candidate with
  | zero=>exact hcand
  | succ fuel ih=>
    rw [doubleSize]
    split
    · split
      · exact hmin
      · exact ih (by omega)
    · exact hcand

end

def pagesFor (pageShift requestSize : ℕ) : ℕ:=max 1 ((requestSize+(2^pageShift-1))/2^pageShift)

section
variable {pageShift requestSize referenceSize : ℕ}

section
variable (pageShift requestSize : ℕ)

lemma pagesFor_pos : 0<pagesFor pageShift requestSize:=Nat.le_max_left _ _

lemma le_pagesFor_mul : requestSize≤pagesFor pageShift requestSize*2^pageShift:=by
  have hpos:=Nat.two_pow_pos pageShift
  have hlt:=Nat.lt_div_mul_add (a:=requestSize+(2^pageShift-1)) hpos
  have hle:=Nat.mul_le_mul_right (2^pageShift) (Nat.le_max_right 1 ((requestSize+(2^pageShift-1))/2^pageShift))
  rw [pagesFor]
  omega

lemma pagesFor_mul_le : pagesFor pageShift requestSize*2^pageShift≤requestSize+2^pageShift:=by
  have hpos:=Nat.two_pow_pos pageShift
  have hle:=Nat.div_mul_le_self (requestSize+(2^pageShift-1)) (2^pageShift)
  rw [pagesFor,max_mul,Nat.one_mul]
  omega

end

lemma requestedPages_eq (hlt : requestSize+(2^pageShift-1)<2^64) :
    requestedPages pageShift requestSize=pagesFor pageShift requestSize:=by
  rw [requestedPages,Nat.mod_eq_of_lt hlt,pagesFor]
  split
  next hzero=>
    rw [hzero]
    rfl
  next hne=>exact (Nat.max_eq_right (Nat.pos_of_ne_zero hne)).symm

lemma roundUp_cases (pageShift : ℕ) {size : ℕ} (hmax : pageShift≤64) (hsize : size<2^64) :
    let rounded:=if size % 2^pageShift≠0 then
      (size+(2^pageShift-size % 2^pageShift)) % 2^64 else size
    rounded ≤ size+2^pageShift ∧ (rounded=0 ∨ size≤rounded):=by
  intro rounded
  have hpos:=Nat.two_pow_pos pageShift
  have hlt:=Nat.mod_lt size hpos
  have hspace : 2^64=2^pageShift*2^(64-pageShift):=by rw [← Nat.pow_add,Nat.add_sub_cancel' hmax]
  by_cases hmod : size % 2^pageShift=0
  · have hrounded : rounded=size:=if_neg (not_not_intro hmod)
    omega
  · have hrounded : rounded=(size+(2^pageShift-size % 2^pageShift)) % 2^64:=if_pos hmod
    have hdiv:=Nat.div_add_mod size (2^pageShift)
    have hnext : size/2^pageShift+1≤2^(64-pageShift):=Nat.div_lt_of_lt_mul (by rw [← hspace]; exact hsize)
    have hle:=Nat.mul_le_mul_left (2^pageShift) hnext
    rw [← hspace,Nat.mul_add,Nat.mul_one] at hle
    rcases Nat.lt_or_ge (size+(2^pageShift-size % 2^pageShift)) (2^64) with h | h
    · rw [Nat.mod_eq_of_lt h] at hrounded
      omega
    · rw [show size+(2^pageShift-size % 2^pageShift)=2^64 by omega,Nat.mod_self] at hrounded
      omega

lemma segmentSize_bounds (requestSize : ℕ) (hmax : pageShift≤64) (href : referenceSize<2^64) :
    let minTotal:=totalForPages pageShift (requestedPages pageShift requestSize) % 2^64
    let size:=smbMemoryPoolSegmentSize pageShift requestSize referenceSize
    size ≤ max referenceSize (2*minTotal)+2^pageShift ∧ (size=0 ∨ minTotal ≤ size):=by
  intro minTotal size
  have hmin : minTotal<2^64:=Nat.mod_lt _ (by decide)
  let first:=if 0 < referenceSize then referenceSize else minTotal
  have hfirst : (0<first ∨ minTotal=0) ∧ first<2^64 ∧
      max first (2*minTotal) ≤ max referenceSize (2*minTotal):=by
    simp only [first]
    split <;> omega
  obtain ⟨hreach,hbound,hsmall⟩:=hfirst
  have hlower : minTotal≤doubleSize minTotal 64 first:=by
    refine le_doubleSize ?_
    rcases hreach with hpos | hzero
    · exact hmin.le.trans (Nat.le_mul_of_pos_left _ hpos)
    · omega
  have hupper:=doubleSize_le minTotal 64 first
  obtain ⟨hle,hge⟩:=roundUp_cases pageShift hmax (doubleSize_lt 64 hmin hbound)
  change size≤_ at hle
  change size=0 ∨ _ ≤ size at hge
  omega

end

def PoolSegment.Serves (g : PoolSegment) (size : ℕ) : Prop:=
  ∃ p state, smbSlabAllocLocked g.layout g.state size=some (p,state) ∧ p≠0 ∧
    g.pool≤g.layout.start ∧ g.layout.start≤p ∧ p+size≤g.layout.endAddr

section
variable {l : SegmentLayout} {memory : ℕ→Word}

lemma allocPages_init {pages : ℕ} (hpages : pages≤l.realPages) (hlt : l.realPages<2^64) :
    smbSlabAllocPages l (SlabState.init l memory) pages=
      some (.page 0,(SlabState.init l memory).allocRun (.page 0) pages):=by
  have hslab : ((SlabState.init l memory).slab (.page 0)).toNat=l.realPages:=by
    change (BitVec.ofNat 64 l.realPages).toNat=l.realPages
    rw [BitVec.toNat_ofNat,Nat.mod_eq_of_lt hlt]
  rw [smbSlabAllocPages,SlabState.allocPagesLoop]
  change (if SlabRef.page 0 = .free then _ else
    if pages≤((SlabState.init l memory).slab (.page 0)).toNat then _ else _)=_
  rw [if_neg SlabRef.noConfusion,hslab,if_pos hpages]
  rfl

lemma pageAddr_zero (l : SegmentLayout) : smbSlabPageAddr l (.page 0)=l.start:=by
  rw [smbSlabPageAddr,SlabRef.index,Nat.zero_shiftLeft,Nat.zero_add]

lemma reservedWords_mul_le {shift : ℕ} (hmin : minShift ≤ shift) (hsmall : shift<l.slabExactShift) :
    2^shift*reservedWords l shift+2^shift≤l.pagesize:=by
  have hsize : l.slabExactSize≠0:=by
    intro hzero
    rw [SegmentLayout.slabExactShift,hzero] at hsmall
    exact absurd hsmall (Nat.not_lt_zero shift)
  have hexact : 2^(shift+1)≤l.pagesize/64:=(Nat.le_log2 hsize).1 hsmall
  rw [Nat.pow_succ] at hexact
  have hshift : shift≤l.pagesizeShift:=by
    have hpow : 2^shift≤2^l.pagesizeShift:=by
      change 2^shift≤l.pagesize
      omega
    exact (Nat.pow_le_pow_iff_right (Nat.lt_succ_self 1)).1 hpow
  have hchunks : 2^(l.pagesizeShift-shift)*8≤l.pagesize:=by
    rw [SegmentLayout.pagesize,← Nat.pow_sub_mul_pow 2 hshift]
    exact Nat.mul_le_mul_left _ (Nat.pow_le_pow_right (Nat.succ_pos 1) hmin)
  have hmap:=Nat.mul_div_le (2^(l.pagesizeShift-shift)/8) (2^shift)
  rw [reservedWords]
  split
  · omega
  · omega

variable {size : ℕ}

lemma slabPages_eq (l : SegmentLayout) (hsize : 0<size) : slabPages l size=pagesFor l.pagesizeShift size:=by
  have hpos:=Nat.two_pow_pos l.pagesizeShift
  have hone : 1≤(size+(2^l.pagesizeShift-1))/2^l.pagesizeShift:=(Nat.le_div_iff_mul_le hpos).2 (by omega)
  have hdiv:=Nat.div_add_mod size (2^l.pagesizeShift)
  have hlt:=Nat.mod_lt size hpos
  rw [slabPages,pagesFor,Nat.max_eq_right hone,Nat.shiftRight_eq_div_pow,SegmentLayout.pagesize]
  split
  · have hrest : (size % 2^l.pagesizeShift-1)/2^l.pagesizeShift=0:=Nat.div_eq_of_lt (by omega)
    rw [show size+(2^l.pagesizeShift-1)=2^l.pagesizeShift*(size/2^l.pagesizeShift+1)+
      (size % 2^l.pagesizeShift-1) by rw [Nat.mul_add]; omega,Nat.mul_add_div hpos,hrest,Nat.add_zero]
  · have hrest : (2^l.pagesizeShift-1)/2^l.pagesizeShift=0:=Nat.div_eq_of_lt (by omega)
    rw [show size+(2^l.pagesizeShift-1)=2^l.pagesizeShift*(size/2^l.pagesizeShift)+(2^l.pagesizeShift-1) by
      omega,Nat.mul_add_div hpos,hrest]

lemma initPage_addr (s : SlabState) (hsize : size<l.slabMaxSize) :
    ∃ off, (initPage l s (.page 0) (slabShift size)).1=l.start+off ∧ off+size≤l.pagesize:=by
  have hle:=le_two_pow_slabShift size
  have hmin : minShift ≤ slabShift size:=by
    have hminS : minSize=8:=rfl
    rw [slabShift]
    split
    · have hlog : 3≤Nat.log2 (size-1):=(Nat.le_log2 (by omega)).2 (by omega)
      rw [minShift]
      omega
    · exact le_rfl
  rw [SegmentLayout.slabMaxSize] at hsize
  rw [initPage]
  split
  next hsmall=>
    refine ⟨2^slabShift size*reservedWords l (slabShift size),?_,?_⟩
    · rw [smbSlabInitSmallPage,pageAddr_zero]
    · have hfit:=reservedWords_mul_le hmin hsmall
      omega
  · split
    · exact ⟨0,pageAddr_zero l,by omega⟩
    · exact ⟨0,pageAddr_zero l,by omega⟩

lemma alloc_init (memory : ℕ→Word) (hshift : 0<l.pagesizeShift)
    (hpages : pagesFor l.pagesizeShift size≤l.realPages) (hlt : l.realPages<2^64) :
    ∃ off s, smbSlabAllocLocked l (SlabState.init l memory) size=some (l.start+off,s) ∧ off+size≤l.pagesize*l.realPages:=by
  have hfit:=le_pagesFor_mul l.pagesizeShift size
  have hmul:=Nat.mul_le_mul_right l.pagesize hpages
  rw [← SegmentLayout.pagesize] at hfit
  rw [smbSlabAllocLocked]
  by_cases hlarge : l.slabMaxSize ≤ size
  · have hhalf : 0<l.slabMaxSize:=by
      have hpow : 2^1≤2^l.pagesizeShift:=Nat.pow_le_pow_right (by decide) hshift
      rw [SegmentLayout.slabMaxSize,SegmentLayout.pagesize]
      omega
    rw [if_pos hlarge,slabPages_eq l (hhalf.trans_le hlarge),allocPages_init hpages hlt]
    simp only [Option.map_some,ne_eq,reduceCtorEq,not_false_eq_true,if_true,pageAddr_zero]
    refine ⟨0,_,rfl,?_⟩
    rw [Nat.zero_add,Nat.mul_comm]
    exact hfit.trans hmul
  · have hone : 1≤l.realPages:=(pagesFor_pos l.pagesizeShift size).trans_le hpages
    have hslot : tryAllocSlot l (SlabState.init l memory) (slabShift size)=
        some (0,SlabState.init l memory):=by
      rw [tryAllocSlot]
      exact if_neg (not_not_intro rfl)
    obtain ⟨off,haddr,hins⟩:=initPage_addr ((SlabState.init l memory).allocRun (.page 0) 1) (Nat.not_le.1 hlarge)
    simp only [if_neg hlarge,hslot,Option.bind_some,ne_eq,not_true_eq_false,if_false,
      allocPages_init hone hlt,Option.map_some,reduceCtorEq,not_false_eq_true,if_true]
    refine ⟨off,_,congrArg some (Prod.ext haddr rfl),?_⟩
    exact hins.trans (Nat.le_mul_of_pos_right _ hone)

end
section
variable {pageShift requestSize referenceSize pool : ℕ}

lemma realPages_of_totalForPages {totalSize pages : ℕ} (hmax : pageShift≤64)
    (htotal : totalForPages pageShift pages≤totalSize) (haddr : pool+totalSize<2^64) :
    let l:=smbSlabInit pageShift pool (pool+totalSize)
    pages≤l.realPages ∧ l.realPages<2^64 ∧ pool<l.start ∧ l.start+l.pagesize*l.realPages≤l.endAddr:=by
  intro l
  have hpos:=Nat.two_pow_pos pageShift
  have hslots : slotsSize pageShift+(2^pageShift+sizeofSlabPage)*(pages+2)≤
      totalForPages pageShift pages:=by
    have hcount : pageShift-minShift ≤ slotCount pageShift:=by
      rw [slotCount]
      split <;> omega
    have hmul:=Nat.mul_le_mul_right sizeofSlabPage hcount
    rw [slotsSize,totalForPages,Nat.add_assoc (slotCount pageShift),Nat.add_mul,Nat.add_mul,
      Nat.mul_comm (pages+2),Nat.mul_comm (pages+2)]
    omega
  have hdiv:=Nat.div_add_mod (totalSize-slotsSize pageShift) (2^pageShift+sizeofSlabPage)
  have hr:=Nat.mod_lt (totalSize-slotsSize pageShift) (show 0<2^pageShift+sizeofSlabPage by omega)
  have hmany : pages+2≤
      (totalSize-slotsSize pageShift)/(2^pageShift+sizeofSlabPage):=by
    rw [Nat.le_div_iff_mul_le (by omega),Nat.mul_comm]
    omega
  generalize (totalSize-slotsSize pageShift)/(2^pageShift+sizeofSlabPage)=m at*
  generalize (totalSize-slotsSize pageShift) % (2^pageShift+sizeofSlabPage)=r at*
  have hlt:=alignmentGap_lt (pool+slotsSize pageShift+m*sizeofSlabPage) hpos
  have hpages:=Nat.mul_le_mul_left (2^pageShift) hmany
  rw [Nat.mul_add] at hpages
  obtain ⟨hstart,hreal⟩:=smbSlabInit_eq (m:=m) hmax (by omega) hr haddr rfl (by omega)
  have hreal : l.realPages=_:=hreal
  have hfull : 2^pageShift*l.realPages≤_:=hreal ▸ Nat.mul_div_le _ _
  have hen : pages≤l.realPages:=by
    rw [hreal,Nat.le_div_iff_mul_le hpos,Nat.mul_comm]
    omega
  have hself:=Nat.le_mul_of_pos_left l.realPages hpos
  have hsiz : sizeofMemoryPool ≤ slotsSize pageShift:=Nat.le_add_right _ _
  rw [sizeofMemoryPool] at hsiz
  rw [Nat.add_mul,Nat.mul_comm sizeofSlabPage] at hdiv
  change pages≤l.realPages ∧ l.realPages<2^64 ∧ pool<l.start ∧ l.start+2^pageShift*l.realPages≤pool+totalSize
  rw [hstart]
  refine ⟨hen,?_,?_,?_⟩
  · omega
  · omega
  · omega

lemma serves_of_totalForPages {totalSize : ℕ} {g : PoolSegment} (hmin : 0<pageShift) (hmax : pageShift≤64)
    (htotal : totalForPages pageShift (pagesFor pageShift requestSize)≤totalSize)
    (hcreate : smbMemoryPoolCreateSegment pageShift totalSize (some pool)=some g)
    (haddr : pool+totalSize<2^64) : g.Serves requestSize:=by
  obtain ⟨hpages,hlt,hstart,hend⟩:=realPages_of_totalForPages hmax htotal haddr
  rw [smbMemoryPoolCreateSegment] at hcreate
  split at hcreate
  · cases hcreate
  · cases hcreate
    obtain ⟨off,s,halloc,hins⟩:=alloc_init (fun _=>0) hmin hpages hlt
    refine ⟨_,s,halloc,by omega,hstart.le,Nat.le_add_right _ _,?_⟩
    exact (Nat.add_assoc _ _ _).trans_le ((Nat.add_le_add_left hins _).trans hend)

lemma totalForPages_le_segmentSize (hmax : pageShift≤64) (href : referenceSize<2^64)
    (hlt : totalForPages pageShift (pagesFor pageShift requestSize)<2^64)
    (hsize : smbMemoryPoolSegmentSize pageShift requestSize referenceSize≠0) :
    totalForPages pageShift (pagesFor pageShift requestSize)≤
      smbMemoryPoolSegmentSize pageShift requestSize referenceSize:=by
  have hpages:=le_pagesFor_mul pageShift requestSize
  have hfits : requestSize+(2^pageShift-1)<2^64:=by
    rw [totalForPages,Nat.add_mul (pagesFor pageShift requestSize)] at hlt
    omega
  obtain ⟨-,hzero | hle⟩:=segmentSize_bounds requestSize hmax href
  · exact absurd hzero hsize
  · rwa [requestedPages_eq hfits,Nat.mod_eq_of_lt hlt] at hle

lemma slotCount_le (hmax : pageShift≤30) : slotCount pageShift≤30:=by
  rw [slotCount]
  split <;> omega

lemma totalForPages_mod_lt (hmin : 12≤pageShift) (hmax : pageShift≤30) (hreq : requestSize<2^64)
    (hover : 2^64≤totalForPages pageShift (pagesFor pageShift requestSize)) :
    totalForPages pageShift (requestedPages pageShift requestSize) % 2^64<2^58:=by
  have hpage : 2^12≤2^pageShift:=Nat.pow_le_pow_right (by decide) hmin
  have hlarge : 2^pageShift≤2^30:=Nat.pow_le_pow_right (by decide) hmax
  have hslots:=slotCount_le hmax
  by_cases hfits : requestSize+(2^pageShift-1)<2^64
  · rw [requestedPages_eq hfits]
    have hle:=pagesFor_mul_le pageShift requestSize
    have hmul:=Nat.mul_le_mul_left (pagesFor pageShift requestSize) hpage
    rw [Nat.mod_eq_sub_mod hover]
    refine (Nat.mod_le _ _).trans_lt ?_
    rw [totalForPages,sizeofMemoryPool,sizeofSlabPage,Nat.add_mul (pagesFor pageShift requestSize)]
    omega
  · have hone : requestedPages pageShift requestSize=1:=by
      rw [requestedPages,Nat.mod_eq_sub_mod (Nat.not_lt.1 hfits),Nat.mod_eq_of_lt (by omega),Nat.div_eq_of_lt (by omega)]
      rfl
    rw [hone]
    refine (Nat.mod_le _ _).trans_lt ?_
    rw [totalForPages,sizeofMemoryPool,sizeofSlabPage]
    omega

lemma segmentSize_lt_of_overflow (hmin : 12≤pageShift) (hmax : pageShift≤30)
    (hreq : requestSize<2^64) (hover : 2^64≤totalForPages pageShift (pagesFor pageShift requestSize))
    (href : referenceSize<2^64)
    (hspace : referenceSize+smbMemoryPoolSegmentSize pageShift requestSize referenceSize≤
      2^64) : smbMemoryPoolSegmentSize pageShift requestSize referenceSize < requestSize:=by
  have hpage : 2^12≤2^pageShift:=Nat.pow_le_pow_right (by decide) hmin
  have hlarge : 2^pageShift≤2^30:=Nat.pow_le_pow_right (by decide) hmax
  have hslots:=slotCount_le hmax
  have hasked:=totalForPages_mod_lt hmin hmax hreq hover
  obtain ⟨hsize,-⟩:=segmentSize_bounds requestSize (hmax.trans (by decide)) href
  have hle:=pagesFor_mul_le pageShift requestSize
  have hmul:=Nat.mul_le_mul_left (pagesFor pageShift requestSize) hpage
  rw [totalForPages,sizeofMemoryPool,sizeofSlabPage,Nat.add_mul (pagesFor pageShift requestSize)] at hover
  omega

end

lemma allocLocked_failed {pageShift size : ℕ} {buffer : Option ℕ} {chain chain' : MemoryPool} {tail : PoolSegment}
    (h : smbMemoryPoolAllocLocked pageShift (chain++[tail]) size buffer=some (0,chain')) :
    chain'.map PoolSegment.totalSize=(chain++[tail]).map PoolSegment.totalSize ∨
      ∃ pool g, buffer=some pool ∧ smbMemoryPoolCreateSegment pageShift
          (smbMemoryPoolSegmentSize pageShift size tail.totalSize) (some pool)=some g ∧
        ¬g.Serves size:=by
  rw [smbMemoryPoolAllocLocked,Option.bind_eq_some_iff] at h
  obtain ⟨⟨q,pool⟩,hchain,hrest⟩:=h
  have hsizes:=allocFromChain_sizes hchain
  dsimp only at hrest
  split at hrest
  · cases hrest
    exact .inl hsizes
  · split at hrest
    · cases hrest
      exact .inl hsizes
    next last hlast=>
      have hlastS : last.totalSize=tail.totalSize:=by
        have heq:=congrArg getLast? hsizes
        rw [getLast?_map,getLast?_map,hlast,getLast?_concat] at heq
        exact Option.some.inj heq
      rw [hlastS] at hrest
      split at hrest
      · cases hrest
        exact .inl hsizes
      next g hcreate=>
        obtain ⟨⟨p,state⟩,halloc,heq⟩:=Option.map_eq_some_iff.1 hrest
        cases heq
        cases buffer with
        | none=>
          rw [smbMemoryPoolCreateSegment_none] at hcreate
          cases hcreate
        | some pool=>
          refine .inr ⟨pool,g,rfl,hcreate,fun hserves=>?_⟩
          obtain ⟨p,state',hserved,hne,-⟩:=hserves
          rw [halloc] at hserved
          cases hserved
          exact hne rfl

/-- A request that is made again and again, with what `malloc` answers each time, and fails each
time. -/
inductive FailedRequests (pageShift size : ℕ) : MemoryPool→List (Option ℕ)→MemoryPool→Prop
  | nil (chain : MemoryPool) : FailedRequests pageShift size chain [] chain
  | cons {chain next last : MemoryPool} {buffer : Option ℕ} {buffers : List (Option ℕ)}
    (hstep : smbMemoryPoolAllocLocked pageShift chain size buffer=some (0,next))
    (hrest : FailedRequests pageShift size next buffers last) :
    FailedRequests pageShift size chain (buffer::buffers) last

lemma FailedRequests.sizes {pageShift size : ℕ} {chain last : MemoryPool} {tail : PoolSegment}
    {buffers : List (Option ℕ)} (hrun : FailedRequests pageShift size (chain++[tail]) buffers last)
    (hserves : ∀ pool g, some pool∈buffers→smbMemoryPoolCreateSegment pageShift
      (smbMemoryPoolSegmentSize pageShift size tail.totalSize) (some pool)=some g→
        g.Serves size) : last.map PoolSegment.totalSize=(chain++[tail]).map PoolSegment.totalSize:=by
  generalize hfirst : chain++[tail]=start at hrun
  induction hrun generalizing chain tail with
  | nil start=>rfl
  | @cons start next last buffer buffers hstep hrest ih=>
    rw [← hfirst] at hstep ⊢
    rcases allocLocked_failed hstep with hsizes | ⟨pool,g,rfl,hcreate,hnot⟩
    · -- the last segment of the next chain has the same size
      have hlen:=congrArg length hsizes
      rw [length_map,length_map,length_append,length_singleton] at hlen
      have hne : next≠[]:=ne_nil_of_length_eq_add_one hlen
      have hlast : (next.getLast hne).totalSize=tail.totalSize:=by
        have heq:=congrArg getLast? hsizes
        rw [getLast?_map,getLast?_map,getLast?_concat,getLast?_eq_getLast_of_ne_nil hne] at heq
        exact Option.some.inj heq
      rw [ih (fun pool g hmem=>hlast ▸ hserves pool g (mem_cons_of_mem _ hmem)) (dropLast_append_getLast hne),hsizes]
    · exact absurd (hserves pool g mem_cons_self hcreate) hnot

section
variable {pageShift requestSize referenceSize pool : ℕ}

lemma serves_of_created {g : PoolSegment} (hmin : 0<pageShift) (hmax : pageShift≤64) (href : referenceSize<2^64)
    (hfits : totalForPages pageShift (pagesFor pageShift requestSize)<2^64)
    (hcreate : smbMemoryPoolCreateSegment pageShift
      (smbMemoryPoolSegmentSize pageShift requestSize referenceSize) (some pool)=some g)
    (haddr : pool+smbMemoryPoolSegmentSize pageShift requestSize referenceSize<2^64) :
    g.Serves requestSize:=by
  have hsize : smbMemoryPoolSegmentSize pageShift requestSize referenceSize≠0:=by
    intro hzero
    rw [hzero,smbMemoryPoolCreateSegment,if_pos (Nat.zero_le _)] at hcreate
    cases hcreate
  exact serves_of_totalForPages hmin hmax (totalForPages_le_segmentSize hmax href hfits hsize) hcreate haddr

lemma not_serves_of_overflow {g : PoolSegment}
    (hmin : 12≤pageShift) (hmax : pageShift≤30) (hreq : requestSize<2^64)
    (hover : 2^64≤totalForPages pageShift (pagesFor pageShift requestSize))
    (hcreate : smbMemoryPoolCreateSegment pageShift
      (smbMemoryPoolSegmentSize pageShift requestSize referenceSize) (some pool)=some g)
    (hspace : referenceSize+smbMemoryPoolSegmentSize pageShift requestSize referenceSize≤
      2^64) : ¬g.Serves requestSize:=by
  rintro ⟨p,state,-,-,hstart,hp,hend⟩
  rw [smbMemoryPoolCreateSegment] at hcreate
  split at hcreate
  · cases hcreate
  next hsize=>
    have hlt:=segmentSize_lt_of_overflow hmin hmax hreq hover (by omega) hspace
    cases hcreate
    dsimp only [smbSlabInit] at*
    omega

end

/-- A segment appended for a request serves it exactly when the size it needs is below 2^64. -/
theorem growth_serves_request_iff (pageShift requestSize pool : ℕ) (tail g : PoolSegment)
    (hmin : 12≤pageShift) (hmax : pageShift≤30) (hrequest : requestSize<2^64)
    (hcreate : smbMemoryPoolCreateSegment pageShift
      (smbMemoryPoolSegmentSize pageShift requestSize tail.totalSize) (some pool)=some g)
    (haddr : pool+smbMemoryPoolSegmentSize pageShift requestSize tail.totalSize<2^64)
    (hspace : tail.totalSize+smbMemoryPoolSegmentSize pageShift requestSize tail.totalSize≤2^64) :
    (g.Serves requestSize ∧ ∀ (chain last : MemoryPool) (buffers : List (Option ℕ)),
      (∀ pool, some pool∈buffers→ pool+smbMemoryPoolSegmentSize pageShift requestSize tail.totalSize<2^64)→
      FailedRequests pageShift requestSize (chain++[tail]) buffers last→ last.length=(chain++[tail]).length) ↔
      totalForPages pageShift (pagesFor pageShift requestSize)<2^64:=by
  have hsize : smbMemoryPoolSegmentSize pageShift requestSize tail.totalSize≠0:=by
    intro hzero
    rw [hzero,smbMemoryPoolCreateSegment,if_pos (Nat.zero_le _)] at hcreate
    cases hcreate
  have hreference : tail.totalSize<2^64:=by omega
  have hpages : 0<pageShift:=by omega
  have hwords : pageShift≤64:=hmax.trans (by decide)
  refine ⟨fun hgrowth=>?_,fun hfits=>⟨?_,?_⟩⟩
  · by_contra hover
    exact not_serves_of_overflow hmin hmax hrequest (Nat.not_lt.1 hover) hcreate hspace hgrowth.1
  · exact serves_of_created hpages hwords hreference hfits hcreate haddr
  · intro chain last buffers haddrs hrun
    have hsizes:=hrun.sizes fun pool g hmem hcreate=>
      serves_of_created hpages hwords hreference hfits hcreate (haddrs pool hmem)
    simpa only [length_map] using congrArg length hsizes

theorem growth_serves_request_of_1_mib :
    ∃ g, smbMemoryPoolCreateSegment 12 (smbMemoryPoolSegmentSize 12 1048576 65536)
      (some 2097168)=some g ∧ g.Serves 1048576:=by
  refine ⟨_,rfl,?_⟩
  exact ((growth_serves_request_iff 12 1048576 2097168 sampleSegment _ (by decide) (by decide)
    (by decide) rfl (by decide) (by decide)).2 (by decide)).1

/-- A request for the largest size appends a segment and is not served, again and again. -/
theorem growth_without_service :
    (∃ g, smbMemoryPoolCreateSegment 12 (smbMemoryPoolSegmentSize 12 (2^64-1) 65536)
      (some 2097168)=some g ∧ ¬g.Serves (2^64-1)) ∧
    ∃ last, FailedRequests 12 (2^64-1) [sampleSegment] [some 2097168,some 4194320] last ∧ last.length=3:=by
  refine ⟨⟨_,rfl,?_⟩,_,.cons rfl (.cons rfl (.nil _)),rfl⟩
  rintro ⟨p,state,halloc,hne,-⟩
  have hnull : (smbSlabAllocLocked (smbSlabInit 12 2097168 2162704)
    (SlabState.init (smbSlabInit 12 2097168 2162704) fun _=>0) (2^64-1)).map Prod.fst=some 0:=by decide +kernel
  have hzero:=hnull.symm.trans (congrArg (Option.map Prod.fst) halloc)
  exact hne (Option.some.inj hzero).symm

end SoftMessageBus
