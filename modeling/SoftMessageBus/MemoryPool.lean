import SoftMessageBus.SlabAllocator

/-!
# The memory pool

The pool is a chain of segments.
-/
namespace SoftMessageBus
open BitWords Nat

section

/-- `sizeof(ZOO_MEMORY_POOL_STRUCT)`, with a mutex of 40 bytes. -/
def sizeofMemoryPool : ℕ:=128
def pointerDiff (p q : ℕ) : ℕ:=(p+(2^64-q)) % 2^64

def smbAlignPtr (p a : ℕ) : ℕ:=
  let q:=(p+(a-1)) % 2^64
  q-(q &&& (a-1))

/-- The layout that `smb_slab_init` computes for the segment at `pool`. -/
def smbSlabInit (pageShift pool endAddr : ℕ) : SegmentLayout:=
  let pagesize:=2^pageShift
  let p:=pool+sizeofMemoryPool+(pageShift-minShift)*sizeofSlabPage
  let size:=pointerDiff endAddr p
  let pages:=size/(pagesize+sizeofSlabPage)
  let start:=smbAlignPtr (p+pages*sizeofSlabPage) pagesize
  { pagesizeShift:=pageShift
    pages:=p
    descriptors:=pages
    start
    endAddr
    realPages:=pointerDiff endAddr start/pagesize}

/-- A `ZOO_MEMORY_POOL_STRUCT` at an address. -/
structure PoolSegment where
  pool : ℕ
  totalSize : ℕ
  layout : SegmentLayout
  state : SlabState

/-- `smb_memory_pool_create_segment`; `none` also stands for a mutex that fails. -/
def smbMemoryPoolCreateSegment (pageShift totalSize : ℕ) (buffer : Option ℕ) : Option PoolSegment:=
  if totalSize ≤ sizeofMemoryPool then none
  else buffer.map fun pool=>
    let layout:=smbSlabInit pageShift pool (pool+totalSize)
    {pool, totalSize, layout, state:=SlabState.init layout fun _=>0}

lemma smbMemoryPoolCreateSegment_none (pageShift totalSize : ℕ) :
    smbMemoryPoolCreateSegment pageShift totalSize none=none:=by
  rw [smbMemoryPoolCreateSegment]
  split <;> rfl

def PoolSegment.slotsEnd (g : PoolSegment) : ℕ:=g.pool+sizeofMemoryPool+(g.layout.pagesizeShift-minShift)*sizeofSlabPage

/-- The parts of a segment lie in it and every page has a descriptor of its own. -/
structure PoolSegment.Usable (g : PoolSegment) : Prop where
  slots : g.slotsEnd≤g.layout.endAddr
  descriptors : g.layout.pages+sizeofSlabPage*max g.layout.descriptors 1≤g.layout.endAddr
  start_le : g.layout.start≤g.layout.endAddr
  realPages_eq : g.layout.realPages=(g.layout.endAddr-g.layout.start)/g.layout.pagesize
  descriptor_below : ∀ i<g.layout.realPages, g.layout.pages+sizeofSlabPage*(i+1)≤g.layout.start

def slotsSize (pageShift : ℕ) : ℕ:=sizeofMemoryPool+(pageShift-minShift)*sizeofSlabPage

/-- The number of bytes up to the next multiple of `a`. -/
def alignmentGap (p a : ℕ) : ℕ:=(a-p % a) % a

/-- The sizes and addresses that give a usable segment. -/
def UsableSize (pageShift totalSize pool : ℕ) : Prop:=
  let size:=totalSize-slotsSize pageShift
  let unit:=2^pageShift+sizeofSlabPage
  let gap:=alignmentGap (pool+slotsSize pageShift+size/unit*sizeofSlabPage)
    (2^pageShift)
  slotsSize pageShift+sizeofSlabPage≤totalSize ∧ (size<unit → gap ≤ size) ∧ size % unit<gap+2^pageShift
  deriving Decidable

variable {p : ℕ}

lemma pointerDiff_of_le {q : ℕ} (hle : q≤p) (hp : p<2^64) : pointerDiff p q=p-q:=by
  rw [pointerDiff,show p+(2^64-q)=p-q+2^64 by omega,add_mod_right, mod_eq_of_lt (by omega)]

lemma alignmentGap_lt (p : ℕ) {a : ℕ} (ha : 0<a) : alignmentGap p a<a:=mod_lt _ ha

lemma dvd_add_alignmentGap (p : ℕ) {a : ℕ} (ha : 0<a) : a ∣ p+alignmentGap p a:=by
  have hdiv:=div_add_mod p a
  have hlt:=mod_lt p ha
  rcases Nat.eq_zero_or_pos (p % a) with hz | hpos
  · rw [alignmentGap,hz,Nat.sub_zero,mod_self,Nat.add_zero]
    exact dvd_of_mod_eq_zero hz
  · rw [alignmentGap,mod_eq_of_lt (by omega)]
    refine ⟨p/a+1,?_⟩
    rw [Nat.mul_add,Nat.mul_one]
    omega

lemma sub_and_two_pow (q k : ℕ) : q-(q &&& (2^k-1))=q/2^k*2^k:=by
  rw [and_two_pow_sub_one_eq_mod]
  have hdiv:=div_add_mod q (2^k)
  rw [Nat.mul_comm] at hdiv
  omega

variable {k : ℕ}

lemma smbAlignPtr_eq (h : p+(2^k-1)<2^64) : smbAlignPtr p (2^k)=p+alignmentGap p (2^k):=by
  have hpos:=Nat.two_pow_pos k
  have hlt:=alignmentGap_lt p hpos
  obtain ⟨t,ht⟩:=dvd_add_alignmentGap p hpos
  rw [smbAlignPtr,mod_eq_of_lt h,sub_and_two_pow,ht,
    show p+(2^k-1)=2^k*t+(2^k-1-alignmentGap p (2^k)) by omega,
    mul_add_div hpos,div_eq_of_lt (by omega),Nat.add_zero,Nat.mul_comm]

lemma smbAlignPtr_wrap (hk : k≤64) (hp : p<2^64) (h : 2^64≤p+(2^k-1)) : smbAlignPtr p (2^k)=0:=by
  have hpow : 2^k≤2^64:=Nat.pow_le_pow_right (by decide) hk
  rw [smbAlignPtr,sub_and_two_pow,mod_eq_sub_mod h,mod_eq_of_lt (by omega),div_eq_of_lt (by omega),Nat.zero_mul]

lemma le_add_alignmentGap (hk : k≤64) (h : 2^64≤p+(2^k-1)) : 2^64≤p+alignmentGap p (2^k):=by
  have hpos:=Nat.two_pow_pos k
  obtain ⟨t,ht⟩:=dvd_add_alignmentGap p hpos
  have hspace : 2^64=2^k*2^(64-k):=by rw [← Nat.pow_add,Nat.add_sub_cancel' hk]
  by_contra hlt
  have hstep : t+1≤2^(64-k):=by
    have hmul : 2^k*t<2^k*2^(64-k):=by omega
    exact Nat.lt_of_mul_lt_mul_left hmul
  have hmul:=Nat.mul_le_mul_left (2^k) hstep
  rw [Nat.mul_add,Nat.mul_one] at hmul
  omega

lemma descriptors_below_iff (m gap p : ℕ) {r pagesize : ℕ} (hpos : 0<pagesize) (hr : r<pagesize+sizeofSlabPage) :
    (∀ i<(pagesize*m+r-gap)/pagesize, p+sizeofSlabPage*(i+1)≤p+m*sizeofSlabPage+gap) ↔ r<gap+pagesize:=by
  rw [show sizeofSlabPage=24 from rfl] at hr ⊢
  constructor
  · intro hbelow
    by_contra hge
    have hmany : m<(pagesize*m+r-gap)/pagesize:=by
      rw [lt_iff_add_one_le,Nat.le_div_iff_mul_le hpos,Nat.add_mul,Nat.mul_comm m]
      omega
    have hlast:=hbelow m hmany
    omega
  · intro hlt i hi
    have hfew : (pagesize*m+r-gap)/pagesize < m+1:=by
      rw [Nat.div_lt_iff_lt_mul hpos,Nat.add_mul,Nat.mul_comm m]
      omega
    omega

section
variable {pageShift totalSize pool m r : ℕ} {state : SlabState}

section
variable (hsize : totalSize=slotsSize pageShift+(2^pageShift+sizeofSlabPage)*m+r)
include hsize

section
variable (hr : r<2^pageShift+sizeofSlabPage) (haddr : pool+totalSize<2^64)
include hr haddr

lemma descriptors_smbSlabInit : (smbSlabInit pageShift pool (pool+totalSize)).descriptors=m:=by
  have hslots : pool+sizeofMemoryPool+(pageShift-minShift)*sizeofSlabPage=
      pool+slotsSize pageShift:=Nat.add_assoc _ _ _
  have hrest : pointerDiff (pool+totalSize) (pool+slotsSize pageShift)=
      (2^pageShift+sizeofSlabPage)*m+r:=by
    rw [pointerDiff_of_le (by omega) haddr]
    omega
  rw [smbSlabInit,hslots,hrest]
  exact (mul_add_div (by omega) m r).trans (by rw [div_eq_of_lt hr,Nat.add_zero])

lemma start_smbSlabInit :
    (smbSlabInit pageShift pool (pool+totalSize)).start=
      smbAlignPtr (pool+slotsSize pageShift+m*sizeofSlabPage) (2^pageShift):=by
  rw [← descriptors_smbSlabInit hsize hr haddr,slotsSize,← Nat.add_assoc]
  rfl

end
end

lemma smbSlabInit_eq (hmax : pageShift≤64)
    (hsize : totalSize=slotsSize pageShift+(2^pageShift+sizeofSlabPage)*m+r)
    (hr : r<2^pageShift+sizeofSlabPage) (haddr : pool+totalSize<2^64) {gap : ℕ}
    (hgap : gap=alignmentGap (pool+slotsSize pageShift+m*sizeofSlabPage)
      (2^pageShift)) (hle : gap≤2^pageShift*m+r) :
    (smbSlabInit pageShift pool (pool+totalSize)).start=
        pool+slotsSize pageShift+m*sizeofSlabPage+gap ∧
      (smbSlabInit pageShift pool (pool+totalSize)).realPages=(2^pageShift*m+r-gap)/2^pageShift:=by
  rw [Nat.add_mul,Nat.mul_comm sizeofSlabPage] at hsize
  have hnowrap : pool+slotsSize pageShift+m*sizeofSlabPage+(2^pageShift-1)<
      2^64:=by
    by_contra hwrap
    have hpast:=le_add_alignmentGap hmax (Nat.not_lt.1 hwrap)
    omega
  have hstart : (smbSlabInit pageShift pool (pool+totalSize)).start=
      pool+slotsSize pageShift+m*sizeofSlabPage+gap:=by
    rw [start_smbSlabInit (by rw [hsize,Nat.add_mul,Nat.mul_comm sizeofSlabPage]) hr haddr,smbAlignPtr_eq hnowrap,hgap]
  refine ⟨hstart,?_⟩
  change pointerDiff (pool+totalSize) (smbSlabInit pageShift pool (pool+totalSize)).start / 2^pageShift=_
  rw [hstart,pointerDiff_of_le (by omega) haddr]
  congr 1
  omega

lemma not_usable_of_lt_gap (hmax : pageShift<64)
    (hsize : totalSize=slotsSize pageShift+r) (hr : r<2^pageShift+sizeofSlabPage)
    (haddr : pool+totalSize<2^64) (hgap : r<alignmentGap (pool+slotsSize pageShift) (2^pageShift)) :
    ¬(PoolSegment.mk pool totalSize (smbSlabInit pageShift pool (pool+totalSize)) state).Usable:=by
  intro hus
  have hpos:=Nat.two_pow_pos pageShift
  have hstart:=start_smbSlabInit (m:=0) (by rw [Nat.mul_zero]; exact hsize) hr haddr
  rw [Nat.zero_mul,Nat.add_zero] at hstart
  have hle:=hus.start_le
  change (smbSlabInit pageShift pool (pool+totalSize)).start≤pool+totalSize at hle
  by_cases hnowrap : pool+slotsSize pageShift+(2^pageShift-1)<2^64
  · rw [hstart,smbAlignPtr_eq hnowrap] at hle
    omega
  · -- Alignment passes the last address, so the payload area starts at address zero, in front of
    -- every descriptor.
    rw [smbAlignPtr_wrap hmax.le (by omega) (Nat.not_lt.1 hnowrap)] at hstart
    have hhalf : 2^pageShift≤2^63:=Nat.pow_le_pow_right (by decide) (by omega)
    have hpage : 0<(smbSlabInit pageShift pool (pool+totalSize)).realPages:=by
      change 0<pointerDiff (pool+totalSize) (smbSlabInit pageShift pool (pool+totalSize)).start/2^pageShift
      rw [hstart,pointerDiff_of_le (Nat.zero_le _) haddr]
      exact Nat.div_pos (by omega) hpos
    have hbelow:=hus.descriptor_below 0 hpage
    change pool+sizeofMemoryPool+(pageShift-minShift)*sizeofSlabPage+
      sizeofSlabPage*(0+1)≤(smbSlabInit pageShift pool (pool+totalSize)).start at hbelow
    rw [hstart,sizeofMemoryPool] at hbelow
    omega

lemma usable_iff_of_gap_le (hmax : pageShift<64)
    (hsize : totalSize=slotsSize pageShift+(2^pageShift+sizeofSlabPage)*m+r)
    (hr : r<2^pageShift+sizeofSlabPage) (haddr : pool+totalSize<2^64) {gap : ℕ}
    (hgap : gap=alignmentGap (pool+slotsSize pageShift+m*sizeofSlabPage)
      (2^pageShift)) (hle : gap≤2^pageShift*m+r) :
    (PoolSegment.mk pool totalSize (smbSlabInit pageShift pool (pool+totalSize))
      state).Usable ↔
      slotsSize pageShift+sizeofSlabPage≤totalSize ∧ r<gap+2^pageShift:=by
  obtain ⟨hstart,hreal⟩:=smbSlabInit_eq hmax.le hsize hr haddr hgap hle
  have hdesc:=descriptors_smbSlabInit hsize hr haddr
  have hslots : pool+sizeofMemoryPool+(pageShift-minShift)*sizeofSlabPage=
      pool+slotsSize pageShift:=Nat.add_assoc _ _ _
  have hpages : (smbSlabInit pageShift pool (pool+totalSize)).pages=pool+slotsSize pageShift:=hslots
  have hend : (smbSlabInit pageShift pool (pool+totalSize)).endAddr=pool+totalSize:=rfl
  have hbelow:=descriptors_below_iff m gap (pool+slotsSize pageShift) (Nat.two_pow_pos pageShift) hr
  rw [Nat.add_mul,Nat.mul_comm sizeofSlabPage] at hsize
  constructor
  · rintro ⟨-,hins,-,-,hdescribes⟩
    rw [hpages,hdesc,hend] at hins
    have hmany:=Nat.mul_le_mul_left sizeofSlabPage (Nat.le_max_right m 1)
    refine ⟨by omega,hbelow.1 fun i hi=>?_⟩
    rw [← hreal] at hi
    have hi:=hdescribes i hi
    rwa [hpages,hstart] at hi
  · rintro ⟨hfirst,hrest⟩
    refine ⟨?_,?_,?_,?_,?_⟩
    · change pool+sizeofMemoryPool+(pageShift-minShift)*sizeofSlabPage≤pool+totalSize
      omega
    · rw [hpages,hdesc,hend]
      rcases Nat.eq_zero_or_pos m with rfl | hm
      · rw [Nat.max_eq_right (Nat.zero_le 1),Nat.mul_one]
        omega
      · rw [Nat.max_eq_left hm,Nat.mul_comm]
        omega
    · rw [hstart,hend]
      omega
    · change (smbSlabInit pageShift pool (pool+totalSize)).realPages=(pool+totalSize -
        (smbSlabInit pageShift pool (pool+totalSize)).start)/2^pageShift
      rw [hreal,hstart]
      congr 1
      omega
    · intro i hi
      change i<(smbSlabInit pageShift pool (pool+totalSize)).realPages at hi
      rw [hreal] at hi
      rw [hpages,hstart]
      exact hbelow.2 hrest i hi

lemma usable_iff_of_room (hmax : pageShift<64)
    (hroom : slotsSize pageShift≤totalSize) (haddr : pool+totalSize<2^64) :
    (PoolSegment.mk pool totalSize (smbSlabInit pageShift pool (pool+totalSize))
      state).Usable ↔ UsableSize pageShift totalSize pool:=by
  have hpos:=Nat.two_pow_pos pageShift
  have hdiv:=div_add_mod (totalSize-slotsSize pageShift) (2^pageShift+sizeofSlabPage)
  have hr:=mod_lt (totalSize-slotsSize pageShift) (show 0<2^pageShift+sizeofSlabPage by omega)
  have hunit:=div_eq_zero_iff_lt (x:=totalSize-slotsSize pageShift) (show 0<2^pageShift+sizeofSlabPage by omega)
  rw [UsableSize]
  generalize (totalSize-slotsSize pageShift)/(2^pageShift+sizeofSlabPage)=m at*
  generalize (totalSize-slotsSize pageShift) % (2^pageShift+sizeofSlabPage)=r at*
  have hlt:=alignmentGap_lt (pool+slotsSize pageShift+m*sizeofSlabPage) hpos
  by_cases hle : alignmentGap (pool+slotsSize pageShift+m*sizeofSlabPage)
      (2^pageShift)≤2^pageShift*m+r
  · rw [usable_iff_of_gap_le hmax (by omega) hr haddr rfl hle]
    refine and_congr_right fun _=>(and_iff_right fun hsmall=>?_).symm
    obtain rfl:=hunit.2 hsmall
    omega
  · obtain rfl : m=0:=by
      by_contra hm
      have hmul:=Nat.le_mul_of_pos_right (2^pageShift) (Nat.pos_of_ne_zero hm)
      omega
    rw [Nat.zero_mul,Nat.add_zero] at hle
    refine iff_of_false (not_usable_of_lt_gap hmax (by omega) hr haddr (by omega)) ?_
    rintro ⟨-,hsmall,-⟩
    have hgap:=hsmall (hunit.1 rfl)
    rw [Nat.zero_mul,Nat.add_zero] at hgap
    omega

end

/-- A segment is usable exactly when its size and address fit together. -/
theorem create_segment_usable_iff (pageShift totalSize pool : ℕ) (hmax : pageShift<64)
    (haccepted : sizeofMemoryPool<totalSize) (haddr : pool+totalSize<2^64) :
    ∃ g, smbMemoryPoolCreateSegment pageShift totalSize (some pool)=some g ∧
      (g.Usable ↔ UsableSize pageShift totalSize pool):=by
  refine ⟨_,by rw [smbMemoryPoolCreateSegment,if_neg (Nat.not_le.2 haccepted)]; rfl,?_⟩
  have hslots : pool+sizeofMemoryPool+(pageShift-minShift)*sizeofSlabPage=
      pool+slotsSize pageShift:=Nat.add_assoc _ _ _
  by_cases hroom : slotsSize pageShift≤totalSize
  · rw [usable_iff_of_room hmax hroom haddr]
  · refine iff_of_false (fun husable=>?_) (fun hsize=>?_)
    · have hinside:=husable.slots
      rw [PoolSegment.slotsEnd] at hinside
      change pool+sizeofMemoryPool+(pageShift-minShift)*sizeofSlabPage≤pool+totalSize at hinside
      omega
    · have hfit:=hsize.1
      omega

theorem create_segment_usable_64_kib :
    ∃ g, smbMemoryPoolCreateSegment 12 65536 (some 1048592)=some g ∧ g.Usable:=by
  obtain ⟨g,hcreate,husable⟩:=create_segment_usable_iff 12 65536 1048592 (by decide) (by decide) (by decide)
  exact ⟨g,hcreate,husable.2 (by decide)⟩

/-- A segment in a block of 64 KiB. -/
def sampleSegment : PoolSegment where
  pool:=1048592
  totalSize:=65536
  layout:=smbSlabInit 12 1048592 (1048592+65536)
  state:=SlabState.init (smbSlabInit 12 1048592 (1048592+65536)) fun _=>0

/-- The payload area can start behind the end, and two pages can share a descriptor. -/
theorem create_segment_unusable :
    (∃ g, smbMemoryPoolCreateSegment 12 1024 (some 65536)=some g ∧ g.layout.endAddr<g.layout.start ∧ ¬g.Usable) ∧
    ∃ g, smbMemoryPoolCreateSegment 12 8560 (some 65168)=some g ∧ g.layout.realPages=2 ∧
      g.layout.descriptors=1 ∧ ¬g.Usable:=by
  refine ⟨⟨_,rfl,by decide,fun husable=>?_⟩,⟨_,rfl,by decide,by decide,fun husable=>?_⟩⟩
  · exact absurd husable.start_le (by decide)
  · exact absurd (husable.descriptor_below 1 (by decide)) (by decide)

/-- The segments from `smb_memory_pool` to `smb_memory_pool_tail`. -/
abbrev MemoryPool:=List PoolSegment

/-- The loop of `smb_memory_pool_segment_size`: a size is doubled until it reaches `minTotal`. -/
def doubleSize (minTotal : ℕ) : ℕ→ℕ→ℕ
  | 0, candidate=>candidate
  | fuel+1, candidate=>
    if candidate < minTotal then
      if (2^64-1)/2<candidate then minTotal
      else doubleSize minTotal fuel (candidate*2)
    else candidate

/-- The number of slots that `smb_memory_pool_segment_size` allows for. -/
def slotCount (pageShift : ℕ) : ℕ:=if minShift<pageShift then pageShift-minShift else 1

/-- `min_total` in `smb_memory_pool_segment_size`, for a number of pages and before it is cut to 64
bits. -/
def totalForPages (pageShift requestedPages : ℕ) : ℕ:=
  sizeofMemoryPool+(slotCount pageShift+requestedPages+2)*sizeofSlabPage+ (requestedPages+2)*2^pageShift

/-- `requested_pages` in `smb_memory_pool_segment_size`. -/
def requestedPages (pageShift requestSize : ℕ) : ℕ:=
  let pages:=(requestSize+(2^pageShift-1)) % 2^64/2^pageShift
  if pages=0 then 1 else pages

def smbMemoryPoolSegmentSize (pageShift requestSize referenceSize : ℕ) : ℕ:=
  let pageSize:=2^pageShift
  let minTotal:=totalForPages pageShift (requestedPages pageShift requestSize) % 2^64
  let candidate:=doubleSize minTotal 64 (if 0 < referenceSize then referenceSize else minTotal)
  if candidate % pageSize≠0 then (candidate+(pageSize-candidate % pageSize)) % 2^64
  else candidate

/-- The part of `smb_memory_pool_alloc_locked` that walks over the segments. -/
def allocFromChain (size : ℕ) : MemoryPool→Option (ℕ × MemoryPool)
  | []=>some (0,[])
  | g::chain=>
    (smbSlabAllocLocked g.layout g.state size).bind fun (p,state)=>
      if p≠0 then some (p,{g with state} :: chain)
      else (allocFromChain size chain).map fun (p,chain)=>(p,{g with state} :: chain)

lemma allocFromChain_sizes {size p : ℕ} {chain chain' : MemoryPool} (h : allocFromChain size chain=some (p,chain')) :
    chain'.map PoolSegment.totalSize=chain.map PoolSegment.totalSize:=by
  induction chain generalizing p chain' with
  | nil=>
    cases h
    rfl
  | cons g chain ih=>
    rw [allocFromChain,Option.bind_eq_some_iff] at h
    obtain ⟨⟨q,state⟩,-,hrest⟩:=h
    dsimp only at hrest
    split at hrest
    · cases hrest
      rfl
    · obtain ⟨⟨q',rest⟩,htail,heq⟩:=Option.map_eq_some_iff.1 hrest
      cases heq
      rw [List.map_cons,List.map_cons,ih htail]

/-- `smb_memory_pool_alloc_locked`. -/
def smbMemoryPoolAllocLocked (pageShift : ℕ) (pool : MemoryPool) (size : ℕ)
    (buffer : Option ℕ) : Option (ℕ × MemoryPool):=
  (allocFromChain size pool).bind fun (p,pool)=>
    if p≠0 then some (p,pool)
    else match pool.getLast? with
      | none=>some (0,pool)
      | some tail=>
        match smbMemoryPoolCreateSegment pageShift
          (smbMemoryPoolSegmentSize pageShift size tail.totalSize) buffer with
        | none=>some (0,pool)
        | some g=>(smbSlabAllocLocked g.layout g.state size).map fun (p,state)=>
            (p,pool++[{g with state}])

/-- `zoo_allocate_from_pool`, up to clearing the block. -/
def zooAllocateFromPool (pageShift : ℕ) (pool : MemoryPool) (size : ℕ) (buffer : Option ℕ) :
    Option (ℕ × MemoryPool):=
  if pool=[] ∨ size=0 then some (0,pool)
  else smbMemoryPoolAllocLocked pageShift pool size buffer

/-- The test of `smb_memory_pool_find_segment_for_ptr`. -/
def PoolSegment.contains (g : PoolSegment) (p : ℕ) : Bool:=decide (g.layout.start≤p) && decide (p<g.layout.endAddr)

def smbMemoryPoolFreeLocked (p : ℕ) : MemoryPool→MemoryPool
  | []=>[]
  | g::chain=>
    if g.contains p then {g with state:=smbSlabFreeLocked g.layout g.state p} :: chain
    else g::smbMemoryPoolFreeLocked p chain

def zooFreeToPool (pool : MemoryPool) (p : ℕ) : MemoryPool:=if p≠0 then smbMemoryPoolFreeLocked p pool else pool

/-- The loop of `zoo_validate_memory_pool` over the free runs of a segment. -/
def SlabState.validateLoop (s : SlabState) (realPages : ℕ) :
    ℕ→SlabRef→SlabRef→ℕ→Option Bool
  | 0, _, _, _=>none
  | fuel+1, page, prev, freeAccounted=>
    if page = .free then some (decide (freeAccounted≤realPages))
    else if s.next page = .null then some false
    else if s.prevRef page≠prev then some false
    else if s.next page=s.next .free then some false
    else s.validateLoop realPages fuel (s.next page) page
      ((freeAccounted+(s.slab page).toNat) % 2^64)

/-- The check of one segment in `zoo_validate_memory_pool`. -/
def PoolSegment.validate (g : PoolSegment) : Option Bool:=
  g.state.validateLoop g.layout.realPages (g.layout.realPages+1) (g.state.next .free) .free 0

/-- The loop of `zoo_validate_memory_pool` over the segments. -/
def validateChain : MemoryPool→Option ℤ
  | []=>some 0
  | g::chain=>g.validate.bind fun valid=>if valid then validateChain chain else some (-1)

def zooValidateMemoryPool (pool : MemoryPool) : Option ℤ:=if pool=[] then some (-1) else validateChain pool

end

/-! ## Aligned blocks -/

/-- The size that is requested from `malloc`. -/
def alignedTotalSize (size alignment : ℕ) : ℕ:=(size+alignment+8) % 2^64

/-- The place of the stored address. -/
def backPointer (aligned : ℕ) : ℕ:=(aligned+2^64-8) % 2^64

/-- `zoo_safety_malloc_aligned`, when `malloc` returns `raw`: the result and the stored
addresses. -/
def mallocAligned (memory : ℕ→ℕ) (raw size alignment : ℕ) : ℕ × (ℕ→ℕ):=
  if size=0 ∨ alignment=0 ∨ alignment &&& (alignment-1)≠0 ∨ raw=0 then (0,memory)
  else
    let aligned:=smbAlignPtr ((raw+8) % 2^64) alignment
    (aligned,Function.update memory (backPointer aligned) raw)

/-- `zoo_safety_free_aligned`: what is passed to `free`. -/
def freeAligned (memory : ℕ→ℕ) (aligned : ℕ) : Option ℕ:=if aligned=0 then none else some (memory (backPointer aligned))

/-- The result is aligned, inside the block with the address before it, and freed as `raw`. -/
def AlignedInside (raw size alignment : ℕ) (result : ℕ × (ℕ→ℕ)) : Prop:=
  result.1≠0→alignment∣result.1 ∧ raw≤backPointer result.1 ∧ backPointer result.1+8=result.1 ∧
    result.1+size≤raw+alignedTotalSize size alignment ∧ freeAligned result.2 result.1=some raw

lemma mallocAligned_eq {raw size k : ℕ} (memory : ℕ→ℕ) (hsize : size≠0) (hraw : 0 < raw) (hend : raw+8+(2^k-1)<2^64) :
    mallocAligned memory raw size (2^k)=(raw+8+alignmentGap (raw+8) (2^k),
      Function.update memory (backPointer (raw+8+alignmentGap (raw+8) (2^k))) raw):=by
  have hpos:=Nat.two_pow_pos k
  have hvalid : ¬(size=0 ∨ 2^k=0 ∨ 2^k &&& (2^k-1)≠0 ∨ raw=0):=by simp [hsize,hraw.ne']
  rw [mallocAligned,if_neg hvalid,mod_eq_of_lt (by omega),smbAlignPtr_eq hend]

lemma mallocAligned_inside {raw size k : ℕ} (memory : ℕ→ℕ) (hsize : size≠0) (hraw : 0 < raw)
    (htotal : size+2^k+8<2^64) (hblock : raw+(size+2^k+8)≤2^64) :
    AlignedInside raw size (2^k) (mallocAligned memory raw size (2^k)):=by
  intro hresult
  have hpos:=Nat.two_pow_pos k
  have hgap:=alignmentGap_lt (raw+8) hpos
  have hdvd:=dvd_add_alignmentGap (raw+8) hpos
  rw [mallocAligned_eq memory hsize hraw (by omega)] at hresult ⊢
  rw [alignedTotalSize,mod_eq_of_lt htotal]
  have hback : backPointer (raw+8+alignmentGap (raw+8) (2^k))=raw+alignmentGap (raw+8) (2^k):=by
    rw [backPointer]
    omega
  refine ⟨hdvd,?_,?_,?_,?_⟩
  · exact hback ▸ Nat.le_add_right _ _
  · dsimp only
    omega
  · dsimp only
    omega
  · rw [freeAligned,if_neg hresult]
    dsimp only
    rw [Function.update_self]

/-- Over every block that `malloc` can return for the size and every content of the memory. -/
theorem mallocAligned_inside_iff (size : UInt64) (k : Fin 64) :
    (∀ (memory : ℕ→ℕ) (raw : ℕ), raw+alignedTotalSize size.toNat (2^k.val)≤2^64→
      AlignedInside raw size.toNat (2^k.val) (mallocAligned memory raw size.toNat (2^k.val))) ↔
    size=0 ∨ size.toNat+2^k.val+8<2^64:=by
  have hlt:=size.toNat_lt
  have hpos:=Nat.two_pow_pos k.val
  have hpow : 2^k.val≤2^63:=Nat.pow_le_pow_right (by decide) (by omega)
  constructor
  · intro h
    by_contra hnot
    rw [not_or] at hnot
    have hsize : size.toNat≠0:=fun hz=>hnot.1 (UInt64.toNat_inj.mp hz)
    -- the requested size wraps, so that the block at 16 is too small
    have hinside:=h (fun _=>0) 16 (by rw [alignedTotalSize]; omega)
    rw [mallocAligned_eq _ hsize (by decide) (by omega)] at hinside
    have hend:=(hinside (by simp)).2.2.2.1
    simp only [alignedTotalSize] at hend
    omega
  · intro h memory raw hblock
    by_cases hnull : raw=0 ∨ size=0
    · intro hresult
      exact absurd (by rw [mallocAligned,if_pos (by rcases hnull with rfl | rfl <;> simp)]) hresult
    · rw [not_or] at hnull
      have htotal:=h.resolve_left hnull.2
      rw [alignedTotalSize,mod_eq_of_lt htotal] at hblock
      exact mallocAligned_inside memory (fun hz=>hnull.2 (UInt64.toNat_inj.mp hz))
        (Nat.pos_of_ne_zero hnull.1) htotal hblock

/-- The largest size with an alignment of 16: `malloc` is asked for 23 bytes. -/
theorem mallocAligned_wraps :
    ¬AlignedInside 16 18446744073709551615 16 (mallocAligned (fun _=>0) 16 18446744073709551615 16):=by
  unfold AlignedInside
  decide +kernel

end SoftMessageBus
