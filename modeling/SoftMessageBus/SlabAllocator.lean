import SoftMessageBus.BitWords
import Mathlib.Algebra.Ring.Nat
import Mathlib.Data.Nat.Log

/-!
# The slab allocator of a pool segment

A segment holds page descriptors and a payload area of whole pages.
-/
namespace SoftMessageBus
open BitWords Function

/-- Pointers to the `ZOO_SLAB_PAGE_STRUCT` records of a segment. -/
inductive SlabRef where
  | null
  | free
  | slot (i : ℕ)
  | page (i : ℕ)
  deriving DecidableEq

/-- `SMB_SLAB_PAGE`, `SMB_SLAB_BIG`, `SMB_SLAB_EXACT` and `SMB_SLAB_SMALL`. -/
inductive SlabType where
  | page
  | big
  | exact
  | small
  deriving DecidableEq

structure TaggedRef where
  ref : SlabRef
  tag : SlabType
  deriving DecidableEq

def SlabRef.index : SlabRef→ℕ
  | .page i=>i
  | _=>0

def SlabRef.add : SlabRef→ℕ→SlabRef
  | .page i, n=>.page (i+n)
  | r, _=>r

def sizeofSlabPage : ℕ:=24

/-- The constant part of a `ZOO_MEMORY_POOL_STRUCT`. -/
structure SegmentLayout where
  pagesizeShift : ℕ
  pages : ℕ
  descriptors : ℕ
  start : ℕ
  endAddr : ℕ
  realPages : ℕ

namespace SegmentLayout
variable (l : SegmentLayout)

def pagesize : ℕ:=2^l.pagesizeShift
def slabMaxSize : ℕ:=l.pagesize/2
def slabExactSize : ℕ:=l.pagesize/64
def slabExactShift : ℕ:=Nat.log2 l.slabExactSize

/-- Layouts of 4096-byte pages with a descriptor each in front of the payload area. -/
structure WellFormed : Prop where
  pagesizeShift_eq : l.pagesizeShift=12
  realPages_pos : 0<l.realPages
  realPages_le : l.realPages≤l.descriptors
  descriptors_le : l.pages+sizeofSlabPage*l.descriptors≤l.start
  start_aligned : 4096 ∣ l.start
  payload_le : l.start+4096*l.realPages≤l.endAddr
  endAddr_lt : l.endAddr<2^64

end SegmentLayout

def minShift : ℕ:=3
def minSize : ℕ:=2^minShift

/-- `SMB_SLAB_PAGE_BUSY` and `SMB_SLAB_BUSY`. -/
def slabBusy : Word:=BitVec.allOnes 64
def slabPageStart : Word:=bit 63
def slabShiftMask : Word:=15
def slabMapShift : ℕ:=32
def slabMapMask : Word:=mask slabMapShift 32

structure SlabState where
  slab : SlabRef→Word
  next : SlabRef→SlabRef
  prev : SlabRef→TaggedRef
  memory : ℕ→Word

namespace SlabState

section
variable (s : SlabState)

def setSlab (r : SlabRef) (v : Word) : SlabState:={s with slab:=update s.slab r v}
def setNext (r v : SlabRef) : SlabState:={s with next:=update s.next r v}
def setPrev (r : SlabRef) (v : TaggedRef) : SlabState:={s with prev:=update s.prev r v}
def setWord (addr : ℕ) (v : Word) : SlabState:={s with memory:=update s.memory addr v}

/-- The pointer in `prev`. -/
def prevRef (r : SlabRef) : SlabRef:=(s.prev r).ref

end

/-- The tag in `prev`. -/
def tag (s : SlabState) (r : SlabRef) : SlabType:=(s.prev r).tag

section
variable (s : SlabState) (r v : SlabRef) (w : Word) (t : TaggedRef) (addr : ℕ)

@[simp] lemma slab_setSlab : (s.setSlab r w).slab=update s.slab r w:=rfl
@[simp] lemma slab_setNext : (s.setNext r v).slab=s.slab:=rfl
@[simp] lemma slab_setPrev : (s.setPrev r t).slab=s.slab:=rfl
@[simp] lemma slab_setWord : (s.setWord addr w).slab=s.slab:=rfl
@[simp] lemma next_setSlab : (s.setSlab r w).next=s.next:=rfl
@[simp] lemma next_setNext : (s.setNext r v).next=update s.next r v:=rfl
@[simp] lemma next_setPrev : (s.setPrev r t).next=s.next:=rfl
@[simp] lemma next_setWord : (s.setWord addr w).next=s.next:=rfl
@[simp] lemma memory_setSlab : (s.setSlab r w).memory=s.memory:=rfl
@[simp] lemma memory_setNext : (s.setNext r v).memory=s.memory:=rfl
@[simp] lemma memory_setPrev : (s.setPrev r t).memory=s.memory:=rfl
@[simp] lemma memory_setWord : (s.setWord addr w).memory=update s.memory addr w:=rfl
@[simp] lemma prevRef_setSlab : (s.setSlab r w).prevRef=s.prevRef:=rfl
@[simp] lemma prevRef_setNext : (s.setNext r v).prevRef=s.prevRef:=rfl
@[simp] lemma prevRef_setWord : (s.setWord addr w).prevRef=s.prevRef:=rfl
@[simp] lemma tag_setSlab : (s.setSlab r w).tag=s.tag:=rfl
@[simp] lemma tag_setNext : (s.setNext r v).tag=s.tag:=rfl
@[simp] lemma tag_setWord : (s.setWord addr w).tag=s.tag:=rfl
@[simp] lemma prevRef_setPrev : (s.setPrev r t).prevRef=update s.prevRef r t.ref:=comp_update TaggedRef.ref s.prev r t
@[simp] lemma tag_setPrev : (s.setPrev r t).tag=update s.tag r t.tag:=comp_update TaggedRef.tag s.prev r t

end

/-- The descriptors that `smb_slab_init` sets up: no slot has a page, and all pages form one
free run. -/
def init (l : SegmentLayout) (memory : ℕ→Word) : SlabState where
  slab r:=if r = .page 0 then BitVec.ofNat 64 l.realPages else 0
  next
    | .free=>.page 0
    | .page 0=>.free
    | .slot i=>.slot i
    | _=>.null
  prev
    | .free=>⟨.page 0,.page⟩
    | .page 0=>⟨.free,.page⟩
    | _=>⟨.null,.page⟩
  memory:=memory

end SlabState

variable (l : SegmentLayout)

def smbSlabPageAddr (page : SlabRef) : ℕ:=(page.index <<< l.pagesizeShift)+l.start

/-- Sets `n` descriptors from a page on to a word, unlinked. -/
def SlabState.fill (v : Word) : SlabState→SlabRef→ℕ→SlabState
  | s, _, 0=>s
  | s, page, n+1=>
    fill v (((s.setSlab page v).setNext page .null).setPrev page ⟨.null,.page⟩) (page.add 1) n

variable (s : SlabState)

def SlabState.unlinkPage (page : SlabRef) : SlabState:=
  let s:=s.setNext (s.prevRef page) (s.next page)
  s.setPrev (s.next page) (s.prev page)

/-- The free run at `page` gives up its first pages. -/
def SlabState.takePages (page : SlabRef) (pages : ℕ) : SlabState:=
  if pages<(s.slab page).toNat then
    let rest:=page.add pages
    let s:=s.setSlab rest (s.slab page-BitVec.ofNat 64 pages)
    let s:=s.setNext rest (s.next page)
    let s:=s.setPrev rest (s.prev page)
    let s:=s.setNext (s.prevRef page) rest
    s.setPrev (s.next page) ⟨rest,.page⟩
  else s.unlinkPage page

def SlabState.allocRun (page : SlabRef) (pages : ℕ) : SlabState:=
  let s:=s.takePages page pages
  let s:=s.setSlab page (BitVec.ofNat 64 pages ||| slabPageStart)
  let s:=s.setNext page .null
  let s:=s.setPrev page ⟨.null,.page⟩
  s.fill slabBusy (page.add 1) (pages-1)

/-- The loop of `smb_slab_alloc_pages` from a page of the list on. -/
def SlabState.allocPagesLoop (s : SlabState) (pages : ℕ) :
    ℕ→SlabRef→Option (SlabRef × SlabState)
  | 0, _=>none
  | fuel+1, page=>
    if page = .free then some (.null,s)
    else if pages≤(s.slab page).toNat then some (page,s.allocRun page pages)
    else s.allocPagesLoop pages fuel (s.next page)

def smbSlabAllocPages (pages : ℕ) : Option (SlabRef × SlabState):=s.allocPagesLoop pages (l.realPages+1) (s.next .free)

def SlabState.linkFreeRun (page : SlabRef) (pages : ℕ) : SlabState:=
  let s:=s.setSlab page (BitVec.ofNat 64 pages)
  let s:=s.setPrev page ⟨.free,.page⟩
  let s:=s.setNext page (s.next .free)
  let s:=s.setPrev (s.next page) ⟨page,.page⟩
  s.setNext .free page

def smbSlabFreePages (page : SlabRef) (pages : ℕ) : SlabState:=
  let s:=if 1<pages then s.fill 0 (page.add 1) (pages-1) else s
  let s:=if s.next page ≠ .null then s.unlinkPage page else s
  s.linkFreeRun page pages

def smbSlabDetachFullPage (page : SlabRef) (slabType : SlabType) : SlabState:=
  let s:=s.unlinkPage page
  let s:=s.setNext page .null
  s.setPrev page ⟨.null,slabType⟩

def smbSlabSmallMapWords (shift : ℕ) : ℕ:=2^(l.pagesizeShift-shift)/64
def smbSlabSmallSummaryBit (wordIndex : ℕ) : Word:=bit (slabMapShift+wordIndex)
def smbSlabSmallSummaryMask (shift : ℕ) : Word:=mask slabMapShift (smbSlabSmallMapWords l shift)

/-- The number of chunks of a small page that hold its map: `reserved_words` in
`smb_slab_init_small_page`. -/
def reservedWords (shift : ℕ) : ℕ:=
  let n:=2^(l.pagesizeShift-shift)/8/2^shift
  if n=0 then 1 else n

/-- The loop over the pages behind a slot, until a chunk is allocated. -/
def walkPages (attempt : SlabRef→Option (ℕ × SlabState)) (s : SlabState) :
    ℕ→SlabRef→Option (ℕ × SlabState)
  | 0, _=>none
  | fuel+1, page=>
    match attempt page with
    | some result=>some result
    | none=>
      if s.next page = .null then some (0,s) else walkPages attempt s fuel (s.next page)

/-- The chunk that `smb_slab_try_alloc_small` takes from a page. -/
def findSmallChunk (page : SlabRef) (shift : ℕ) : Option (ℕ × ℕ):=
  if s.slab page &&& smbSlabSmallSummaryMask l shift=0 then none
  else (List.range (smbSlabSmallMapWords l shift)).findSome? fun n=>
    if s.slab page &&& smbSlabSmallSummaryBit n=0 then none
    else (firstClear (s.memory (smbSlabPageAddr l page+8*n)) 0 64).map fun i=>(n,i)

def takeSmallChunk (page : SlabRef) (shift n i : ℕ) : SlabState:=
  let word:=smbSlabPageAddr l page+8*n
  let s:=s.setWord word (s.memory word ||| bit i)
  if s.memory word=slabBusy then
    let s:=s.setSlab page (s.slab page &&& ~~~smbSlabSmallSummaryBit n)
    if s.slab page &&& smbSlabSmallSummaryMask l shift=0 then smbSlabDetachFullPage s page .small
    else s
  else s

def smbSlabTryAllocSmall (page : SlabRef) (shift : ℕ) : Option (ℕ × SlabState):=
  walkPages (fun page=>(findSmallChunk l s page shift).map fun (n,i)=>
    (smbSlabPageAddr l page+(((n*64) <<< shift)+(i <<< shift)), takeSmallChunk l s page shift n i)) s (l.realPages+1) page

def takeExactChunk (page : SlabRef) (i : ℕ) : SlabState:=
  let s:=s.setSlab page (s.slab page ||| bit i)
  if s.slab page=slabBusy then smbSlabDetachFullPage s page .exact else s

def smbSlabTryAllocExact (page : SlabRef) (shift : ℕ) : Option (ℕ × SlabState):=
  walkPages (fun page=>
    if s.slab page≠slabBusy then
      (firstClear (s.slab page) 0 64).map fun i=>(smbSlabPageAddr l page+(i <<< shift),takeExactChunk s page i)
    else none) s (l.realPages+1) page

def takeBigChunk (page : SlabRef) (chunks i : ℕ) : SlabState:=
  let s:=s.setSlab page (s.slab page ||| bit (slabMapShift+i))
  if s.slab page &&& slabMapMask=mask slabMapShift chunks then smbSlabDetachFullPage s page .big
  else s

def smbSlabTryAllocBig (page : SlabRef) (shift : ℕ) : Option (ℕ × SlabState):=
  let chunks:=2^(l.pagesizeShift-(s.slab page &&& slabShiftMask).toNat)
  walkPages (fun page=>
    if s.slab page &&& slabMapMask≠mask slabMapShift chunks then
      (firstClear (s.slab page) slabMapShift chunks).map fun i=>
        (smbSlabPageAddr l page+(i <<< shift),takeBigChunk s page chunks i)
    else none) s (l.realPages+1) page

section
variable (page slot : SlabRef)

def linkFirstPage (slab : Word) (slabType : SlabType) : SlabState:=
  let s:=s.setSlab page slab
  let s:=s.setNext page slot
  let s:=s.setPrev page ⟨slot,slabType⟩
  s.setNext slot page

def smbSlabInitSmallPage (shift : ℕ) : ℕ × SlabState:=
  let p:=smbSlabPageAddr l page
  let s:=s.setWord p (BitVec.ofNat 64 (2*2^reservedWords l shift-1))
  let s:=(List.range' 1 (smbSlabSmallMapWords l shift-1)).foldl
    (fun s i=>s.setWord (p+8*i) 0) s
  let summary:=
    if s.memory p=slabBusy then
      smbSlabSmallSummaryMask l shift &&& ~~~smbSlabSmallSummaryBit 0
    else smbSlabSmallSummaryMask l shift
  (p+2^shift*reservedWords l shift, linkFirstPage s page slot (BitVec.ofNat 64 shift ||| summary) .small)

def smbSlabInitExactPage : ℕ × SlabState:=(smbSlabPageAddr l page,linkFirstPage s page slot 1 .exact)

def smbSlabInitBigPage (shift : ℕ) : ℕ × SlabState:=
  (smbSlabPageAddr l page, linkFirstPage s page slot (bit slabMapShift ||| BitVec.ofNat 64 shift) .big)

end

/-- The shift that `smb_slab_alloc_locked` computes for a size: the loop counts the halvings of
`size - 1`. -/
def slabShift (size : ℕ) : ℕ:=if minSize<size then Nat.log2 (size-1)+1 else minShift

/-- The number of pages that `smb_slab_alloc_locked` takes for a large size. -/
def slabPages (size : ℕ) : ℕ:=(size >>> l.pagesizeShift)+if size % l.pagesize≠0 then 1 else 0

/-- The attempt of `smb_slab_alloc_locked` to allocate from the pages behind a slot. -/
def tryAllocSlot (shift : ℕ) : Option (ℕ × SlabState):=
  let page:=s.next (.slot (shift-minShift))
  if s.next page≠page then
    if shift<l.slabExactShift then smbSlabTryAllocSmall l s page shift
    else if shift=l.slabExactShift then smbSlabTryAllocExact l s page shift
    else smbSlabTryAllocBig l s page shift
  else some (0,s)

/-- The initialization of a fresh page in `smb_slab_alloc_locked`. -/
def initPage (page : SlabRef) (shift : ℕ) : ℕ × SlabState:=
  let slot:=SlabRef.slot (shift-minShift)
  if shift<l.slabExactShift then smbSlabInitSmallPage l s page slot shift
  else if shift=l.slabExactShift then smbSlabInitExactPage l s page slot
  else smbSlabInitBigPage l s page slot shift

/-- `smb_slab_alloc_locked`. -/
def smbSlabAllocLocked (size : ℕ) : Option (ℕ × SlabState):=
  if l.slabMaxSize ≤ size then
    (smbSlabAllocPages l s (slabPages l size)).map fun (page,s)=>(if page ≠ .null then smbSlabPageAddr l page else 0,s)
  else
    (tryAllocSlot l s (slabShift size)).bind fun (p,s)=>
      if p≠0 then some (p,s)
      else (smbSlabAllocPages l s 1).map fun (page,s)=>
        if page ≠ .null then initPage l s page (slabShift size) else (0,s)

def relinkPage (page : SlabRef) (shift : ℕ) (slabType : SlabType) : SlabState:=
  let slot:=SlabRef.slot (shift-minShift)
  let s:=s.setNext page (s.next slot)
  let s:=s.setNext slot page
  let s:=s.setPrev page ⟨slot,slabType⟩
  s.setPrev (s.next page) ⟨page,slabType⟩

/-- The case `SMB_SLAB_SMALL` of `smb_slab_free_locked`. -/
def freeSmall (page : SlabRef) (p : ℕ) : SlabState:=
  let shift:=(s.slab page &&& slabShiftMask).toNat
  if p &&& (2^shift-1)≠0 then s
  else
    let chunk:=(p &&& (l.pagesize-1)) >>> shift
    let m:=bit (chunk % 64)
    let n:=chunk/64
    let bitmap:=p-(p &&& (l.pagesize-1))
    if s.memory (bitmap+8*n) &&& m≠0 then
      let s:=if s.next page = .null then relinkPage s page shift .small else s
      let s:=
        if s.memory (bitmap+8*n)=slabBusy then
          s.setSlab page (s.slab page ||| smbSlabSmallSummaryBit n)
        else s
      let s:=s.setWord (bitmap+8*n) (s.memory (bitmap+8*n) &&& ~~~m)
      if s.memory bitmap &&& ~~~mask 0 (reservedWords l shift)≠0 then s
      else if (List.range' 1 (smbSlabSmallMapWords l shift-1)).any fun n=>
          s.memory (bitmap+8*n)≠0 then s
      else smbSlabFreePages s page 1
    else s

/-- The case `SMB_SLAB_EXACT` of `smb_slab_free_locked`. -/
def freeExact (page : SlabRef) (p : ℕ) : SlabState:=
  let m:=bit ((p &&& (l.pagesize-1)) >>> l.slabExactShift)
  if p &&& (l.slabExactSize-1)≠0 then s
  else if s.slab page &&& m≠0 then
    let s:=
      if s.slab page=slabBusy then relinkPage s page l.slabExactShift .exact else s
    let s:=s.setSlab page (s.slab page &&& ~~~m)
    if s.slab page≠0 then s else smbSlabFreePages s page 1
  else s

/-- The case `SMB_SLAB_BIG` of `smb_slab_free_locked`. -/
def freeBig (page : SlabRef) (p : ℕ) : SlabState:=
  let shift:=(s.slab page &&& slabShiftMask).toNat
  if p &&& (2^shift-1)≠0 then s
  else
    let m:=bit (((p &&& (l.pagesize-1)) >>> shift)+slabMapShift)
    if s.slab page &&& m≠0 then
      let s:=if s.next page = .null then relinkPage s page shift .big else s
      let s:=s.setSlab page (s.slab page &&& ~~~m)
      if s.slab page &&& slabMapMask≠0 then s else smbSlabFreePages s page 1
    else s

/-- The case `SMB_SLAB_PAGE` of `smb_slab_free_locked`. -/
def freePageRun (page : SlabRef) (p : ℕ) : SlabState:=
  if p &&& (l.pagesize-1)≠0 then s
  else if s.slab page=0 then s
  else if s.slab page=slabBusy then s
  else smbSlabFreePages s page (s.slab page &&& ~~~slabPageStart).toNat

def smbSlabFreeLocked (p : ℕ) : SlabState:=
  if p<l.start ∨ l.endAddr<p then s
  else
    let page:=SlabRef.page ((p-l.start) >>> l.pagesizeShift)
    match s.tag page with
    | .small=>freeSmall l s page p
    | .exact=>freeExact l s page p
    | .big=>freeBig l s page p
    | .page=>freePageRun l s page p

end SoftMessageBus
