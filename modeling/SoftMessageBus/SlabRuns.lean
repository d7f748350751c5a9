import SoftMessageBus.SlabRelease
import SoftMessageBus.MemoryPool

/-!
# Runs of allocations and frees on a segment

A program allocates blocks from a segment, writes into the blocks it holds and frees them.
-/
namespace SoftMessageBus
open BitWords Function IntervalTiling LinkedRings List

/-- A block that has been allocated for a request of `size` bytes and not been freed. -/
structure LiveBlock where
  addr : ℕ
  size : ℕ
  deriving DecidableEq

/-- A segment with the blocks that a program holds. -/
structure Segment where
  state : SlabState
  live : List LiveBlock

/-- What a program does with a segment. -/
inductive SegmentEvent where
  | alloc (size : ℕ)
  | free (b : LiveBlock)
  | write (data : ℕ→Word)

namespace Segment
variable (l : SegmentLayout)

def Holds (g : Segment) (w : ℕ) : Prop:=
  ∃ b∈g.live, b.addr≤w ∧ w<b.addr+slabCapacity l b.size
  deriving Decidable

def step (g : Segment) : SegmentEvent→Option Segment
  | .alloc size=>(smbSlabAllocLocked l g.state size).map fun result=>
      if result.1=0 then ⟨result.2,g.live⟩ else ⟨result.2,⟨result.1,size⟩::g.live⟩
  | .free b=>
    some (if b∈g.live then ⟨smbSlabFreeLocked l g.state b.addr,g.live.erase b⟩ else g)
  | .write data=>
    some ⟨{g.state with memory:=fun w=>if g.Holds l w then data w else g.state.memory w}, g.live⟩

def run (g : Segment) (events : List SegmentEvent) : Option Segment:=events.foldlM (step l) g

/-- A segment after `smb_slab_init`. -/
def fresh (memory : ℕ→Word) : Segment:=⟨SlabState.init l memory,[]⟩

/-- The chunk map of page `i` does not overlap the block. -/
def AvoidsMap (g : Segment) (b : LiveBlock) (i : ℕ) : Prop:=
  let map:=smbSlabPageAddr l (.page i)
  let words:=smbSlabSmallMapWords l (g.state.slab (.page i) &&& slabShiftMask).toNat
  b.addr+slabCapacity l b.size ≤ map ∨ map+8*words≤b.addr

/-- Live blocks are disjoint, in the payload area, long enough and clear of the maps. -/
structure Safe (g : Segment) : Prop where
  disjoint : g.live.Pairwise fun b b'=>b.addr+slabCapacity l b.size≤b'.addr ∨ b'.addr+slabCapacity l b'.size≤b.addr
  inside : ∀ b∈g.live, l.start≤b.addr ∧ b.addr+slabCapacity l b.size≤l.start+l.realPages*l.pagesize
  enough : ∀ b∈g.live, b.size ≤ slabCapacity l b.size
  maps : ∀ b∈g.live, ∀ i<l.realPages, g.state.tag (.page i) = .small → g.AvoidsMap l b i

end Segment

structure Accounts (l : SegmentLayout) (g : Segment) (L : Ledger) : Prop where
  represents : Represents l g.state L
  settled : L.Settled
  nodup : (g.live.map LiveBlock.addr).Nodup
  start_le : ∀ b∈g.live, l.start≤b.addr
  block_iff : ∀ off len, L.Block off len ↔ ∃ b∈g.live, b.addr=l.start+off ∧ slabCapacity l b.size=len

def Ledger.fresh (n : ℕ) : Ledger:=(Ledger.mk (fun _=>none) fun | .free=>[.page 0] | .slot _=>[]).setExtent 0 ⟨n,.free⟩

namespace Ledger

lemma extents_fresh {n a : ℕ} {e : Extent} (h : (fresh n).extents a=some e) : a=0 ∧ e=⟨n,.free⟩:=by
  by_cases ha : a=0
  · subst ha
    rw [fresh,extents_set_self,Option.some.injEq] at h
    exact ⟨rfl,h.symm⟩
  · rw [fresh,extents_set_of_ne _ ha] at h
    cases h

lemma occupied_fresh (n : ℕ) : (fresh n).Occupied:=by
  intro a e he hrole
  obtain ⟨-,rfl⟩:=extents_fresh he
  exact absurd rfl hrole

lemma coherent_fresh {n : ℕ} (hn : 0<n) : (fresh n).Coherent n:=by
  have hzero : (fresh n).extents 0=some ⟨n,.free⟩:=extents_set_self _ _ _
  refine ⟨?_,fun r=>?_,fun k r hr=>?_,fun a len shift used he=>?_⟩
  · have hlen : (fresh n).len=update (fun _=>none) 0 (some n):=by
      funext a
      by_cases ha : a=0
      · subst ha
        rw [len_of_extents hzero,update_self]
      · rw [len,fresh,extents_set_of_ne _ ha,update_of_ne ha,Option.map_none]
    rw [hlen]
    exact Tiles.single hn
  · constructor
    · intro hr
      exact ⟨0,n,mem_singleton.1 hr,hzero⟩
    · rintro ⟨a,len,rfl,he⟩
      rw [(extents_fresh he).1]
      exact mem_singleton_self _
  · exact absurd hr not_mem_nil
  · cases (Extent.mk.injEq .. ▸ (extents_fresh he).2).2

end Ledger
namespace Accounts
variable {l : SegmentLayout} {g : Segment} {L : Ledger}

lemma fresh (hl : l.WellFormed) (memory : ℕ→Word) :
    Accounts l (Segment.fresh l memory) (Ledger.fresh l.realPages):=by
  refine ⟨⟨Ledger.coherent_fresh hl.realPages_pos,?_,fun a e he=>?_,fun a e he hun=>?_⟩,
    fun a shift used he=>?_,nodup_nil,fun b hb=>absurd hb not_mem_nil,fun off len=>?_⟩
  · refine ⟨fun head=>?_,fun head=>?_,fun i j x hi hj=>?_,fun i j hmem=>?_,Head.ref_injective⟩
    · cases head with
      | free=>exact ⟨rfl,rfl,rfl⟩
      | slot k=>rfl
    · cases head with
      | free=>exact nodup_singleton _
      | slot k=>exact nodup_nil
    · cases i with
      | free=>
        cases j with
        | free=>rfl
        | slot k=>exact absurd hj not_mem_nil
      | slot k=>exact absurd hi not_mem_nil
    · cases j with
      | free=>exact i.ref_ne_page 0 (mem_singleton.1 hmem)
      | slot k=>exact absurd hmem not_mem_nil
  · obtain ⟨rfl,rfl⟩:=Ledger.extents_fresh he
    refine ⟨rfl,rfl,fun p hp _=>?_⟩
    cases p with
    | zero=>exact absurd hp (Nat.lt_irrefl 0)
    | succ q=>exact ⟨by simp [Segment.fresh,SlabState.init],rfl⟩
  · obtain ⟨rfl,-⟩:=Ledger.extents_fresh he
    exact absurd (mem_singleton_self _) (hun .free)
  · cases (Extent.mk.injEq .. ▸ (Ledger.extents_fresh he).2).2
  · refine iff_of_false ?_ (by simp [Segment.fresh])
    rintro ⟨a,e,o,he,hb,-⟩
    obtain ⟨-,rfl⟩:=Ledger.extents_fresh he
    exact hb

section
variable (h : Accounts l g L)
include h

lemma block_of_mem {b : LiveBlock} (hb : b∈g.live) :
    ∃ off, b.addr=l.start+off ∧ L.Block off (slabCapacity l b.size):=by
  obtain ⟨off,hoff⟩:=Nat.exists_eq_add_of_le (h.start_le b hb)
  exact ⟨off,hoff,(h.block_iff _ _).2 ⟨b,hb,hoff,rfl⟩⟩

lemma alloc (hl : l.WellFormed) (size : ℕ) :
    ∃ g' L', g.step l (.alloc size)=some g' ∧ Accounts l g' L' ∧ (L.Occupied→L'.Occupied):=by
  obtain ⟨p,s,L',halloc,hrep,hsettled,hocc,hcase⟩:=h.represents.alloc hl h.settled size
  rcases hcase with ⟨rfl,rfl⟩ | ⟨off,rfl,hfresh,hblock⟩
  · refine ⟨⟨s,g.live⟩,L',?_,⟨hrep,hsettled,h.nodup,h.start_le,h.block_iff⟩,hocc⟩
    rw [Segment.step,halloc,Option.map_some,if_pos rfl]
  · have hpos:=hl.start_pos
    refine ⟨⟨s,⟨l.start+off,size⟩::g.live⟩,L',?_,⟨hrep,hsettled,?_,?_,?_⟩,hocc⟩
    · rw [Segment.step,halloc,Option.map_some,if_neg (by omega)]
    · refine List.nodup_cons.2 ⟨fun hmem=>?_,h.nodup⟩
      obtain ⟨b,hb,haddr⟩:=List.mem_map.1 hmem
      exact hfresh _ ((h.block_iff off _).2 ⟨b,hb,haddr,rfl⟩)
    · intro b hb
      rcases mem_cons.1 hb with rfl | hb
      · exact Nat.le_add_right _ _
      · exact h.start_le b hb
    · intro o len
      rw [hblock,h.block_iff]
      constructor
      · rintro (⟨b,hb,haddr,hlen⟩ | ⟨rfl,rfl⟩)
        · exact ⟨b,mem_cons_of_mem _ hb,haddr,hlen⟩
        · exact ⟨_,mem_cons_self,rfl,rfl⟩
      · rintro ⟨b,hb,haddr,rfl⟩
        rcases mem_cons.1 hb with rfl | hb
        · exact .inr ⟨(Nat.add_left_cancel haddr).symm,rfl⟩
        · exact .inl ⟨b,hb,haddr,rfl⟩

lemma free (hl : l.WellFormed) (b : LiveBlock) :
    ∃ g' L', g.step l (.free b)=some g' ∧ Accounts l g' L' ∧ (L.Occupied→L'.Occupied):=by
  by_cases hb : b∈g.live
  · obtain ⟨off,haddr,hblock⟩:=h.block_of_mem hb
    obtain ⟨L',hrep,hsettled,hocc,hiff⟩:=h.represents.free hl h.settled hblock
    rw [← haddr] at hrep
    refine ⟨⟨smbSlabFreeLocked l g.state b.addr,g.live.erase b⟩,L',
      by rw [Segment.step,if_pos hb],⟨hrep,hsettled,?_,fun c hc=>?_,fun o len=>?_⟩,hocc⟩
    · exact h.nodup.sublist (erase_sublist.map LiveBlock.addr)
    · exact h.start_le c (mem_of_mem_erase hc)
    · have hinj:=inj_on_of_nodup_map h.nodup
      rw [hiff,h.block_iff]
      constructor
      · rintro ⟨⟨c,hc,hcaddr,rfl⟩,hne⟩
        refine ⟨c,(mem_erase_of_ne ?_).2 hc,hcaddr,rfl⟩
        rintro rfl
        exact hne (by omega)
      · rintro ⟨c,hc,hcaddr,rfl⟩
        obtain ⟨hcb,hc⟩:=((Nodup.of_map _ h.nodup).mem_erase_iff).1 hc
        refine ⟨⟨c,hc,hcaddr,rfl⟩,?_⟩
        rintro rfl
        exact hcb (hinj hc hb (hcaddr.trans haddr.symm))
  · exact ⟨g,L,by rw [Segment.step,if_neg hb],h,id⟩

lemma not_holds_map {a shift n : ℕ} {used : ℕ→Bool} (he : L.extents a=some ⟨1,.slab shift used⟩) (hsmall : shift<6)
    (hn : n<chunkCount shift/64) : ¬g.Holds l (l.start+4096*a+8*n):=by
  rintro ⟨b,hb,hlo,hhi⟩
  obtain ⟨off,haddr,hblock⟩:=h.block_of_mem hb
  have hmap : 8*(chunkCount shift/64) ≤ mapBytes shift:=by
    rw [mapBytes]
    omega
  rcases h.represents.coherent.block_disjoint_map hblock he hsmall with hlt | hlt <;> omega

lemma write (data : ℕ→Word) :
    ∃ g' L', g.step l (.write data)=some g' ∧ Accounts l g' L' ∧ (L.Occupied→L'.Occupied):=by
  refine ⟨_,L,rfl,⟨⟨h.represents.coherent,h.represents.rings,fun a e he=>?_,
    h.represents.unlinked⟩,h.settled,h.nodup,h.start_le,h.block_iff⟩,id⟩
  have hdesc:=h.represents.describes a e he
  obtain ⟨n,role⟩:=e
  cases role with
  | free | run=>exact hdesc
  | slab shift used=>
    obtain ⟨rfl,-,-,-⟩:=h.represents.coherent.slab a n shift used he
    rcases Nat.lt_trichotomy shift 6 with hsmall | rfl | hbig
    · rw [SlabState.Describes,SlabState.chunkMap_small hsmall] at hdesc ⊢
      refine ⟨hdesc.1,hdesc.2.1,fun n hn=>?_⟩
      simp only [if_neg (h.not_holds_map he hsmall hn)]
      exact hdesc.2.2 n hn
    · rw [SlabState.Describes,SlabState.chunkMap_exact] at hdesc ⊢
      exact hdesc
    · rw [SlabState.Describes,SlabState.chunkMap_big hbig] at hdesc ⊢
      exact hdesc

lemma step (hl : l.WellFormed) (event : SegmentEvent) :
    ∃ g' L', g.step l event=some g' ∧ Accounts l g' L':=by
  cases event with
  | alloc size=>
    obtain ⟨g',L',hstep,h',-⟩:=h.alloc hl size
    exact ⟨g',L',hstep,h'⟩
  | free b=>
    obtain ⟨g',L',hstep,h',-⟩:=h.free hl b
    exact ⟨g',L',hstep,h'⟩
  | write data=>
    obtain ⟨g',L',hstep,h',-⟩:=h.write data
    exact ⟨g',L',hstep,h'⟩

lemma run (hl : l.WellFormed) (events : List SegmentEvent) :
    ∃ g' L', g.run l events=some g' ∧ Accounts l g' L':=by
  induction events generalizing g L with
  | nil=>exact ⟨g,L,rfl,h⟩
  | cons event events ih=>
    obtain ⟨g',L',hstep,h'⟩:=h.step hl event
    obtain ⟨g'',L'',hrun,h''⟩:=ih h'
    refine ⟨g'',L'',?_,h''⟩
    rw [Segment.run,foldlM_cons,hstep]
    exact hrun

lemma extents_of_small {i : ℕ} (hi : i<l.realPages) (htag : g.state.tag (.page i) = .small) :
    ∃ shift used, shift<6 ∧ L.extents i=some ⟨1,.slab shift used⟩ ∧
      (g.state.slab (.page i) &&& slabShiftMask).toNat=shift:=by
  rcases h.represents.page_cases hi with ⟨b,n,-,-,hpage,-⟩ | ⟨b,n,-,-,hpage,-⟩ |
    ⟨shift,used,he,hmap⟩
  · rw [hpage] at htag
    cases htag
  · rw [hpage] at htag
    cases htag
  · have hsmall : shift<6:=by
      have htype : slabTypeOf shift = .small:=hmap.1.symm.trans htag
      by_contra hge
      rw [slabTypeOf,if_neg hge] at htype
      split at htype <;> cases htype
    exact ⟨shift,used,hsmall,he,((SlabState.chunkMap_small hsmall).1 hmap).2.1⟩

lemma safe (hl : l.WellFormed) : g.Safe l:=by
  have hcoh:=h.represents.coherent
  refine ⟨?_,fun b hb=>⟨h.start_le b hb,?_⟩,fun b _=>hl.le_slabCapacity b.size,fun b hb i hi htag=>?_⟩
  · refine (pairwise_map.1 h.nodup).imp_of_mem fun {b b'} hb hb' hne=>?_
    obtain ⟨off,haddr,hblock⟩:=h.block_of_mem hb
    obtain ⟨off',haddr',hblock'⟩:=h.block_of_mem hb'
    rcases hcoh.block_disjoint hblock hblock' with ⟨rfl,-⟩ | hlt | hlt
    · exact absurd (haddr.trans haddr'.symm) hne
    · exact .inl (by omega)
    · exact .inr (by omega)
  · obtain ⟨off,haddr,hblock⟩:=h.block_of_mem hb
    have hins:=hcoh.block_inside hblock
    rw [hl.pagesize_eq]
    omega
  · obtain ⟨shift,used,hsmall,he,hshift⟩:=h.extents_of_small hi htag
    obtain ⟨off,haddr,hblock⟩:=h.block_of_mem hb
    have hmap : 8*(chunkCount shift/64) ≤ mapBytes shift:=by
      rw [mapBytes]
      omega
    rw [Segment.AvoidsMap,hshift,hl.pageAddr_eq,hl.smallMapWords_eq]
    rcases hcoh.block_disjoint_map hblock he hsmall with hlt | hlt
    · exact .inl (by omega)
    · exact .inr (by omega)

end
end Accounts

/-- Every run ends with live blocks that are disjoint, in place and long enough. -/
theorem Segment.run_safe {l : SegmentLayout} (hl : l.WellFormed) (memory : ℕ→Word)
    (events : List SegmentEvent) : ∃ g, (Segment.fresh l memory).run l events=some g ∧ g.Safe l:=by
  obtain ⟨g,L,hrun,haccounts⟩:=(Accounts.fresh hl memory).run hl events
  exact ⟨g,hrun,haccounts.safe hl⟩

/-- Every run leaves blocks at multiples of a word, and at multiples of a page or of their size. -/
theorem Segment.run_aligned {l : SegmentLayout} (hl : l.WellFormed) (memory : ℕ→Word)
    (events : List SegmentEvent) : ∃ g, (Segment.fresh l memory).run l events=some g ∧
      ∀ b∈g.live, 8∣b.addr ∧ (4096∣b.addr ∨ slabCapacity l b.size∣b.addr):=by
  obtain ⟨g,L,hrun,hacc⟩:=(Accounts.fresh hl memory).run hl events
  refine ⟨g,hrun,fun b hb=>?_⟩
  obtain ⟨off,haddr,a,⟨n,role⟩,o,he,hblock,rfl⟩:=hacc.block_of_mem hb
  rw [haddr,← Nat.add_assoc]
  have hpage : 4096∣l.start+4096*a:=Nat.dvd_add hl.start_aligned ⟨a,rfl⟩
  have hword : 8∣l.start+4096*a:=Nat.dvd_trans (by decide) hpage
  cases role with
  | free=>exact hblock.elim
  | run=>exact hblock.1 ▸ ⟨hword,.inl hpage⟩
  | slab shift used=>
    obtain ⟨c,-,-,-,rfl,hlen⟩:=hblock
    obtain ⟨-,hmin,hmax,-⟩:=hacc.represents.coherent.slab a n shift used he
    have hchunk : 2^shift∣l.start+4096*a:=Nat.dvd_trans (Nat.pow_dvd_pow 2 hmax.le) hpage
    rw [hlen]
    refine ⟨Nat.dvd_add hword ?_,.inr (Nat.dvd_add hchunk (Nat.dvd_mul_left _ c))⟩
    exact Nat.dvd_mul_left_of_dvd (Nat.pow_dvd_pow 2 hmin) c

/-- A segment with four pages. -/
def sampleLayout : SegmentLayout where
  pagesizeShift:=12
  pages:=1000
  descriptors:=4
  start:=8192
  endAddr:=8192+4*4096
  realPages:=4

theorem Segment.run_safe_four_pages :
    ∃ g, (Segment.fresh sampleLayout fun _=>0).run sampleLayout
      [.alloc 5,.alloc 5000,.alloc 64,.free ⟨8256,5⟩,.alloc 100]=some g ∧
      g.Safe sampleLayout:=
  Segment.run_safe ⟨rfl,by decide,by decide,by decide,by decide,by decide,by decide⟩ _ _

theorem Segment.run_aligned_four_pages :
    ∃ g, (Segment.fresh sampleLayout fun _=>0).run sampleLayout [.alloc 5,.alloc 5000]=some g ∧
      ∀ b∈g.live, 8∣b.addr ∧ (4096∣b.addr ∨ slabCapacity sampleLayout b.size∣b.addr):=
  Segment.run_aligned ⟨rfl,by decide,by decide,by decide,by decide,by decide,by decide⟩ _ _

/-! ## The health of a segment -/

namespace SlabState
variable (l : SegmentLayout) (s : SlabState)

/-- The pages behind a head, in the order in which the code follows `next`. -/
def linkedPages (fuel : ℕ) (head : SlabRef) : List SlabRef:=walk s.next head fuel (s.next head)
def freeRuns : List (ℕ × ℕ):=(s.linkedPages (l.realPages+1) .free).map fun r=>(r.index,(s.slab r).toNat)

end SlabState

inductive PageUse where
  | freeRun (page len : ℕ)
  | slabPage (page : ℕ)
  | pageRun (page len : ℕ)

namespace PageUse

def Covers : PageUse→ℕ→Prop
  | .freeRun a n, i=>a ≤ i ∧ i<a+n
  | .slabPage a, i=>i=a
  | .pageRun a n, i=>a ≤ i ∧ i<a+n

def In (l : SegmentLayout) (s : SlabState) : PageUse→Prop
  | .freeRun a n=>(a,n)∈s.freeRuns l
  | .slabPage a=>a<l.realPages ∧ s.tag (.page a) ≠ .page
  | .pageRun a n=>a<l.realPages ∧ s.tag (.page a) = .page ∧
      s.slab (.page a) &&& slabPageStart≠0 ∧ s.slab (.page a)≠slabBusy ∧
      (s.slab (.page a) &&& ~~~slabPageStart).toNat=n

def InLedger (L : Ledger) : PageUse→Prop
  | .freeRun a n=>L.extents a=some ⟨n,.free⟩
  | .slabPage a=>∃ shift used, L.extents a=some ⟨1,.slab shift used⟩
  | .pageRun a n=>L.extents a=some ⟨n,.run⟩

end PageUse
namespace Represents
variable {l : SegmentLayout} {s : SlabState} {L : Ledger}

lemma linkedPages_eq (h : Represents l s L) (fuel : ℕ) (head : Head) :
    s.linkedPages fuel head.ref=(L.ring head).take fuel:=
  (h.rings.linked head).walk_eq (h.rings.head_notMem head head) fuel

lemma freeRuns_eq (h : Represents l s L) :
    s.freeRuns l=(L.ring .free).map fun r=>(r.index,(s.slab r).toNat):=by
  have hlen:=h.length_free_le
  have hpages:=h.linkedPages_eq (l.realPages+1) .free
  rw [take_of_length_le (by omega)] at hpages
  rw [SlabState.freeRuns,show SlabRef.free=Head.free.ref from rfl,hpages]

lemma mem_freeRuns (h : Represents l s L) (hl : l.WellFormed) {a n : ℕ} :
    (a,n)∈s.freeRuns l ↔ L.extents a=some ⟨n,.free⟩:=by
  rw [h.freeRuns_eq,List.mem_map]
  constructor
  · rintro ⟨r,hr,heq⟩
    obtain ⟨b,m,rfl,hb⟩:=(h.coherent.mem_free r).1 hr
    cases heq
    rw [h.slab_free hl hb]
    exact hb
  · intro he
    exact ⟨.page a,h.page_mem_free he,Prod.ext rfl (h.slab_free hl he)⟩

lemma pairwise_freeRuns (h : Represents l s L) (hl : l.WellFormed) :
    (s.freeRuns l).Pairwise fun r r'=>r.1+r.2≤r'.1 ∨ r'.1+r'.2≤r.1:=by
  rw [h.freeRuns_eq,pairwise_map]
  refine (h.rings.nodup .free).imp_of_mem fun {x y} hx hy hne=>?_
  obtain ⟨a,n,rfl,ha⟩:=(h.coherent.mem_free x).1 hx
  obtain ⟨b,m,rfl,hb⟩:=(h.coherent.mem_free y).1 hy
  simp only [SlabRef.index,h.slab_free hl ha,h.slab_free hl hb]
  have hlen:=Ledger.len_of_extents ha
  have hlen':=Ledger.len_of_extents hb
  rcases Nat.lt_or_gt_of_ne (fun heq : a=b=>hne (by rw [heq])) with hlt | hlt
  · exact .inl (h.coherent.tiles.disjoint a b n m hlen hlen' hlt)
  · exact .inr (h.coherent.tiles.disjoint b a m n hlen' hlen hlt)

lemma slabTypeOf_ne_page (shift : ℕ) : slabTypeOf shift ≠ .page:=by
  rw [slabTypeOf]
  split
  · exact SlabType.noConfusion
  · split <;> exact SlabType.noConfusion

lemma runLength_start {n : ℕ} (hn : n<2^52) :
    BitVec.ofNat 64 n &&& slabPageStart=0 ∧ (BitVec.ofNat 64 n ||| slabPageStart) &&& slabPageStart≠0:=by
  have hhigh : n.testBit 63=false:=Nat.testBit_lt_two_pow (hn.trans (by decide))
  rw [slabPageStart]
  constructor
  · rw [and_bit_eq_zero_iff (by decide),BitVec.getLsbD_ofNat,hhigh]
    rfl
  · rw [Ne,and_bit_eq_zero_iff (by decide),getLsbD_or_bit (by decide)]
    simp

lemma use_iff (h : Represents l s L) (hl : l.WellFormed) (u : PageUse) : u.In l s ↔ u.InLedger L:=by
  have hlt:=hl.realPages_lt
  cases u with
  | freeRun a n=>exact h.mem_freeRuns hl
  | slabPage a=>
    constructor
    · rintro ⟨ha,htag⟩
      rcases h.page_cases ha with ⟨b,n,-,-,hpage,-⟩ | ⟨b,n,-,-,hpage,-⟩ |
        ⟨shift,used,he,-⟩
      · exact absurd hpage htag
      · exact absurd hpage htag
      · exact ⟨shift,used,he⟩
    · rintro ⟨shift,used,he⟩
      refine ⟨h.coherent.extent_le he,?_⟩
      rw [(h.describes a _ he).1]
      exact slabTypeOf_ne_page shift
  | pageRun a n=>
    constructor
    · rintro ⟨ha,htag,hstart,hbusy,hlen⟩
      rcases h.page_cases ha with ⟨b,m,he,hb,-,hslab⟩ | ⟨b,m,he,hb,-,hslab⟩ |
        ⟨shift,used,he,hmap⟩
      · have hle:=h.coherent.extent_le he
        simp only at hle
        rw [hslab] at hstart
        split at hstart
        · exact absurd (runLength_start (by omega)).1 hstart
        · exact absurd BitVec.zero_and hstart
      · have hle:=h.coherent.extent_le he
        simp only at hle
        rw [hslab] at hlen hbusy
        split at hlen
        next hab=>
          rw [(runLength_field (by omega)).2.2] at hlen
          rw [PageUse.InLedger,hab,← hlen]
          exact he
        next hab=>
          rw [if_neg hab] at hbusy
          exact absurd rfl hbusy
      · exact absurd (hmap.1.symm.trans htag) (slabTypeOf_ne_page shift)
    · intro he
      have hle:=h.coherent.extent_le he
      have hpos:=h.coherent.extent_pos he
      simp only at hle hpos
      obtain ⟨-,hbusy,hlen⟩:=runLength_field (n:=n) (by omega)
      obtain ⟨hslab,htag,-⟩:=h.describes a _ he
      refine ⟨by omega,htag,?_,?_,?_⟩
      · rw [hslab]
        exact (runLength_start (by omega)).2
      · rw [hslab]
        exact hbusy
      · rw [hslab]
        exact hlen

lemma existsUnique_use (h : Represents l s L) (hl : l.WellFormed) {i : ℕ}
    (hi : i<l.realPages) : ∃! u : PageUse, u.In l s ∧ u.Covers i:=by
  simp only [h.use_iff hl]
  -- each use that covers the page belongs to the one run in which the page lies
  have hextent (u : PageUse) (hu : u.InLedger L) (hcov : u.Covers i) :
      ∃ a e, L.extents a=some e ∧ (a ≤ i ∧ i<a+e.len) ∧
        (u=match e.role with
          | .free=>.freeRun a e.len
          | .run=>.pageRun a e.len
          | .slab _ _=>.slabPage a):=by
    cases u with
    | freeRun a n=>exact ⟨a,_,hu,hcov,rfl⟩
    | slabPage a=>
      obtain ⟨shift,used,he⟩:=hu
      obtain rfl : i=a:=hcov
      exact ⟨i,_,he,⟨le_rfl,Nat.lt_succ_self i⟩,rfl⟩
    | pageRun a n=>exact ⟨a,_,hu,hcov,rfl⟩
  have hexists : ∃ u : PageUse, u.InLedger L ∧ u.Covers i:=by
    rcases h.page_cases hi with ⟨b,n,he,hb,-⟩ | ⟨b,n,he,hb,-⟩ | ⟨shift,used,he,-⟩
    · exact ⟨.freeRun b n,he,hb⟩
    · exact ⟨.pageRun b n,he,hb⟩
    · exact ⟨.slabPage i,⟨shift,used,he⟩,rfl⟩
  obtain ⟨u,hu,hcov⟩:=hexists
  refine ⟨u,⟨hu,hcov⟩,fun v hv=>?_⟩
  obtain ⟨a,e,he,ha,hua⟩:=hextent u hu hcov
  obtain ⟨b,e',he',hb,hvb⟩:=hextent v hv.1 hv.2
  obtain rfl:=h.coherent.extent_unique he he' ha hb
  obtain rfl : e=e':=Option.some.inj (he.symm.trans he')
  rw [hua,hvb]

variable {r : SlabRef}

section
variable (h : Represents l s L)
include h

lemma free_chunk_of_linked (hs : L.Settled) {fuel k : ℕ} (hr : r∈s.linkedPages fuel (.slot k)) :
    ∃ a used c, r = .page a ∧ L.extents a=some ⟨1,.slab (minShift+k) used⟩ ∧
      reservedChunks (minShift+k)≤c ∧ c<chunkCount (minShift+k) ∧ used c=false:=by
  rw [show SlabRef.slot k=(Head.slot k).ref from rfl,h.linkedPages_eq] at hr
  have hmem:=mem_of_mem_take hr
  obtain ⟨a,used,rfl,he⟩:=h.coherent.mem_slot k r hmem
  have hsettled:=hs a _ used he
  rw [Nat.add_sub_cancel_left] at hsettled
  have hfull:=hsettled.1 hmem
  simp only [Full,not_forall,Bool.not_eq_true] at hfull
  obtain ⟨c,hc,hfree⟩:=hfull
  refine ⟨a,used,c,rfl,he,?_,hc,hfree⟩
  by_contra hlt
  have hused:=(h.coherent.slab a 1 _ used he).2.2.2 c (by omega)
  rw [hfree] at hused
  cases hused

lemma next_free_mem (hr : r∈L.ring .free) : s.next .free∈L.ring .free ∧ s.prevRef (s.next .free) = .free:=by
  have hlinked:=h.rings.linked .free
  generalize L.ring .free=rs at hr hlinked ⊢
  cases rs with
  | nil=>exact absurd hr not_mem_nil
  | cons x rs=>
    obtain ⟨hx,hback,-⟩:=hlinked
    rw [show s.next .free=x from hx]
    exact ⟨mem_cons_self,hback⟩

lemma sum_free_le (hl : l.WellFormed) : ((L.ring .free).map fun r=>(s.slab r).toNat).sum≤l.realPages:=by
  have hmap : ((L.ring .free).map fun r=>(s.slab r).toNat)=
      ((L.ring .free).map SlabRef.index).map fun a=>(s.slab (.page a)).toNat:=by
    rw [List.map_map]
    refine map_congr_left fun r hr=>?_
    obtain ⟨b,rfl⟩:=h.page_of_mem hr
    rfl
  rw [hmap]
  refine h.coherent.tiles.sum_le h.nodup_index_free fun a ha=>?_
  obtain ⟨r,hr,rfl⟩:=List.mem_map.1 ha
  obtain ⟨b,n,rfl,hb⟩:=(h.coherent.mem_free r).1 hr
  rw [SlabRef.index,h.slab_free hl hb]
  exact Ledger.len_of_extents hb

lemma validateLoop_eq (hl : l.WellFormed) {rs : List SlabRef}
    (hlinked : Linked s.next s.prevRef r rs .free) (hmem : ∀ x∈rs, x∈L.ring .free)
    {fuel acc : ℕ} (hfuel : rs.length<fuel) (hsum : acc+(rs.map fun x=>(s.slab x).toNat).sum≤l.realPages) :
    s.validateLoop l.realPages fuel (s.next r) r acc=some true:=by
  have hlt:=hl.realPages_lt
  obtain ⟨fuel,rfl⟩ : ∃ fuel', fuel=fuel'+1:=⟨fuel-1,by omega⟩
  induction rs generalizing r fuel acc with
  | nil=>
    rw [show s.next r = .free from hlinked,SlabState.validateLoop,if_pos rfl]
    rw [map_nil,sum_nil,Nat.add_zero] at hsum
    exact congrArg some (decide_eq_true hsum)
  | cons x rs ih=>
    obtain ⟨hx,hprev,hrest⟩:=hlinked
    have hxmem:=hmem x mem_cons_self
    obtain ⟨b,n,rfl,hb⟩:=(h.coherent.mem_free x).1 hxmem
    rw [map_cons,sum_cons] at hsum
    rw [length_cons] at hfuel
    -- the first run of the list is behind the head only
    have hfirst : s.next (.page b)≠s.next .free:=by
      intro heq
      obtain ⟨hnext,hback⟩:=h.next_free_mem hxmem
      cases rs with
      | nil=>
        rw [← heq,show s.next (.page b) = .free from hrest] at hnext
        exact h.rings.head_notMem .free .free hnext
      | cons y rs=>
        rw [← heq,hrest.1,hrest.2.1] at hback
        cases hback
    obtain ⟨fuel,rfl⟩ : ∃ fuel', fuel=fuel'+1:=⟨fuel-1,by omega⟩
    rw [hx,SlabState.validateLoop,if_neg SlabRef.noConfusion,if_neg (h.next_ne_null hxmem),
      if_neg (not_not_intro hprev),if_neg hfirst,Nat.mod_eq_of_lt (by omega)]
    exact ih hrest (fun y hy=>hmem y (mem_cons_of_mem _ hy)) (by omega) fuel (by omega)

lemma validate (hl : l.WellFormed) :
    s.validateLoop l.realPages (l.realPages+1) (s.next .free) .free 0=some true:=by
  refine h.validateLoop_eq hl (h.rings.linked .free) (fun x hx=>hx) (Nat.lt_succ_of_le h.length_free_le) ?_
  rw [Nat.zero_add]
  exact h.sum_free_le hl

end
end Represents

end SoftMessageBus
