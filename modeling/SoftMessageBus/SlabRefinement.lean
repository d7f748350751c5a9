import SoftMessageBus.SlabLedger

/-!
# Descriptors that represent a ledger

Lists and descriptors of a state are those of its ledger.
-/
namespace SoftMessageBus
open BitWords Function IntervalTiling LinkedRings List

def slabTypeOf (shift : ℕ) : SlabType:=if shift<6 then .small else if shift=6 then .exact else .big

lemma slabTypeOf_small {shift : ℕ} (h : shift<6) : slabTypeOf shift = .small:=if_pos h

lemma slabTypeOf_big {shift : ℕ} (h : 6<shift) : slabTypeOf shift = .big:=by
  rw [slabTypeOf,if_neg (by omega),if_neg (by omega)]

def Head.tag : Head→SlabType
  | .free=>.page
  | .slot k=>slabTypeOf (minShift+k)

namespace SegmentLayout.WellFormed
variable {l : SegmentLayout} (hl : l.WellFormed)
include hl

lemma pagesize_eq : l.pagesize=4096:=by simp only [pagesize,hl.pagesizeShift_eq,Nat.reducePow]

lemma slabMaxSize_eq : l.slabMaxSize=2048:=by rw [slabMaxSize,hl.pagesize_eq]

lemma slabExactSize_eq : l.slabExactSize=64:=by rw [slabExactSize,hl.pagesize_eq]

lemma slabExactShift_eq : l.slabExactShift=6:=by
  rw [slabExactShift,hl.slabExactSize_eq]
  decide

lemma smallMapWords_eq (shift : ℕ) : smbSlabSmallMapWords l shift=chunkCount shift/64:=by
  rw [smbSlabSmallMapWords,hl.pagesizeShift_eq,chunkCount]

lemma reservedWords_eq {shift : ℕ} (h : minShift ≤ shift) (hsmall : shift<6) :
    reservedWords l shift=reservedChunks shift:=by
  have hmin : minShift=3:=rfl
  rw [reservedWords,hl.pagesizeShift_eq]
  obtain rfl | rfl | rfl : shift=3 ∨ shift=4 ∨ shift=5:=by omega
  all_goals decide

lemma pageAddr_eq (a : ℕ) : smbSlabPageAddr l (.page a)=l.start+4096*a:=by
  rw [smbSlabPageAddr,hl.pagesizeShift_eq,SlabRef.index,Nat.shiftLeft_eq]
  omega

lemma start_pos : 0<l.start:=by
  have hpages:=hl.realPages_pos
  have hle:=hl.realPages_le
  have hdesc:=hl.descriptors_le
  simp only [sizeofSlabPage] at hdesc
  omega

lemma realPages_lt : l.realPages<2^52:=by
  have hle:=hl.payload_le
  have hlt:=hl.endAddr_lt
  omega

end SegmentLayout.WellFormed
namespace SlabState
variable (l : SegmentLayout) (s : SlabState)

/-- The words at the start of a small page mark the chunks taken, `slab` the full words. -/
def SmallMap (a shift : ℕ) (used : ℕ→Bool) : Prop:=
  (s.slab (.page a) &&& slabShiftMask).toNat=shift ∧
  ∀ n<chunkCount shift/64,
    ((s.slab (.page a)).getLsbD (slabMapShift+n)=true ↔ s.memory (l.start+4096*a+8*n)≠slabBusy) ∧
    ∀ i<64, (s.memory (l.start+4096*a+8*n)).getLsbD i=used (64*n+i)

/-- The word `slab` marks the chunks that are taken. -/
def ExactMap (a : ℕ) (used : ℕ→Bool) : Prop:=∀ c<64, (s.slab (.page a)).getLsbD c=used c

/-- The word `slab` holds the shift, and its upper half marks the chunks that are taken. -/
def BigMap (a shift : ℕ) (used : ℕ→Bool) : Prop:=
  (s.slab (.page a) &&& slabShiftMask).toNat=shift ∧
  (∀ c<chunkCount shift, (s.slab (.page a)).getLsbD (slabMapShift+c)=used c) ∧
  ∀ c, chunkCount shift≤c→c<32→(s.slab (.page a)).getLsbD (slabMapShift+c)=false

def ChunkMap (a shift : ℕ) (used : ℕ→Bool) : Prop:=
  s.tag (.page a)=slabTypeOf shift ∧
    match slabTypeOf shift with
    | .small=>s.SmallMap l a shift used
    | .exact=>s.ExactMap a used
    | _=>s.BigMap a shift used

def Body (a n : ℕ) (w : Word) : Prop:=∀ p, a<p→p<a+n→s.slab (.page p)=w ∧ s.tag (.page p) = .page

def Describes (a : ℕ) : Extent→Prop
  | ⟨n,.free⟩=>
    s.slab (.page a)=BitVec.ofNat 64 n ∧ s.tag (.page a) = .page ∧ s.Body a n 0
  | ⟨n,.run⟩=>
    s.slab (.page a)=BitVec.ofNat 64 n ||| slabPageStart ∧ s.tag (.page a) = .page ∧ s.Body a n slabBusy
  | ⟨_,.slab shift used⟩=>s.ChunkMap l a shift used

end SlabState

/-- The state of a segment with the given ledger. -/
structure Represents (l : SegmentLayout) (s : SlabState) (L : Ledger) : Prop where
  coherent : L.Coherent l.realPages
  rings : Rings s.next s.prevRef Head.ref L.ring
  describes : ∀ a e, L.extents a=some e→s.Describes l a e
  unlinked : ∀ a e, L.extents a=some e→(∀ h, .page a∉L.ring h)→s.next (.page a) = .null

/-- The state of a segment with the given ledger, except for the run at `a`. -/
structure RepresentsExcept (l : SegmentLayout) (s : SlabState) (L : Ledger) (a : ℕ) : Prop where
  coherent : L.Coherent l.realPages
  rings : Rings s.next s.prevRef Head.ref L.ring
  notMem : ∀ h, .page a∉L.ring h
  describes : ∀ b e, b≠a→L.extents b=some e→s.Describes l b e
  unlinked : ∀ b e, b≠a→L.extents b=some e→(∀ h, .page b∉L.ring h)→s.next (.page b) = .null

/-- The states agree but for the descriptors and the memory of the run of `n` pages at `a`. -/
structure AgreesOutside (l : SegmentLayout) (s s' : SlabState) (a n : ℕ) : Prop where
  slab : ∀ r, (∀ p, a≤p→p<a+n → r ≠ .page p)→s'.slab r=s.slab r
  next : ∀ r, (∀ p, a≤p→p<a+n → r ≠ .page p)→s'.next r=s.next r
  prev : ∀ r, (∀ p, a≤p→p<a+n → r ≠ .page p)→s'.prev r=s.prev r
  memory : ∀ w, (w<l.start+4096*a ∨ l.start+4096*(a+n)≤w)→s'.memory w=s.memory w

namespace SlabState
variable {l : SegmentLayout} {s s' : SlabState} {a : ℕ}

lemma Body.congr {n : ℕ} {w : Word} (h : s.Body a n w) (hslab : ∀ p, a≤p→p<a+n→s'.slab (.page p)=s.slab (.page p))
    (htag : ∀ p, a≤p→p<a+n→s'.tag (.page p)=s.tag (.page p)) : s'.Body a n w:=by
  intro p hap hp
  rw [hslab p hap.le hp,htag p hap.le hp]
  exact h p hap hp

lemma mapWord_lt {shift n : ℕ} (hn : n<chunkCount shift/64) : 8*n<4096:=by
  have hle : chunkCount shift≤2^12:=Nat.pow_le_pow_right (by decide) (Nat.sub_le 12 shift)
  omega

lemma ChunkMap.congr {shift : ℕ} {used : ℕ→Bool} (h : s.ChunkMap l a shift used)
    (hslab : s'.slab (.page a)=s.slab (.page a)) (htag : s'.tag (.page a)=s.tag (.page a))
    (hmem : ∀ o<4096, s'.memory (l.start+4096*a+o)=s.memory (l.start+4096*a+o)) :
    s'.ChunkMap l a shift used:=by
  obtain ⟨htype,hmap⟩:=h
  refine ⟨htag.trans htype,?_⟩
  split at hmap
  · refine ⟨by rw [hslab]; exact hmap.1,fun n hn=>?_⟩
    rw [hslab,hmem _ (mapWord_lt hn)]
    exact hmap.2 n hn
  · unfold ExactMap
    rw [hslab]
    exact hmap
  · unfold BigMap
    rw [hslab]
    exact hmap

lemma Describes.congr {e : Extent} (h : s.Describes l a e) (hpos : 0<e.len)
    (hslab : ∀ p, a≤p→p<a+e.len→s'.slab (.page p)=s.slab (.page p))
    (htag : ∀ p, a≤p→p<a+e.len→s'.tag (.page p)=s.tag (.page p))
    (hmem : ∀ o<4096, s'.memory (l.start+4096*a+o)=s.memory (l.start+4096*a+o)) : s'.Describes l a e:=by
  have hslaba:=hslab a le_rfl (Nat.lt_add_of_pos_right hpos)
  have htaga:=htag a le_rfl (Nat.lt_add_of_pos_right hpos)
  obtain ⟨n,role⟩:=e
  cases role with
  | free | run=>exact ⟨hslaba.trans h.1,htaga.trans h.2.1,h.2.2.congr hslab htag⟩
  | slab shift used=>exact ChunkMap.congr h hslaba htaga hmem

end SlabState

lemma Ledger.page_notMem_cons {L : Ledger} {a : ℕ} (hun : ∀ head, .page a∉L.ring head)
    (head : Head) : .page a∉head.ref::L.ring head:=by
  intro hmem
  rcases mem_cons.1 hmem with heq | hmem
  · exact head.ref_ne_page a heq.symm
  · exact hun head hmem

lemma Ledger.Coherent.extent_of_mem {L : Ledger} {n : ℕ} (h : L.Coherent n) {head : Head}
    {r : SlabRef} (hr : r∈L.ring head) : ∃ b e, r = .page b ∧ L.extents b=some e ∧ e.role ≠ .run:=by
  cases head with
  | free=>
    obtain ⟨b,n,rfl,hb⟩:=(h.mem_free r).1 hr
    exact ⟨b,_,rfl,hb,nofun⟩
  | slot k=>
    obtain ⟨b,used,rfl,hb⟩:=h.mem_slot k r hr
    exact ⟨b,_,rfl,hb,nofun⟩

/-- The neighbours of a page are tagged as its list is. -/
lemma Ledger.tag_update_of_mem {L : Ledger} {tag tag' : SlabRef→SlabType} (head : Head)
    (htag : ∀ r∈L.ring head, tag r=head.tag) {r : SlabRef} (hr : r∈head.ref::L.ring head)
    {p : ℕ} (hp : tag' (.page p)=tag (.page p)) : update tag' r head.tag (.page p)=tag (.page p):=by
  by_cases hpr : .page p=r
  · rw [hpr,update_self]
    rcases mem_cons.1 hr with heq | hmem
    · exact absurd (hpr.trans heq).symm (head.ref_ne_page p)
    · exact (htag r hmem).symm
  · rw [update_of_ne hpr,hp]

lemma Ledger.Coherent.tag_of_mem {l : SegmentLayout} {s : SlabState} {L : Ledger} {n : ℕ}
    (h : L.Coherent n) {head : Head} {r : SlabRef} (hr : r∈L.ring head)
    (hdescribes : ∀ b e, .page b∈L.ring head→L.extents b=some e→s.Describes l b e) : s.tag r=head.tag:=by
  cases head with
  | free=>
    obtain ⟨b,n,rfl,hb⟩:=(h.mem_free r).1 hr
    exact (hdescribes b _ hr hb).2.1
  | slot k=>
    obtain ⟨b,used,rfl,hb⟩:=h.mem_slot k r hr
    exact (hdescribes b _ hr hb).1

namespace Represents
variable {l : SegmentLayout} {s s' : SlabState} {L : Ledger} {a : ℕ} {head : Head} {r : SlabRef}

section
variable (h : Represents l s L) (hr : r∈L.ring head)
include h hr

lemma page_of_mem : ∃ b, r = .page b:=by
  obtain ⟨b,-,rfl,-⟩:=h.coherent.extent_of_mem hr
  exact ⟨b,rfl⟩

lemma next_ne_null : s.next r ≠ .null:=by
  rcases mem_cons.1 (h.rings.next_mem hr) with heq | hmem
  · rw [heq]
    exact head.ref_ne_null
  · obtain ⟨b,heq⟩:=h.page_of_mem hmem
    rw [heq]
    simp

lemma tag_of_mem : s.tag r=head.tag:=h.coherent.tag_of_mem hr fun b e _=>h.describes b e

end

lemma setMap (h : Represents l s L) {shift : ℕ} {used used' : ℕ→Bool}
    (he : L.extents a=some ⟨1,.slab shift used⟩) (hnext : s'.next=s.next)
    (hprev : s'.prev=s.prev) (hslab : ∀ r ≠ .page a, s'.slab r=s.slab r)
    (hmem : ∀ w, (w<l.start+4096*a ∨ l.start+4096*a+4096≤w)→s'.memory w=s.memory w)
    (hmap : s'.ChunkMap l a shift used') (hres : ∀ c < reservedChunks shift, used' c=true) :
    Represents l s' (L.setExtent a ⟨1,.slab shift used'⟩):=by
  obtain ⟨-,hmin,hmax,-⟩:=h.coherent.slab a 1 shift used he
  have hprevR : s'.prevRef=s.prevRef:=by
    funext r
    rw [SlabState.prevRef,hprev,SlabState.prevRef]
  have htag : s'.tag=s.tag:=by
    funext r
    rw [SlabState.tag,hprev,SlabState.tag]
  refine ⟨?_,?_,fun b e hb=>?_,fun b e hb hun=>?_⟩
  · refine h.coherent.setExtent he rfl (by simp) (by simp) (fun k hk=>?_) ?_
    · obtain ⟨b,used₀,hab,hb⟩:=h.coherent.mem_slot k _ hk
      cases hab
      rw [he,Option.some.injEq,Extent.mk.injEq,Role.slab.injEq] at hb
      exact ⟨used',by rw [hb.2.1]⟩
    · intro shift₀ used₀ hrole
      cases hrole
      exact ⟨rfl,hmin,hmax,hres⟩
  · rw [hnext,hprevR]
    exact h.rings
  · by_cases hba : b=a
    · subst hba
      rw [Ledger.extents_set_self,Option.some.injEq] at hb
      subst hb
      exact hmap
    · rw [L.extents_set_of_ne hba] at hb
      have hdisj (p : ℕ) (hbp : b≤p) (hp : p<b+e.len) : p≠a:=by
        rintro rfl
        exact hba (h.coherent.extent_unique hb he ⟨hbp,hp⟩ ⟨le_rfl,Nat.lt_succ_self p⟩)
      refine (h.describes b e hb).congr (h.coherent.extent_pos hb) (fun p hbp hp=>?_)
        (fun p _ _=>?_) (fun o ho=>hmem _ ?_)
      · exact hslab _ (by simpa using hdisj p hbp hp)
      · rw [htag]
      · omega
  · rw [hnext]
    by_cases hba : b=a
    · subst hba
      exact h.unlinked b _ he hun
    · rw [L.extents_set_of_ne hba] at hb
      exact h.unlinked b e hb hun

end Represents
namespace RepresentsExcept
variable {l : SegmentLayout} {s s' : SlabState} {L : Ledger} {a : ℕ} {e : Extent}

section
variable (h : RepresentsExcept l s L a)
include h

lemma mem_outside (he : L.extents a=some e) {head : Head} {r : SlabRef}
    (hr : r∈head.ref::L.ring head) {p : ℕ} (hap : a≤p) (hp : p<a+e.len) : r ≠ .page p:=by
  rintro rfl
  rcases mem_cons.1 hr with heq | hr
  · exact head.ref_ne_page p heq.symm
  obtain ⟨b,e',hb,he',-⟩:=h.coherent.extent_of_mem hr
  cases hb
  have hpos:=h.coherent.extent_pos he'
  obtain rfl:=h.coherent.extent_unique he he' ⟨hap,hp⟩ ⟨le_rfl,by omega⟩
  exact h.notMem head hr

lemma tag_of_mem {head : Head} {r : SlabRef} (hr : r∈L.ring head) : s.tag r=head.tag:=by
  refine h.coherent.tag_of_mem hr fun b e hb=>h.describes b e ?_
  rintro rfl
  exact h.notMem head hb

lemma agreesOutside (he : L.extents a=some e) (hagree : AgreesOutside l s s' a e.len) :
    RepresentsExcept l s' L a:=by
  have houtside {b : ℕ} {e' : Extent} (hba : b≠a) (hb : L.extents b=some e') {p q : ℕ}
      (hbp : b≤p) (hp : p<b+e'.len) (haq : a≤q) (hq : q<a+e.len) :
      (.page p : SlabRef) ≠ .page q:=by
    intro heq
    cases heq
    exact hba (h.coherent.extent_unique hb he ⟨hbp,hp⟩ ⟨haq,hq⟩)
  refine ⟨h.coherent,h.rings.congr (fun head r hr=>?_) (fun head r hr=>?_),h.notMem,
    fun b e' hba hb=>?_,fun b e' hba hb hun=>?_⟩
  · exact hagree.next r fun p hap hp=>h.mem_outside he hr hap hp
  · rw [SlabState.prevRef,SlabState.prevRef,hagree.prev r fun p hap hp=>h.mem_outside he (mem_cons_of_mem _ hr) hap hp]
  · have hpos:=h.coherent.extent_pos hb
    refine (h.describes b e' hba hb).congr hpos (fun p hbp hp=>?_) (fun p hbp hp=>?_)
      (fun o ho=>hagree.memory _ ?_)
    · exact hagree.slab _ fun q haq hq=>houtside hba hb hbp hp haq hq
    · rw [SlabState.tag,SlabState.tag,hagree.prev _ fun q haq hq=>houtside hba hb hbp hp haq hq]
    · rcases Nat.lt_or_gt_of_ne hba with hlt | hlt
      · omega
      · have hle : a+e.len≤b:=h.coherent.tiles.disjoint a b _ _ (Ledger.len_of_extents he) (Ledger.len_of_extents hb) hlt
        omega
  · have hpos:=h.coherent.extent_pos hb
    rw [hagree.next _ fun q haq hq=>houtside hba hb le_rfl (by omega) haq hq]
    exact h.unlinked b e' hba hb hun

lemma complete (he : L.extents a=some e) (hdescribes : s.Describes l a e)
    (hnext : s.next (.page a) = .null) : Represents l s L:=by
  refine ⟨h.coherent,h.rings,fun b e' hb=>?_,fun b e' hb hun=>?_⟩
  · by_cases hba : b=a
    · subst hba
      obtain rfl : e=e':=Option.some.inj (he.symm.trans hb)
      exact hdescribes
    · exact h.describes b e' hba hb
  · by_cases hba : b=a
    · subst hba
      exact hnext
    · exact h.unlinked b e' hba hb hun

lemma link {L' : Ledger} (head : Head) {e' : Extent}
    (hslab : ∀ r ≠ .page a, s'.slab r=s.slab r) (hmem : s'.memory=s.memory)
    (hnext : s'.next=update (update s.next (.page a) (s.next head.ref)) head.ref (.page a))
    (hprev : ∀ r≠head.ref, s'.prevRef r=update (update s.prevRef (.page a) head.ref) (s.next head.ref) (.page a) r)
    (htag : ∀ p≠a, s'.tag (.page p)=s.tag (.page p))
    (hcoh : L'.Coherent l.realPages) (hextents : ∀ b≠a, L'.extents b=L.extents b)
    (hring : L'.ring=update L.ring head (.page a::L.ring head))
    (he : L'.extents a=some e') (hdescribes : s'.Describes l a e') : Represents l s' L':=by
  have hdisj {b p : ℕ} {e : Extent} (hba : b≠a) (hb : L'.extents b=some e) (hbp : b≤p)
      (hp : p<b+e.len) : p≠a:=by
    rintro rfl
    have hpos:=hcoh.extent_pos he
    exact hba (hcoh.extent_unique hb he ⟨hbp,hp⟩ ⟨le_rfl,by omega⟩)
  refine ⟨hcoh,?_,fun b e hb=>?_,fun b e hb hun=>?_⟩
  · have hpush:=h.rings.push (i:=head) (Ledger.page_notMem_cons h.notMem)
    rw [hring]
    refine hpush.congr (fun head' r _=>by rw [hnext]) (fun head' r hr=>hprev r ?_)
    rintro rfl
    exact hpush.head_notMem head head' hr
  · by_cases hba : b=a
    · subst hba
      obtain rfl : e'=e:=Option.some.inj (he.symm.trans hb)
      exact hdescribes
    · refine (h.describes b e hba (hextents b hba ▸ hb)).congr (hcoh.extent_pos hb)
        (fun p hbp hp=>?_) (fun p hbp hp=>htag p (hdisj hba hb hbp hp))
        (fun o _=>by rw [hmem])
      exact hslab _ (by simpa using hdisj hba hb hbp hp)
  · have hbhead:=hun head
    rw [hring,update_self,mem_cons,not_or] at hbhead
    have hba : b≠a:=by simpa using hbhead.1
    rw [hnext,update_of_ne (head.ref_ne_page b).symm,update_of_ne hbhead.1]
    refine h.unlinked b e hba (hextents b hba ▸ hb) fun head' hbmem=>?_
    by_cases hhead : head'=head
    · subst hhead
      exact hbhead.2 hbmem
    · exact hun head' (by rwa [hring,update_of_ne hhead])

lemma linkFreeRun (he : L.extents a=some e) (hbody : s.Body a e.len 0) :
    Represents l (s.linkFreeRun (.page a) e.len) ((L.setExtent a ⟨e.len,.free⟩).setRing .free (.page a::L.ring .free)):=by
  have htag : (s.linkFreeRun (.page a) e.len).tag=
      update (update s.tag (.page a) .page) (s.next .free) .page:=by simp [SlabState.linkFreeRun]
  have htag_page (p : ℕ) (hp : s.tag (.page p) = .page ∨ p=a) :
      (s.linkFreeRun (.page a) e.len).tag (.page p) = .page:=by
    rw [htag]
    by_cases hnext : .page p=s.next .free
    · rw [hnext,update_self]
    · rw [update_of_ne hnext]
      by_cases hpa : p=a
      · rw [hpa,update_self]
      · rw [update_of_ne (by simpa using hpa)]
        exact hp.resolve_right hpa
  refine h.link .free (fun r hr=>update_of_ne hr _ _) rfl ?_ (fun r _=>?_)
    (fun p hpa=>?_) (h.coherent.release he fun k=>h.notMem (.slot k)) (fun b hba=>?_) rfl
    (L.extents_set_self a _) ⟨update_self _ _ _,htag_page a (.inr rfl),fun p hap hp=>?_⟩
  · simp [SlabState.linkFreeRun,Head.ref]
  · simp [SlabState.linkFreeRun,Head.ref]
  · rw [htag]
    exact Ledger.tag_update_of_mem .free (fun r hr=>h.tag_of_mem hr)
      (h.rings.next_head_mem .free) (update_of_ne (by simpa using hpa) _ _)
  · exact L.extents_set_of_ne hba _
  · obtain ⟨hslab,htagp⟩:=hbody p hap hp
    refine ⟨(update_of_ne ?_ _ _).trans hslab,htag_page p (.inl htagp)⟩
    simp only [ne_eq,SlabRef.page.injEq]
    omega

end
end RepresentsExcept
namespace SlabState
variable (s : SlabState) {page : SlabRef}

lemma unlinkPage_fields (hne : page≠s.prevRef page) :
    (s.unlinkPage page).slab=s.slab ∧ (s.unlinkPage page).memory=s.memory ∧
    (s.unlinkPage page).next=update s.next (s.prevRef page) (s.next page) ∧
    (s.unlinkPage page).prevRef=update s.prevRef (s.next page) (s.prevRef page) ∧
    (s.unlinkPage page).tag=update s.tag (s.next page) (s.tag page):=by
  refine ⟨rfl,rfl,rfl,?_,?_⟩
  · simp only [unlinkPage,prevRef_setPrev,prevRef_setNext,next_setNext,update_of_ne hne]
    rfl
  · simp only [unlinkPage,tag_setPrev,tag_setNext,next_setNext,update_of_ne hne]
    rfl

end SlabState
namespace SlabState
variable (w : Word)

@[simp] lemma memory_fill (s : SlabState) (b n : ℕ) : (s.fill w (.page b) n).memory=s.memory:=by
  induction n generalizing s b with
  | zero=>rfl
  | succ n ih=>exact ih _ (b+1)

lemma fill_of_notMem (s : SlabState) {b n : ℕ} {r : SlabRef} (hr : ∀ p, b≤p→p<b+n → r ≠ .page p) :
    (s.fill w (.page b) n).slab r=s.slab r ∧ (s.fill w (.page b) n).next r=s.next r ∧
      (s.fill w (.page b) n).prev r=s.prev r:=by
  induction n generalizing s b with
  | zero=>exact ⟨rfl,rfl,rfl⟩
  | succ n ih=>
    have hb : r ≠ .page b:=hr b le_rfl (by omega)
    obtain ⟨hslab,hnext,hprev⟩:=
      ih (((s.setSlab (.page b) w).setNext (.page b) .null).setPrev (.page b) ⟨.null,.page⟩)
        (b:=b+1) fun p hbp hp=>hr p (by omega) (by omega)
    exact ⟨hslab.trans (update_of_ne hb _ _),hnext.trans (update_of_ne hb _ _),hprev.trans (update_of_ne hb _ _)⟩

lemma fill_of_mem (s : SlabState) {b n p : ℕ} (hbp : b≤p) (hp : p<b+n) :
    (s.fill w (.page b) n).slab (.page p)=w ∧ (s.fill w (.page b) n).prev (.page p)=⟨.null,.page⟩:=by
  induction n generalizing s b with
  | zero=>omega
  | succ n ih=>
    by_cases hpb : p=b
    · subst hpb
      obtain ⟨hslab,-,hprev⟩:=fill_of_notMem w
        (((s.setSlab (.page p) w).setNext (.page p) .null).setPrev (.page p) ⟨.null,.page⟩)
        (b:=p+1) (n:=n) (r:=.page p) (by
          intro q hpq hq heq
          cases heq
          omega)
      exact ⟨hslab.trans (update_self _ _ _),hprev.trans (update_self _ _ _)⟩
    · exact ih _ (by omega) (by omega)

lemma body_fill (s : SlabState) (a n : ℕ) : (s.fill w (.page (a+1)) (n-1)).Body a n w:=by
  intro p hap hp
  obtain ⟨hslab,hprev⟩:=s.fill_of_mem w (b:=a+1) (n:=n-1) (p:=p) (by omega) (by omega)
  exact ⟨hslab,by rw [tag,hprev]⟩

lemma agreesOutside_fill (l : SegmentLayout) (s : SlabState) (a n : ℕ) :
    AgreesOutside l s (s.fill w (.page (a+1)) (n-1)) a n:=by
  have hout (r : SlabRef) (hr : ∀ p, a≤p→p<a+n → r ≠ .page p):=
    s.fill_of_notMem w (b:=a+1) (n:=n-1) (r:=r) fun p hap hp=>hr p (by omega) (by omega)
  exact ⟨fun r hr=>(hout r hr).1,fun r hr=>(hout r hr).2.1,fun r hr=>(hout r hr).2.2,fun v _=>by rw [memory_fill]⟩

end SlabState
namespace Represents
variable {l : SegmentLayout} {s s' : SlabState} {L L' : Ledger} {a : ℕ}

lemma except (h : Represents l s L) (hun : ∀ head, .page a∉L.ring head) : RepresentsExcept l s L a:=
  ⟨h.coherent,h.rings,hun,fun b e _=>h.describes b e,fun b e _=>h.unlinked b e⟩

lemma unlinkPage (h : Represents l s L) {head : Head} (hmem : .page a∈L.ring head)
    (hcoh : L'.Coherent l.realPages) (hextents : ∀ b≠a, L'.extents b=L.extents b)
    (hring : L'.ring=update L.ring head ((L.ring head).erase (.page a))) :
    RepresentsExcept l (s.unlinkPage (.page a)) L' a:=by
  obtain ⟨hslab,hmemory,hnext,hprev,htag⟩:=s.unlinkPage_fields (h.rings.prev_ne_self hmem).symm
  refine ⟨hcoh,?_,?_,fun b e hba hb=>?_,fun b e hba hb hun=>?_⟩
  · rw [hnext,hprev,hring]
    exact h.rings.unlink hmem
  · intro head' hmem'
    rw [hring] at hmem'
    exact h.rings.notMem_update_erase hmem head' (mem_cons_of_mem _ hmem')
  · rw [hextents b hba] at hb
    refine (h.describes b e hb).congr (h.coherent.extent_pos hb) (fun p _ _=>by rw [hslab])
      (fun p _ _=>?_) (fun o _=>by rw [hmemory])
    rw [htag,h.tag_of_mem hmem]
    exact Ledger.tag_update_of_mem head (fun r hr=>h.tag_of_mem hr) (h.rings.next_mem hmem) rfl
  · rw [hextents b hba] at hb
    have hb' : ∀ head', .page b∉L.ring head':=by
      intro head' hbmem
      refine hun head' ?_
      rw [hring]
      by_cases hhead : head'=head
      · subst hhead
        rw [update_self]
        exact (mem_erase_of_ne (by simpa using hba)).2 hbmem
      · rwa [update_of_ne hhead]
    rw [hnext,update_of_ne,h.unlinked b e hb hb']
    intro heq
    exact Ledger.page_notMem_cons hb' head (heq ▸ h.rings.prev_mem hmem)

variable {k : ℕ}

section
variable (h : Represents l s L) {used : ℕ→Bool} (he : L.extents a=some ⟨1,.slab (minShift+k) used⟩)
include h used he

lemma detach (hmem : .page a∈L.ring (.slot k)) :
    Represents l (smbSlabDetachFullPage s (.page a) (slabTypeOf (minShift+k)))
      (L.setRing (.slot k) ((L.ring (.slot k)).erase (.page a))):=by
  have hexcept:=h.unlinkPage hmem
    (h.coherent.setSlot fun r hr=>h.coherent.mem_slot k r (mem_of_mem_erase hr))
    (fun b _=>rfl) rfl
  have hne (r : SlabRef) (hr : ∀ p, a≤p→p<a+1 → r ≠ .page p) : r ≠ .page a:=hr a le_rfl (Nat.lt_succ_self a)
  have hagree : AgreesOutside l (s.unlinkPage (.page a))
      (smbSlabDetachFullPage s (.page a) (slabTypeOf (minShift+k))) a 1:=
    ⟨fun r _=>rfl,fun r hr=>update_of_ne (hne r hr) _ _, fun r hr=>update_of_ne (hne r hr) _ _,fun w _=>rfl⟩
  refine (hexcept.agreesOutside he hagree).complete he ?_ (update_self _ _ _)
  refine (h.describes a _ he).congr Nat.one_pos (fun p _ _=>rfl) (fun p hap hp=>?_) (fun o _=>rfl)
  obtain rfl : p=a:=by
    simp only at hp
    omega
  simp only [SlabState.tag_setPrev,smbSlabDetachFullPage,update_self]
  exact (h.tag_of_mem hmem).symm

lemma relink (hun : ∀ head, .page a∉L.ring head) :
    Represents l (relinkPage s (.page a) (minShift+k) (slabTypeOf (minShift+k)))
      (L.setRing (.slot k) (.page a::L.ring (.slot k))):=by
  have hslot : minShift+k-minShift=k:=Nat.add_sub_cancel_left minShift k
  have htag : (relinkPage s (.page a) (minShift+k) (slabTypeOf (minShift+k))).tag=
      update (update s.tag (.page a) (slabTypeOf (minShift+k))) (s.next (.slot k)) (slabTypeOf (minShift+k)):=by
    simp [relinkPage,hslot]
  -- The page that was first behind the slot has the tag of the slot already.
  have htag_page (p : ℕ) :
      (relinkPage s (.page a) (minShift+k) (slabTypeOf (minShift+k))).tag (.page p)=s.tag (.page p):=by
    rw [htag]
    refine Ledger.tag_update_of_mem (.slot k) (fun r hr=>h.tag_of_mem hr) (h.rings.next_head_mem (.slot k)) ?_
    by_cases hpa : p=a
    · subst hpa
      rw [update_self]
      exact (h.describes p _ he).1.symm
    · rw [update_of_ne (by simpa using hpa)]
  refine (h.except hun).link (.slot k) (fun r _=>rfl) rfl ?_ (fun r _=>?_)
    (fun p _=>htag_page p) (h.coherent.setSlot fun r hr=>?_) (fun b _=>rfl) rfl he ?_
  · simp [relinkPage,hslot,Head.ref]
  · simp [relinkPage,hslot,Head.ref]
  · rcases mem_cons.1 hr with rfl | hr
    · exact ⟨a,used,rfl,he⟩
    · exact h.coherent.mem_slot k r hr
  · exact (h.describes a _ he).congr Nat.one_pos (fun p _ _=>rfl) (fun p _ _=>htag_page p) (fun o _=>rfl)

end

variable {n : ℕ}

lemma run_notMem (h : Represents l s L) (he : L.extents a=some ⟨n,.run⟩) (head : Head) :
    .page a∉L.ring head:=by
  intro hmem
  obtain ⟨b,e,hab,hb,hrole⟩:=h.coherent.extent_of_mem hmem
  cases hab
  cases he.symm.trans hb
  exact hrole rfl

lemma smbSlabFreePages_eq (s : SlabState) (a n : ℕ) :
    smbSlabFreePages s (.page a) n=
      (if (s.fill 0 (.page (a+1)) (n-1)).next (.page a) ≠ .null then
        (s.fill 0 (.page (a+1)) (n-1)).unlinkPage (.page a)
      else s.fill 0 (.page (a+1)) (n-1)).linkFreeRun (.page a) n:=by
  have hfill : (if 1<n then s.fill 0 (SlabRef.add (.page a) 1) (n-1) else s)=
      s.fill 0 (.page (a+1)) (n-1):=by
    by_cases hn : 1<n
    · rw [if_pos hn]
      rfl
    · rw [if_neg hn,show n-1=0 by omega]
      rfl
  rw [smbSlabFreePages,hfill]

lemma freeRun (h : Represents l s L) (he : L.extents a=some ⟨n,.run⟩) :
    Represents l (smbSlabFreePages s (.page a) n) ((L.setExtent a ⟨n,.free⟩).setRing .free (.page a::L.ring .free)):=by
  have hun:=h.run_notMem he
  have hnext : (s.fill 0 (.page (a+1)) (n-1)).next (.page a) = .null:=by
    rw [(s.fill_of_notMem 0 (r:=.page a) fun p hap hp heq=>by cases heq; omega).2.1]
    exact h.unlinked a _ he hun
  rw [smbSlabFreePages_eq,if_neg (not_not_intro hnext)]
  exact ((h.except hun).agreesOutside he (s.agreesOutside_fill 0 l a n)).linkFreeRun he (s.body_fill 0 a n)

lemma freeSlabPage (h : Represents l s L) {used : ℕ→Bool}
    (he : L.extents a=some ⟨1,.slab (minShift+k) used⟩) (hmem : .page a∈L.ring (.slot k)) :
    Represents l (smbSlabFreePages s (.page a) 1)
      (((L.setRing (.slot k) ((L.ring (.slot k)).erase (.page a))).setExtent a ⟨1,.free⟩).setRing
        .free (.page a::L.ring .free)):=by
  have hexcept:=h.unlinkPage hmem
    (h.coherent.setSlot fun r hr=>h.coherent.mem_slot k r (mem_of_mem_erase hr))
    (fun b _=>rfl) rfl
  have hfree : smbSlabFreePages s (.page a) 1=
      (s.unlinkPage (.page a)).linkFreeRun (.page a) 1:=by
    simp [smbSlabFreePages,h.next_ne_null hmem]
  rw [hfree]
  refine hexcept.linkFreeRun he ?_
  intro p hap hp
  simp only at hp
  omega

lemma page_mem_free (h : Represents l s L) (he : L.extents a=some ⟨n,.free⟩) : .page a∈L.ring .free:=
  (h.coherent.mem_free _).2 ⟨a,n,rfl,he⟩

lemma takePages_fields (s : SlabState) (hk : 0<k)
    (hne : (.page a : SlabRef)≠s.prevRef (.page a)) (hlt : k<(s.slab (.page a)).toNat) :
    (s.takePages (.page a) k).slab=update s.slab (.page (a+k)) (s.slab (.page a)-BitVec.ofNat 64 k) ∧
    (s.takePages (.page a) k).memory=s.memory ∧
    (s.takePages (.page a) k).next=
      update (update s.next (.page (a+k)) (s.next (.page a))) (s.prevRef (.page a)) (.page (a+k)) ∧
    (s.takePages (.page a) k).prevRef=
      update (update s.prevRef (.page (a+k)) (s.prevRef (.page a))) (s.next (.page a)) (.page (a+k)) ∧
    (s.takePages (.page a) k).tag=update (update s.tag (.page (a+k)) (s.tag (.page a))) (s.next (.page a)) .page:=by
  have hak : (.page a : SlabRef) ≠ .page (a+k):=by
    simp only [ne_eq,SlabRef.page.injEq]
    omega
  simp only [SlabState.takePages,if_pos hlt,SlabRef.add]
  refine ⟨rfl,rfl,?_,?_,?_⟩
  · simp [update_of_ne hak]
  · simp [update_of_ne hak,update_of_ne hne]
    rfl
  · simp [update_of_ne hak,update_of_ne hne]
    rfl

section
variable (h : Represents l s L)
include h

lemma splitRun {j : ℕ} (he : L.extents a=some ⟨k+j,.free⟩) (hk : 0<k) (hj : 0<j) (hlt : k<(s.slab (.page a)).toNat) :
    RepresentsExcept l (s.takePages (.page a) k)
      (((L.setExtent (a+k) ⟨j,.free⟩).setExtent a ⟨k,.run⟩).setRing .free
        ((L.ring .free).replace (.page a) (.page (a+k)))) a:=by
  have hmem:=h.page_mem_free he
  obtain ⟨hslab,hmemory,hnext,hprev,htag⟩:=takePages_fields s hk (h.rings.prev_ne_self hmem).symm hlt
  obtain ⟨hslaba,htaga,hbody⟩:=h.describes a _ he
  have hins (p : ℕ) (hp : a<p) (hpk : p<a+(k+j)) : L.extents p=none:=by
    have hnone:=h.coherent.tiles.eq_none_of_inside (Ledger.len_of_extents he) ⟨hp,hpk⟩
    rwa [Ledger.len,Option.map_eq_none_iff] at hnone
  have hfresh (head : Head) : .page (a+k)∉L.ring head:=by
    intro hmem'
    obtain ⟨b,e,hb,hsome,-⟩:=h.coherent.extent_of_mem hmem'
    cases hb
    simp [hins (a+k) (by omega) (by omega)] at hsome
  have htag_page (p : ℕ) (hp : s.tag (.page p) = .page ∨ p=a+k) :
      (s.takePages (.page a) k).tag (.page p) = .page:=by
    rw [htag]
    by_cases hn : .page p=s.next (.page a)
    · rw [hn,update_self]
    · rw [update_of_ne hn]
      by_cases hpk : p=a+k
      · rw [hpk,update_self,htaga]
      · rw [update_of_ne (by simpa using hpk)]
        exact hp.resolve_right hpk
  have htag_other (p : ℕ) (hpk : p≠a+k) :
      (s.takePages (.page a) k).tag (.page p)=s.tag (.page p):=by
    rw [htag]
    exact Ledger.tag_update_of_mem .free (fun r hr=>h.tag_of_mem hr) (h.rings.next_mem hmem)
      (update_of_ne (by simpa using hpk) _ _)
  have hrings:=h.rings.replace hmem (Ledger.page_notMem_cons hfresh)
  refine ⟨h.coherent.split he hk hj (h.rings.nodup .free),?_,?_,fun b e hba hb=>?_,fun b e hba hb hun=>?_⟩
  · rw [hnext,hprev]
    exact hrings
  · intro head hmem'
    by_cases hhead : head = .free
    · subst hhead
      rw [Ledger.ring_setRing_self,mem_replace_iff (h.rings.nodup .free) hmem] at hmem'
      rcases hmem' with heq | ⟨-,hne⟩
      · simp only [SlabRef.page.injEq] at heq
        omega
      · exact hne rfl
    · rw [Ledger.ring_setRing_of_ne _ hhead] at hmem'
      exact hhead (h.rings.disjoint head .free _ hmem' hmem)
  · rw [Ledger.extents_setRing,Ledger.extents_set_of_ne _ hba] at hb
    by_cases hbk : b=a+k
    · subst hbk
      rw [Ledger.extents_set_self,Option.some.injEq] at hb
      subst hb
      refine ⟨?_,htag_page _ (.inr rfl),fun p hap hp=>?_⟩
      · rw [hslab,update_self,hslaba,BitVec.ofNat_add,BitVec.add_comm,BitVec.add_sub_cancel]
      · obtain ⟨hzero,hpage⟩:=hbody p (by omega) (by omega)
        refine ⟨?_,htag_page p (.inl hpage)⟩
        rw [hslab,update_of_ne,hzero]
        simp only [ne_eq,SlabRef.page.injEq]
        omega
    · rw [L.extents_set_of_ne hbk] at hb
      have hdisj (p : ℕ) (hbp : b≤p) (hp : p<b+e.len) : p≠a+k:=by
        rintro rfl
        exact hba (h.coherent.extent_unique hb he ⟨hbp,hp⟩ (by simp only; omega))
      refine (h.describes b e hb).congr (h.coherent.extent_pos hb) (fun p hbp hp=>?_)
        (fun p hbp hp=>htag_other p (hdisj p hbp hp)) (fun o _=>by rw [hmemory])
      rw [hslab,update_of_ne (by simpa using hdisj p hbp hp)]
  · have hbfree:=hun .free
    rw [Ledger.ring_setRing_self,mem_replace_iff (h.rings.nodup .free) hmem,not_or,not_and_not_right] at hbfree
    have hbk : b≠a+k:=by simpa using hbfree.1
    have hb' : ∀ head, .page b∉L.ring head:=by
      intro head hbmem
      by_cases hhead : head = .free
      · subst hhead
        exact hba (by simpa using hbfree.2 hbmem)
      · exact hun head (by rwa [Ledger.ring_setRing_of_ne _ hhead])
    rw [Ledger.extents_setRing,Ledger.extents_set_of_ne _ hba,L.extents_set_of_ne hbk] at hb
    rw [hnext,update_of_ne,update_of_ne (by simpa using hbk),h.unlinked b e hb hb']
    intro heq
    exact Ledger.page_notMem_cons hb' .free (heq ▸ h.rings.prev_mem hmem)

lemma slab_free (hl : l.WellFormed) (he : L.extents a=some ⟨n,.free⟩) : (s.slab (.page a)).toNat=n:=by
  have hle:=h.coherent.extent_le he
  have hlt:=hl.realPages_lt
  simp only at hle
  rw [(h.describes a _ he).1,BitVec.toNat_ofNat,Nat.mod_eq_of_lt (by omega)]

lemma allocRun (hl : l.WellFormed) (he : L.extents a=some ⟨n,.free⟩) (hk : 0<k) (hkn : k≤n) :
    Represents l (s.allocRun (.page a) k) (L.claimPages a k n):=by
  have hlen:=h.slab_free hl he
  have hrun : (L.claimPages a k n).extents a=some ⟨k,.run⟩:=by
    unfold Ledger.claimPages
    split <;> rw [Ledger.extents_setRing,Ledger.extents_set_self]
  have hexcept : RepresentsExcept l (s.takePages (.page a) k) (L.claimPages a k n) a:=by
    by_cases hlt : k<n
    · obtain ⟨j,rfl⟩:=Nat.exists_eq_add_of_le hkn
      rw [Ledger.claimPages,if_pos hlt,Nat.add_sub_cancel_left]
      exact h.splitRun he hk (by omega) (by rwa [hlen])
    · obtain rfl : k=n:=by omega
      rw [Ledger.claimPages,if_neg hlt,SlabState.takePages,if_neg (by rwa [hlen])]
      exact h.unlinkPage (h.page_mem_free he) (h.coherent.claim he (h.rings.nodup .free))
        (fun b hba=>L.extents_set_of_ne hba _) rfl
  have hne (r : SlabRef) (hr : ∀ p, a≤p→p<a+k → r ≠ .page p) : r ≠ .page a:=hr a le_rfl (by omega)
  have hagree : AgreesOutside l (s.takePages (.page a) k)
      ((((s.takePages (.page a) k).setSlab (.page a) (BitVec.ofNat 64 k ||| slabPageStart)).setNext
        (.page a) .null).setPrev (.page a) ⟨.null,.page⟩) a k:=
    ⟨fun r hr=>update_of_ne (hne r hr) _ _,fun r hr=>update_of_ne (hne r hr) _ _,
      fun r hr=>update_of_ne (hne r hr) _ _,fun w _=>rfl⟩
  have hfill:=((hexcept.agreesOutside hrun hagree).agreesOutside hrun (SlabState.agreesOutside_fill slabBusy l _ a k))
  obtain ⟨hslab,hnext,hprev⟩:=SlabState.fill_of_notMem slabBusy
    ((((s.takePages (.page a) k).setSlab (.page a) (BitVec.ofNat 64 k ||| slabPageStart)).setNext
      (.page a) .null).setPrev (.page a) ⟨.null,.page⟩) (b:=a+1) (n:=k-1) (r:=.page a)
    (by
      intro p hap hp heq
      cases heq
      omega)
  refine hfill.complete hrun ⟨hslab.trans (update_self _ _ _),?_,SlabState.body_fill _ _ a k⟩
    (hnext.trans (update_self _ _ _))
  rw [SlabState.tag,hprev]
  simp [SlabState.setPrev]

lemma allocPagesLoop_eq (hl : l.WellFormed) (k : ℕ) {r : SlabRef} {rs : List SlabRef}
    (hlinked : Linked s.next s.prevRef r rs .free) (hmem : ∀ x∈rs, x∈L.ring .free) {fuel : ℕ} (hfuel : rs.length<fuel) :
    (∃ b n, L.extents b=some ⟨n,.free⟩ ∧ k≤n ∧ s.allocPagesLoop k fuel (s.next r)=some (.page b,s.allocRun (.page b) k)) ∨
    (∀ b n, .page b∈rs→L.extents b=some ⟨n,.free⟩→n<k) ∧ s.allocPagesLoop k fuel (s.next r)=some (.null,s):=by
  obtain ⟨fuel,rfl⟩ : ∃ fuel', fuel=fuel'+1:=⟨fuel-1,by omega⟩
  induction rs generalizing r fuel with
  | nil=>
    refine .inr ⟨fun b n hb=>(not_mem_nil hb).elim,?_⟩
    rw [hlinked.next_eq,SlabState.allocPagesLoop]
    rfl
  | cons x rs ih=>
    obtain ⟨hx,-,hrest⟩:=hlinked
    obtain ⟨b,n,rfl,hb⟩:=(h.coherent.mem_free x).1 (hmem x mem_cons_self)
    have hlen:=h.slab_free hl hb
    rw [hx,SlabState.allocPagesLoop,if_neg (by simp),hlen]
    by_cases hkn : k≤n
    · rw [if_pos hkn]
      exact .inl ⟨b,n,hb,hkn,rfl⟩
    · rw [if_neg hkn]
      rw [length_cons] at hfuel
      obtain ⟨fuel,rfl⟩ : ∃ fuel', fuel=fuel'+1:=⟨fuel-1,by omega⟩
      rcases ih hrest (fun y hy=>hmem y (mem_cons_of_mem _ hy)) fuel (by omega) with
        hfound | ⟨hnone,hloop⟩
      · exact .inl hfound
      · refine .inr ⟨fun c m hc hm=>?_,hloop⟩
        rcases mem_cons.1 hc with heq | hc
        · cases heq
          rw [hb,Option.some.injEq,Extent.mk.injEq] at hm
          omega
        · exact hnone c m hc hm

lemma nodup_index_free : ((L.ring .free).map SlabRef.index).Nodup:=by
  refine (h.rings.nodup .free).map_on fun x hx y hy hxy=>?_
  obtain ⟨b,rfl⟩:=h.page_of_mem hx
  obtain ⟨c,rfl⟩:=h.page_of_mem hy
  exact congrArg SlabRef.page hxy

lemma length_free_le : (L.ring .free).length≤l.realPages:=by
  have hsub : (L.ring .free).map SlabRef.index ⊆ range l.realPages:=by
    intro p hp
    obtain ⟨x,hx,rfl⟩:=List.mem_map.1 hp
    obtain ⟨b,n,rfl,hb⟩:=(h.coherent.mem_free x).1 hx
    have hle:=h.coherent.extent_le hb
    have hpos:=h.coherent.extent_pos hb
    rw [mem_range,SlabRef.index]
    omega
  have hlen:=(subperm_of_subset h.nodup_index_free hsub).length_le
  rwa [length_map,length_range] at hlen

lemma allocPages (hl : l.WellFormed) (hk : 0<k) :
    (∃ b n, L.extents b=some ⟨n,.free⟩ ∧ k≤n ∧
      smbSlabAllocPages l s k=some (.page b,s.allocRun (.page b) k) ∧
      Represents l (s.allocRun (.page b) k) (L.claimPages b k n)) ∨
    (∀ b n, L.extents b=some ⟨n,.free⟩→n<k) ∧ smbSlabAllocPages l s k=some (.null,s):=by
  have hlen:=h.length_free_le
  rcases h.allocPagesLoop_eq hl k (h.rings.linked .free) (fun x hx=>hx)
    (Nat.lt_succ_of_le hlen) with ⟨b,n,hb,hkn,hloop⟩ | ⟨hnone,hloop⟩
  · exact .inl ⟨b,n,hb,hkn,hloop,h.allocRun hl hb hk hkn⟩
  · exact .inr ⟨fun b n hb=>hnone b n (h.page_mem_free hb) hb,hloop⟩

lemma page_cases {i : ℕ} (hi : i<l.realPages) :
    (∃ b n, L.extents b=some ⟨n,.free⟩ ∧ (b ≤ i ∧ i<b+n) ∧ s.tag (.page i) = .page ∧
      s.slab (.page i)=if i=b then BitVec.ofNat 64 n else 0) ∨
    (∃ b n, L.extents b=some ⟨n,.run⟩ ∧ (b ≤ i ∧ i<b+n) ∧ s.tag (.page i) = .page ∧
      s.slab (.page i)=if i=b then BitVec.ofNat 64 n ||| slabPageStart else slabBusy) ∨
    ∃ shift used, L.extents i=some ⟨1,.slab shift used⟩ ∧ s.ChunkMap l i shift used:=by
  obtain ⟨b,n,hlen,hbi,hib⟩:=h.coherent.tiles.cover i hi
  obtain ⟨⟨n,role⟩,hb,rfl⟩:=Option.map_eq_some_iff.1 hlen
  have hdescribes:=h.describes b _ hb
  have hbody {v w : Word} (hfirst : s.slab (.page b)=v) (htag : s.tag (.page b) = .page)
      (hrest : s.Body b n w) :
      s.tag (.page i) = .page ∧ s.slab (.page i)=if i=b then v else w:=by
    by_cases hne : i=b
    · rw [if_pos hne,hne]
      exact ⟨htag,hfirst⟩
    · rw [if_neg hne]
      exact (hrest i (by omega) hib).symm
  cases role with
  | free=>
    exact .inl ⟨b,n,hb,⟨hbi,hib⟩,hbody hdescribes.1 hdescribes.2.1 hdescribes.2.2⟩
  | run=>
    exact .inr (.inl ⟨b,n,hb,⟨hbi,hib⟩,hbody hdescribes.1 hdescribes.2.1 hdescribes.2.2⟩)
  | slab shift used=>
    obtain ⟨rfl,-,-,-⟩:=h.coherent.slab b n shift used hb
    obtain rfl : i=b:=by
      simp only at hib
      omega
    exact .inr (.inr ⟨shift,used,hb,hdescribes⟩)

end
end Represents
end SoftMessageBus
