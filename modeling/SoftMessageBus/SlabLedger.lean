import SoftMessageBus.IntervalTiling
import SoftMessageBus.LinkedRings
import SoftMessageBus.SlabAllocator

/-!
# What the pages of a segment are used for

Which runs of pages are free, allocated, or cut into chunks.
-/
namespace SoftMessageBus
open Function IntervalTiling LinkedRings

def chunkCount (shift : ℕ) : ℕ:=2^(12-shift)
def reservedChunks (shift : ℕ) : ℕ:=if shift=3 then 8 else if shift=4 then 2 else if shift=5 then 1 else 0
def mapBytes (shift : ℕ) : ℕ:=chunkCount shift/8

inductive Role where
  | free
  | run
  | slab (shift : ℕ) (used : ℕ→Bool)

structure Extent where
  len : ℕ
  role : Role

inductive Head where
  | free
  | slot (k : ℕ)
  deriving DecidableEq

def Head.ref : Head→SlabRef
  | .free=>.free
  | .slot k=>.slot k

lemma Head.ref_injective : Injective Head.ref:=by
  intro h h' heq
  cases h <;> cases h' <;> simp_all [Head.ref]

lemma Head.ref_ne_page (h : Head) (a : ℕ) : h.ref ≠ .page a:=by cases h <;> simp [Head.ref]

lemma Head.ref_ne_null (h : Head) : h.ref ≠ .null:=by cases h <;> simp [Head.ref]

structure Ledger where
  extents : ℕ→Option Extent
  ring : Head→List SlabRef

def Full (shift : ℕ) (used : ℕ→Bool) : Prop:=∀ c<chunkCount shift, used c=true

instance (shift : ℕ) (used : ℕ→Bool) : Decidable (Full shift used):=
  inferInstanceAs (Decidable (∀ c<chunkCount shift, used c=true))

namespace Ledger

def setExtent (L : Ledger) (a : ℕ) (e : Extent) : Ledger:={L with extents:=update L.extents a (some e)}
def setRing (L : Ledger) (h : Head) (l : List SlabRef) : Ledger:={L with ring:=update L.ring h l}

section
variable (L : Ledger)

@[simp] lemma ring_setExtent (a : ℕ) (e : Extent) : (L.setExtent a e).ring=L.ring:=rfl
@[simp] lemma extents_setRing (h : Head) (l : List SlabRef) : (L.setRing h l).extents=L.extents:=rfl
@[simp] lemma extents_set_self (a : ℕ) (e : Extent) : (L.setExtent a e).extents a=some e:=update_self _ _ _

@[simp] lemma extents_set_of_ne {a b : ℕ} (hb : b≠a) (e : Extent) :
    (L.setExtent a e).extents b=L.extents b:=
  update_of_ne hb _ _

@[simp] lemma ring_setRing_self (h : Head) (l : List SlabRef) : (L.setRing h l).ring h=l:=update_self _ _ _

@[simp] lemma ring_setRing_of_ne {h h' : Head} (hh : h'≠h) (l : List SlabRef) :
    (L.setRing h l).ring h'=L.ring h':=
  update_of_ne hh _ _

end

def len (L : Ledger) (a : ℕ) : Option ℕ:=(L.extents a).map Extent.len

lemma len_of_extents {L : Ledger} {a : ℕ} {e : Extent} (he : L.extents a=some e) : L.len a=some e.len:=by
  rw [len,he,Option.map_some]

lemma len_setExtent (L : Ledger) (a : ℕ) (e : Extent) :
    (L.setExtent a e).len=update L.len a (some e.len):=by
  funext b
  by_cases hb : b=a
  · subst hb
    rw [update_self,len,extents_set_self,Option.map_some]
  · rw [update_of_ne hb,len,extents_set_of_ne L hb,len]

/-- The ledger after the first `k` pages of a free run of `n` pages have been allocated. -/
def claimPages (L : Ledger) (a k n : ℕ) : Ledger:=
  if k<n then
    ((L.setExtent (a+k) ⟨n-k,.free⟩).setExtent a ⟨k,.run⟩).setRing .free ((L.ring .free).replace (.page a) (.page (a+k)))
  else (L.setExtent a ⟨k,.run⟩).setRing .free ((L.ring .free).erase (.page a))

structure Coherent (L : Ledger) (n : ℕ) : Prop where
  tiles : Tiles L.len n
  mem_free : ∀ r, r∈L.ring .free ↔ ∃ a len, r = .page a ∧ L.extents a=some ⟨len,.free⟩
  mem_slot : ∀ k r, r∈L.ring (.slot k)→∃ a used, r = .page a ∧ L.extents a=some ⟨1,.slab (minShift+k) used⟩
  slab : ∀ a len shift used, L.extents a=some ⟨len,.slab shift used⟩→
    len=1 ∧ minShift ≤ shift ∧ shift<12 ∧ ∀ c < reservedChunks shift, used c=true

def Settled (L : Ledger) : Prop:=
  ∀ a shift used, L.extents a=some ⟨1,.slab shift used⟩→ (.page a∈L.ring (.slot (shift-minShift)) ↔ ¬Full shift used)

end Ledger

def Extent.Block : Extent→ℕ→ℕ→Prop
  | ⟨_,.free⟩, _, _=>False
  | ⟨n,.run⟩, o, len=>o=0 ∧ len=4096*n
  | ⟨_,.slab shift used⟩, o, len=>
    ∃ c, reservedChunks shift≤c ∧ c<chunkCount shift ∧ used c=true ∧ o=c*2^shift ∧ len=2^shift

def Ledger.Block (L : Ledger) (off len : ℕ) : Prop:=∃ a e o, L.extents a=some e ∧ e.Block o len ∧ off=4096*a+o

lemma chunkCount_mul {shift : ℕ} (h : shift<12) : chunkCount shift*2^shift=4096:=by
  rw [chunkCount,← pow_add,Nat.sub_add_cancel h.le]
  rfl

lemma mapBytes_le {shift : ℕ} (h : minShift ≤ shift) (hsmall : shift<6) :
    mapBytes shift≤reservedChunks shift*2^shift:=by
  have hmin : minShift=3:=rfl
  obtain rfl | rfl | rfl : shift=3 ∨ shift=4 ∨ shift=5:=by omega
  all_goals decide

lemma reservedChunks_le (shift : ℕ) : reservedChunks shift≤8:=by
  unfold reservedChunks
  split_ifs <;> omega

lemma reservedChunks_lt {shift : ℕ} (hmin : minShift ≤ shift) (h : shift<12) :
    reservedChunks shift+1<chunkCount shift:=by
  have hmin' : minShift=3:=rfl
  obtain ⟨j,rfl⟩:=Nat.exists_eq_add_of_le hmin
  obtain ⟨i,rfl⟩ : ∃ i : Fin 9, j=i:=⟨⟨j,by omega⟩,rfl⟩
  clear hmin h
  revert i
  decide

namespace Extent.Block
variable {e : Extent} {o len o' len' : ℕ}

lemma pos (h : e.Block o len) (hlen : 0<e.len) : 0<len:=by
  obtain ⟨n,role⟩:=e
  cases role with
  | free=>cases h
  | run=>
    obtain ⟨-,rfl⟩:=h
    exact Nat.mul_pos (by decide) hlen
  | slab shift used=>
    obtain ⟨c,-,-,-,-,rfl⟩:=h
    exact Nat.two_pow_pos shift

lemma le (h : e.Block o len) (hslab : ∀ shift used, e.role = .slab shift used→e.len=1 ∧ shift<12) :
    o+len≤4096*e.len:=by
  obtain ⟨n,role⟩:=e
  cases role with
  | free=>cases h
  | run=>
    obtain ⟨rfl,rfl⟩:=h
    exact (Nat.zero_add _).le
  | slab shift used=>
    obtain ⟨c,-,hc,-,rfl,rfl⟩:=h
    obtain ⟨rfl,hshift⟩:=hslab shift used rfl
    have hmul:=Nat.mul_le_mul_right (2^shift) (Nat.succ_le_of_lt hc)
    rwa [chunkCount_mul hshift,Nat.succ_mul] at hmul

lemma disjoint (h : e.Block o len) (h' : e.Block o' len') : (o=o' ∧ len=len') ∨ o+len≤o' ∨ o'+len' ≤ o:=by
  obtain ⟨n,role⟩:=e
  cases role with
  | free=>cases h
  | run=>exact .inl ⟨h.1.trans h'.1.symm,h.2.trans h'.2.symm⟩
  | slab shift used=>
    obtain ⟨c,-,-,-,rfl,rfl⟩:=h
    obtain ⟨c',-,-,-,rfl,rfl⟩:=h'
    rcases Nat.lt_trichotomy c c' with hlt | rfl | hlt
    · have hmul:=Nat.mul_le_mul_right (2^shift) (Nat.succ_le_of_lt hlt)
      rw [Nat.succ_mul] at hmul
      exact .inr (.inl hmul)
    · exact .inl ⟨rfl,rfl⟩
    · have hmul:=Nat.mul_le_mul_right (2^shift) (Nat.succ_le_of_lt hlt)
      rw [Nat.succ_mul] at hmul
      exact .inr (.inr hmul)

end Extent.Block
namespace Ledger.Coherent
variable {L : Ledger} {n : ℕ}

section
variable (h : L.Coherent n)
include h

lemma extent_pos {a : ℕ} {e : Extent} (he : L.extents a=some e) : 0<e.len:=h.tiles.pos a e.len (len_of_extents he)

lemma extent_le {a : ℕ} {e : Extent} (he : L.extents a=some e) : a+e.len≤n:=h.tiles.le a e.len (len_of_extents he)

lemma extent_unique {a b p : ℕ} {e e' : Extent} (he : L.extents a=some e)
    (he' : L.extents b=some e') (ha : a≤p ∧ p<a+e.len) (hb : b≤p ∧ p<b+e'.len) : a=b:=
  h.tiles.unique (len_of_extents he) (len_of_extents he') ha hb

lemma block_le {a o len : ℕ} {e : Extent} (he : L.extents a=some e) (hb : e.Block o len) :
    o+len≤4096*e.len:=
  hb.le fun shift used hrole=>by
    obtain ⟨hlen,-,hshift,-⟩:=h.slab a e.len shift used (by rw [he,← hrole])
    exact ⟨hlen,hshift⟩

lemma block_inside {off len : ℕ} (hb : L.Block off len) : off+len≤4096*n:=by
  obtain ⟨a,e,o,he,hb,rfl⟩:=hb
  have hle:=h.block_le he hb
  have hmul:=Nat.mul_le_mul_left 4096 (h.extent_le he)
  rw [Nat.mul_add] at hmul
  omega

lemma disjoint_of_ne {a b o len o' len' : ℕ} {e e' : Extent} (he : L.extents a=some e)
    (he' : L.extents b=some e') (hab : a≠b) (hle : o+len≤4096*e.len) (hle' : o'+len' ≤ 4096*e'.len) :
    4096*a+o+len≤4096*b+o' ∨ 4096*b+o'+len' ≤ 4096*a+o:=by
  have hlen:=len_of_extents he
  have hlen':=len_of_extents he'
  rcases Nat.lt_or_gt_of_ne hab with hlt | hlt
  · have hmul:=Nat.mul_le_mul_left 4096 (h.tiles.disjoint a b _ _ hlen hlen' hlt)
    rw [Nat.mul_add] at hmul
    omega
  · have hmul:=Nat.mul_le_mul_left 4096 (h.tiles.disjoint b a _ _ hlen' hlen hlt)
    rw [Nat.mul_add] at hmul
    omega

lemma block_disjoint {off len off' len' : ℕ} (hb : L.Block off len) (hb' : L.Block off' len') :
    (off=off' ∧ len=len') ∨ off+len≤off' ∨ off'+len' ≤ off:=by
  obtain ⟨a,e,o,he,hb,rfl⟩:=hb
  obtain ⟨b,e',o',he',hb',rfl⟩:=hb'
  by_cases hab : a=b
  · subst hab
    obtain rfl : e=e':=Option.some.inj (he.symm.trans he')
    rcases hb.disjoint hb' with ⟨rfl,rfl⟩ | hlt | hlt
    · exact .inl ⟨rfl,rfl⟩
    · exact .inr (.inl (by omega))
    · exact .inr (.inr (by omega))
  · exact .inr (h.disjoint_of_ne he he' hab (h.block_le he hb) (h.block_le he' hb'))

lemma block_disjoint_map {off len : ℕ} (hb : L.Block off len) {a m : ℕ} {shift : ℕ}
    {used : ℕ→Bool} (he : L.extents a=some ⟨m,.slab shift used⟩) (hsmall : shift<6) :
    off+len≤4096*a ∨ 4096*a+mapBytes shift≤off:=by
  obtain ⟨rfl,hmin,hmax,-⟩:=h.slab a m shift used he
  have hmap:=mapBytes_le hmin hsmall
  obtain ⟨b,e,o,he',hb,rfl⟩:=hb
  by_cases hab : a=b
  · subst hab
    obtain rfl : e=⟨1,.slab shift used⟩:=Option.some.inj (he'.symm.trans he)
    obtain ⟨c,hc,-,-,rfl,rfl⟩:=hb
    have hmul:=Nat.mul_le_mul_right (2^shift) hc
    exact .inr (by omega)
  · have hpage : 0+mapBytes shift≤4096*1:=by
      have hle : mapBytes shift≤4096/8:=Nat.div_le_div_right (by
        have hmul:=chunkCount_mul hmax
        have hpos:=Nat.two_pow_pos shift
        nlinarith)
      omega
    rcases h.disjoint_of_ne he' he (Ne.symm hab) (h.block_le he' hb) hpage with hlt | hlt
    · exact .inl hlt
    · exact .inr hlt

lemma setExtent {a : ℕ} {e e' : Extent} (he : L.extents a=some e)
    (hlen : e'.len=e.len) (hfree : e.role ≠ .free) (hfree' : e'.role ≠ .free)
    (hslot : ∀ k, .page a∈L.ring (.slot k)→∃ used, e'=⟨1,.slab (minShift+k) used⟩)
    (hslab : ∀ shift used, e'.role = .slab shift used→
      e'.len=1 ∧ minShift ≤ shift ∧ shift<12 ∧ ∀ c < reservedChunks shift, used c=true) :
    (L.setExtent a e').Coherent n:=by
  refine ⟨?_,fun r=>?_,fun k r hr=>?_,fun b m shift used hb=>?_⟩
  · rw [len_setExtent,hlen,← len_of_extents he,update_eq_self]
    exact h.tiles
  · refine (h.mem_free r).trans ?_
    constructor
    · rintro ⟨b,m,rfl,hb⟩
      refine ⟨b,m,rfl,(L.extents_set_of_ne ?_ e').trans hb⟩
      rintro rfl
      exact hfree (by rw [Option.some.inj (he.symm.trans hb)])
    · rintro ⟨b,m,rfl,hb⟩
      by_cases hba : b=a
      · subst hba
        rw [extents_set_self,Option.some.injEq] at hb
        exact absurd (by rw [hb]) hfree'
      · rw [L.extents_set_of_ne hba] at hb
        exact ⟨b,m,rfl,hb⟩
  · obtain ⟨b,used,rfl,hb⟩:=h.mem_slot k r hr
    by_cases hba : b=a
    · subst hba
      obtain ⟨used',rfl⟩:=hslot k hr
      exact ⟨b,used',rfl,L.extents_set_self b _⟩
    · exact ⟨b,used,rfl,(L.extents_set_of_ne hba e').trans hb⟩
  · by_cases hba : b=a
    · subst hba
      rw [extents_set_self,Option.some.injEq] at hb
      have hrole:=hslab shift used (by rw [hb])
      rwa [hb] at hrole
    · rw [L.extents_set_of_ne hba] at hb
      exact h.slab b m shift used hb

lemma setSlot {k : ℕ} {l : List SlabRef} (hmem : ∀ r∈l, ∃ a used, r = .page a ∧
      L.extents a=some ⟨1,.slab (minShift+k) used⟩) : (L.setRing (.slot k) l).Coherent n:=by
  refine ⟨h.tiles,fun r=>?_,fun j r hr=>?_,h.slab⟩
  · rw [L.ring_setRing_of_ne (by simp)]
    exact h.mem_free r
  · by_cases hjk : j=k
    · subst hjk
      rw [ring_setRing_self] at hr
      exact hmem r hr
    · rw [L.ring_setRing_of_ne (by simpa using hjk)] at hr
      exact h.mem_slot j r hr

/-- The runs change, but the pages of the slots stay as they are. -/
lemma setFree {L' : Ledger} (htiles : Tiles L'.len n)
    (hfree : ∀ r, r∈L'.ring .free ↔ ∃ a k, r = .page a ∧ L'.extents a=some ⟨k,.free⟩)
    (hslot : ∀ k, L'.ring (.slot k)=L.ring (.slot k)) (hkeep : ∀ k b, .page b∈L.ring (.slot k)→L'.extents b=L.extents b)
    (hslab : ∀ b m shift used, L'.extents b=some ⟨m,.slab shift used⟩→ L'.extents b=L.extents b) : L'.Coherent n:=by
  refine ⟨htiles,hfree,fun k r hr=>?_,fun b m shift used hb=>?_⟩
  · rw [hslot] at hr
    obtain ⟨b,used,rfl,hb⟩:=h.mem_slot k r hr
    exact ⟨b,used,rfl,(hkeep k b hr).trans hb⟩
  · rw [hslab b m shift used hb] at hb
    exact h.slab b m shift used hb

lemma free_notMem_slot {a k : ℕ} (he : L.extents a=some ⟨k,.free⟩) (j : ℕ) : .page a∉L.ring (.slot j):=by
  intro hmem
  obtain ⟨b,used,heq,hb⟩:=h.mem_slot j _ hmem
  cases heq
  cases he.symm.trans hb

lemma release {a : ℕ} {e : Extent} (he : L.extents a=some e) (hslot : ∀ k, .page a∉L.ring (.slot k)) :
    ((L.setExtent a ⟨e.len,.free⟩).setRing .free (.page a::L.ring .free)).Coherent n:=by
  refine h.setFree ?_ (fun r=>?_) (fun k=>L.ring_setRing_of_ne (by simp) _)
    (fun k b hb=>L.extents_set_of_ne ?_ _)
    fun b m shift used hb=>L.extents_set_of_ne ?_ _
  · change Tiles (L.setExtent a ⟨e.len,.free⟩).len n
    rw [len_setExtent,← len_of_extents he,update_eq_self]
    exact h.tiles
  · rw [ring_setRing_self,List.mem_cons,h.mem_free r,extents_setRing]
    constructor
    · rintro (rfl | ⟨b,m,rfl,hb⟩)
      · exact ⟨a,e.len,rfl,L.extents_set_self a _⟩
      · by_cases hba : b=a
        · subst hba
          exact ⟨b,e.len,rfl,L.extents_set_self b _⟩
        · exact ⟨b,m,rfl,(L.extents_set_of_ne hba _).trans hb⟩
    · rintro ⟨b,m,rfl,hb⟩
      by_cases hba : b=a
      · exact .inl (by rw [hba])
      · rw [L.extents_set_of_ne hba] at hb
        exact .inr ⟨b,m,rfl,hb⟩
  · rintro rfl
    exact hslot k hb
  · rintro rfl
    rw [extents_setRing,extents_set_self] at hb
    cases hb

lemma claim {a k : ℕ} (he : L.extents a=some ⟨k,.free⟩) (hnodup : (L.ring .free).Nodup) :
    ((L.setExtent a ⟨k,.run⟩).setRing .free ((L.ring .free).erase (.page a))).Coherent n:=by
  refine h.setFree ?_ (fun r=>?_) (fun k=>L.ring_setRing_of_ne (by simp) _)
    (fun j b hj=>L.extents_set_of_ne ?_ _)
    fun b m shift used hb=>L.extents_set_of_ne ?_ _
  · change Tiles (L.setExtent a ⟨k,.run⟩).len n
    rw [len_setExtent,← len_of_extents he,update_eq_self]
    exact h.tiles
  · rw [ring_setRing_self,hnodup.mem_erase_iff,h.mem_free r,extents_setRing]
    constructor
    · rintro ⟨hne,b,m,rfl,hb⟩
      exact ⟨b,m,rfl,(L.extents_set_of_ne (by simpa using hne) _).trans hb⟩
    · rintro ⟨b,m,rfl,hb⟩
      by_cases hba : b=a
      · subst hba
        rw [extents_set_self,Option.some.injEq,Extent.mk.injEq] at hb
        cases hb.2
      · rw [L.extents_set_of_ne hba] at hb
        exact ⟨by simpa using hba,b,m,rfl,hb⟩
  · rintro rfl
    exact h.free_notMem_slot he j hj
  · rintro rfl
    rw [extents_setRing,extents_set_self] at hb
    cases hb

lemma split {a k j : ℕ} (he : L.extents a=some ⟨k+j,.free⟩) (hk : 0<k) (hj : 0<j) (hnodup : (L.ring .free).Nodup) :
    (((L.setExtent (a+k) ⟨j,.free⟩).setExtent a ⟨k,.run⟩).setRing .free
      ((L.ring .free).replace (.page a) (.page (a+k)))).Coherent n:=by
  have hlen:=len_of_extents he
  have hak : a≠a+k:=by omega
  have hins : L.extents (a+k)=none:=by
    have hnone:=h.tiles.eq_none_of_inside hlen (by omega : a<a+k ∧ a+k<a+(k+j))
    rwa [len,Option.map_eq_none_iff] at hnone
  have hextents (b : ℕ) (hba : b≠a) (hbk : b≠a+k) :
      ((L.setExtent (a+k) ⟨j,.free⟩).setExtent a ⟨k,.run⟩).extents b=L.extents b:=by
    rw [Ledger.extents_set_of_ne _ hba,L.extents_set_of_ne hbk]
  have hrest : ((L.setExtent (a+k) ⟨j,.free⟩).setExtent a ⟨k,.run⟩).extents (a+k)=
      some ⟨j,.free⟩:=by rw [Ledger.extents_set_of_ne _ hak.symm,extents_set_self]
  refine h.setFree ?_ (fun r=>?_) (fun k=>Ledger.ring_setRing_of_ne _ (by simp) _)
    (fun i b hb=>hextents b ?_ ?_) fun b m shift used hb=>hextents b ?_ ?_
  · change Tiles ((L.setExtent (a+k) ⟨j,.free⟩).setExtent a ⟨k,.run⟩).len n
    rw [len_setExtent,len_setExtent]
    exact h.tiles.split hlen hk hj
  · rw [ring_setRing_self,mem_replace_iff hnodup ((h.mem_free _).2 ⟨a,_,rfl,he⟩),h.mem_free r,extents_setRing]
    constructor
    · rintro (rfl | ⟨⟨b,m,rfl,hb⟩,hne⟩)
      · exact ⟨a+k,j,rfl,hrest⟩
      · refine ⟨b,m,rfl,(hextents b (by simpa using hne) ?_).trans hb⟩
        rintro rfl
        rw [hins] at hb
        cases hb
    · rintro ⟨b,m,rfl,hb⟩
      by_cases hba : b=a
      · subst hba
        rw [extents_set_self,Option.some.injEq,Extent.mk.injEq] at hb
        cases hb.2
      · by_cases hbk : b=a+k
        · exact .inl (by rw [hbk])
        · rw [hextents b hba hbk] at hb
          exact .inr ⟨⟨b,m,rfl,hb⟩,by simpa using hba⟩
  · rintro rfl
    exact h.free_notMem_slot he i hb
  · rintro rfl
    obtain ⟨c,used,heq,hc⟩:=h.mem_slot i _ hb
    cases heq
    rw [hins] at hc
    cases hc
  · rintro rfl
    rw [extents_setRing,extents_set_self] at hb
    cases hb
  · rintro rfl
    rw [extents_setRing,hrest] at hb
    cases hb

end
end Ledger.Coherent
namespace Ledger
variable {L L' : Ledger} {a c m : ℕ}

def BlockAt (L : Ledger) (a o len : ℕ) : Prop:=∃ e, L.extents a=some e ∧ e.Block o len

lemma block_iff (L : Ledger) {off len : ℕ} : L.Block off len ↔ ∃ a o, L.BlockAt a o len ∧ off=4096*a+o:=by
  constructor
  · rintro ⟨a,e,o,he,hb,hoff⟩
    exact ⟨a,o,⟨e,he,hb⟩,hoff⟩
  · rintro ⟨a,o,⟨e,he,hb⟩,hoff⟩
    exact ⟨a,e,o,he,hb,hoff⟩

lemma block_add (hout : ∀ b≠a, ∀ o len, L'.BlockAt b o len ↔ L.BlockAt b o len)
    (hin : ∀ o len, L'.BlockAt a o len ↔ L.BlockAt a o len ∨ (o=c ∧ len=m)) (off len : ℕ) :
    L'.Block off len ↔ L.Block off len ∨ (off=4096*a+c ∧ len=m):=by
  rw [block_iff,block_iff]
  constructor
  · rintro ⟨b,o,hb,rfl⟩
    by_cases hba : b=a
    · subst hba
      rcases (hin o len).1 hb with hb | ⟨rfl,rfl⟩
      · exact .inl ⟨b,o,hb,rfl⟩
      · exact .inr ⟨rfl,rfl⟩
    · exact .inl ⟨b,o,(hout b hba o len).1 hb,rfl⟩
  · rintro (⟨b,o,hb,rfl⟩ | ⟨rfl,rfl⟩)
    · by_cases hba : b=a
      · subst hba
        exact ⟨b,o,(hin o len).2 (.inl hb),rfl⟩
      · exact ⟨b,o,(hout b hba o len).2 hb,rfl⟩
    · exact ⟨a,c,(hin c len).2 (.inr ⟨rfl,rfl⟩),rfl⟩

lemma Coherent.block_remove {n : ℕ} (h : L.Coherent n) (hout : ∀ b≠a, ∀ o len, L'.BlockAt b o len ↔ L.BlockAt b o len)
    (hin : ∀ o len, L'.BlockAt a o len ↔ L.BlockAt a o len ∧ o≠c) (hblock : L.BlockAt a c m) (off len : ℕ) :
    L'.Block off len ↔ L.Block off len ∧ off≠4096*a+c:=by
  obtain ⟨e,he,hc⟩:=hblock
  have hcpos:=hc.pos (h.extent_pos he)
  rw [block_iff,block_iff]
  constructor
  · rintro ⟨b,o,hb,rfl⟩
    by_cases hba : b=a
    · subst hba
      obtain ⟨hb,hne⟩:=(hin o len).1 hb
      exact ⟨⟨b,o,hb,rfl⟩,by omega⟩
    · have hb:=(hout b hba o len).1 hb
      refine ⟨⟨b,o,hb,rfl⟩,fun heq=>?_⟩
      obtain ⟨e',he',ho⟩:=hb
      have hopos:=ho.pos (h.extent_pos he')
      rcases h.disjoint_of_ne he' he hba (h.block_le he' ho) (h.block_le he hc) with hlt | hlt <;> omega
  · rintro ⟨⟨b,o,hb,rfl⟩,hne⟩
    by_cases hba : b=a
    · subst hba
      exact ⟨b,o,(hin o len).2 ⟨hb,by omega⟩,rfl⟩
    · exact ⟨b,o,(hout b hba o len).2 hb,rfl⟩

lemma blockAt_of_extents {b : ℕ} (h : L'.extents b=L.extents b) (o len : ℕ) :
    L'.BlockAt b o len ↔ L.BlockAt b o len:=by rw [BlockAt,BlockAt,h]

lemma not_blockAt_of_none (h : L.extents a=none) (o len : ℕ) : ¬L.BlockAt a o len:=by
  rintro ⟨e,he,-⟩
  rw [h] at he
  cases he

lemma not_blockAt_of_free {n : ℕ} (h : L.extents a=some ⟨n,.free⟩) (o len : ℕ) : ¬L.BlockAt a o len:=by
  rintro ⟨e,he,hb⟩
  rw [h,Option.some.injEq] at he
  subst he
  exact hb

lemma blockAt_run_iff {n : ℕ} (h : L.extents a=some ⟨n,.run⟩) (o len : ℕ) :
    L.BlockAt a o len ↔ o=0 ∧ len=4096*n:=by
  rw [BlockAt,h]
  exact ⟨fun ⟨e,he,hb⟩=>by cases he; exact hb,fun hb=>⟨_,rfl,hb⟩⟩

lemma blockAt_slab_iff {n shift : ℕ} {used : ℕ→Bool} (h : L.extents a=some ⟨n,.slab shift used⟩) (o len : ℕ) :
    L.BlockAt a o len ↔ ∃ c, reservedChunks shift≤c ∧ c<chunkCount shift ∧ used c=true ∧ o=c*2^shift ∧ len=2^shift:=by
  rw [BlockAt,h]
  exact ⟨fun ⟨e,he,hb⟩=>by cases he; exact hb,fun hb=>⟨_,rfl,hb⟩⟩

def Occupied (L : Ledger) : Prop:=∀ a e, L.extents a=some e→e.role ≠ .free→∃ o len, e.Block o len

lemma Occupied.of_extents (h : L.Occupied) (a : ℕ)
    (hout : ∀ b≠a, ∀ e, L'.extents b=some e→e.role ≠ .free→L.extents b=some e)
    (hin : ∀ e, L'.extents a=some e→e.role ≠ .free→∃ o len, e.Block o len) : L'.Occupied:=by
  intro b e he hrole
  by_cases hba : b=a
  · subst hba
    exact hin e he hrole
  · exact h b e (hout b hba e he hrole) hrole

end Ledger
end SoftMessageBus
