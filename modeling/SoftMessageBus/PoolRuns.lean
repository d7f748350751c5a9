import SoftMessageBus.SlabRuns
import SoftMessageBus.StepRuns

/-!
# Runs of allocations and frees on the memory pool

A program allocates blocks from the pool, writes into the blocks it holds and frees
addresses.
-/
namespace SoftMessageBus
open BitWords Function StepRuns List

section

structure PoolProgram where
  pool : MemoryPool
  live : List LiveBlock

/-- What a program does with the pool. -/
inductive MemoryPoolEvent where
  | alloc (size : ℕ) (buffer : Option ℕ)
  | free (p : ℕ)
  | write (data : ℕ→Word)

namespace PoolSegment
variable (g : PoolSegment) (live : List LiveBlock)

def blocks : List LiveBlock:=live.filter fun b=>g.contains b.addr
def segment : Segment:=⟨g.state,g.blocks live⟩

def write (data : ℕ→Word) : PoolSegment:=
  {g with state:={g.state with
      memory:=fun w=>if (g.segment live).Holds g.layout w then data w else g.state.memory w} }

end PoolSegment

def SegmentLayout.Apart (l l' : SegmentLayout) : Prop:=l.endAddr≤l'.start ∨ l'.endAddr≤l.start

instance : Std.Symm SegmentLayout.Apart:=⟨fun _ _=>Or.symm⟩

namespace PoolProgram
variable (t : PoolProgram)

/-- One event, with pages of 4096 bytes. -/
def step : MemoryPoolEvent→Option PoolProgram
  | .alloc size buffer=>(zooAllocateFromPool 12 t.pool size buffer).map fun (p,pool)=>
      ⟨pool,if p=0 then t.live else ⟨p,size⟩::t.live⟩
  | .free p=>some ⟨zooFreeToPool t.pool p,t.live.filter fun b=>b.addr≠p⟩
  | .write data=>some ⟨t.pool.map fun g=>g.write t.live data,t.live⟩

def run (events : List MemoryPoolEvent) : Option PoolProgram:=events.foldlM step t

/-- The block that `malloc` returns becomes a well-formed segment beside the others. -/
def Provides (size : ℕ) (buffer : Option ℕ) : Prop:=
  ∀ tail pool g, t.pool.getLast?=some tail → buffer=some pool→
    smbMemoryPoolCreateSegment 12 (smbMemoryPoolSegmentSize 12 size tail.totalSize) (some pool)=some g→
    g.layout.WellFormed ∧ ∀ g'∈t.pool, g'.layout.Apart g.layout

def Proper : MemoryPoolEvent→Prop
  | .alloc size buffer=>t.Provides size buffer
  | .free p=>∃ b∈t.live, b.addr=p
  | .write _=>True

end PoolProgram

structure PoolSegment.Account (g : PoolSegment) (live : List LiveBlock) : Prop where
  wellFormed : g.layout.WellFormed
  ledger : ∃ L, Accounts g.layout (g.segment live) L ∧ L.Occupied

namespace PoolSegment
variable {g : PoolSegment} {live live' : List LiveBlock} {p : ℕ}

lemma contains_iff : g.contains p=true ↔ g.layout.start≤p ∧ p<g.layout.endAddr:=by
  rw [contains,Bool.and_eq_true,decide_eq_true_iff,decide_eq_true_iff]

lemma not_contains_of_apart {g' : PoolSegment} (hp : g.contains p=true)
    (hapart : g.layout.Apart g'.layout ∨ g'.layout.Apart g.layout) : g'.contains p=false:=by
  rw [← Bool.not_eq_true,contains_iff]
  rw [contains_iff] at hp
  rcases hapart with (h | h) | (h | h) <;> omega

variable {b : LiveBlock}

lemma blocks_cons_of_contains (hb : g.contains b.addr=true) : g.blocks (b::live)=b::g.blocks live:=filter_cons_of_pos hb

lemma blocks_cons_of_not_contains (hb : g.contains b.addr=false) : g.blocks (b::live)=g.blocks live:=
  filter_cons_of_neg (by rw [hb]; exact Bool.false_ne_true)

lemma blocks_filter_of_not_contains (hp : g.contains p=false) :
    g.blocks (live.filter fun b=>b.addr≠p)=g.blocks live:=by
  rw [blocks,List.filter_filter]
  refine filter_congr fun b _=>?_
  by_cases hb : b.addr=p
  · rw [hb,hp,Bool.false_and]
  · rw [decide_eq_true hb,Bool.and_true]

lemma blocks_filter_eq_erase (hnodup : ((g.blocks live).map LiveBlock.addr).Nodup) (hb : b∈g.blocks live) :
    g.blocks (live.filter fun c=>c.addr≠b.addr)=(g.blocks live).erase b:=by
  rw [(Nodup.of_map _ hnodup).erase_eq_filter,blocks,blocks,List.filter_filter, List.filter_filter]
  refine filter_congr fun c hc=>?_
  cases hcontains : g.contains c.addr with
  | false=>rw [Bool.false_and,Bool.and_false]
  | true=>
    have hmem : c∈g.blocks live:=mem_filter.2 ⟨hc,hcontains⟩
    have hiff : c.addr≠b.addr ↔ c≠b:=not_congr ⟨fun heq=>inj_on_of_nodup_map hnodup hmem hb heq,fun heq=>by rw [heq]⟩
    rw [Bool.true_and,Bool.and_true,Bool.eq_iff_iff,decide_eq_true_iff,hiff,bne_iff_ne]

namespace Account

lemma of_blocks_eq (h : g.Account live) (heq : g.blocks live'=g.blocks live) : g.Account live':=by
  refine ⟨h.wellFormed,?_⟩
  rw [segment,heq]
  exact h.ledger

lemma fresh {totalSize pool : ℕ} (hcreate : smbMemoryPoolCreateSegment 12 totalSize (some pool)=some g)
    (hg : g.layout.WellFormed) (hlive : ∀ b∈live, g.contains b.addr=false) : g.Account live:=by
  refine ⟨hg,Ledger.fresh g.layout.realPages,?_,Ledger.occupied_fresh _⟩
  have hblocks : g.blocks live=[]:=filter_eq_nil_iff.2 fun b hb=>by rw [hlive b hb]; exact Bool.false_ne_true
  rw [segment,hblocks]
  rw [smbMemoryPoolCreateSegment] at hcreate
  split at hcreate
  · cases hcreate
  · cases hcreate
    exact Accounts.fresh hg _

lemma contains_of_accounts {l : SegmentLayout} {t : Segment} {L : Ledger} (hl : l.WellFormed)
    (h : Accounts l t L) {b : LiveBlock} (hb : b∈t.live) :
    l.start≤b.addr ∧ b.addr+slabCapacity l b.size≤l.endAddr ∧ 0<slabCapacity l b.size:=by
  obtain ⟨off,haddr,hblock⟩:=h.block_of_mem hb
  have hins:=h.represents.coherent.block_inside hblock
  have hend:=hl.payload_le
  have hpos : 0<slabCapacity l b.size:=by
    obtain ⟨a,e,o,he,hblock,-⟩:=hblock
    exact hblock.pos (h.represents.coherent.extent_pos he)
  omega

lemma alloc (h : g.Account live) (size : ℕ) :
    ∃ p state, smbSlabAllocLocked g.layout g.state size=some (p,state) ∧
      ((p=0 ∧ Account {g with state} live) ∨ (p≠0 ∧ g.contains p=true ∧ Account {g with state} (⟨p,size⟩::live))):=by
  obtain ⟨L,haccounts,hocc⟩:=h.ledger
  obtain ⟨t,L',hstep,hacc',hocc'⟩:=haccounts.alloc h.wellFormed size
  obtain ⟨⟨p,state⟩,halloc,heq⟩:=Option.map_eq_some_iff.1 hstep
  refine ⟨p,state,halloc,?_⟩
  by_cases hp : p=0
  · rw [if_pos hp] at heq
    subst heq
    exact .inl ⟨hp,h.wellFormed,L',hacc',hocc' hocc⟩
  · rw [if_neg hp] at heq
    subst heq
    obtain ⟨hstart,hend,hpos⟩:=contains_of_accounts h.wellFormed hacc' mem_cons_self
    have hcontains : g.contains p=true:=contains_iff.2 ⟨hstart,(Nat.lt_add_of_pos_right hpos).trans_le hend⟩
    refine .inr ⟨hp,hcontains,h.wellFormed,L',?_,hocc' hocc⟩
    change Accounts g.layout ⟨state,g.blocks (⟨p,size⟩::live)⟩ L'
    rw [blocks_cons_of_contains hcontains]
    exact hacc'

lemma free (h : g.Account live) {b : LiveBlock} (hb : b∈live) (hcontains : g.contains b.addr=true) :
    Account {g with state:=smbSlabFreeLocked g.layout g.state b.addr} (live.filter fun c=>c.addr≠b.addr):=by
  obtain ⟨L,haccounts,hocc⟩:=h.ledger
  have hmem : b∈g.blocks live:=mem_filter.2 ⟨hb,hcontains⟩
  obtain ⟨t,L',hstep,hacc',hocc'⟩:=haccounts.free h.wellFormed b
  rw [Segment.step,if_pos (show b∈(g.segment live).live from hmem)] at hstep
  cases hstep
  refine ⟨h.wellFormed,L',?_,hocc' hocc⟩
  change Accounts g.layout ⟨_,g.blocks (live.filter fun c=>c.addr≠b.addr)⟩ L'
  rw [blocks_filter_eq_erase haccounts.nodup hmem]
  exact hacc'

lemma write (h : g.Account live) (data : ℕ→Word) : (g.write live data).Account live:=by
  obtain ⟨L,haccounts,hocc⟩:=h.ledger
  obtain ⟨t,L',hstep,hacc',hocc'⟩:=haccounts.write data
  cases hstep
  exact ⟨h.wellFormed,L',hacc',hocc' hocc⟩

end Account
end PoolSegment

variable {chain : MemoryPool}

lemma allocFromChain_account {live : List LiveBlock} (size : ℕ) (hacc : ∀ g∈chain, g.Account live)
    (hapart : (chain.map PoolSegment.layout).Pairwise SegmentLayout.Apart) :
    ∃ p chain', allocFromChain size chain=some (p,chain') ∧
      chain'.map PoolSegment.layout=chain.map PoolSegment.layout ∧
      ((p=0 ∧ ∀ g∈chain', g.Account live) ∨
        (p≠0 ∧ (∃ g∈chain', g.contains p=true) ∧ ∀ g∈chain', g.Account (⟨p,size⟩::live))):=by
  induction chain with
  | nil=>exact ⟨0,[],rfl,rfl,.inl ⟨rfl,fun g hg=>absurd hg not_mem_nil⟩⟩
  | cons g chain ih=>
    obtain ⟨hg,hchain⟩:=forall_mem_cons.1 hacc
    rw [map_cons,pairwise_cons] at hapart
    obtain ⟨p,state,halloc,⟨rfl,haccount'⟩ | ⟨hp,hcontains,haccount'⟩⟩:=hg.alloc size
    · obtain ⟨p,chain',hwalk,hlayout,hcase⟩:=ih hchain hapart.2
      refine ⟨p,{g with state} :: chain',?_,by rw [map_cons,hlayout,map_cons],?_⟩
      · rw [allocFromChain,halloc,Option.bind_some,hwalk]
        rfl
      · rcases hcase with ⟨rfl,hrest⟩ | ⟨hp,⟨g',hg',hcontains⟩,hrest⟩
        · exact .inl ⟨rfl,forall_mem_cons.2 ⟨haccount',hrest⟩⟩
        · have hlayouts' : g'.layout∈chain.map PoolSegment.layout:=hlayout ▸ List.mem_map_of_mem hg'
          have hnot : g.contains p=false:=PoolSegment.not_contains_of_apart hcontains (.inr (hapart.1 _ hlayouts'))
          refine .inr ⟨hp,⟨g',mem_cons_of_mem _ hg',hcontains⟩,forall_mem_cons.2 ⟨haccount'.of_blocks_eq ?_,hrest⟩⟩
          exact PoolSegment.blocks_cons_of_not_contains hnot
    · refine ⟨p,{g with state} :: chain,?_,rfl,.inr ⟨hp,⟨_,mem_cons_self,hcontains⟩,
        forall_mem_cons.2 ⟨haccount',fun g' hg'=>(hchain g' hg').of_blocks_eq ?_⟩⟩⟩
      · rw [allocFromChain,halloc,Option.bind_some]
        exact if_pos hp
      · have hnot : g'.contains p=false:=
          PoolSegment.not_contains_of_apart hcontains (.inl (hapart.1 _ (List.mem_map_of_mem hg')))
        exact PoolSegment.blocks_cons_of_not_contains hnot

lemma freeLocked_account {live live' : List LiveBlock} {p : ℕ} (hacc : ∀ g∈chain, g.Account live)
    (hapart : (chain.map PoolSegment.layout).Pairwise SegmentLayout.Apart)
    (hin : ∀ g∈chain, g.contains p=true→ PoolSegment.Account {g with state:=smbSlabFreeLocked g.layout g.state p} live')
    (hout : ∀ g : PoolSegment, g.contains p=false → g.blocks live'=g.blocks live) :
    (smbMemoryPoolFreeLocked p chain).map PoolSegment.layout=chain.map PoolSegment.layout ∧
      ∀ g∈smbMemoryPoolFreeLocked p chain, g.Account live':=by
  induction chain with
  | nil=>exact ⟨rfl,fun g hg=>absurd hg not_mem_nil⟩
  | cons g chain ih=>
    obtain ⟨hg,hchain⟩:=forall_mem_cons.1 hacc
    rw [map_cons,pairwise_cons] at hapart
    rw [smbMemoryPoolFreeLocked]
    cases hp : g.contains p with
    | true=>
      rw [if_pos rfl]
      refine ⟨rfl,forall_mem_cons.2 ⟨hin g mem_cons_self hp,fun g' hg'=>?_⟩⟩
      exact (hchain g' hg').of_blocks_eq (hout g' (PoolSegment.not_contains_of_apart hp
        (.inl (hapart.1 _ (List.mem_map_of_mem hg')))))
    | false=>
      obtain ⟨hlayout,hrest⟩:=ih hchain hapart.2 fun g' hg'=>hin g' (mem_cons_of_mem _ hg')
      rw [if_neg Bool.false_ne_true,map_cons,hlayout]
      exact ⟨rfl,forall_mem_cons.2 ⟨hg.of_blocks_eq (hout g hp),hrest⟩⟩

structure PoolProgram.Account (t : PoolProgram) : Prop where
  nonempty : t.pool≠[]
  account : ∀ g∈t.pool, g.Account t.live
  apart : (t.pool.map PoolSegment.layout).Pairwise SegmentLayout.Apart
  owned : ∀ b∈t.live, ∃ g∈t.pool, g.contains b.addr=true

lemma exists_contains_of_layouts {chain' : MemoryPool}
    (hlayout : chain'.map PoolSegment.layout=chain.map PoolSegment.layout) {p : ℕ}
    (h : ∃ g∈chain, g.contains p=true) : ∃ g∈chain', g.contains p=true:=by
  obtain ⟨g,hg,hp⟩:=h
  have hmem : g.layout∈chain'.map PoolSegment.layout:=hlayout ▸ List.mem_map_of_mem hg
  obtain ⟨g',hg',heq⟩:=List.mem_map.1 hmem
  refine ⟨g',hg',?_⟩
  rw [PoolSegment.contains_iff,heq]
  exact PoolSegment.contains_iff.1 hp

namespace PoolProgram.Account
variable {t : PoolProgram}

lemma fresh {totalSize pool : ℕ} {g : PoolSegment} (hcreate : smbMemoryPoolCreateSegment 12 totalSize (some pool)=some g)
    (hg : g.layout.WellFormed) : Account ⟨[g],[]⟩:=
  ⟨cons_ne_nil _ _,forall_mem_singleton.2
    (.fresh hcreate hg fun _ hb=>absurd hb not_mem_nil),pairwise_singleton _ _,
    fun _ hb=>absurd hb not_mem_nil⟩

lemma of_layouts (h : t.Account) {pool : MemoryPool}
    (hlayout : pool.map PoolSegment.layout=t.pool.map PoolSegment.layout)
    {live : List LiveBlock} (hacc : ∀ g∈pool, g.Account live)
    (howned : ∀ b∈live, b∈t.live ∨ ∃ g∈pool, g.contains b.addr=true) : Account ⟨pool,live⟩:=by
  refine ⟨fun hnil=>h.nonempty ?_,hacc,hlayout ▸ h.apart,fun b hb=>?_⟩
  · have hlen:=congrArg length hlayout
    rw [show pool=[] from hnil,length_map,length_map] at hlen
    exact length_eq_zero_iff.1 hlen.symm
  · rcases howned b hb with hb | hb
    · exact exists_contains_of_layouts hlayout (h.owned b hb)
    · exact hb

lemma append (h : t.Account) {g : PoolSegment} {p size : ℕ} {state : SlabState}
    (hapart : ∀ g'∈t.pool, g'.layout.Apart g.layout)
    (hcase : (p=0 ∧ PoolSegment.Account {g with state} t.live) ∨
      (p≠0 ∧ g.contains p=true ∧ PoolSegment.Account {g with state} (⟨p,size⟩::t.live))) :
    Account ⟨t.pool++[{g with state}],if p=0 then t.live else ⟨p,size⟩::t.live⟩:=by
  have hlayouts : ((t.pool++[{g with state}]).map PoolSegment.layout).Pairwise
      SegmentLayout.Apart:=by
    rw [map_append,pairwise_append]
    refine ⟨h.apart,pairwise_singleton _ _,fun l hl l' hl'=>?_⟩
    obtain ⟨g',hg',rfl⟩:=List.mem_map.1 hl
    obtain rfl:=mem_singleton.1 hl'
    exact hapart g' hg'
  refine ⟨append_ne_nil_of_right_ne_nil _ (cons_ne_nil _ _),fun g' hg'=>?_,hlayouts,fun b hb=>?_⟩
  · rcases hcase with ⟨hp,hacc⟩ | ⟨hp,hcontains,hacc⟩
    · rw [if_pos hp]
      rcases mem_append.1 hg' with hg' | hg'
      · exact h.account g' hg'
      · obtain rfl:=mem_singleton.1 hg'
        exact hacc
    · rw [if_neg hp]
      rcases mem_append.1 hg' with hg' | hg'
      · exact (h.account g' hg').of_blocks_eq (PoolSegment.blocks_cons_of_not_contains
          (PoolSegment.not_contains_of_apart hcontains (.inr (hapart g' hg'))))
      · obtain rfl:=mem_singleton.1 hg'
        exact hacc
  · have hold (hb : b∈t.live) :
        ∃ g'∈t.pool++[{g with state}], g'.contains b.addr=true:=by
      obtain ⟨g',hg',hcontains⟩:=h.owned b hb
      exact ⟨g',mem_append_left _ hg',hcontains⟩
    rcases hcase with ⟨hp,-⟩ | ⟨hp,hcontains,-⟩
    · rw [if_pos hp] at hb
      exact hold hb
    · rw [if_neg hp] at hb
      rcases mem_cons.1 hb with rfl | hb
      · exact ⟨_,mem_append_right _ (mem_singleton_self _),hcontains⟩
      · exact hold hb

lemma alloc (h : t.Account) {size : ℕ} {buffer : Option ℕ} (hprovides : t.Provides size buffer) :
    ∃ t', t.step (.alloc size buffer)=some t' ∧ t'.Account:=by
  by_cases hzero : t.pool=[] ∨ size=0
  · refine ⟨t,?_,h⟩
    rw [step,zooAllocateFromPool,if_pos hzero]
    rfl
  obtain ⟨p,chain,hwalk,hlayout,hcase⟩:=allocFromChain_account size h.account h.apart
  rw [step,zooAllocateFromPool,if_neg hzero,smbMemoryPoolAllocLocked,hwalk,Option.bind_some]
  rcases hcase with ⟨rfl,hacc⟩ | ⟨hp,hcontains,hacc⟩
  · have hkeep : Account ⟨chain,t.live⟩:=h.of_layouts hlayout hacc fun b hb=>.inl hb
    -- the request goes to a new segment behind the last one
    obtain ⟨tail,htail⟩ : ∃ tail, chain.getLast?=some tail:=⟨_,getLast?_eq_getLast_of_ne_nil hkeep.nonempty⟩
    obtain ⟨tail',htail',hsize⟩ : ∃ tail', t.pool.getLast?=some tail' ∧
        tail'.totalSize=tail.totalSize:=by
      have heq:=congrArg getLast? (allocFromChain_sizes hwalk)
      rw [getLast?_map,getLast?_map,htail] at heq
      obtain ⟨tail',htail',hsize⟩:=Option.map_eq_some_iff.1 heq.symm
      exact ⟨tail',htail',hsize⟩
    simp only [ne_eq,not_true_eq_false,if_false,htail]
    cases hcreate : smbMemoryPoolCreateSegment 12 (smbMemoryPoolSegmentSize 12 size tail.totalSize) buffer with
    | none=>exact ⟨_,rfl,hkeep⟩
    | some g=>
      cases buffer with
      | none=>
        rw [smbMemoryPoolCreateSegment_none] at hcreate
        cases hcreate
      | some pool=>
        rw [← hsize] at hcreate
        obtain ⟨hg,hapart⟩:=hprovides tail' pool g htail' rfl hcreate
        have hapart' : ∀ g'∈chain, g'.layout.Apart g.layout:=by
          intro g' hg'
          have hmem : g'.layout∈t.pool.map PoolSegment.layout:=hlayout ▸ List.mem_map_of_mem hg'
          obtain ⟨g'',hg'',heq⟩:=List.mem_map.1 hmem
          exact heq ▸ hapart g'' hg''
        have hlive : ∀ b∈t.live, g.contains b.addr=false:=by
          intro b hb
          obtain ⟨g',hg',hcontains⟩:=h.owned b hb
          exact PoolSegment.not_contains_of_apart hcontains (.inl (hapart g' hg'))
        obtain ⟨p,state,halloc,hcase⟩:=(PoolSegment.Account.fresh hcreate hg hlive).alloc size
        simp only [halloc,Option.map_some]
        exact ⟨_,rfl,hkeep.append hapart' hcase⟩
  · simp only [if_pos hp,Option.map_some]
    refine ⟨_,rfl,h.of_layouts hlayout ?_ fun b hb=>?_⟩
    · rw [if_neg hp]
      exact hacc
    · rw [if_neg hp] at hb
      rcases mem_cons.1 hb with rfl | hb
      · exact .inr hcontains
      · exact .inl hb

lemma free_address (h : t.Account) {p : ℕ}
    (hin : ∀ g∈t.pool, g.contains p=true→
      PoolSegment.Account {g with state:=smbSlabFreeLocked g.layout g.state p} (t.live.filter fun b=>b.addr≠p)) :
    ∃ t', t.step (.free p)=some t' ∧ t'.Account:=by
  have hout (g : PoolSegment) (hg : g.contains p=false) :
      g.blocks (t.live.filter fun b=>b.addr≠p)=g.blocks t.live:=
    PoolSegment.blocks_filter_of_not_contains hg
  obtain ⟨hlayout,hacc⟩:=freeLocked_account h.account h.apart hin hout
  refine ⟨_,rfl,?_⟩
  rw [zooFreeToPool]
  split
  · exact h.of_layouts hlayout hacc fun b hb=>.inl (mem_of_mem_filter hb)
  next hp=>
    refine h.of_layouts rfl (fun g hg=>(h.account g hg).of_blocks_eq (hout g ?_)) fun b hb=>.inl (mem_of_mem_filter hb)
    have hpos:=(h.account g hg).wellFormed.start_pos
    rw [← Bool.not_eq_true,PoolSegment.contains_iff]
    omega

variable {b : LiveBlock}

section
variable (h : t.Account)
include h

lemma free (hb : b∈t.live) : ∃ t', t.step (.free b.addr)=some t' ∧ t'.Account:=
  h.free_address fun g hg hcontains=>(h.account g hg).free hb hcontains

lemma write (data : ℕ→Word) : ∃ t', t.step (.write data)=some t' ∧ t'.Account:=by
  refine ⟨_,rfl,h.of_layouts ?_ (fun g hg=>?_) fun b hb=>.inl hb⟩
  · rw [List.map_map]
    rfl
  · obtain ⟨g',hg',rfl⟩:=List.mem_map.1 hg
    exact (h.account g' hg').write data

lemma step {event : MemoryPoolEvent} (hprop : t.Proper event) : ∃ t', t.step event=some t' ∧ t'.Account:=by
  cases event with
  | alloc size buffer=>exact h.alloc hprop
  | free p=>
    obtain ⟨b,hb,rfl⟩:=hprop
    exact h.free hb
  | write data=>exact h.write data

lemma apart_of_ne {g g' : PoolSegment} (hg : g∈t.pool) (hg' : g'∈t.pool)
    (hne : g.layout≠g'.layout) : g.layout.Apart g'.layout:=
  h.apart.forall (List.mem_map_of_mem hg) (List.mem_map_of_mem hg') hne

lemma block_le (hb : b∈t.live) {g : PoolSegment} (hg : g∈t.pool)
    (hcontains : g.contains b.addr=true) : b.addr+b.size≤g.layout.endAddr:=by
  obtain ⟨L,haccounts,-⟩:=(h.account g hg).ledger
  have hwell:=(h.account g hg).wellFormed
  have hmem : b∈g.blocks t.live:=mem_filter.2 ⟨hb,hcontains⟩
  obtain ⟨-,hend,-⟩:=PoolSegment.Account.contains_of_accounts hwell haccounts hmem
  have hsize:=hwell.le_slabCapacity b.size
  omega

lemma block_outside (hb : b∈t.live) {g : PoolSegment} (hg : g∈t.pool) (hcontains : g.contains b.addr=false) :
    b.addr+b.size≤g.layout.start ∨ g.layout.endAddr≤b.addr:=by
  obtain ⟨g',hg',hcontains'⟩:=h.owned b hb
  have hend:=h.block_le hb hg' hcontains'
  have hne : g'.layout≠g.layout:=by
    intro heq
    rw [← Bool.not_eq_true,PoolSegment.contains_iff,← heq] at hcontains
    exact hcontains (PoolSegment.contains_iff.1 hcontains')
  rw [PoolSegment.contains_iff] at hcontains'
  rcases h.apart_of_ne hg' hg hne with hlt | hlt <;> omega

lemma validate : zooValidateMemoryPool t.pool=some 0:=by
  have hchain (chain : MemoryPool) (hmem : ∀ g∈chain, g∈t.pool) :
      validateChain chain=some 0:=by
    induction chain with
    | nil=>rfl
    | cons g chain ih=>
      obtain ⟨hg,hrest⟩:=forall_mem_cons.1 hmem
      obtain ⟨L,haccounts,-⟩:=(h.account g hg).ledger
      have hvalid : g.validate=some true:=haccounts.represents.validate (h.account g hg).wellFormed
      rw [validateChain,hvalid,Option.bind_some,if_pos rfl,ih hrest]
  rw [zooValidateMemoryPool,if_neg h.nonempty,hchain t.pool fun g hg=>hg]

end
end PoolProgram.Account

/-- Every page has one use, and every page behind a slot has a free chunk. -/
structure PoolSegment.Healthy (g : PoolSegment) (live : List LiveBlock) : Prop where
  pages : ∀ i<g.layout.realPages, ∃! u : PageUse, u.In g.layout g.state ∧ u.Covers i
  slots : ∀ fuel k, ∀ r∈g.state.linkedPages fuel (.slot k), ∃ a used c, r = .page a ∧
    a<g.layout.realPages ∧ g.state.ChunkMap g.layout a (minShift+k) used ∧
    c<chunkCount (minShift+k) ∧ used c=false ∧ ∀ b∈live,
      b.addr+b.size≤g.layout.start+(4096*a+c*2^(minShift+k)) ∨
      g.layout.start+(4096*a+c*2^(minShift+k)+2^(minShift+k))≤b.addr

lemma PoolProgram.Account.healthy {t : PoolProgram} (h : t.Account) {g : PoolSegment}
    (hg : g∈t.pool) : g.Healthy t.live:=by
  obtain ⟨L,haccounts,-⟩:=(h.account g hg).ledger
  have hwell:=(h.account g hg).wellFormed
  have hrep:=haccounts.represents
  refine ⟨fun i hi=>hrep.existsUnique_use hwell hi,fun fuel k r hr=>?_⟩
  obtain ⟨a,used,c,rfl,he,-,hc,hfree⟩:=hrep.free_chunk_of_linked haccounts.settled hr
  refine ⟨a,used,c,rfl,hrep.coherent.extent_le he,hrep.describes a _ he,hc,hfree, fun b hb=>?_⟩
  have hins : 4096*a+c*2^(minShift+k)+2^(minShift+k)≤
      4096*g.layout.realPages:=by
    have hmul:=Nat.mul_le_mul_right (2^(minShift+k)) (Nat.succ_le_of_lt hc)
    rw [chunkCount_mul (hrep.coherent.slab a 1 _ used he).2.2.1,Nat.succ_mul] at hmul
    have hle:=Nat.mul_le_mul_left 4096 (hrep.coherent.extent_le he)
    simp only at hle
    omega
  have hend:=hwell.payload_le
  cases hcontains : g.contains b.addr with
  | false=>
    rcases h.block_outside hb hg hcontains with hlt | hlt <;> omega
  | true=>
    have hmem : b∈g.blocks t.live:=mem_filter.2 ⟨hb,hcontains⟩
    obtain ⟨off,haddr,hblock⟩:=haccounts.block_of_mem hmem
    have hsize:=hwell.le_slabCapacity b.size
    rcases hrep.coherent.block_disjoint_chunk he hc hfree hblock with hlt | hlt <;> omega

/-- After every run the validator accepts the pool and the pages have one use each. -/
theorem PoolProgram.run_healthy (totalSize pool : ℕ) (g : PoolSegment)
    (hcreate : smbMemoryPoolCreateSegment 12 totalSize (some pool)=some g)
    (hg : g.layout.WellFormed) (events : List MemoryPoolEvent) (hproper : Throughout step Proper ⟨[g],[]⟩ events) :
    ∃ t, run ⟨[g],[]⟩ events=some t ∧ zooValidateMemoryPool t.pool=some 0 ∧ ∀ g∈t.pool, g.Healthy t.live:=by
  obtain ⟨t,hrun,haccount⟩:=hproper.foldlM Account (fun t event h=>h.step) (Account.fresh hcreate hg)
  exact ⟨t,hrun,haccount.validate,fun g hg=>haccount.healthy hg⟩

lemma sampleSegment_wellFormed : sampleSegment.layout.WellFormed:=
  ⟨rfl,by decide,by decide,by decide,by decide,by decide,by decide⟩

theorem PoolProgram.run_healthy_growth_and_free :
    ∃ t, run ⟨[sampleSegment],[]⟩ [.alloc 100000 (some 2097168),.alloc 5 none,
      .write fun _=>0,.free 1052736]=some t ∧ zooValidateMemoryPool t.pool=some 0 ∧
      ∀ g∈t.pool, g.Healthy t.live:=by
  refine run_healthy 65536 1048592 sampleSegment rfl sampleSegment_wellFormed _
    ⟨fun tail pool g htail hpool hcreate=>?_,fun t ht=>⟨fun _ _ _ _ hnone=>?_,
      fun t' ht'=>⟨trivial,fun t'' ht'' => ⟨?_,fun _ _=>trivial⟩⟩⟩⟩
  · cases htail
    cases hpool
    cases hcreate
    refine ⟨⟨rfl,by decide,by decide,by decide,by decide,by decide,by decide⟩,?_⟩
    exact forall_mem_singleton.2 (.inl (by decide))
  · cases hnone
  · have hlive : ((step ⟨[sampleSegment],[]⟩ (.alloc 100000 (some 2097168))).bind
        fun t=>step t (.alloc 5 none)).map live=some [⟨1052736,5⟩,⟨2101248,100000⟩]:=by
      decide +kernel
    rw [ht,Option.bind_some,ht',Option.map_some,Option.some.injEq] at hlive
    cases ht''
    exact ⟨⟨1052736,5⟩,by rw [hlive]; exact mem_cons_self,rfl⟩

end

/-! ## The capacity of the memory pool -/

open IntervalTiling

namespace Ledger
variable {L : Ledger} {a k n N : ℕ}

def FreePage (L : Ledger) (i : ℕ) : Prop:=∃ a n, L.extents a=some ⟨n,.free⟩ ∧ a ≤ i ∧ i<a+n

open Classical in
noncomputable def freePages (L : Ledger) (N : ℕ) : Finset ℕ:=(Finset.range N).filter L.FreePage

lemma mem_freePages {i : ℕ} : i∈L.freePages N ↔ i<N ∧ L.FreePage i:=by
  simp only [freePages,Finset.mem_filter,Finset.mem_range]

lemma Coherent.freePage_claimPages (h : L.Coherent N) (he : L.extents a=some ⟨n,.free⟩)
    (hk : 0<k) (hkn : k≤n) (i : ℕ) : (L.claimPages a k n).FreePage i ↔ L.FreePage i ∧ ¬(a ≤ i ∧ i<a+k):=by
  constructor
  · rintro ⟨b,m,hb,hi⟩
    by_cases hba : b=a
    · rw [hba,extents_claimPages_self] at hb
      cases hb
    · rw [extents_claimPages_of_ne hba] at hb
      split at hb
      next hrest=>
        cases hb
        exact ⟨⟨a,n,he,by omega⟩,by omega⟩
      · refine ⟨⟨b,m,hb,hi⟩,fun hclaimed=>hba ?_⟩
        exact h.extent_unique hb he hi ⟨hclaimed.1,by simp only; omega⟩
  · rintro ⟨⟨b,m,hb,hi⟩,hnot⟩
    by_cases hba : b=a
    · subst hba
      rw [he] at hb
      cases hb
      refine ⟨b+k,n-k,?_,by omega⟩
      rw [extents_claimPages_of_ne (by omega),if_pos ⟨by omega,rfl⟩]
    · refine ⟨b,m,?_,hi⟩
      rw [extents_claimPages_of_ne hba,if_neg,hb]
      rintro ⟨hlt,rfl⟩
      have hlen:=h.tiles.eq_none_of_inside (p:=a+k) (len_of_extents he) (by simp only; omega)
      rw [len_of_extents hb] at hlen
      cases hlen

lemma Coherent.card_freePages_claim (h : L.Coherent N) (he : L.extents a=some ⟨n,.free⟩) :
    ((L.claimPages a 1 n).freePages N).card+1=(L.freePages N).card:=by
  have hpos:=h.extent_pos he
  have hle:=h.extent_le he
  simp only at hpos hle
  have hmem : a∈L.freePages N:=mem_freePages.2 ⟨by omega,a,n,he,le_rfl,by omega⟩
  have herase : (L.claimPages a 1 n).freePages N=(L.freePages N).erase a:=by
    ext i
    rw [mem_freePages,h.freePage_claimPages he Nat.one_pos hpos,Finset.mem_erase,mem_freePages]
    constructor
    · rintro ⟨hi,hfree,hne⟩
      exact ⟨by omega,hi,hfree⟩
    · rintro ⟨hne,hi,hfree⟩
      exact ⟨hi,hfree,by omega⟩
  rw [herase,Finset.card_erase_add_one hmem]

lemma Coherent.card_freePages_of_free (h : L.Coherent N)
    (hfree : ∀ a e, L.extents a=some e→e.role = .free) : (L.freePages N).card=N:=by
  have hall : L.freePages N=Finset.range N:=by
    ext i
    rw [mem_freePages,Finset.mem_range]
    refine ⟨And.left,fun hi=>⟨hi,?_⟩⟩
    obtain ⟨a,n,hlen,hai,hia⟩:=h.tiles.cover i hi
    obtain ⟨⟨n,role⟩,he,rfl⟩:=Option.map_eq_some_iff.1 hlen
    obtain rfl : role = .free:=hfree a _ he
    exact ⟨a,n,he,hai,hia⟩
  rw [hall,Finset.card_range]

end Ledger

lemma Represents.alloc_page {l : SegmentLayout} {s : SlabState} {L : Ledger}
    (h : Represents l s L) (hl : l.WellFormed) {size : ℕ} (hmin : 2048 ≤ size) (hmax : size≤4096) :
    (∃ p s' L', smbSlabAllocLocked l s size=some (p,s') ∧ p≠0 ∧ Represents l s' L' ∧
      (L'.freePages l.realPages).card+1=(L.freePages l.realPages).card) ∨
    ((L.freePages l.realPages).card=0 ∧ smbSlabAllocLocked l s size=some (0,s)):=by
  have hpages : slabPages l size=1:=by
    rw [slabPages,hl.pagesize_eq,hl.pagesizeShift_eq,Nat.shiftRight_eq_div_pow]
    split <;> omega
  have hpos:=hl.start_pos
  rw [smbSlabAllocLocked,if_pos (by rw [hl.slabMaxSize_eq]; exact hmin),hpages]
  rcases h.allocPages hl Nat.one_pos with ⟨b,n,hb,-,halloc,hrep⟩ | ⟨hnone,halloc⟩
  · refine .inl ⟨smbSlabPageAddr l (.page b),_,_,?_,?_,hrep,h.coherent.card_freePages_claim hb⟩
    · rw [halloc]
      rfl
    · rw [hl.pageAddr_eq]
      omega
  · refine .inr ⟨?_,by rw [halloc]; rfl⟩
    rw [Finset.card_eq_zero,Finset.eq_empty_iff_forall_notMem]
    intro i hi
    obtain ⟨-,b,n,hb,-⟩:=Ledger.mem_freePages.1 hi
    have hpos:=h.coherent.extent_pos hb
    have hlt:=hnone b n hb
    simp only at hpos
    omega

def PoolSegment.HasFree (g : PoolSegment) (count : ℕ) : Prop:=
  g.layout.WellFormed ∧ ∃ L, Represents g.layout g.state L ∧ (L.freePages g.layout.realPages).card=count

/-- The number of blocks that the pool gives out on `n` requests without `malloc`. -/
def servedBlocks (size : ℕ) : ℕ→MemoryPool→Option ℕ
  | 0, _=>some 0
  | n+1, pool=>(zooAllocateFromPool 12 pool size none).bind fun (p,pool)=>
      (servedBlocks size n pool).map fun served=>if p=0 then served else served+1

lemma zooAllocateFromPool_none (pageShift : ℕ) {pool : MemoryPool} (hne : pool≠[]) {size : ℕ}
    (hsize : size≠0) : zooAllocateFromPool pageShift pool size none=allocFromChain size pool:=by
  rw [zooAllocateFromPool,if_neg (not_or.2 ⟨hne,hsize⟩),smbMemoryPoolAllocLocked]
  cases hwalk : allocFromChain size pool with
  | none=>rfl
  | some result=>
    obtain ⟨p,chain⟩:=result
    rw [Option.bind_some]
    dsimp only
    split
    · rfl
    next hp=>
      rw [not_not.1 hp]
      split
      · rfl
      · rw [smbMemoryPoolCreateSegment_none]

section
variable {size : ℕ} (hmin : 2048 ≤ size) (hmax : size≤4096)
include hmin hmax

lemma allocFromChain_page {chain : MemoryPool} {counts : List ℕ} (h : Forall₂ PoolSegment.HasFree chain counts) :
    ∃ p chain' counts', allocFromChain size chain=some (p,chain') ∧
      Forall₂ PoolSegment.HasFree chain' counts' ∧
      ((p≠0 ∧ counts'.sum+1=counts.sum) ∨ (p=0 ∧ counts'.sum=0 ∧ counts.sum=0)):=by
  induction h with
  | nil=>exact ⟨0,[],[],rfl,.nil,.inr ⟨rfl,rfl,rfl⟩⟩
  | @cons g count chain counts hg hchain ih=>
    obtain ⟨hwell,L,hrep,hcount⟩:=hg
    rcases hrep.alloc_page hwell hmin hmax with ⟨p,s,L',halloc,hp,hrep',hcard⟩ |
      ⟨hzero,halloc⟩
    · refine ⟨p,{g with state:=s} :: chain,(L'.freePages g.layout.realPages).card::counts,
        ?_,.cons ⟨hwell,L',hrep',rfl⟩ hchain,.inl ⟨hp,?_⟩⟩
      · rw [allocFromChain,halloc,Option.bind_some]
        exact if_pos hp
      · rw [sum_cons,sum_cons]
        omega
    · obtain ⟨p,chain',counts',hwalk,hchain',hcase⟩:=ih
      refine ⟨p,g::chain',count::counts',?_,.cons ⟨hwell,L,hrep,hcount⟩ hchain',?_⟩
      · rw [allocFromChain,halloc,Option.bind_some,hwalk]
        rfl
      · rw [sum_cons,sum_cons]
        omega

lemma servedBlocks_eq (n : ℕ) {chain : MemoryPool} {counts : List ℕ} (hne : chain≠[])
    (h : Forall₂ PoolSegment.HasFree chain counts) : servedBlocks size n chain=some (min n counts.sum):=by
  induction n generalizing chain counts with
  | zero=>rw [servedBlocks,Nat.zero_min]
  | succ n ih=>
    obtain ⟨p,chain',counts',hwalk,hchain',hcase⟩:=allocFromChain_page hmin hmax h
    have hne' : chain'≠[]:=by
      have hlen:=congrArg length (allocFromChain_sizes hwalk)
      rw [length_map,length_map] at hlen
      rintro rfl
      exact hne (length_eq_zero_iff.1 hlen.symm)
    rw [servedBlocks,zooAllocateFromPool_none 12 hne (by omega),hwalk,Option.bind_some]
    dsimp only
    rw [ih hne' hchain',Option.map_some]
    rcases hcase with ⟨hp,hsum⟩ | ⟨hp,hsum,hsum'⟩
    · rw [if_neg hp]
      congr 1
      omega
    · rw [if_pos hp]
      congr 1
      omega

end

/-- The free runs of the segment are disjoint and cover all of its pages. -/
structure PoolSegment.AllFree (g : PoolSegment) : Prop where
  disjoint : (g.state.freeRuns g.layout).Pairwise fun r r'=>r.1+r.2≤r'.1 ∨ r'.1+r'.2≤r.1
  cover : ∀ i<g.layout.realPages, ∃ r∈g.state.freeRuns g.layout, r.1 ≤ i ∧ i < r.1+r.2
  inside : ∀ r∈g.state.freeRuns g.layout, r.1+r.2≤g.layout.realPages

def freshPool (pool : MemoryPool) : MemoryPool:=pool.map fun g=>{g with state:=SlabState.init g.layout fun _=>0}

namespace PoolSegment.Account
variable {g : PoolSegment}

lemma free_of_no_live (h : g.Account []) :
    ∃ L, Represents g.layout g.state L ∧ ∀ a e, L.extents a=some e→e.role = .free:=by
  obtain ⟨L,haccounts,hocc⟩:=h.ledger
  refine ⟨L,haccounts.represents,fun a e he=>?_⟩
  by_contra hrole
  obtain ⟨o,len,hblock⟩:=hocc a e he hrole
  obtain ⟨b,hb,-⟩:=(haccounts.block_iff _ _).1 ⟨a,e,o,he,hblock,rfl⟩
  exact absurd hb not_mem_nil

lemma allFree (h : g.Account []) : g.AllFree:=by
  obtain ⟨L,hrep,hfree⟩:=h.free_of_no_live
  refine ⟨hrep.pairwise_freeRuns h.wellFormed,fun i hi=>?_,fun r hr=>?_⟩
  · obtain ⟨a,n,hlen,hai,hia⟩:=hrep.coherent.tiles.cover i hi
    obtain ⟨⟨n,role⟩,he,rfl⟩:=Option.map_eq_some_iff.1 hlen
    obtain rfl : role = .free:=hfree a _ he
    exact ⟨(a,n),(hrep.mem_freeRuns h.wellFormed).2 he,hai,hia⟩
  · exact hrep.coherent.extent_le ((hrep.mem_freeRuns h.wellFormed).1 hr)

lemma hasFree (h : g.Account []) : g.HasFree g.layout.realPages:=by
  obtain ⟨L,hrep,hfree⟩:=h.free_of_no_live
  exact ⟨h.wellFormed,L,hrep,hrep.coherent.card_freePages_of_free hfree⟩

end PoolSegment.Account

lemma servedBlocks_of_no_live {size : ℕ} (hmin : 2048 ≤ size) (hmax : size≤4096) (n : ℕ)
    {pool : MemoryPool} (hne : pool≠[]) (hacc : ∀ g∈pool, g.Account []) :
    servedBlocks size n pool=some (min n (pool.map fun g=>g.layout.realPages).sum):=by
  refine servedBlocks_eq hmin hmax n hne ?_
  rw [forall₂_map_right_iff,forall₂_same]
  exact fun g hg=>(hacc g hg).hasFree

/-- After every run that leaves no live block the pool serves one request for each page. -/
theorem PoolProgram.run_loses_no_page (totalSize pool : ℕ) (g : PoolSegment)
    (hcreate : smbMemoryPoolCreateSegment 12 totalSize (some pool)=some g)
    (hg : g.layout.WellFormed) (events : List MemoryPoolEvent) (hproper : Throughout step Proper ⟨[g],[]⟩ events) :
    ∃ t, run ⟨[g],[]⟩ events=some t ∧ (t.live=[]→
      (∀ g∈t.pool, g.AllFree) ∧ ∀ size n, 2048 ≤ size→size≤4096→
        servedBlocks size n t.pool=servedBlocks size n (freshPool t.pool) ∧
        servedBlocks size n t.pool=some (min n (t.pool.map fun g=>g.layout.realPages).sum)):=by
  obtain ⟨t,hrun,haccount⟩:=hproper.foldlM Account (fun t event h=>h.step) (Account.fresh hcreate hg)
  refine ⟨t,hrun,fun hlive=>?_⟩
  have hnone : ∀ g∈t.pool, g.Account []:=hlive ▸ haccount.account
  refine ⟨fun g hg=>(hnone g hg).allFree,fun size n hmin hmax=>?_⟩
  have hserved:=servedBlocks_of_no_live hmin hmax n haccount.nonempty hnone
  refine ⟨hserved.trans ?_,hserved⟩
  have hfresh : ∀ g∈freshPool t.pool, g.Account []:=by
    intro g' hg'
    obtain ⟨g,hg,rfl⟩:=List.mem_map.1 hg'
    exact ⟨(hnone g hg).wellFormed,_,Accounts.fresh (hnone g hg).wellFormed _,Ledger.occupied_fresh _⟩
  rw [servedBlocks_of_no_live hmin hmax n (by simpa [freshPool] using haccount.nonempty) hfresh,freshPool,List.map_map]
  rfl

theorem PoolProgram.run_loses_no_page_chunk_and_run :
    ∃ t, run ⟨[sampleSegment],[]⟩ [.alloc 5 none,.alloc 9000 none,.free 1056768,
      .free 1052736]=some t ∧ t.live=[] ∧ (∀ g∈t.pool, g.AllFree) ∧
      servedBlocks 4096 20 t.pool=some 15:=by
  have hlive : ((step ⟨[sampleSegment],[]⟩ (.alloc 5 none)).bind
      fun t=>step t (.alloc 9000 none)).map live=some [⟨1056768,9000⟩,⟨1052736,5⟩]:=by
    decide +kernel
  have hend : (run ⟨[sampleSegment],[]⟩ [.alloc 5 none,.alloc 9000 none,.free 1056768,
      .free 1052736]).map (fun t=>(t.live, t.pool.map fun g=>g.layout.realPages))=
      some ([],[15]):=by decide +kernel
  have hproper : Throughout step Proper ⟨[sampleSegment],[]⟩
      [.alloc 5 none,.alloc 9000 none,.free 1056768,.free 1052736]:=by
    refine ⟨fun _ _ _ _ hnone=>?_,fun t ht=>⟨fun _ _ _ _ hnone=>?_,fun t' ht'=>?_⟩⟩
    · cases hnone
    · cases hnone
    · rw [ht,Option.bind_some,ht',Option.map_some,Option.some.injEq] at hlive
      refine ⟨⟨⟨1056768,9000⟩,hlive ▸ mem_cons_self,rfl⟩,fun t'' ht'' => ?_⟩
      cases ht''
      refine ⟨⟨⟨1052736,5⟩,?_,rfl⟩,fun _ _=>trivial⟩
      rw [hlive]
      exact mem_singleton_self _
  obtain ⟨t,hrun,hfree⟩:=run_loses_no_page 65536 1048592 sampleSegment rfl sampleSegment_wellFormed _ hproper
  rw [hrun,Option.map_some,Option.some.injEq,Prod.mk.injEq] at hend
  obtain ⟨hall,hserved⟩:=hfree hend.1
  refine ⟨t,hrun,hend.1,hall,?_⟩
  rw [(hserved 4096 20 (by decide) (by decide)).2,hend.2]
  rfl

end SoftMessageBus
