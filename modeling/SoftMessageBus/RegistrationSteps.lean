import SoftMessageBus.ShmRegistration

/-!
# Undisturbed registrations

The steps that do not disturb a registration, and the state they keep.
-/
namespace SoftMessageBus
open Function

namespace ClientPhase

def Live : ClientPhase→Prop
  | .idle | .failed=>False
  | .requesting | .locking _ | .scanning _ | .filling _ _ | .assigning | .counting _
  | .releasing _ | .connected _=>True

def Validated : ClientPhase→Prop
  | .idle | .failed | .requesting=>False
  | .locking _ | .scanning _ | .filling _ _ | .assigning | .counting _ | .releasing _
  | .connected _=>True

def HoldsLock : ClientPhase→Prop
  | .idle | .failed | .requesting | .locking _ | .connected _=>False
  | .scanning _ | .filling _ _ | .assigning | .counting _ | .releasing _=>True

def Filed : ClientPhase→Prop
  | .assigning | .counting _ | .releasing (some _) | .connected _=>True
  | .idle | .failed | .requesting | .locking _ | .scanning _ | .filling _ _
  | .releasing none=>False

def filler (c : ℕ) : ClientPhase→Option Filler
  | .filling slot written=>some ⟨c,slot,written⟩
  | .idle | .failed | .requesting | .locking _ | .scanning _ | .assigning | .counting _
  | .releasing _ | .connected _=>none

variable {p : ClientPhase}

lemma Filed.live (h : p.Filed) : p.Live:=by cases p <;> trivial

lemma HoldsLock.validated (h : p.HoldsLock) : p.Validated:=by cases p <;> trivial

lemma HoldsLock.live (h : p.HoldsLock) : p.Live:=by cases p <;> trivial

lemma Filed.validated (h : p.Filed) : p.Validated:=by cases p <;> trivial

end ClientPhase

def RegistrationClient.Valid (c : RegistrationClient) : Prop:=
  c.name.bytes.length≠0 ∧ c.name.bytes.length < maxTransportNameLength ∧
    c.name.bytes.all validNameChar=true ∧ ¬c.pid≤0 ∧ c.shmKey≠0 ∧ c.shmKey≠0xFFFFFFFF

def ValidationCalls.Succeed (calls : ValidationCalls) : Prop:=
  calls.process ≠ .notFound ∧ calls.process ≠ .failed ∧ calls.segmentFound=true
  deriving Decidable

def AcceptCalls.Succeed (calls : AcceptCalls) : Prop:=
  calls.validation.Succeed ∧
    (calls.segmentFound && calls.segmentAttached && calls.sizeKnown)=true ∧
    (calls.infoAllocated && calls.txHandleAllocated && calls.rxHandleAllocated)=true ∧
    calls.listPushed = .ok
  deriving Decidable

namespace ShmRegistry
variable {who : ℕ→RegistrationClient} {s : ShmRegistry}

def fillerOf (lock : Option ℕ) (phase : ℕ→ClientPhase) : Option Filler:=lock.bind fun c=>(phase c).filler c

def ClientOrderly (who : ℕ→RegistrationClient) (s : ShmRegistry) (c : ℕ) : ClientPhase→Prop
  | .idle=>s.segments (who c).shmKey=none
  | .scanning slot=>(s.slotAt slot).status = .empty→s.server.workSlot≠some slot
  | .requesting | .locking _ | .filling _ _ | .assigning | .counting _ | .releasing _
  | .connected _ | .failed=>True

def ServerOrderly (s : ShmRegistry) (calls : AcceptCalls) : ServerPhase→Prop
  | .opening=>s.clientCount<s.maxClients
  | .looking slot=>
    (s.slotAt slot).status = .pending→(fillerOf s.registrationLock s.phase).map Filler.slot≠some slot
  | .validating _=>s.clientCount<s.maxClients ∧ calls.Succeed
  | .attaching _ | .registering _ _=>calls.Succeed
  | .cleaning | .matching _ | .finishing _ | .clearing _ _ | .answering _ _=>True

def Orderly (who : ℕ→RegistrationClient) (s : ShmRegistry) : RegistrationEvent→Prop
  | .client c _ _=>s.ClientOrderly who c (s.phase c)
  | .server calls=>s.ServerOrderly calls s.server

instance (c : ℕ) (p : ClientPhase) : Decidable (s.ClientOrderly who c p):=by
  cases p <;> dsimp only [ClientOrderly] <;> infer_instance

instance (calls : AcceptCalls) (p : ServerPhase) : Decidable (s.ServerOrderly calls p):=by
  cases p <;> dsimp only [ServerOrderly] <;> infer_instance

instance (e : RegistrationEvent) : Decidable (s.Orderly who e):=by
  cases e <;> dsimp only [Orderly] <;> infer_instance

structure Inv (who : ℕ→RegistrationClient) (s : ShmRegistry) : Prop where
  running : s.serverRunning=true
  segment : ∀ c, (s.phase c).Live→s.segments (who c).shmKey=some c
  valid : ∀ c, (s.phase c).Validated→(who c).Valid
  locked : ∀ c, (s.phase c).HoldsLock→s.registrationLock=some c
  table : SoundTable who (fillerOf s.registrationLock s.phase) (fun c=>(s.phase c).Filed) s.slots s.server s.clients

lemma ite_eq_ok_iff {p : Prop} [Decidable p] {error rest : ErrorType} (h : error ≠ .ok) :
    (if p then error else rest) = .ok ↔ ¬p ∧ rest = .ok:=by split <;> simp_all

lemma validate_eq_ok_iff {c : RegistrationClient} {calls : ValidationCalls} :
    s.shmValidateClientRegistration c.name c.pid c.shmKey calls = .ok ↔
      s.serverRunning=true ∧ s.clientCount<s.maxClients ∧ c.Valid ∧ calls.Succeed ∧ (s.segments c.shmKey).isSome=true:=by
  simp (disch:=decide) only [shmValidateClientRegistration,ShmLink.shmValidateClientRegistration,
    ite_eq_ok_iff,RegistrationClient.Valid,ValidationCalls.Succeed,Bool.not_eq_true',Bool.not_eq_false,
    Bool.and_eq_true,not_le,not_or,and_true,and_assoc,ne_eq]
  -- the server asks for the process before it looks at the key
  constructor
  · rintro ⟨hrunning,hcount,hempty,hlen,hchars,hpid,hfound,hcheck,hzero,hkey,hrest⟩
    exact ⟨hrunning,hcount,hempty,hlen,hchars,hpid,hzero,hkey,hfound,hcheck,hrest⟩
  · rintro ⟨hrunning,hcount,hempty,hlen,hchars,hpid,hzero,hkey,hfound,hcheck,hrest⟩
    exact ⟨hrunning,hcount,hempty,hlen,hchars,hpid,hfound,hcheck,hzero,hkey,hrest⟩

lemma inv_initial : initial.Inv who where
  running:=rfl
  segment _ h:=h.elim
  valid _ h:=h.elim
  locked _ h:=h.elim
  table:=by
    refine ⟨nofun,?_,nofun,nofun,nofun,nofun,nofun,trivial⟩
    intro i r hr hpending
    rw [List.eq_of_mem_replicate (List.mem_of_getElem? hr)] at hpending
    cases hpending

lemma Inv.eq_of_identity (h : s.Inv who) {c c' : ℕ} (hc : (s.phase c).Live) (hc' : (s.phase c').Live)
    (hname : (who c').name=(who c).name) (hpid : (who c').pid=(who c).pid) : c'=c:=by
  have hkey : (who c').shmKey=(who c).shmKey:=by
    rw [RegistrationClient.shmKey,RegistrationClient.shmKey,hname,hpid]
  have hsegment:=h.segment c' hc'
  rw [hkey,h.segment c hc] at hsegment
  exact (Option.some.inj hsegment).symm

lemma fillerOf_some (c : ℕ) (phase : ℕ→ClientPhase) : fillerOf (some c) phase=(phase c).filler c:=rfl

lemma fillerOf_update_self (c : ℕ) (phase : ℕ→ClientPhase) (p : ClientPhase) :
    fillerOf (some c) (Function.update phase c p)=p.filler c:=by rw [fillerOf_some,update_self]

variable {p : ClientPhase} {c : ℕ} {phase : ℕ→ClientPhase}

lemma fillerOf_update (hold : (phase c).filler c=none) (hnew : p.filler c=none)
    (lock : Option ℕ) : fillerOf lock (Function.update phase c p)=fillerOf lock phase:=by
  cases lock with
  | none=>rfl
  | some c'=>
    rw [fillerOf_some,fillerOf_some]
    by_cases hc : c'=c
    · rw [hc,update_self,hold,hnew]
    · rw [update_of_ne hc]

lemma filed_update (h : p.Filed ↔ (phase c).Filed) :
    (fun c'=>(Function.update phase c p c').Filed)=fun c'=>(phase c').Filed:=by
  funext c'
  by_cases hc : c'=c
  · rw [hc,update_self,h]
  · rw [update_of_ne hc]

lemma forall_update {P : ℕ→ClientPhase→Prop} (h : ∀ c', P c' (phase c')) (hp : P c p)
    (c' : ℕ) : P c' (Function.update phase c p c'):=by
  by_cases hc : c'=c
  · rw [hc,update_self]
    exact hp
  · rw [update_of_ne hc]
    exact h c'

namespace Inv
variable {p : ClientPhase} {c : ℕ}

section
variable (h : s.Inv who)
include h

lemma update {lock : Option ℕ} {slots : List RegistrationSlot}
    (hsegment : p.Live→s.segments (who c).shmKey=some c) (hvalid : p.Validated→(who c).Valid)
    (hlocked : ∀ c', (Function.update s.phase c p c').HoldsLock→lock=some c')
    (htable : SoundTable who (fillerOf lock (Function.update s.phase c p))
      (fun c'=>(Function.update s.phase c p c').Filed) slots s.server s.clients) :
    ({s.setPhase c p with registrationLock:=lock, slots:=slots} : ShmRegistry).Inv who where
  running:=h.running
  segment:=forall_update (P:=fun c p=>p.Live→s.segments (who c).shmKey=some c) h.segment hsegment
  valid:=forall_update (P:=fun c p=>p.Validated→(who c).Valid) h.valid hvalid
  locked:=hlocked
  table:=htable

lemma setPhase (hold : (s.phase c).filler c=none) (hnew : p.filler c=none)
    (hfiled : p.Filed ↔ (s.phase c).Filed) (hsegment : p.Live→s.segments (who c).shmKey=some c)
    (hvalid : p.Validated→(who c).Valid) (hlock : p.HoldsLock→s.registrationLock=some c) :
    (s.setPhase c p).Inv who:=by
  refine h.update hsegment hvalid ?_ ?_
  · exact forall_update (P:=fun c p=>p.HoldsLock→s.registrationLock=some c) h.locked hlock
  · rw [fillerOf_update hold hnew,filed_update hfiled]
    exact h.table

lemma unlock (hlock : s.registrationLock=some c) (hc : ¬(s.phase c).HoldsLock)
    (hfiller : (s.phase c).filler c=none) : ({s with registrationLock:=none} : ShmRegistry).Inv who where
  running:=h.running
  segment:=h.segment
  valid:=h.valid
  locked c' hc':=by
    have heq:=h.locked c' hc'
    rw [hlock,Option.some.injEq] at heq
    exact absurd (heq ▸ hc') hc
  table:=by
    have htable:=h.table
    rw [hlock,fillerOf_some,hfiller] at htable
    exact htable

lemma lock {attempts : ℕ} (hc : s.phase c = .locking attempts) (hfree : s.registrationLock=none) :
    ({s.setPhase c (.scanning 0) with registrationLock:=some c} : ShmRegistry).Inv who:=by
  refine h.update (fun _=>h.segment c (hc ▸ trivial)) (fun _=>h.valid c (hc ▸ trivial)) ?_ ?_
  · refine forall_update (P:=fun c' p=>p.HoldsLock→some c=some c') ?_ fun _=>rfl
    intro c' hc'
    have hheld:=h.locked c' hc'
    rw [hfree] at hheld
    cases hheld
  · have htable:=h.table
    rw [hfree] at htable
    rw [fillerOf_update_self,filed_update (hc ▸ Iff.rfl)]
    exact htable

lemma fail (hlive : (s.phase c).Live) (hfiled : ¬(s.phase c).Filed)
    (hfiller : (s.phase c).filler c=none) : (s.fail who c).Inv who:=by
  have hinv : (s.setPhase c .failed).Inv who:=h.setPhase hfiller rfl ⟨False.elim,hfiled⟩ False.elim False.elim False.elim
  refine ⟨hinv.running,?_,hinv.valid,hinv.locked,hinv.table⟩
  intro c' hc'
  have hsegment : s.segments (who c').shmKey=some c':=hinv.segment c' hc'
  change (if s.segments (who c).shmKey=some c then
    Function.update s.segments (who c).shmKey none else s.segments) (who c').shmKey=some c'
  rw [if_pos (h.segment c hlive),update_of_ne,hsegment]
  intro hkey
  rw [hkey,h.segment c hlive,Option.some.injEq] at hsegment
  subst hsegment
  change (Function.update s.phase c .failed c).Live at hc'
  rw [update_self] at hc'
  exact hc'

lemma createSegment (hc : s.phase c = .idle) (hkey : s.segments (who c).shmKey=none)
    (calls : StartCalls) : (s.createSegment who c calls).Inv who:=by
  have hfailed : (s.setPhase c .failed).Inv who:=h.setPhase (hc ▸ rfl) rfl (hc ▸ Iff.rfl) False.elim False.elim False.elim
  rw [ShmRegistry.createSegment]
  dsimp only
  split
  · exact hfailed
  split
  · rw [update_eq_self_iff.2 hkey.symm]
    exact hfailed
  have hreq : ({s with segments:=Function.update s.segments (who c).shmKey (some c)} :
      ShmRegistry).Inv who:=by
    refine ⟨h.running,?_,h.valid,h.locked,h.table⟩
    intro c' hc'
    have hsegment:=h.segment c' hc'
    refine (update_of_ne ?_ _ _).trans hsegment
    intro heq
    rw [heq,hkey] at hsegment
    cases hsegment
  have hself : Function.update s.segments (who c).shmKey (some c) (who c).shmKey=some c:=
    update_self (who c).shmKey (some c) s.segments
  exact hreq.setPhase (hc ▸ rfl) rfl (hc ▸ Iff.rfl) (fun _=>hself) False.elim False.elim

lemma ofTable (hc : (s.phase c).HoldsLock) {slots : List RegistrationSlot}
    (htable : SoundTable who (p.filler c) (fun c'=>(Function.update s.phase c p c').Filed) slots
      s.server s.clients) : ({s.setPhase c p with slots:=slots} : ShmRegistry).Inv who:=by
  have hlock:=h.locked c hc
  refine h.update (fun _=>h.segment c hc.live) (fun _=>h.valid c hc.validated) ?_ ?_
  · exact forall_update (P:=fun c p=>p.HoldsLock→s.registrationLock=some c) h.locked fun _=>hlock
  · change SoundTable who (fillerOf s.registrationLock (Function.update s.phase c p)) _ _ _ _
    rw [hlock,fillerOf_update_self]
    exact htable

end

variable {i : ℕ}

lemma claim (h : s.Inv who) {r : RegistrationSlot} (hc : s.phase c = .scanning i)
    (hr : s.slots[i]?=some r) (hempty : r.status = .empty) (hi : s.server.workSlot≠some i) :
    (s.setPhase c (.filling i 0)).Inv who:=by
  have hlock:=h.locked c (hc ▸ trivial)
  have htable:=h.table
  rw [hlock,fillerOf_some,hc] at htable
  refine h.ofTable (hc ▸ trivial) ?_
  rw [filed_update (hc ▸ Iff.rfl)]
  exact htable.claim hr hempty hi

lemma fill (h : s.Inv who) {written : ℕ} (hc : s.phase c = .filling i written) (now : ℤ) :
    written<14 ∧
      ({s.setPhase c (if written+1<14 then .filling i (written+1) else .assigning) with
        slots:=s.slots.modify i ((fillWrites ((who c).request now)).getD written id)} :
        ShmRegistry).Inv who:=by
  have hlock:=h.locked c (hc ▸ trivial)
  have htable:=h.table
  rw [hlock,fillerOf_some,hc] at htable
  have hwritten : written<14:=(htable.filling _ rfl).1
  refine ⟨hwritten,h.ofTable (hc ▸ trivial) ?_⟩
  split
  next hlt=>
    rw [filed_update (hc ▸ Iff.rfl)]
    exact htable.write now (Nat.lt_of_succ_lt_succ hlt)
  next hlast=>
    obtain rfl : written=13:=by omega
    have hfiled : (fun c'=>(Function.update s.phase c .assigning c').Filed)=
        fun c'=>c'=c ∨ (s.phase c').Filed:=by
      funext c'
      by_cases heq : c'=c
      · simp [heq,ClientPhase.Filed]
      · simp [heq]
    rw [hfiled]
    refine htable.complete now (hc ▸ id) ?_
    intro c' hc' hname hpid
    rw [h.eq_of_identity (hc ▸ trivial) hc'.live hname hpid,hc] at hc'
    exact hc'

lemma clientStep (h : s.Inv who) (c : ℕ) (calls : StartCalls) (now : ℤ)
    (hord : s.Orderly who (.client c calls now)) : (s.clientStep who c calls now).Inv who:=by
  cases hc : s.phase c
  all_goals simp only [ShmRegistry.clientStep,hc]
  case idle=>
    simp only [Orderly,ClientOrderly,hc] at hord
    exact h.createSegment hc hord calls
  case requesting=>
    split
    next hvalid=>
      exact h.setPhase (hc ▸ rfl) rfl (hc ▸ Iff.rfl) (fun _=>h.segment c (hc ▸ trivial))
        (fun _=>(validate_eq_ok_iff.1 hvalid).2.2.1) False.elim
    next=>exact h.fail (hc ▸ trivial) (hc ▸ id) (hc ▸ rfl)
  case locking attempts=>
    split
    next=>exact h.fail (hc ▸ trivial) (hc ▸ id) (hc ▸ rfl)
    split
    next hfree=>exact h.lock hc hfree
    next=>
      exact h.setPhase (hc ▸ rfl) rfl (hc ▸ Iff.rfl) (fun _=>h.segment c (hc ▸ trivial))
        (fun _=>h.valid c (hc ▸ trivial)) False.elim
  case scanning i=>
    have hlock:=h.locked c (hc ▸ trivial)
    have hsegment:=h.segment c (hc ▸ trivial)
    have hvalid:=h.valid c (hc ▸ trivial)
    cases hr : s.slots[i]? with
    | none=>
      exact h.setPhase (hc ▸ rfl) rfl (hc ▸ Iff.rfl) (fun _=>hsegment) (fun _=>hvalid) (fun _=>hlock)
    | some r=>
      dsimp only
      split
      next hempty=>
        simp only [Orderly,ClientOrderly,hc,slotAt,List.getD,hr] at hord
        exact h.claim hc hr hempty (hord hempty)
      next=>exact h.setPhase (hc ▸ rfl) rfl (hc ▸ Iff.rfl) (fun _=>hsegment) (fun _=>hvalid) (fun _=>hlock)
  case filling i written=>exact (h.fill hc now).2
  case assigning=>
    have hinv:=h.setPhase (p:=.counting s.nextAvailableId) (hc ▸ rfl) rfl (hc ▸ Iff.rfl)
      (fun _=>h.segment c (hc ▸ trivial)) (fun _=>h.valid c (hc ▸ trivial))
      (fun _=>h.locked c (hc ▸ trivial))
    exact ⟨hinv.running,hinv.segment,hinv.valid,hinv.locked,hinv.table⟩
  case counting id=>
    have hinv:=h.setPhase (p:=.releasing (some id)) (hc ▸ rfl) rfl (hc ▸ Iff.rfl)
      (fun _=>h.segment c (hc ▸ trivial)) (fun _=>h.valid c (hc ▸ trivial))
      (fun _=>h.locked c (hc ▸ trivial))
    exact ⟨hinv.running,hinv.segment,hinv.valid,hinv.locked,hinv.table⟩
  case releasing id=>
    have hlock:=h.locked c (hc ▸ trivial)
    cases id with
    | none=>
      have hinv : (s.fail who c).Inv who:=h.fail (hc ▸ trivial) (hc ▸ id) (hc ▸ rfl)
      have hphase : (s.fail who c).phase c = .failed:=update_self c _ s.phase
      exact hinv.unlock hlock (by rw [hphase]; exact False.elim) (by rw [hphase]; rfl)
    | some id=>
      have hinv:=h.setPhase (p:=.connected id) (hc ▸ rfl) rfl (hc ▸ Iff.rfl)
        (fun _=>h.segment c (hc ▸ trivial)) (fun _=>h.valid c (hc ▸ trivial)) False.elim
      have hphase : (s.setPhase c (.connected id)).phase c = .connected id:=update_self c _ s.phase
      exact hinv.unlock hlock (by rw [hphase]; exact False.elim) (by rw [hphase]; rfl)
  case connected id=>exact h
  case failed=>exact h

lemma slotAt_of_getElem? {r : RegistrationSlot} (h : s.slots[i]?=some r) : s.slotAt i=r:=by
  rw [slotAt,List.getD,h]
  rfl

lemma serverStep (h : s.Inv who) (calls : AcceptCalls)
    (hord : s.Orderly who (.server calls)) : (s.serverStep calls).Inv who:=by
  have htable:=h.table
  cases hserver : s.server
  all_goals rw [hserver] at htable
  case answering i status=>exact htable.work.elim
  all_goals simp only [ShmRegistry.serverStep,hserver]
  case cleaning=>exact ⟨h.running,h.segment,h.valid,h.locked,htable.move (fun _ _=>nofun) nofun trivial⟩
  case opening=>split <;> exact ⟨h.running,h.segment,h.valid,h.locked,htable.move (fun _ _=>nofun) nofun trivial⟩
  case looking i=>
    cases hr : s.slots[i]? with
    | none=>
      exact ⟨h.running,h.segment,h.valid,h.locked,htable.move (fun _ _=>nofun) nofun trivial⟩
    | some r=>
      dsimp only
      split
      next hpending=>
        simp only [Orderly,ServerOrderly,hserver,slotAt,List.getD,hr] at hord
        have hfree:=hord hpending
        obtain ⟨c,now,rfl,hc⟩:=htable.pending i r hr hpending hfree
        refine ⟨h.running,h.segment,h.valid,h.locked,htable.move ?_ nofun ⟨c,now,hc,hr⟩⟩
        intro f hf heq
        rw [hf] at hfree
        exact hfree heq.symm
      next=>exact ⟨h.running,h.segment,h.valid,h.locked, htable.move (fun _ _=>nofun) nofun trivial⟩
  case matching i=>
    obtain ⟨c,now,hc,hslot⟩:=htable.work
    have hnew : ⟨(s.slotAt i).clientName,(s.slotAt i).clientPid⟩ ∉
        s.clients.map AcceptedClient.toShmServerClient:=by
      rw [slotAt_of_getElem? hslot]
      intro hmem
      obtain ⟨e,he,heq⟩:=List.mem_map.1 hmem
      obtain ⟨c',rfl,hc'⟩:=htable.entries e he
      obtain ⟨hname,hpid⟩:=ShmServerClient.mk.inj heq
      obtain rfl:=htable.apart c' c hc' hc hname hpid
      exact absurd (htable.fresh c' i now hc he ⟨hslot,htable.unclaimed rfl⟩) nofun
    rw [if_neg hnew]
    exact ⟨h.running,h.segment,h.valid,h.locked,htable.move (fun f hf=>(htable.filling f hf).2.1) nofun ⟨c,now,hc,hslot⟩⟩
  case validating i=>
    obtain ⟨c,now,hc,hslot⟩:=htable.work
    simp only [Orderly,ServerOrderly,hserver] at hord
    have hok : s.shmValidateClientRegistration (s.slotAt i).clientName (s.slotAt i).clientPid
        (s.slotAt i).clientShmKey calls.validation = .ok:=by
      rw [slotAt_of_getElem? hslot]
      refine validate_eq_ok_iff.2 ⟨h.running,hord.1,h.valid c (ClientPhase.Filed.validated hc),hord.2.1,?_⟩
      rw [h.segment c (ClientPhase.Filed.live hc)]
      rfl
    rw [if_pos hok]
    exact ⟨h.running,h.segment,h.valid,h.locked,htable.move (fun f hf=>(htable.filling f hf).2.1) nofun ⟨c,now,hc,hslot⟩⟩
  case attaching i=>
    obtain ⟨c,now,hc,hslot⟩:=htable.work
    simp only [Orderly,ServerOrderly,hserver] at hord
    have hsegment : s.segments (s.slotAt i).clientShmKey=some c:=by
      rw [slotAt_of_getElem? hslot]
      exact h.segment c (ClientPhase.Filed.live hc)
    simp only [hsegment,hord.2.1,if_true]
    exact ⟨h.running,h.segment,h.valid,h.locked,htable.move (fun f hf=>(htable.filling f hf).2.1) nofun ⟨now,hc,hslot⟩⟩
  case registering i c=>
    obtain ⟨now,-,hslot⟩:=htable.work
    simp only [Orderly,ServerOrderly,hserver] at hord
    simp only [registerClient,hord.2.2.1,hord.2.2.2,slotAt_of_getElem? hslot,
      Bool.not_true,Bool.false_eq_true,if_false,ne_eq,not_true_eq_false]
    exact ⟨h.running,h.segment,h.valid,h.locked,htable.register⟩
  case finishing i=>
    obtain ⟨c,now,hc,hknown,hslot⟩:=htable.work
    refine ⟨h.running,h.segment,h.valid,h.locked,htable.overwrite rfl hslot nofun ?_ (.inl rfl)
      ⟨_,getElem?_modify_of_some hslot _,nofun⟩⟩
    intro c' now' hc' heq
    obtain ⟨hname,hpid⟩:=request_inj heq
    rwa [← htable.apart c c' hc hc' hname hpid]
  case clearing i written=>
    obtain ⟨r,hslot,hstatus⟩:=htable.work
    have hcleared:=status_clearWrite hstatus written
    refine ⟨h.running,h.segment,h.valid,h.locked,htable.overwrite rfl hslot hcleared ?_ ?_ ?_⟩
    · rintro c now hc rfl
      exact absurd rfl hstatus
    · dsimp only
      split
      · exact .inl rfl
      · exact .inr rfl
    · dsimp only
      split
      · exact ⟨_,getElem?_modify_of_some hslot _,hcleared⟩
      · trivial

lemma step (h : s.Inv who) (e : RegistrationEvent) (hord : s.Orderly who e) : (s.step who e).Inv who:=by
  cases e with
  | client c calls now=>exact h.clientStep c calls now hord
  | server calls=>exact h.serverStep calls hord

end Inv
end ShmRegistry
end SoftMessageBus
