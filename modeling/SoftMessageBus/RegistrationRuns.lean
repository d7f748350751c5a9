import SoftMessageBus.RegistrationSteps

/-!
# Clients that are connected are known to the server

A client counts as connected as soon as its request is filed.
-/
namespace SoftMessageBus
open StepRuns List

def ServerPhase.readSlot : ServerPhase→Option ℕ
  | .matching slot | .validating slot | .attaching slot | .registering slot _=>some slot
  | .cleaning | .opening | .looking _ | .finishing _ | .clearing _ _ | .answering _ _=>none

def ServerPhase.position : ServerPhase→ℕ
  | .cleaning | .opening=>0
  | .looking slot | .matching slot | .validating slot | .attaching slot | .registering slot _
  | .finishing slot | .clearing slot _ | .answering slot _=>slot

namespace ShmRegistry
variable {who : ℕ→RegistrationClient} {s : ShmRegistry}

section
variable (who) (s)

lemma server_clientStep (c : ℕ) (calls : StartCalls) (now : ℤ) :
    (s.clientStep who c calls now).server=s.server ∧
      (s.clientStep who c calls now).clients=s.clients ∧
      (s.clientStep who c calls now).passes=s.passes:=by
  unfold ShmRegistry.clientStep createSegment
  dsimp only
  split <;> (repeat' split) <;> exact ⟨rfl,rfl,rfl⟩

lemma phase_clientStep_of_ne {c c' : ℕ} (h : c'≠c) (calls : StartCalls) (now : ℤ) :
    (s.clientStep who c calls now).phase c'=s.phase c':=by
  unfold ShmRegistry.clientStep createSegment
  dsimp only
  split <;> (repeat' split) <;> first | exact Function.update_of_ne h _ _ | rfl

lemma phase_serverStep (calls : AcceptCalls) :
    (s.serverStep calls).phase=s.phase ∧ (s.serverStep calls).registrationLock=s.registrationLock:=by
  unfold ShmRegistry.serverStep registerClient
  dsimp only
  split <;> (repeat' split) <;> exact ⟨rfl,rfl⟩

end

lemma filed_step {c : ℕ} (h : (s.phase c).Filed) (e : RegistrationEvent) :
    ((s.step who e).phase c).Filed:=by
  cases e with
  | server calls=>
    change ((s.serverStep calls).phase c).Filed
    rwa [(s.phase_serverStep calls).1]
  | client c' calls now=>
    change ((s.clientStep who c' calls now).phase c).Filed
    by_cases heq : c=c'
    · subst heq
      have hself : ∀ p : ClientPhase, p.Filed→(Function.update s.phase c p c).Filed:=by
        intro p hp
        rwa [Function.update_self]
      cases hc : s.phase c with
      | assigning=>
        simp only [clientStep,hc]
        exact hself (.counting s.nextAvailableId) trivial
      | counting id=>
        simp only [clientStep,hc]
        exact hself (.releasing (some id)) trivial
      | releasing id=>
        cases id with
        | none=>
          rw [hc] at h
          exact h.elim
        | some id=>
          simp only [clientStep,hc]
          exact hself (.connected id) trivial
      | connected id=>
        simp only [clientStep,hc]
        trivial
      | idle | requesting | locking | scanning | filling | failed=>
        rw [hc] at h
        exact h.elim
    · rwa [s.phase_clientStep_of_ne who heq]

lemma requests_clientStep (h : s.Inv who) {c i c' : ℕ} {now' : ℤ}
    (hreq : Requests who (fillerOf s.registrationLock s.phase) s.slots i c' now') (calls : StartCalls) (now : ℤ) :
    Requests who
      (fillerOf (s.clientStep who c calls now).registrationLock (s.clientStep who c calls now).phase)
      (s.clientStep who c calls now).slots i c' now':=by
  have hframe : ∀ p : ClientPhase, (s.phase c).filler c=none→p.filler c=none→
      Requests who (fillerOf s.registrationLock (Function.update s.phase c p)) s.slots i c' now':=by
    intro p hold hnew
    rwa [fillerOf_update hold hnew]
  cases hc : s.phase c
  all_goals simp only [clientStep,hc]
  case idle=>
    simp only [createSegment]
    split
    · exact hframe _ (hc ▸ rfl) rfl
    split <;> exact hframe _ (hc ▸ rfl) rfl
  case requesting=>split <;> exact hframe _ (hc ▸ rfl) rfl
  case locking attempts=>
    split
    · exact hframe _ (hc ▸ rfl) rfl
    split
    · refine ⟨hreq.1,?_⟩
      change (fillerOf (some c) (Function.update s.phase c _)).map Filler.slot≠some i
      rw [fillerOf_update_self]
      intro heq
      cases heq
    · exact hframe _ (hc ▸ rfl) rfl
  case scanning j=>
    have hlock:=h.locked c (hc ▸ trivial)
    cases hr : s.slots[j]? with
    | none=>exact hframe _ (hc ▸ rfl) rfl
    | some r=>
      dsimp only
      split
      next hempty=>
        refine ⟨hreq.1,?_⟩
        change (fillerOf s.registrationLock (Function.update s.phase c _)).map Filler.slot≠some i
        rw [hlock,fillerOf_update_self]
        rintro ⟨⟩
        rw [hreq.1,Option.some.injEq] at hr
        rw [← hr] at hempty
        cases hempty
      next=>exact hframe _ (hc ▸ rfl) rfl
  case filling j written=>
    have hlock:=h.locked c (hc ▸ trivial)
    have hne : j≠i:=by
      rintro rfl
      refine hreq.2 ?_
      rw [hlock,fillerOf_some,hc]
      rfl
    refine ⟨(getElem?_modify_ne _ s.slots hne).trans hreq.1,?_⟩
    change (fillerOf s.registrationLock (Function.update s.phase c _)).map Filler.slot≠some i
    rw [hlock,fillerOf_update_self]
    split
    · exact fun heq=>hne (Option.some.inj heq)
    · intro heq
      cases heq
  case assigning=>exact hframe _ (hc ▸ rfl) rfl
  case counting id=>exact hframe _ (hc ▸ rfl) rfl
  case releasing id=>
    cases id with
    | none | some=>
      exact ⟨hreq.1,fun heq=>by cases heq⟩
  case connected id=>exact hreq
  case failed=>exact hreq

def Awaited (who : ℕ→RegistrationClient) (c passes : ℕ) (s : ShmRegistry) : Prop:=
  s.Known who c ∨ ∃ i now,
    Requests who (fillerOf s.registrationLock s.phase) s.slots i c now ∧
      (s.passes≤passes ∨ s.passes=passes+1 ∧ s.server.position ≤ i)

variable {c : ℕ}

lemma known_serverStep (h : s.Known who c) (calls : AcceptCalls) : (s.serverStep calls).Known who c:=by
  unfold serverStep registerClient
  dsimp only
  split <;> (repeat' split) <;> first | exact h | exact mem_append_left _ h

section
variable (h : s.Inv who) {passes : ℕ} (hc : (s.phase c).Filed) (haw : s.Awaited who c passes)
include h hc haw

lemma awaited_serverStep (calls : AcceptCalls) (hord : s.Orderly who (.server calls)) :
    (s.serverStep calls).Awaited who c passes:=by
  rcases haw with hknown | ⟨i,now,hreq,hpasses⟩
  · exact .inl (known_serverStep hknown calls)
  have htable:=h.table
  -- unless the slot is overwritten the request stays, and the position has to be accounted for
  have hwaits : ∀ {t : ShmRegistry}, t.registrationLock=s.registrationLock→
      t.phase=s.phase→t.slots[i]?=s.slots[i]?→
      (t.passes≤passes ∨ t.passes=passes+1 ∧ t.server.position ≤ i)→
      t.Awaited who c passes:=by
    intro t hlock hphase hslots hpos
    refine .inr ⟨i,now,⟨hslots.trans hreq.1,?_⟩,hpos⟩
    rw [hlock,hphase]
    exact hreq.2
  cases hserver : s.server
  all_goals
    rw [hserver] at htable hpasses
    simp only [serverStep,hserver]
  case cleaning=>exact hwaits rfl rfl rfl (hpasses.imp_right fun hnext=>⟨hnext.1,Nat.zero_le i⟩)
  case opening=>
    simp only [Orderly,ServerOrderly,hserver] at hord
    simp only [Nat.not_le.2 hord,if_false]
    exact hwaits rfl rfl rfl (hpasses.imp_right fun hnext=>⟨hnext.1,Nat.zero_le i⟩)
  case looking j=>
    cases hr : s.slots[j]? with
    | none=>
      refine hwaits rfl rfl rfl ?_
      change s.passes+1≤passes ∨ s.passes+1=passes+1 ∧ 0 ≤ i
      rcases hpasses with hle | ⟨-,hle⟩
      · omega
      · have hlt:=List.getElem?_eq_none_iff.1 hr
        have hpresent:=hreq.1
        rw [getElem?_eq_none (le_trans hlt hle)] at hpresent
        cases hpresent
    | some r=>
      dsimp only
      split
      next=>exact hwaits rfl rfl rfl hpasses
      next hpending=>
        refine hwaits rfl rfl rfl (hpasses.imp_right fun hnext=>⟨hnext.1,?_⟩)
        refine Nat.lt_of_le_of_ne hnext.2 ?_
        rintro rfl
        rw [hreq.1,Option.some.injEq] at hr
        exact hpending (hr ▸ rfl)
  case matching j=>split <;> exact hwaits rfl rfl rfl hpasses
  case validating j=>split <;> exact hwaits rfl rfl rfl hpasses
  case attaching j=>
    split
    · exact hwaits rfl rfl rfl hpasses
    split <;> exact hwaits rfl rfl rfl hpasses
  case registering j segment=>
    simp only [registerClient]
    split
    · exact hwaits rfl rfl rfl hpasses
    split <;> exact hwaits rfl rfl rfl hpasses
  case finishing j=>
    obtain ⟨c',now',hc',hknown,hslot⟩:=htable.work
    by_cases heq : j=i
    · subst heq
      rw [hreq.1,Option.some.injEq] at hslot
      obtain ⟨hname,hpid⟩:=request_inj hslot
      obtain rfl:=htable.apart c c' hc hc' hname hpid
      exact .inl hknown
    · exact hwaits rfl rfl (getElem?_modify_ne _ s.slots heq) hpasses
  case clearing j written=>
    obtain ⟨r,hslot,hstatus⟩:=htable.work
    have hne : j≠i:=by
      rintro rfl
      rw [hreq.1,Option.some.injEq] at hslot
      exact hstatus (hslot ▸ rfl)
    refine hwaits rfl rfl (getElem?_modify_ne _ s.slots hne) (hpasses.imp_right fun hnext=>⟨hnext.1,?_⟩)
    dsimp only
    split
    · exact hnext.2
    · exact Nat.lt_of_le_of_ne hnext.2 hne
  case answering j status=>exact htable.work.elim

lemma awaited_step (e : RegistrationEvent) (hord : s.Orderly who e) :
    (s.step who e).Awaited who c passes:=by
  cases e with
  | server calls=>exact awaited_serverStep h hc haw calls hord
  | client c' calls now=>
    obtain ⟨hserver,hclients,hpasses⟩:=s.server_clientStep who c' calls now
    change (s.clientStep who c' calls now).Awaited who c passes
    rw [Awaited,Known,hserver,hclients,hpasses]
    refine haw.imp_right ?_
    rintro ⟨i,now',hreq,hpos⟩
    exact ⟨i,now',requests_clientStep h hreq calls now,hpos⟩

end

lemma Inv.run (h : s.Inv who) {events : List RegistrationEvent}
    (hord : Along (ShmRegistry.step who) (Orderly who) s events) : (s.run who events).Inv who:=
  hord.foldl (fun t=>t.Inv who) (fun _ e ht he=>ht.step e he) h

lemma known_of_passes (h : s.Inv who) (hc : (s.phase c).Filed) {later : List RegistrationEvent}
    (hord : Along (ShmRegistry.step who) (Orderly who) s later)
    (hpasses : s.passes+2≤(s.run who later).passes) : (s.run who later).Known who c:=by
  have haw : s.Awaited who c s.passes:=by
    refine (h.table.known c hc).imp_right ?_
    rintro ⟨i,now,hreq⟩
    exact ⟨i,now,hreq,.inl le_rfl⟩
  obtain ⟨-,-,hknown | ⟨i,now,-,hpos⟩⟩:=hord.foldl
    (fun t=>t.Inv who ∧ (t.phase c).Filed ∧ t.Awaited who c s.passes)
    (fun t e ⟨hinv,hfiled,hwaits⟩ he=>⟨hinv.step e he,filed_step hfiled e,awaited_step hinv hfiled hwaits e he⟩)
    ⟨h,hc,haw⟩
  · exact hknown
  · change (s.run who later).passes≤_ ∨ (s.run who later).passes=_ ∧ _ at hpos
    omega

/-- In an undisturbed run every connected client has its entry after two more passes. -/
theorem connected_clients_known (who : ℕ→RegistrationClient) (events : List RegistrationEvent)
    (horderly : Along (ShmRegistry.step who) (Orderly who) initial events) :
    let s:=initial.run who events
    (∀ i, s.server.readSlot=some i→∃ c now, s.slots[i]?=some ((who c).request now)) ∧
      (∀ e∈s.clients, ∃ c, e=acceptedEntry who c) ∧
      ∀ c id, s.phase c = .connected id→
        (s.Known who c ∨ ∃ (i : ℕ) (now : ℤ), s.slots[i]?=some ((who c).request now)) ∧
        ∀ later, Along (ShmRegistry.step who) (Orderly who) s later→
          s.passes+2≤(s.run who later).passes→(s.run who later).Known who c:=by
  intro s
  have hinv : s.Inv who:=inv_initial.run horderly
  have hwork:=hinv.table.work
  refine ⟨?_,?_,?_⟩
  · intro i hi
    cases hserver : s.server with
    | matching | validating | attaching=>
      rw [hserver] at hi hwork
      obtain ⟨c,now,-,hslot⟩:=hwork
      cases hi
      exact ⟨c,now,hslot⟩
    | registering slot c=>
      rw [hserver] at hi hwork
      obtain ⟨now,-,hslot⟩:=hwork
      cases hi
      exact ⟨c,now,hslot⟩
    | cleaning | opening | looking | finishing | clearing | answering=>
      rw [hserver] at hi
      cases hi
  · intro e he
    obtain ⟨c,heq,-⟩:=hinv.table.entries e he
    exact ⟨c,heq⟩
  · intro c id hc
    have hfiled : (s.phase c).Filed:=hc ▸ trivial
    refine ⟨(hinv.table.known c hfiled).imp_right ?_,?_⟩
    · rintro ⟨i,now,hslot,-⟩
      exact ⟨i,now,hslot⟩
    · intro later hlater hpasses
      exact known_of_passes hinv hfiled hlater hpasses

section

def sampleClients : ℕ→RegistrationClient:=fun _=>⟨.ofMemory [97],7,3⟩
def sampleStart : RegistrationEvent:=.client 0 ⟨true,true,true,true,true,true,true,⟨.found,true⟩,true⟩ 5
def sampleAnswer : RegistrationEvent:=.server ⟨⟨.found,true⟩,true,true,true,true,true,true,.ok⟩

/-- A client registers, and the server then makes two passes. -/
theorem connected_clients_known_one_client :
    let s:=initial.run sampleClients (replicate 21 sampleStart)
    s.phase 0 = .connected 0 ∧ s.clients=[] ∧ (s.run sampleClients (replicate 54 sampleAnswer)).Known sampleClients 0:=by
  have hregistration : Along (ShmRegistry.step sampleClients) (Orderly sampleClients) initial
      (replicate 21 sampleStart):=by decide +kernel
  have hconnected : (initial.run sampleClients (replicate 21 sampleStart)).phase 0= .connected 0:=by decide +kernel
  refine ⟨hconnected,by decide +kernel,?_⟩
  refine ((connected_clients_known sampleClients _ hregistration).2.2 0 0 hconnected).2 _ ?_ ?_
  · decide +kernel
  · decide +kernel

def Quiet (s : ShmRegistry) : Prop:=
  s.server.workSlot=none ∧ ∀ r∈s.slots, r.status ≠ .pending
  deriving Decidable

lemma quiet_serverStep (h : s.Quiet) (calls : AcceptCalls) :
    (s.serverStep calls).Quiet ∧ (s.serverStep calls).clients=s.clients:=by
  obtain ⟨hserver,hslots⟩:=h
  cases hphase : s.server with
  | cleaning=>
    simp only [serverStep,hphase]
    exact ⟨⟨rfl,hslots⟩,trivial⟩
  | opening=>
    simp only [serverStep,hphase]
    split <;> exact ⟨⟨rfl,hslots⟩,rfl⟩
  | looking i=>
    simp only [serverStep,hphase]
    cases hr : s.slots[i]? with
    | none=>exact ⟨⟨rfl,hslots⟩,rfl⟩
    | some r=>
      dsimp only
      rw [if_neg (hslots r (mem_of_getElem? hr))]
      exact ⟨⟨rfl,hslots⟩,rfl⟩
  | matching | validating | attaching | registering | finishing | clearing | answering=>
    rw [hphase] at hserver
    cases hserver

lemma quiet_run (h : s.Quiet) (calls : List AcceptCalls) :
    (s.run who (calls.map .server)).clients=s.clients:=by
  induction calls generalizing s with
  | nil=>rfl
  | cons answer calls ih=>
    obtain ⟨hquiet,hclients⟩:=quiet_serverStep h answer
    exact (ih hquiet).trans hclients

/-- A request that is read while it is written is refused, and the client never known. -/
theorem request_read_while_written :
    let reading:=initial.run sampleClients
      (replicate 12 sampleStart++replicate 4 sampleAnswer)
    let s:=reading.run sampleClients
      (replicate 2 sampleAnswer++replicate 9 sampleStart)
    reading.server = .validating 0 ∧ (reading.slotAt 0).clientName = .empty ∧
      s.phase 0 = .connected 0 ∧
      ∀ calls : List AcceptCalls, ¬(s.run sampleClients (calls.map .server)).Known sampleClients 0:=by
  intro reading s
  refine ⟨by decide +kernel,by decide +kernel,by decide +kernel,?_⟩
  intro calls hknown
  have hquiet : s.Quiet:=by decide +kernel
  rw [Known,quiet_run hquiet,show s.clients=[] by decide +kernel] at hknown
  cases hknown

end
end ShmRegistry

/-! ## Registration slots and client identifiers -/

/-- The header of a server, and the identifiers of the clients that are connected. -/
structure ClientIds where
  clientCount : ℕ
  nextAvailableId : ℕ
  connected : List ℕ

/-- A client registers, clients disconnect, or the server writes the size of its list of clients
to the header. -/
inductive IdEvent where
  | register (name : CString) (pid : Int32) (key : UInt32) (calls : ValidationCalls)
    (lockAcquired slotEmpty : Bool)
  | disconnect (stays : ℕ→Bool)
  | count (clients : ℕ)

/-- `client_validate_registration_status` of a client that has its rings. -/
def clientValidateRegistrationStatus (clientId : ℕ) : Bool:=clientId<shmMaxClients

namespace ClientIds

/-- `shm_request_client_registration` assigns an identifier. -/
def assigns (s : ClientIds) : IdEvent→Bool
  | .register name pid key calls lockAcquired slotEmpty=>
    ShmLink.shmValidateClientRegistration
      {ShmLink.initial name pid with serverRunning:=true, clientCount:=s.clientCount}
      name pid key calls = .ok && lockAcquired && slotEmpty
  | _=>false

def step (s : ClientIds) (event : IdEvent) : ClientIds:=
  match event with
  | .register .. =>
    if s.assigns event then
      { clientCount:=s.clientCount+1
        nextAvailableId:=s.nextAvailableId+1
        connected:=s.connected++[s.nextAvailableId]}
    else s
  | .disconnect stays=>{s with connected:=s.connected.filter stays}
  | .count clients=>{s with clientCount:=clients}

/-- Every connected client passes its own check. -/
def Passes (s : ClientIds) : Prop:=∀ id∈s.connected, clientValidateRegistrationStatus id=true
def InRange (s : ClientIds) (event : IdEvent) : Prop:=s.assigns event=true→s.nextAvailableId<shmMaxClients

lemma passes_step_iff {s : ClientIds} (h : s.Passes) (event : IdEvent) :
    (s.step event).Passes ↔ s.InRange event:=by
  cases event with
  | register=>
    rw [step,InRange]
    split
    case isTrue hassigns=>
      rw [Passes,forall_mem_append]
      refine (and_iff_right h).trans ?_
      simp [hassigns,clientValidateRegistrationStatus]
    case isFalse hassigns=>exact iff_of_true h fun htrue=>absurd htrue hassigns
  | disconnect stays=>
    exact iff_of_true (fun id hid=>h id (mem_of_mem_filter hid)) nofun
  | count=>exact iff_of_true h nofun

/-- Exactly the clients that register after 1024 others fail their check. -/
theorem registration_checks_pass_iff (events : List IdEvent) :
    Along step (fun s event=>(s.step event).Passes) ⟨0,0,[]⟩ events ↔ Along step InRange ⟨0,0,[]⟩ events:=
  along_iff_of_invariant Passes (fun _ event h=>(passes_step_iff h event).2)
    (fun _ event h=>passes_step_iff h event) (fun _ hid=>absurd hid not_mem_nil) events

def sampleArrival : IdEvent:=.register (.ofMemory [97,0]) 1 1 ⟨.found,true⟩ true true

/-- One client comes and goes. -/
def visit : List IdEvent:=[sampleArrival,.count 1,.disconnect fun _=>false,.count 0]

lemma run_visits (n k : ℕ) : (replicate k visit).flatten.foldl step ⟨0,n,[]⟩=⟨0,n+k,[]⟩:=by
  induction k generalizing n with
  | zero=>rfl
  | succ k ih=>
    rw [replicate_succ,flatten_cons,foldl_append,Nat.add_comm k,← Nat.add_assoc]
    exact ih (n+1)

lemma along_visits (n k : ℕ) :
    Along step (fun s event=>(s.step event).connected.length≤1) ⟨0,n,[]⟩ ((replicate k visit).flatten++[sampleArrival]):=by
  induction k generalizing n with
  | zero=>exact ⟨le_rfl,trivial⟩
  | succ k ih=>exact ⟨le_rfl,le_rfl,Nat.zero_le 1,Nat.zero_le 1,ih (n+1)⟩

/-- After 1024 clients that came and went one by one, the next one is alone and fails its check. -/
theorem identifiers_run_out :
    ∃ events, Along step (fun s event=>(s.step event).connected.length≤1) ⟨0,0,[]⟩ events ∧
      ¬Along step (fun s event=>(s.step event).Passes) ⟨0,0,[]⟩ events:=by
  refine ⟨_,along_visits 0 shmMaxClients,fun h=>?_⟩
  have hlast:=h.append_right
  rw [run_visits] at hlast
  exact Bool.false_ne_true (hlast.1 _ mem_cons_self)

end ClientIds

/-- Every slot is EMPTY or PENDING, but for the one that the server has answered and clears next. -/
def Tidy (slots : List RegistrationSlot) (server : ServerPhase) : Prop:=
  ∀ i r, slots[i]?=some r → r.status = .empty ∨ r.status = .pending ∨ server = .clearing i 0

section
variable {slots : List RegistrationSlot} {server server' : ServerPhase} (h : Tidy slots server)
include h

lemma Tidy.move (hserver : ∀ i, server ≠ .clearing i 0) : Tidy slots server':=by
  intro i r hr
  rcases h i r hr with hempty | hpending | hclearing
  · exact .inl hempty
  · exact .inr (.inl hpending)
  · exact absurd hclearing (hserver i)

lemma Tidy.modify {i : ℕ} {write : SlotWrite} (hother : ∀ j≠i, server = .clearing j 0→server' = .clearing j 0)
    (hwrite : ∀ r : RegistrationSlot,
      (r.status = .empty ∨ r.status = .pending ∨ server = .clearing i 0)→
      ((write r).status = .empty ∨ (write r).status = .pending ∨ server' = .clearing i 0)) :
    Tidy (slots.modify i write) server':=by
  intro j r hr
  rw [getElem?_modify,Option.map_eq_map] at hr
  obtain ⟨old,hold,rfl⟩:=Option.map_eq_some_iff.1 hr
  by_cases hij : i=j
  · subst hij
    rw [if_pos rfl]
    exact hwrite old (h i old hold)
  · rw [if_neg hij]
    exact (h j old hold).imp_right (Or.imp_right (hother j (Ne.symm hij)))

end

lemma status_fillWrite (request : RegistrationSlot) (hreq : request.status = .pending)
    (written : ℕ) (r : RegistrationSlot) :
    ((fillWrites request).getD written id r).status=r.status ∨
      ((fillWrites request).getD written id r).status = .empty ∨
      ((fillWrites request).getD written id r).status = .pending:=by
  match written with
  | 0=>exact .inr (.inl rfl)
  | 7=>exact .inr (.inr hreq)
  | 1 | 2 | 3 | 4 | 5 | 6 | 8 | 9 | 10 | 11 | 12 | 13=>exact .inl rfl
  | _+14=>exact .inl rfl

lemma clearWrite_status {r : RegistrationSlot} {written : ℕ} (h : r.status = .empty ∨ r.status = .pending ∨ written=0) :
    (clearWrites.getD written id r).status = .empty ∨ (clearWrites.getD written id r).status = .pending:=by
  match written with
  | 0 | 7=>exact .inl rfl
  | 1 | 2 | 3 | 4 | 5 | 6=>exact h.imp_right (Or.resolve_right · nofun)
  | _+8=>exact h.imp_right (Or.resolve_right · nofun)

namespace ShmRegistry

/-- The slots that the server has processed become EMPTY again. -/
def Recycles (s : ShmRegistry) : Prop:=(∀ slot status, s.server ≠ .answering slot status) ∧ Tidy s.slots s.server

/-- The slots are recycled, and the clients pass over a slot only for an unprocessed request. -/
def RecyclesAt (who : ℕ→RegistrationClient) (s : ShmRegistry) (event : RegistrationEvent) : Prop:=
  (s.step who event).Recycles ∧
    ∀ c i r, s.phase c = .scanning i→s.slots[i]?=some r → r.status ≠ .empty→ r.status = .pending ∨ s.server = .clearing i 0

/-- The request that the server works on is new and valid, and no call fails. -/
def Serves (s : ShmRegistry) : RegistrationEvent→Prop
  | .client _ _ _=>True
  | .server calls=>
    match s.server with
    | .matching slot=>⟨(s.slotAt slot).clientName,(s.slotAt slot).clientPid⟩ ∉
        s.clients.map AcceptedClient.toShmServerClient
    | .validating slot=>s.shmValidateClientRegistration (s.slotAt slot).clientName
        (s.slotAt slot).clientPid (s.slotAt slot).clientShmKey calls.validation = .ok
    | .attaching slot=>(s.segments (s.slotAt slot).clientShmKey).isSome=true ∧
        (calls.segmentFound && calls.segmentAttached && calls.sizeKnown)=true
    | .registering _ _=>
      (calls.infoAllocated && calls.txHandleAllocated && calls.rxHandleAllocated)=true ∧ calls.listPushed = .ok
    | _=>True

variable {who : ℕ→RegistrationClient} {s : ShmRegistry}

lemma slots_clientStep (s : ShmRegistry) (c : ℕ) (calls : StartCalls) (now : ℤ) :
    (s.clientStep who c calls now).slots=s.slots ∨ ∃ i written,
      (s.clientStep who c calls now).slots=s.slots.modify i ((fillWrites ((who c).request now)).getD written id):=by
  unfold clientStep createSegment
  dsimp only
  split <;> (repeat' split) <;> first | exact .inl rfl | exact .inr ⟨_,_,rfl⟩

lemma Recycles.clientStep (h : s.Recycles) (c : ℕ) (calls : StartCalls) (now : ℤ) :
    (s.clientStep who c calls now).Recycles:=by
  rw [Recycles,(s.server_clientStep who c calls now).1]
  refine ⟨h.1,?_⟩
  rcases s.slots_clientStep c calls now with heq | ⟨i,written,heq⟩
  · rw [heq]
    exact h.2
  · rw [heq]
    refine h.2.modify (fun _ _=>id) fun r hr=>?_
    rcases status_fillWrite ((who c).request now) rfl written r with hw | hw | hw
    · rw [hw]
      exact hr
    · exact .inl hw
    · exact .inr (.inl hw)

lemma recycles_serverStep_iff (h : s.Recycles) (calls : AcceptCalls) :
    (s.serverStep calls).Recycles ↔ s.Serves (.server calls):=by
  obtain ⟨hanswer,htidy⟩:=h
  cases hphase : s.server
  case answering slot status=>exact absurd hphase (hanswer slot status)
  all_goals
    rw [hphase] at htidy
    simp only [serverStep,Serves,hphase,registerClient,endPass]
  case cleaning=>exact iff_of_true ⟨by simp,htidy.move (by simp)⟩ trivial
  case opening=>
    refine iff_of_true ?_ trivial
    split <;> exact ⟨by simp,htidy.move (by simp)⟩
  case looking slot=>
    refine iff_of_true ?_ trivial
    split
    · exact ⟨by simp,htidy.move (by simp)⟩
    · split <;> exact ⟨by simp,htidy.move (by simp)⟩
  case matching slot=>
    split
    case isTrue hmem=>exact iff_of_false (fun h=>h.1 _ _ rfl) (not_not_intro hmem)
    case isFalse hmem=>exact iff_of_true ⟨by simp,htidy.move (by simp)⟩ hmem
  case validating slot=>
    split
    case isTrue hvalid=>exact iff_of_true ⟨by simp,htidy.move (by simp)⟩ hvalid
    case isFalse hvalid=>exact iff_of_false (fun h=>h.1 _ _ rfl) hvalid
  case attaching slot=>
    split
    case h_1 hnone=>exact iff_of_false (fun h=>h.1 _ _ rfl) (by simp [hnone])
    case h_2 segment hsome=>
      split
      case isTrue hcalls=>exact iff_of_true ⟨by simp,htidy.move (by simp)⟩ ⟨by simp [hsome],hcalls⟩
      case isFalse hcalls=>exact iff_of_false (fun h=>h.1 _ _ rfl) fun h=>hcalls h.2
  case registering slot segment=>
    split
    case isTrue hcalls=>exact iff_of_false (fun h=>h.1 _ _ rfl) fun h=>by simp [h.1] at hcalls
    case isFalse hcalls=>
      split
      case isTrue hpushed=>exact iff_of_false (fun h=>h.1 _ _ rfl) fun h=>hpushed h.2
      case isFalse hpushed=>exact iff_of_true ⟨by simp,htidy.move (by simp)⟩ ⟨by simpa using hcalls,not_not.1 hpushed⟩
  case finishing slot=>exact iff_of_true ⟨by simp,htidy.modify (by simp) fun _ _=>.inr (.inr rfl)⟩ trivial
  case clearing slot written=>
    refine iff_of_true ⟨fun i status=>?_,htidy.modify (fun j hj heq=>?_) fun r hr=>?_⟩ trivial
    · split <;> exact ServerPhase.noConfusion
    · cases heq
      exact absurd rfl hj
    · refine (clearWrite_status (hr.imp_right (Or.imp_right fun heq=>?_))).imp_right .inl
      cases heq
      rfl

lemma recyclesAt_iff (h : s.Recycles) (event : RegistrationEvent) :
    s.RecyclesAt who event ↔ s.Serves event:=by
  refine (and_iff_left ?_).trans ?_
  · intro c i r _ hr hempty
    exact (h.2 i r hr).resolve_left hempty
  · cases event with
    | client c calls now=>exact iff_of_true (h.clientStep c calls now) trivial
    | server calls=>exact recycles_serverStep_iff h calls

/-- Exactly the requests that do not lead to a new registration use up their slots. -/
theorem slots_recycled_iff (who : ℕ→RegistrationClient) (events : List RegistrationEvent) :
    Along (step who) (RecyclesAt who) initial events ↔ Along (step who) Serves initial events:=by
  refine along_iff_of_invariant Recycles (fun s event h hserves=>?_)
    (fun s event h=>recyclesAt_iff h event) ⟨fun i status h=>?_,fun i r hr=>.inl ?_⟩ events
  · exact ((recyclesAt_iff h event).2 hserves).1
  · cases h
  · rw [eq_of_mem_replicate (mem_of_getElem? hr)]
    rfl

/-- A client that has died after its request loses its slot, also for the next pass. -/
theorem refused_request_keeps_slot :
    ¬Along (step sampleClients) (RecyclesAt sampleClients) initial
      (replicate 21 sampleStart++replicate 4 sampleAnswer++
        replicate 2 (.server ⟨⟨.notFound,true⟩,true,true,true,true,true,true,.ok⟩)):=by
  intro h
  have htidy:=h.append_right.2.1.1.2 0 _ (Option.some_get (by decide +kernel)).symm
  exact absurd htidy (by decide +kernel)

end ShmRegistry

end SoftMessageBus
