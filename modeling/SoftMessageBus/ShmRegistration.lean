import SoftMessageBus.ShmTransport
import Mathlib.Tactic.IntervalCases

/-!
# Registration of many clients over shared memory

Clients file requests while the server loop answers them.
-/
namespace SoftMessageBus
open List

/-- `ZOO_SMB_SHM_CLIENT_REGISTRATION` with all the fields that a client writes. -/
structure RegistrationSlot extends Registration where
  clientShmSize : ℕ
  clientEventFd : Int32
  timestamp : ℤ
  deriving DecidableEq

def RegistrationSlot.cleared : RegistrationSlot:=⟨.cleared,0,0,0⟩

/-- What a client process brings to its registration. -/
structure RegistrationClient where
  configName : CString
  pid : Int32
  eventFd : Int32
  deriving DecidableEq

namespace RegistrationClient
variable (c : RegistrationClient)

def name : CString:=c.configName.truncate (maxTransportNameLength-1)

/-- `client_info->shm_key`. -/
@[irreducible]
def shmKey : UInt32:=shmGenerateKey c.name c.pid
def request (now : ℤ) : RegistrationSlot:=⟨⟨.pending,c.name,c.pid,c.shmKey⟩,shmClientSize,c.eventFd,now⟩

end RegistrationClient

/-- An entry of `client_list`, with the client that created its segment. -/
structure AcceptedClient extends ShmServerClient where
  segment : ℕ
  deriving DecidableEq

def acceptedEntry (who : ℕ→RegistrationClient) (c : ℕ) : AcceptedClient:=⟨⟨(who c).name,(who c).pid⟩,c⟩

abbrev SlotWrite:=RegistrationSlot→RegistrationSlot

def copyFields (source : RegistrationSlot) : List SlotWrite:=
  [fun r=>{r with status:=source.status},
    fun r=>{r with clientName:=source.clientName},
    fun r=>{r with clientPid:=source.clientPid},
    fun r=>{r with clientShmKey:=source.clientShmKey},
    fun r=>{r with clientShmSize:=source.clientShmSize},
    fun r=>{r with clientEventFd:=source.clientEventFd},
    fun r=>{r with timestamp:=source.timestamp}]

/-- The writes of a client that has found an empty slot: `memset`, then the fields, the
status first. -/
def fillWrites (request : RegistrationSlot) : List SlotWrite:=copyFields .cleared++copyFields request

/-- The writes of the server after a successful registration: `memset`, then the status. -/
def clearWrites : List SlotWrite:=copyFields .cleared++[fun r=>{r with status:=.empty}]

/-- How far `client_register_with_server` has come. -/
inductive ClientPhase where
  | idle
  | requesting
  | locking (attempts : ℕ)
  | scanning (slot : ℕ)
  | filling (slot written : ℕ)
  | assigning
  | counting (id : ℕ)
  | releasing (id : Option ℕ)
  | connected (id : ℕ)
  | failed
  deriving DecidableEq

/-- How far the server loop has come. -/
inductive ServerPhase where
  | cleaning
  | opening
  | looking (slot : ℕ)
  | matching (slot : ℕ)
  | validating (slot : ℕ)
  | attaching (slot : ℕ)
  | registering (slot segment : ℕ)
  | finishing (slot : ℕ)
  | clearing (slot written : ℕ)
  | answering (slot : ℕ) (status : RegistrationStatus)
  deriving DecidableEq

/-- The header and registration area, the segments by their keys, the clients and the server. -/
structure ShmRegistry where
  serverRunning : Bool
  clientCount : ℕ
  maxClients : ℕ
  registrationLock : Option ℕ
  nextAvailableId : ℕ
  slots : List RegistrationSlot
  segments : UInt32→Option ℕ
  phase : ℕ→ClientPhase
  server : ServerPhase
  clients : List AcceptedClient
  passes : ℕ

/-- A step of one of the clients or of the server, with what the system answers. -/
inductive RegistrationEvent where
  | client (c : ℕ) (calls : StartCalls) (now : ℤ)
  | server (calls : AcceptCalls)
  deriving DecidableEq

/-- `max_attempts` at the registration lock. -/
def maxLockAttempts : ℕ:=100

namespace ShmRegistry

/-- A server that has just started, and clients that have not. -/
def initial : ShmRegistry where
  serverRunning:=true
  clientCount:=0
  maxClients:=shmMaxClients
  registrationLock:=none
  nextAvailableId:=0
  slots:=replicate shmMaxPendingRegistrations .cleared
  segments:=fun _=>none
  phase:=fun _=>.idle
  server:=.cleaning
  clients:=[]
  passes:=0

section
variable (who : ℕ→RegistrationClient) (s : ShmRegistry)

def setPhase (c : ℕ) (phase : ClientPhase) : ShmRegistry:={s with phase:=Function.update s.phase c phase}

/-- `shm_validate_client_registration`; `shmget` finds no segment under a key that has none. -/
def shmValidateClientRegistration (clientName : CString) (clientPid : Int32)
    (clientShmKey : UInt32) (calls : ValidationCalls) : ErrorType:=
  ShmLink.shmValidateClientRegistration
    {ShmLink.initial clientName clientPid with
      serverRunning:=s.serverRunning
      clientCount:=s.clientCount
      maxClients:=s.maxClients}
    clientName clientPid clientShmKey
    {calls with segmentFound:=calls.segmentFound && (s.segments clientShmKey).isSome}

/-- `shm_cleanup_client_resources` removes the segment of the client, and the registration has
failed. -/
def fail (c : ℕ) : ShmRegistry:=
  let key:=(who c).shmKey
  {s with
    segments:=if s.segments key=some c then Function.update s.segments key none else s.segments
    phase:=Function.update s.phase c .failed}

/-- `client_register_with_server` up to the request. -/
def createSegment (c : ℕ) (calls : StartCalls) : ShmRegistry:=
  let key:=(who c).shmKey
  if !(calls.infoAllocated && calls.eventFdCreated) then s.setPhase c .failed
  else if !(calls.segmentCreated && calls.segmentAttached && calls.txHandleAllocated &&
      calls.rxHandleAllocated) then
    {s.setPhase c .failed with segments:=Function.update s.segments key none}
  else {s.setPhase c .requesting with segments:=Function.update s.segments key (some c)}

/-- The next step of a client in `client_register_with_server` and
`shm_request_client_registration`. -/
def clientStep (c : ℕ) (calls : StartCalls) (now : ℤ) : ShmRegistry:=
  let client:=who c
  match s.phase c with
  | .idle=>s.createSegment who c calls
  | .requesting=>
    if s.shmValidateClientRegistration client.name client.pid client.shmKey calls.validation=
        .ok then s.setPhase c (.locking 0)
    else s.fail who c
  | .locking attempts=>
    if maxLockAttempts≤attempts then s.fail who c
    else if s.registrationLock=none then
      {s.setPhase c (.scanning 0) with registrationLock:=some c}
    else s.setPhase c (.locking (attempts+1))
  | .scanning slot=>
    match s.slots[slot]? with
    | none=>s.setPhase c (.releasing none)
    | some r=>
      if r.status = .empty then s.setPhase c (.filling slot 0)
      else s.setPhase c (.scanning (slot+1))
  | .filling slot written=>
    let writes:=fillWrites (client.request now)
    let next:=if written+1<writes.length then .filling slot (written+1) else .assigning
    {s.setPhase c next with slots:=s.slots.modify slot (writes.getD written id)}
  | .assigning=>
    {s.setPhase c (.counting s.nextAvailableId) with nextAvailableId:=s.nextAvailableId+1}
  | .counting id=>
    {s.setPhase c (.releasing (some id)) with clientCount:=s.clientCount+1}
  | .releasing (some id)=>{s.setPhase c (.connected id) with registrationLock:=none}
  | .releasing none=>{s.fail who c with registrationLock:=none}
  | .connected _=>s
  | .failed=>s

/-- A pass of `shm_server_accept_new_clients` ends. -/
def endPass : ShmRegistry:={s with server:=.cleaning, passes:=s.passes+1}
def slotAt (slot : ℕ) : RegistrationSlot:=s.slots.getD slot .cleared

def registerClient (slot segment : ℕ) (calls : AcceptCalls) : ShmRegistry:=
  let r:=s.slotAt slot
  if !(calls.infoAllocated && calls.txHandleAllocated && calls.rxHandleAllocated) then
    {s with server:=.answering slot .failed}
  else if calls.listPushed ≠ .ok then
    {s with
      server:=.answering slot .failed
      segments:=
        if s.segments r.clientShmKey=some segment then
          Function.update s.segments r.clientShmKey none
        else s.segments}
  else
    {s with
      server:=.finishing slot
      clients:=s.clients++[⟨⟨r.clientName,r.clientPid⟩,segment⟩]
      clientCount:=s.clients.length+1}

def serverStep (calls : AcceptCalls) : ShmRegistry:=
  match s.server with
  | .cleaning=>{s with server:=.opening, clientCount:=s.clients.length}
  | .opening=>
    if s.maxClients ≤ s.clientCount then s.endPass else {s with server:=.looking 0}
  | .looking slot=>
    match s.slots[slot]? with
    | none=>s.endPass
    | some r=>
      if r.status = .pending then {s with server:=.matching slot}
      else {s with server:=.looking (slot+1)}
  | .matching slot=>
    let r:=s.slotAt slot
    if ⟨r.clientName,r.clientPid⟩∈s.clients.map AcceptedClient.toShmServerClient then
      {s with server:=.answering slot .success}
    else {s with server:=.validating slot}
  | .validating slot=>
    let r:=s.slotAt slot
    if s.shmValidateClientRegistration r.clientName r.clientPid r.clientShmKey calls.validation=
        .ok then {s with server:=.attaching slot}
    else {s with server:=.answering slot .failed}
  | .attaching slot=>
    match s.segments (s.slotAt slot).clientShmKey with
    | none=>{s with server:=.answering slot .failed}
    | some segment=>
      if calls.segmentFound && calls.segmentAttached && calls.sizeKnown then
        {s with server:=.registering slot segment}
      else {s with server:=.answering slot .failed}
  | .registering slot segment=>s.registerClient slot segment calls
  | .finishing slot=>
    {s with
      server:=.clearing slot 0
      slots:=s.slots.modify slot fun r=>{r with status:=.success} }
  | .clearing slot written=>
    {s with
      server:=
        if written+1<clearWrites.length then .clearing slot (written+1)
        else .looking (slot+1)
      slots:=s.slots.modify slot (clearWrites.getD written id)}
  | .answering slot status=>
    {s with
      server:=.looking (slot+1)
      slots:=s.slots.modify slot fun r=>{r with status:=status} }

def step : RegistrationEvent→ShmRegistry
  | .client c calls now=>s.clientStep who c calls now
  | .server calls=>s.serverStep calls

def run (events : List RegistrationEvent) : ShmRegistry:=events.foldl (step who) s
def Known (c : ℕ) : Prop:=acceptedEntry who c∈s.clients

end
end ShmRegistry

structure Filler where
  client : ℕ
  slot : ℕ
  written : ℕ
  deriving DecidableEq

def ServerPhase.workSlot : ServerPhase→Option ℕ
  | .cleaning | .opening | .looking _=>none
  | .matching slot | .validating slot | .attaching slot | .registering slot _
  | .finishing slot | .clearing slot _ | .answering slot _=>some slot

def fillTo (client : RegistrationClient) (written : ℕ) (r : RegistrationSlot) : RegistrationSlot:=
  ((fillWrites (client.request 0)).take written).foldl (fun r write=>write r) r

variable (client : RegistrationClient) (now : ℤ) (r : RegistrationSlot)

lemma fillTo_succ {written : ℕ} (h : written<13) :
    (fillWrites (client.request now)).getD written id (fillTo client written r)=fillTo client (written+1) r:=by
  interval_cases written <;> rfl

lemma fillTo_last : (fillWrites (client.request now)).getD 13 id (fillTo client 13 r)=client.request now:=rfl

lemma status_clearWrite {r : RegistrationSlot} (h : r.status ≠ .pending) (written : ℕ) :
    (clearWrites.getD written id r).status ≠ .pending:=by
  match written with
  | 0=>exact nofun
  | 1 | 2 | 3 | 4 | 5 | 6=>exact h
  | 7=>exact nofun
  | _+8=>exact h

section
variable (who : ℕ→RegistrationClient)

def Requests (filler : Option Filler) (slots : List RegistrationSlot) (slot c : ℕ) (now : ℤ) : Prop:=
  slots[slot]?=some ((who c).request now) ∧ filler.map Filler.slot≠some slot

def SoundWork (filed : ℕ→Prop) (slots : List RegistrationSlot) (clients : List AcceptedClient) :
    ServerPhase→Prop
  | .cleaning | .opening | .looking _=>True
  | .matching slot | .validating slot | .attaching slot=>
    ∃ c now, filed c ∧ slots[slot]?=some ((who c).request now)
  | .registering slot c=>∃ now, filed c ∧ slots[slot]?=some ((who c).request now)
  | .finishing slot=>
    ∃ c now, filed c ∧ acceptedEntry who c∈clients ∧ slots[slot]?=some ((who c).request now)
  | .clearing slot _=>∃ r, slots[slot]?=some r ∧ r.status ≠ .pending
  | .answering _ _=>False

structure SoundTable (filler : Option Filler) (filed : ℕ→Prop) (slots : List RegistrationSlot)
    (server : ServerPhase) (clients : List AcceptedClient) : Prop where
  filling : ∀ f, filler=some f→f.written<14 ∧ server.workSlot≠some f.slot ∧
    ∃ r, slots[f.slot]?=some (fillTo (who f.client) f.written r)
  pending : ∀ i r, slots[i]?=some r → r.status = .pending→
    filler.map Filler.slot≠some i→∃ c now, r=(who c).request now ∧ filed c
  known : ∀ c, filed c→acceptedEntry who c∈clients ∨ ∃ i now, Requests who filler slots i c now
  once : ∀ c i j now now', filed c→Requests who filler slots i c now→Requests who filler slots j c now' → i=j
  fresh : ∀ c i now, filed c→acceptedEntry who c∈clients→ Requests who filler slots i c now→server = .finishing i
  entries : ∀ e∈clients, ∃ c, e=acceptedEntry who c ∧ filed c
  apart : ∀ c c', filed c→filed c' → (who c).name=(who c').name→(who c).pid=(who c').pid→c=c'
  work : SoundWork who filed slots clients server

variable {who} {filler : Option Filler} {filed : ℕ→Prop} {slots : List RegistrationSlot}
  {server server' : ServerPhase} {clients : List AcceptedClient}

lemma request_inj {client client' : RegistrationClient} {now now' : ℤ}
    (h : client.request now=client'.request now') : client.name=client'.name ∧ client.pid=client'.pid:=by
  simp only [RegistrationClient.request,RegistrationSlot.mk.injEq,Registration.mk.injEq] at h
  exact ⟨h.1.2.1,h.1.2.2.1⟩

lemma getElem?_modify_of_some {i : ℕ} {r : RegistrationSlot} (h : slots[i]?=some r)
    (write : SlotWrite) : (slots.modify i write)[i]?=some (write r):=by simp [h]

lemma SoundWork.modify {filed' : ℕ→Prop} (h : SoundWork who filed slots clients server)
    (hfiled : ∀ c, filed c→filed' c) {i : ℕ} (hi : server.workSlot≠some i)
    (write : SlotWrite) : SoundWork who filed' (slots.modify i write) clients server:=by
  cases server with
  | cleaning | opening | looking=>trivial
  | matching slot | validating slot | attaching slot=>
    obtain ⟨c,now,hc,hslot⟩:=h
    refine ⟨c,now,hfiled c hc,(getElem?_modify_ne write slots ?_).trans hslot⟩
    rintro rfl
    exact hi rfl
  | registering slot c=>
    obtain ⟨now,hc,hslot⟩:=h
    refine ⟨now,hfiled c hc,(getElem?_modify_ne write slots ?_).trans hslot⟩
    rintro rfl
    exact hi rfl
  | finishing slot=>
    obtain ⟨c,now,hc,hknown,hslot⟩:=h
    refine ⟨c,now,hfiled c hc,hknown,(getElem?_modify_ne write slots ?_).trans hslot⟩
    rintro rfl
    exact hi rfl
  | clearing slot written=>
    obtain ⟨r,hslot,hstatus⟩:=h
    refine ⟨r,(getElem?_modify_ne write slots ?_).trans hslot,hstatus⟩
    rintro rfl
    exact hi rfl
  | answering=>exact h

namespace SoundTable
variable {i : ℕ}

lemma unclaimed (h : SoundTable who filler filed slots server clients)
    (hi : server.workSlot=some i) : filler.map Filler.slot≠some i:=by
  intro hbusy
  obtain ⟨f,hf,rfl⟩:=Option.map_eq_some_iff.1 hbusy
  exact (h.filling f hf).2.1 hi

lemma move (h : SoundTable who filler filed slots server clients)
    (hbusy : ∀ f, filler=some f→server'.workSlot≠some f.slot)
    (hfin : ∀ i, server ≠ .finishing i) (hwork : SoundWork who filed slots clients server') :
    SoundTable who filler filed slots server' clients where
  filling f hf:=⟨(h.filling f hf).1,hbusy f hf,(h.filling f hf).2.2⟩
  pending:=h.pending
  known:=h.known
  once:=h.once
  fresh c i now hc hknown hrequest:=absurd (h.fresh c i now hc hknown hrequest) (hfin i)
  entries:=h.entries
  apart:=h.apart
  work:=hwork

variable {c : ℕ}

lemma register (h : SoundTable who filler filed slots (.registering i c) clients) :
    SoundTable who filler filed slots (.finishing i) (clients++[acceptedEntry who c]) where
  filling:=h.filling
  pending:=h.pending
  known c' hc':=(h.known c' hc').imp_left (mem_append_left _)
  once:=h.once
  fresh c' j now hc' hknown hrequest:=by
    rcases mem_append.1 hknown with hold | hnew
    · exact absurd (h.fresh c' j now hc' hold hrequest) nofun
    · have heq : c'=c:=congrArg AcceptedClient.segment (mem_singleton.1 hnew)
      subst heq
      obtain ⟨now',-,hslot⟩:=h.work
      rw [h.once c' j i now now' hc' hrequest ⟨hslot,h.unclaimed rfl⟩]
  entries e he:=by
    rcases mem_append.1 he with hold | hnew
    · exact h.entries e hold
    · obtain ⟨now,hc,-⟩:=h.work
      exact ⟨c,mem_singleton.1 hnew,hc⟩
  apart:=h.apart
  work:=by
    obtain ⟨now,hc,hslot⟩:=h.work
    exact ⟨c,now,hc,mem_append_right _ mem_cons_self,hslot⟩

lemma overwrite {r : RegistrationSlot} {write : SlotWrite}
    (h : SoundTable who filler filed slots server clients) (hi : server.workSlot=some i)
    (hslot : slots[i]?=some r) (hstatus : (write r).status ≠ .pending)
    (hdone : ∀ c now, filed c → r=(who c).request now→acceptedEntry who c∈clients)
    (hserver : server'.workSlot=some i ∨ server'.workSlot=none)
    (hwork : SoundWork who filed (slots.modify i write) clients server') :
    SoundTable who filler filed (slots.modify i write) server' clients:=by
  have hnew:=getElem?_modify_of_some hslot write
  -- the requests afterwards are those before, apart from the one in the slot
  have hreq : ∀ {j c now}, Requests who filler (slots.modify i write) j c now→
      j≠i ∧ Requests who filler slots j c now:=by
    rintro j c now ⟨hj,hfree⟩
    have hne : j≠i:=by
      rintro rfl
      rw [hnew,Option.some.injEq] at hj
      exact hstatus (by rw [hj]; rfl)
    exact ⟨hne,(getElem?_modify_ne write slots hne.symm).symm.trans hj,hfree⟩
  refine ⟨?_,?_,?_,?_,?_,h.entries,h.apart,hwork⟩
  · intro f hf
    obtain ⟨hlt,hbusy,r',hr'⟩:=h.filling f hf
    have hne : i≠f.slot:=by
      rintro rfl
      exact hbusy hi
    refine ⟨hlt,?_,r',(getElem?_modify_ne write slots hne).trans hr'⟩
    rcases hserver with hserver | hserver
    · rw [hserver]
      exact hi ▸ hbusy
    · rw [hserver]
      exact nofun
  · intro j r' hj hpending hfree
    have hne : i≠j:=by
      rintro rfl
      rw [hnew,Option.some.injEq] at hj
      exact hstatus (hj ▸ hpending)
    exact h.pending j r' ((getElem?_modify_ne write slots hne).symm.trans hj) hpending hfree
  · intro c hc
    rcases h.known c hc with hknown | ⟨j,now,hj,hfree⟩
    · exact .inl hknown
    by_cases hne : i=j
    · subst hne
      rw [hslot,Option.some.injEq] at hj
      exact .inl (hdone c now hc hj)
    · exact .inr ⟨j,now,(getElem?_modify_ne write slots hne).trans hj,hfree⟩
  · intro c j k now now' hc hj hk
    exact h.once c j k now now' hc (hreq hj).2 (hreq hk).2
  · intro c j now hc hknown hj
    obtain ⟨hne,hold⟩:=hreq hj
    rw [h.fresh c j now hc hknown hold] at hi
    exact absurd (Option.some.inj hi) hne

lemma claim {r : RegistrationSlot} (h : SoundTable who none filed slots server clients)
    (hslot : slots[i]?=some r) (hempty : r.status = .empty) (hi : server.workSlot≠some i) :
    SoundTable who (some ⟨c,i,0⟩) filed slots server clients:=by
  have hreq : ∀ {j c' now}, Requests who (some ⟨c,i,0⟩) slots j c' now→
      Requests who none slots j c' now:=fun hj=>⟨hj.1,nofun⟩
  refine ⟨?_,?_,?_,?_,?_,h.entries,h.apart,h.work⟩
  · rintro f ⟨⟩
    exact ⟨Nat.succ_pos 13,hi,r,hslot⟩
  · intro j r' hj hpending _
    exact h.pending j r' hj hpending nofun
  · intro c' hc'
    refine (h.known c' hc').imp_right ?_
    rintro ⟨j,now,hj,-⟩
    refine ⟨j,now,hj,?_⟩
    rintro ⟨⟩
    rw [hslot,Option.some.injEq] at hj
    rw [hj] at hempty
    cases hempty
  · intro c' j k now now' hc' hj hk
    exact h.once c' j k now now' hc' (hreq hj) (hreq hk)
  · intro c' j now hc' hknown hj
    exact h.fresh c' j now hc' hknown (hreq hj)

lemma write {written : ℕ} (now : ℤ) (h : SoundTable who (some ⟨c,i,written⟩) filed slots server clients)
    (hwritten : written<13) :
    SoundTable who (some ⟨c,i,written+1⟩) filed
      (slots.modify i ((fillWrites ((who c).request now)).getD written id)) server clients:=by
  obtain ⟨-,hi,r,hslot⟩:=h.filling _ rfl
  have hslots : ∀ {j}, some i≠some j→
      (slots.modify i ((fillWrites ((who c).request now)).getD written id))[j]?=slots[j]?:=
    fun hne=>getElem?_modify_ne _ slots (fun heq=>hne (congrArg some heq))
  have hreq : ∀ {j c' now'}, Requests who (some ⟨c,i,written+1⟩)
      (slots.modify i ((fillWrites ((who c).request now)).getD written id)) j c' now' ↔
      Requests who (some ⟨c,i,written⟩) slots j c' now':=by
    intro j c' now'
    refine and_congr_left fun hfree=>?_
    rw [hslots hfree]
  refine ⟨?_,?_,?_,?_,?_,h.entries,h.apart,h.work.modify (fun _=>id) hi _⟩
  · rintro f ⟨⟩
    refine ⟨Nat.succ_lt_succ hwritten,hi,r,?_⟩
    rw [getElem?_modify_of_some hslot,fillTo_succ _ now r hwritten]
  · intro j r' hj hpending hfree
    rw [hslots hfree] at hj
    exact h.pending j r' hj hpending hfree
  · intro c' hc'
    simp only [hreq]
    exact h.known c' hc'
  · intro c' j k now₁ now₂ hc' hj hk
    exact h.once c' j k now₁ now₂ hc' (hreq.1 hj) (hreq.1 hk)
  · intro c' j now' hc' hknown hj
    exact h.fresh c' j now' hc' hknown (hreq.1 hj)

lemma complete (now : ℤ) (h : SoundTable who (some ⟨c,i,13⟩) filed slots server clients) (hc : ¬filed c)
    (hother : ∀ c', filed c' → (who c').name=(who c).name→(who c').pid=(who c).pid→False) :
    SoundTable who none (fun c'=>c'=c ∨ filed c')
      (slots.modify i ((fillWrites ((who c).request now)).getD 13 id)) server clients:=by
  obtain ⟨-,hi,r,hslot⟩:=h.filling _ rfl
  have hself : (slots.modify i ((fillWrites ((who c).request now)).getD 13 id))[i]?=
      some ((who c).request now):=
    (getElem?_modify_of_some hslot _).trans (congrArg some (fillTo_last _ now r))
  have hslots : ∀ {j}, i≠j→
      (slots.modify i ((fillWrites ((who c).request now)).getD 13 id))[j]?=slots[j]?:=
    fun hne=>getElem?_modify_ne _ slots hne
  have hwork:=h.work.modify (fun c'=>@Or.inr (c'=c) _) hi ((fillWrites ((who c).request now)).getD 13 id)
  generalize slots.modify i _=slots' at hself hslots hwork ⊢
  have hunclaimed : ∀ {j}, i≠j→
      (some (⟨c,i,13⟩ : Filler)).map Filler.slot≠some j:=
    fun hne heq=>hne (Option.some.inj heq)
  -- the requests of the clients that had filed before are where they were
  have hreq : ∀ {j c' now'}, filed c' → Requests who none slots' j c' now' →
      Requests who (some ⟨c,i,13⟩) slots j c' now':=by
    rintro j c' now' hc' ⟨hj,-⟩
    have hne : i≠j:=by
      rintro rfl
      rw [hself,Option.some.injEq] at hj
      obtain ⟨hname,hpid⟩:=request_inj hj
      exact hother c' hc' hname.symm hpid.symm
    exact ⟨(hslots hne).symm.trans hj,hunclaimed hne⟩
  -- and the new one is the only one of its client
  have hown : ∀ {j now'}, Requests who none slots' j c now' → j=i:=by
    rintro j now' ⟨hj,-⟩
    by_contra hne
    rw [hslots (Ne.symm hne)] at hj
    obtain ⟨c',now'',heq,hc'⟩:=h.pending j _ hj rfl (hunclaimed (Ne.symm hne))
    obtain ⟨hname,hpid⟩:=request_inj heq
    exact hother c' hc' hname.symm hpid.symm
  refine ⟨nofun,?_,?_,?_,?_,?_,?_,hwork⟩
  · intro j r' hj hpending _
    by_cases hne : i=j
    · subst hne
      rw [hself,Option.some.injEq] at hj
      exact ⟨c,now,hj.symm,.inl rfl⟩
    · rw [hslots hne] at hj
      obtain ⟨c',now',heq,hc'⟩:=h.pending j r' hj hpending (hunclaimed hne)
      exact ⟨c',now',heq,.inr hc'⟩
  · rintro c' (rfl | hc')
    · exact .inr ⟨i,now,hself,nofun⟩
    · refine (h.known c' hc').imp_right ?_
      rintro ⟨j,now',hj,hfree⟩
      exact ⟨j,now',(hslots fun heq=>hfree (congrArg some heq)).trans hj,nofun⟩
  · rintro c' j k now₁ now₂ (rfl | hc') hj hk
    · rw [hown hj,hown hk]
    · exact h.once c' j k now₁ now₂ hc' (hreq hc' hj) (hreq hc' hk)
  · rintro c' j now' (rfl | hc') hknown hj
    · obtain ⟨c'',heq,hc''⟩:=h.entries _ hknown
      have hsame : c'' = c':=(congrArg AcceptedClient.segment heq).symm
      exact absurd (hsame ▸ hc'') hc
    · exact h.fresh c' j now' hc' hknown (hreq hc' hj)
  · intro e he
    obtain ⟨c',heq,hc'⟩:=h.entries e he
    exact ⟨c',heq,.inr hc'⟩
  · rintro c₁ c₂ (rfl | h₁) (rfl | h₂) hname hpid
    · rfl
    · exact (hother c₂ h₂ hname.symm hpid.symm).elim
    · exact (hother c₁ h₁ hname hpid).elim
    · exact h.apart c₁ c₂ h₁ h₂ hname hpid

end SoundTable
end
end SoftMessageBus
