import SoftMessageBus.CString
import SoftMessageBus.MessageHeader
import Mathlib.Data.Fintype.Pi
import SoftMessageBus.StepRuns

/-!
# Runtimes with high availability

A runtime is standalone, primary or secondary, in an epoch.
-/
namespace SoftMessageBus

/-- `ZOO_SMB_RUNTIME_ROLE_ENUM`. -/
inductive RuntimeRole where
  | standalone | primary | secondary
  deriving DecidableEq

/-- `ZOO_SMB_RUNTIME_STATE_ENUM`. -/
inductive RuntimeState where
  | created | starting | running | degraded | stopping | stopped | faulted
  deriving DecidableEq

/-- `ZOO_DOMAIN_PROFILE_ENUM`. -/
inductive DomainProfile where
  | generic | industrial | automotive | military
  deriving DecidableEq

namespace DomainProfile

def partitionId : DomainProfile→UInt32
  | military=>30
  | automotive=>20
  | industrial=>10
  | generic=>0

def isPartitionAllowed (profile : DomainProfile) (partitionId : UInt32) : Bool:=
  match profile with
  | industrial=>10≤partitionId && partitionId<20
  | automotive=>20≤partitionId && partitionId<30
  | military=>30≤partitionId && partitionId<40
  | generic=>partitionId=0

def requiresIdentity (profile : DomainProfile) : Bool:=profile≠generic

end DomainProfile

def evaluateAdmission (profile : DomainProfile) (partitionId : UInt32) (localPeerId remotePeerId : CString) : ErrorType:=
  if !profile.isPartitionAllowed partitionId then .invalidState
  else if profile.requiresIdentity && (localPeerId = .empty || remotePeerId = .empty) then
    .invalidState
  else .ok

/-- `ZOO_SMB_RUNTIME_OPTIONS_STRUCT`. -/
structure RuntimeOptions where
  enableHa : Bool
  failoverTimeoutMs : UInt32
  localPeerId : CString
  domainProfileOverride : Option DomainProfile
  deriving DecidableEq

/-- `ZOO_SMB_RUNTIME_PEER_SLOT_STRUCT`. -/
structure PeerSlot where
  peerId : CString
  peerEpoch : UInt64
  lastHeartbeatMs : UInt64
  healthy : Bool
  deriving DecidableEq

/-- `ZOO_SMB_RUNTIME_PEER_CAPACITY`. -/
abbrev peerCapacity : ℕ:=8

/-- `ZOO_SMB_RUNTIME_STRUCT`. -/
structure Runtime where
  started : Bool
  state : RuntimeState
  role : RuntimeRole
  options : RuntimeOptions
  epoch : UInt64
  peers : Fin peerCapacity→PeerSlot

instance : DecidableEq Runtime:=fun r s=>
  decidable_of_iff (r.started=s.started ∧ r.state=s.state ∧ r.role=s.role ∧
    r.options=s.options ∧ r.epoch=s.epoch ∧ r.peers=s.peers) (by cases r; cases s; simp)

/-- `runtime_now_ms`. -/
def runtimeNowMs (time : UInt64) : UInt64:=time*1000

namespace Runtime

/-- `zoo_smb_runtime_create_ex` with explicit options. -/
def create (options : RuntimeOptions) : Runtime where
  started:=false
  state:=.created
  role:=if options.enableHa then .secondary else .standalone
  options:=options
  epoch:=1
  peers _:=⟨.empty,0,0,false⟩

/-- `runtime_get_effective_profile`. -/
def effectiveProfile (active : DomainProfile) (r : Runtime) : DomainProfile:=r.options.domainProfileOverride.getD active

section
variable (r : Runtime)

variable (peerId : CString)

def findPeerSlot : Option (Fin peerCapacity):=
  (List.finRange peerCapacity).find? fun i=>(r.peers i).peerId ≠ .empty ∧ (r.peers i).peerId=peerId

def setSlot (i : Fin peerCapacity) (slot : PeerSlot) : Runtime:={r with peers:=Function.update r.peers i slot}

def findOrCreatePeerSlot : Option (Fin peerCapacity) × Runtime:=
  match r.findPeerSlot peerId with
  | some i=>(some i,r)
  | none=>
    match (List.finRange peerCapacity).find? fun i=>(r.peers i).peerId = .empty with
    | some i=>(some i,r.setSlot i ⟨peerId.truncate 31,0,0,false⟩)
    | none=>(none,r)

def adoptEpoch (peerEpoch : UInt64) : Runtime:=
  {r with
    epoch:=peerEpoch
    role:=.secondary
    state:=if r.started ∧ r.state = .degraded then .running else r.state}

def noteHeartbeat (i : Fin peerCapacity) (peerEpoch now : UInt64) : Runtime:=
  let noted:=r.setSlot i ⟨(r.peers i).peerId,peerEpoch,now,true⟩
  if r.epoch≤peerEpoch then noted.adoptEpoch peerEpoch else noted

def reportPeerHeartbeat (active : DomainProfile) (time : UInt64) (r : Runtime) (peerId : CString)
    (peerEpoch : UInt64) : ErrorType × Runtime:=
  if !r.options.enableHa then (.invalidState,r)
  else
    let profile:=r.effectiveProfile active
    match evaluateAdmission profile profile.partitionId r.options.localPeerId peerId with
    | .ok=>
      match r.findOrCreatePeerSlot peerId with
      | (none,r)=>(.outOfMemory,r)
      | (some i,r)=>(.ok,r.noteHeartbeat i peerEpoch (runtimeNowMs time))
    | error=>(error,r)

def promoteToPrimary : Runtime:={r with role:=.primary, epoch:=r.epoch+1}

def isFresh (now : UInt64) (slot : PeerSlot) : Bool:=
  let age:=if slot.lastHeartbeatMs<now then now-slot.lastHeartbeatMs else 0
  age.toNat≤r.options.failoverTimeoutMs.toNat

def anyHealthyPeer (time : UInt64) : Bool:=
  (List.finRange peerCapacity).any fun i=>
    (r.peers i).peerId ≠ .empty ∧ (r.peers i).healthy ∧ r.isFresh (runtimeNowMs time) (r.peers i)

def monitorPromotes (time : UInt64) : Bool:=r.options.enableHa && !r.anyHealthyPeer time && r.role ≠ .primary

/-- One pass of `runtime_ha_monitor_task`. -/
def monitorPass (time : UInt64) (r : Runtime) : Runtime:=
  let checked:={r with
    peers:=fun i=>
      let slot:=r.peers i
      if slot.peerId ≠ .empty ∧ slot.healthy ∧ !r.isFresh (runtimeNowMs time) slot then
        {slot with healthy:=false}
      else slot}
  if r.monitorPromotes time then {checked.promoteToPrimary with state:=.degraded}
  else if r.options.enableHa && r.anyHealthyPeer time && r.started &&
      r.state = .degraded then {checked with state:=.running}
  else checked

/-- `zoo_smb_runtime_report_peer_timeout`. -/
def reportPeerTimeout : ErrorType × Runtime:=
  if !r.options.enableHa then (.invalidState,r)
  else if r.role ≠ .primary then (.ok,{r.promoteToPrimary with state:=.degraded})
  else (.ok,r)

def triggerElection : ErrorType × Runtime:=
  if !r.options.enableHa then (.invalidState,r)
  else if r.role ≠ .primary then (.ok,{r.promoteToPrimary with state:=.running})
  else (.ok,{r with state:=.running})

def standing : RuntimeRole × UInt64:=(r.role,r.epoch)

/-- The runtime takes part in high availability and admits the peer. -/
def Admits (active : DomainProfile) (r : Runtime) (peerId : CString) : Prop:=
  r.options.enableHa=true ∧ evaluateAdmission (r.effectiveProfile active)
    (r.effectiveProfile active).partitionId r.options.localPeerId peerId = .ok

/-- The slot in which a heartbeat is noted, and the identifier that it holds. -/
def NotedIn (i : Fin peerCapacity) (id : CString) : Prop:=
  (r.findPeerSlot peerId=some i ∧ id=(r.peers i).peerId) ∨
    (r.findPeerSlot peerId=none ∧ (r.peers i).peerId = .empty ∧ id=peerId.truncate 31)

end
section
variable (active : DomainProfile) (time : UInt64) (r : Runtime) (peerId : CString) (peerEpoch : UInt64)

lemma reportPeerHeartbeat_of_not_admits (h : ¬r.Admits active peerId) :
    r.reportPeerHeartbeat active time peerId peerEpoch=(.invalidState,r):=by
  unfold Admits evaluateAdmission at h
  unfold reportPeerHeartbeat evaluateAdmission
  cases hen : r.options.enableHa with
  | false=>rfl
  | true=>
    simp only [hen,true_and] at h
    dsimp only [Bool.not_true]
    split_ifs at h ⊢ <;> simp_all

/-- What a heartbeat does: it is refused, finds no slot, or is noted in one. -/
lemma reportPeerHeartbeat_cases :
    (¬r.Admits active peerId ∧ r.reportPeerHeartbeat active time peerId peerEpoch=(.invalidState,r)) ∨
    r.Admits active peerId ∧
      ((r.findPeerSlot peerId=none ∧ (∀ i, (r.peers i).peerId ≠ .empty) ∧
        r.reportPeerHeartbeat active time peerId peerEpoch=(.outOfMemory,r)) ∨
      ∃ i id, r.NotedIn peerId i id ∧ r.reportPeerHeartbeat active time peerId peerEpoch=
        (.ok, if r.epoch≤peerEpoch then
          (r.setSlot i ⟨id,peerEpoch,runtimeNowMs time,true⟩).adoptEpoch peerEpoch
        else r.setSlot i ⟨id,peerEpoch,runtimeNowMs time,true⟩)):=by
  by_cases h : r.Admits active peerId
  · refine .inr ⟨h,?_⟩
    cases hfind : r.findPeerSlot peerId with
    | some i=>
      refine .inr ⟨i,_,.inl ⟨hfind,rfl⟩,?_⟩
      simp [reportPeerHeartbeat,findOrCreatePeerSlot,noteHeartbeat,h.1,h.2,hfind]
    | none=>
      cases hfree : (List.finRange peerCapacity).find? fun i=>(r.peers i).peerId = .empty with
      | some i=>
        refine .inr ⟨i,_,.inr ⟨hfind,by simpa using List.find?_some hfree,rfl⟩,?_⟩
        simp [reportPeerHeartbeat,findOrCreatePeerSlot,noteHeartbeat,setSlot,h.1,h.2,hfind, hfree]
      | none=>
        refine .inl ⟨rfl,by simpa using hfree,?_⟩
        simp [reportPeerHeartbeat,findOrCreatePeerSlot,h.1,h.2,hfind,hfree]
  · exact .inl ⟨h,r.reportPeerHeartbeat_of_not_admits active time peerId peerEpoch h⟩

lemma standing_reportPeerHeartbeat :
    (r.reportPeerHeartbeat active time peerId peerEpoch).2.standing=
      if (r.reportPeerHeartbeat active time peerId peerEpoch).1 = .ok ∧ r.epoch≤peerEpoch then
        (.secondary,peerEpoch)
      else r.standing:=by
  rcases r.reportPeerHeartbeat_cases active time peerId peerEpoch with
    ⟨-,heq⟩ | ⟨-,⟨-,-,heq⟩ | ⟨i,id,-,heq⟩⟩
  · rw [heq]
    rfl
  · rw [heq]
    rfl
  · rw [heq]
    by_cases hepoch : r.epoch≤peerEpoch
    · simp [hepoch,standing,adoptEpoch]
    · simp [hepoch,standing,setSlot]

end

lemma standing_monitorPass (time : UInt64) (r : Runtime) :
    (r.monitorPass time).standing=if r.monitorPromotes time then (.primary,r.epoch+1) else r.standing:=by
  unfold monitorPass
  split
  · rfl
  · split <;> rfl

lemma standing_reportPeerTimeout (r : Runtime) :
    r.reportPeerTimeout.2.standing=if r.options.enableHa ∧ r.role ≠ .primary then (.primary,r.epoch+1) else r.standing:=by
  unfold reportPeerTimeout
  cases r.options.enableHa with
  | false=>simp
  | true=>by_cases hrole : r.role = .primary <;> simp [hrole,standing,promoteToPrimary]

lemma standing_triggerElection (r : Runtime) :
    r.triggerElection.2.standing=if r.options.enableHa ∧ r.role ≠ .primary then (.primary,r.epoch+1) else r.standing:=by
  unfold triggerElection
  cases r.options.enableHa with
  | false=>simp
  | true=>by_cases hrole : r.role = .primary <;> simp [hrole,standing,promoteToPrimary]

end Runtime

/-! ## Histories of one runtime -/

open StepRuns Function

/-- A start finds whether the bus is ready, its policy resolved and its startup assured. -/
inductive RuntimeEvent where
  | start (ready resolved assured : Bool)
  | stop
  | heartbeat (time : UInt64) (peerId : CString) (peerEpoch : UInt64)
  | monitor (time : UInt64)
  | reportTimeout
  | triggerElection

/-- A runtime and the old and new states that an observer was notified of. -/
structure ObservedRuntime where
  runtime : Runtime
  notified : List (RuntimeState × RuntimeState)

namespace ObservedRuntime

/-- What `set_runtime_state` does once the rest of the runtime is updated. -/
def deliver (s : ObservedRuntime) (r : Runtime) : ObservedRuntime where
  runtime:=r
  notified:=
    if s.runtime.state=r.state then s.notified
    else s.notified++[(s.runtime.state,r.state)]

def setRuntimeState (s : ObservedRuntime) (state : RuntimeState) : ObservedRuntime:=s.deliver {s.runtime with state:=state}

/-- `zoo_smb_runtime_start`. -/
def start (active : DomainProfile) (ready resolved assured : Bool) (s : ObservedRuntime) : ObservedRuntime:=
  if s.runtime.started then s
  else
    let starting:=s.setRuntimeState .starting
    if !ready || !resolved || ((s.runtime.effectiveProfile active).requiresIdentity &&
        s.runtime.options.localPeerId = .empty) || !assured then
      starting.setRuntimeState .faulted
    else starting.deliver {starting.runtime with started:=true, state:=.running}

/-- `zoo_smb_runtime_stop`. -/
def stop (s : ObservedRuntime) : ObservedRuntime:=
  let stopping:=s.setRuntimeState .stopping
  stopping.deliver {stopping.runtime with started:=false, state:=.stopped}

/-- One event. Heartbeats and the monitor write the state without a notification. -/
def step (active : DomainProfile) (s : ObservedRuntime) : RuntimeEvent→ObservedRuntime
  | .start ready resolved assured=>s.start active ready resolved assured
  | .stop=>s.stop
  | .heartbeat time peerId peerEpoch=>
    {s with runtime:=(s.runtime.reportPeerHeartbeat active time peerId peerEpoch).2}
  | .monitor time=>{s with runtime:=s.runtime.monitorPass time}
  | .reportTimeout=>s.deliver s.runtime.reportPeerTimeout.2
  | .triggerElection=>s.deliver s.runtime.triggerElection.2

variable {active : DomainProfile} {s : ObservedRuntime} {event : RuntimeEvent}

section

/-- A promotion finds an epoch that can be increased. -/
def NoWrap (active : DomainProfile) (s : ObservedRuntime) (event : RuntimeEvent) : Prop:=
  s.runtime.role ≠ .primary→(s.step active event).runtime.role = .primary→s.runtime.epoch.toNat+1<2^64

lemma standing_step (active : DomainProfile) (s : ObservedRuntime) (event : RuntimeEvent) :
    (s.step active event).runtime.standing=s.runtime.standing ∨
    (s.runtime.role ≠ .primary ∧ (s.step active event).runtime.standing=(.primary,s.runtime.epoch+1)) ∨
    ∃ peerEpoch, s.runtime.epoch≤peerEpoch ∧ (s.step active event).runtime.standing=(.secondary,peerEpoch):=by
  cases event with
  | start ready resolved assured=>
    refine .inl ?_
    rw [step,start]
    split
    · rfl
    · dsimp only
      split <;> rfl
  | stop=>exact .inl rfl
  | heartbeat time peerId peerEpoch=>
    rw [step,Runtime.standing_reportPeerHeartbeat]
    split
    next h=>exact .inr (.inr ⟨peerEpoch,h.2,rfl⟩)
    · exact .inl rfl
  | monitor time=>
    rw [step,Runtime.standing_monitorPass]
    split
    next h=>
      simp only [Runtime.monitorPromotes,Bool.and_eq_true,decide_eq_true_eq] at h
      exact .inr (.inl ⟨h.2,rfl⟩)
    · exact .inl rfl
  | reportTimeout=>
    rw [step,deliver,Runtime.standing_reportPeerTimeout]
    split
    next h=>exact .inr (.inl ⟨h.2,rfl⟩)
    · exact .inl rfl
  | triggerElection=>
    rw [step,deliver,Runtime.standing_triggerElection]
    split
    next h=>exact .inr (.inl ⟨h.2,rfl⟩)
    · exact .inl rfl

/-- Nothing changes, a promotion enters a later epoch, or a peer is followed. -/
lemma epoch_step (h : NoWrap active s event) :
    (s.step active event).runtime.standing=s.runtime.standing ∨
    (s.runtime.role ≠ .primary ∧ s.runtime.epoch<(s.step active event).runtime.epoch) ∨
    ((s.step active event).runtime.role = .secondary ∧ s.runtime.epoch≤(s.step active event).runtime.epoch):=by
  rcases standing_step active s event with hsame | ⟨hrole,hnew⟩ | ⟨peerEpoch,hle,hnew⟩
  · exact .inl hsame
  · have hlt:=h hrole (congrArg Prod.fst hnew)
    have hepoch : (s.step active event).runtime.epoch=_:=congrArg Prod.snd hnew
    refine .inr (.inl ⟨hrole,?_⟩)
    rw [hepoch,UInt64.lt_iff_toNat_lt,UInt64.toNat_add]
    change _<(_+1) % _
    rw [Nat.mod_eq_of_lt hlt]
    exact Nat.lt_succ_self _
  · have hepoch : (s.step active event).runtime.epoch=_:=congrArg Prod.snd hnew
    exact .inr (.inr ⟨congrArg Prod.fst hnew,hepoch ▸ hle⟩)

lemma epoch_le_step (h : NoWrap active s event) : s.runtime.epoch≤(s.step active event).runtime.epoch:=by
  rcases epoch_step h with hsame | ⟨-,hlt⟩ | ⟨-,hle⟩
  · exact UInt64.le_of_eq (congrArg Prod.snd hsame).symm
  · exact UInt64.le_of_lt hlt
  · exact hle

/-- The runtime can no longer be primary in the epoch. -/
def Past (epoch : UInt64) (s : ObservedRuntime) : Prop:=
  epoch<s.runtime.standing.2 ∨ (epoch=s.runtime.standing.2 ∧ s.runtime.standing.1 ≠ .primary)

lemma Past.step {epoch : UInt64} (hpast : Past epoch s) (h : NoWrap active s event) :
    Past epoch (s.step active event):=by
  have hle : epoch ≤ s.runtime.epoch:=by
    rcases hpast with hlt | ⟨rfl,-⟩
    · exact UInt64.le_of_lt hlt
    · exact UInt64.le_refl _
  rcases epoch_step h with hsame | ⟨-,hlt⟩ | ⟨hrole,hnew⟩
  · rw [Past,hsame]
    exact hpast
  · exact .inl (UInt64.lt_of_le_of_lt hle hlt)
  · rcases UInt64.lt_or_eq_of_le (UInt64.le_trans hle hnew) with hlt | heq
    · exact .inl hlt
    · refine .inr ⟨heq,fun hprimary=>?_⟩
      cases hrole.symm.trans hprimary

/-- Epochs never decrease, and a runtime is primary in each during one period at most. -/
theorem epochs_used_once (active : DomainProfile) (r : Runtime) (events : ℕ→RuntimeEvent)
    (hwrap : ∀ n, NoWrap active (stateAt (step active) ⟨r,[]⟩ events n) (events n)) :
    let runtime:=fun n=>(stateAt (step active) ⟨r,[]⟩ events n).runtime
    (∀ n, (runtime n).epoch≤(runtime (n+1)).epoch) ∧
    (∀ n, (runtime n).role ≠ .primary→(runtime (n+1)).role = .primary→ (runtime n).epoch<(runtime (n+1)).epoch) ∧
    ∀ i j k epoch, i≤j→j≤k→(runtime i).standing=(.primary,epoch)→
      (runtime k).standing=(.primary,epoch)→(runtime j).standing=(.primary,epoch):=by
  refine ⟨fun n=>epoch_le_step (hwrap n),fun n hrole hprimary=>?_,fun i j k epoch hij hjk hi hk=>?_⟩
  · rcases epoch_step (hwrap n) with hsame | ⟨-,hlt⟩ | ⟨hsecondary,-⟩
    · exact absurd ((congrArg Prod.fst hsame).symm.trans hprimary) hrole
    · exact hlt
    · cases hsecondary.symm.trans hprimary
  · by_contra hj
    have hle : epoch≤(stateAt (step active) ⟨r,[]⟩ events j).runtime.epoch:=
      holds_from (R:=fun s : ObservedRuntime=>epoch ≤ s.runtime.epoch)
        (UInt64.le_of_eq (congrArg Prod.snd hi).symm)
        (fun n _ hn=>UInt64.le_trans hn (epoch_le_step (hwrap n))) hij
    have hpast : Past epoch (stateAt (step active) ⟨r,[]⟩ events j):=by
      rcases UInt64.lt_or_eq_of_le hle with hlt | heq
      · exact .inl hlt
      · exact .inr ⟨heq,fun hrole=>hj (Prod.ext hrole heq.symm)⟩
    have hend : Past epoch (stateAt (step active) ⟨r,[]⟩ events k):=
      holds_from (R:=Past epoch) hpast (fun n _ hn=>hn.step (hwrap n)) hjk
    have hepoch : _=epoch:=congrArg Prod.snd hk
    rcases hend with hlt | ⟨-,hrole⟩
    · rw [← hepoch] at hlt
      exact UInt64.lt_irrefl _ hlt
    · exact hrole (congrArg Prod.fst hk)

/-- The peer is reported lost, returns with a later epoch, and is lost again. -/
def sampleHistory : ℕ→RuntimeEvent
  | 0=>.start true true true
  | 1=>.heartbeat 1000 (.ofMemory [98]) 4
  | 2=>.reportTimeout
  | 3=>.heartbeat 2000 (.ofMemory [98]) 6
  | 4=>.monitor 9000
  | _=>.stop

def sampleRuntime (n : ℕ) : Runtime:=
  (stateAt (step .generic) ⟨.create ⟨true,3000,.ofMemory [97],none⟩,[]⟩ sampleHistory n).runtime

theorem epochs_used_once_promoted :
    [1,2,3,4,5].map (fun n=>(sampleRuntime n).standing)=
        [(.secondary,1),(.secondary,4),(.primary,5),(.secondary,6),(.primary,7)] ∧
      ∀ n, (sampleRuntime n).epoch≤(sampleRuntime (n+1)).epoch:=by
  refine ⟨by decide +kernel,(epochs_used_once .generic _ sampleHistory fun n=>?_).1⟩
  match n with
  | 0 | 1 | 2 | 3 | 4=>exact fun _ _=>by decide +kernel
  | n+5=>exact fun hrole hprimary=>absurd hprimary hrole

end
section

/-- The notifications lead from the first state to the last, each from where the one before it
arrived. -/
def Chained : RuntimeState→List (RuntimeState × RuntimeState)→RuntimeState→Prop
  | first, [], last=>first=last
  | first, (old,new)::rest, last=>old=first ∧ Chained new rest last

/-- What the observer was told since the runtime had the given state. -/
def Informed (initial : RuntimeState) (s : ObservedRuntime) : Prop:=Chained initial s.notified s.runtime.state

/-- The event does not change the state behind the observer's back. -/
def Announced (active : DomainProfile) (s : ObservedRuntime) : RuntimeEvent→Prop
  | .heartbeat time peerId peerEpoch=>
    ¬((s.runtime.reportPeerHeartbeat active time peerId peerEpoch).1 = .ok ∧
      s.runtime.epoch≤peerEpoch ∧ s.runtime.started=true ∧ s.runtime.state = .degraded)
  | .monitor time=>
    if s.runtime.monitorPromotes time then s.runtime.state = .degraded
    else ¬(s.runtime.options.enableHa && s.runtime.anyHealthyPeer time && s.runtime.started &&
      s.runtime.state = .degraded)
  | _=>True

lemma Chained.append {first middle last : RuntimeState}
    {notified : List (RuntimeState × RuntimeState)} (h : Chained first notified middle) :
    Chained first (notified++[(middle,last)]) last:=by
  induction notified generalizing first with
  | nil=>exact ⟨h.symm,rfl⟩
  | cons n rest ih=>exact ⟨h.1,ih h.2⟩

lemma Chained.last_eq {first last last' : RuntimeState}
    {notified : List (RuntimeState × RuntimeState)} (h : Chained first notified last)
    (h' : Chained first notified last') : last'=last:=by
  induction notified generalizing first with
  | nil=>exact h'.symm.trans h
  | cons n rest ih=>exact ih h.2 h'.2

variable {initial : RuntimeState}

lemma Informed.deliver (h : Informed initial s) (r : Runtime) : Informed initial (s.deliver r):=by
  unfold Informed ObservedRuntime.deliver
  dsimp only
  split
  next hstate=>exact hstate ▸ h
  · exact h.append

lemma Informed.start (h : Informed initial s) (ready resolved assured : Bool) :
    Informed initial (s.start active ready resolved assured):=by
  unfold ObservedRuntime.start
  split
  · exact h
  · dsimp only
    split <;> exact (h.deliver _).deliver _

lemma Informed.silent_iff (h : Informed initial s) (r : Runtime) :
    Informed initial {s with runtime:=r} ↔ r.state=s.runtime.state:=by
  constructor
  · exact fun h'=>Chained.last_eq h h'
  · intro hstate
    rw [Informed,hstate]
    exact h

lemma state_monitorPass_iff (r : Runtime) (time : UInt64) :
    (r.monitorPass time).state=r.state ↔
      if r.monitorPromotes time then r.state = .degraded
      else ¬(r.options.enableHa && r.anyHealthyPeer time && r.started && r.state = .degraded):=by
  unfold Runtime.monitorPass
  split
  · exact eq_comm
  · split
    next h=>
      simp only [h,not_true_eq_false,iff_false]
      simp only [Bool.and_eq_true,decide_eq_true_eq] at h
      rw [h.2]
      decide
    next h=>exact iff_of_true rfl h

lemma state_reportPeerHeartbeat_iff (r : Runtime) (time : UInt64) (peerId : CString) (peerEpoch : UInt64) :
    (r.reportPeerHeartbeat active time peerId peerEpoch).2.state=r.state ↔
      ¬((r.reportPeerHeartbeat active time peerId peerEpoch).1 = .ok ∧
        r.epoch≤peerEpoch ∧ r.started=true ∧ r.state = .degraded):=by
  rcases r.reportPeerHeartbeat_cases active time peerId peerEpoch with
    ⟨-,heq⟩ | ⟨-,⟨-,-,heq⟩ | ⟨i,id,-,heq⟩⟩
  · simp [heq]
  · simp [heq]
  · rw [heq]
    by_cases hepoch : r.epoch≤peerEpoch
    · by_cases hstate : r.started=true ∧ r.state = .degraded
      · simp [Runtime.adoptEpoch,Runtime.setSlot,hepoch,hstate]
      · simp only [Runtime.adoptEpoch,Runtime.setSlot,hepoch,hstate,if_true,if_false,and_false,not_false_eq_true]
    · simp [Runtime.setSlot,hepoch]

lemma Informed.step_iff (h : Informed initial s) :
    Informed initial (s.step active event) ↔ Announced active s event:=by
  cases event with
  | start ready resolved assured=>exact iff_of_true (h.start ready resolved assured) trivial
  | stop=>exact iff_of_true ((h.deliver _).deliver _) trivial
  | heartbeat time peerId peerEpoch=>
    exact (h.silent_iff _).trans (state_reportPeerHeartbeat_iff _ time peerId peerEpoch)
  | monitor time=>exact (h.silent_iff _).trans (state_monitorPass_iff _ time)
  | reportTimeout | triggerElection=>exact iff_of_true (h.deliver _) trivial

/-- An observer follows the state exactly if no heartbeat and no monitor pass changes it. -/
theorem observers_informed_iff (active : DomainProfile) (r : Runtime) (events : List RuntimeEvent) :
    Along (step active) (fun s event=>Informed r.state (s.step active event)) ⟨r,[]⟩ events ↔
      Along (step active) (Announced active) ⟨r,[]⟩ events:=
  along_iff_of_invariant (Informed r.state) (fun _ _ h hannounced=>h.step_iff.2 hannounced)
    (fun _ _ h=>h.step_iff) (show Informed r.state ⟨r,[]⟩ from rfl) events

/-- The first monitor pass promotes a started runtime and makes it degraded silently. -/
theorem promotion_not_announced :
    ¬Along (step .generic)
      (fun s event=>Informed .created (s.step .generic event))
      ⟨.create ⟨true,3000,.empty,none⟩,[]⟩ [.start true true true,.monitor 0]:=by
  rintro ⟨-,h,-⟩
  have hstate : RuntimeState.running = .degraded:=h.2.2
  cases hstate

end
end ObservedRuntime

/-- A heartbeat, with the time at which it is reported. -/
structure PeerHeartbeat where
  time : UInt64
  peerId : CString
  peerEpoch : UInt64

namespace Runtime

def hear (active : DomainProfile) (r : Runtime) (hb : PeerHeartbeat) : ErrorType × Runtime:=
  r.reportPeerHeartbeat active hb.time hb.peerId hb.peerEpoch

def DistinctPeers (r : Runtime) : Prop:=
  ∀ i j, (r.peers i).peerId ≠ .empty→(r.peers i).peerId=(r.peers j).peerId→i=j
  deriving Decidable

/-- A heartbeat taken is found under its peer, which has one slot, and one without a slot finds
eight fresh peers. -/
def Tracks (active : DomainProfile) (r : Runtime) (hb : PeerHeartbeat) : Prop:=
  ((r.hear active hb).1 = .ok→(r.hear active hb).2.DistinctPeers ∧
    ∃ i, (r.hear active hb).2.findPeerSlot hb.peerId=some i ∧
      (r.hear active hb).2.peers i=⟨hb.peerId,hb.peerEpoch,runtimeNowMs hb.time,true⟩) ∧
  ((r.hear active hb).1 = .outOfMemory→∀ i, (r.peers i).peerId ≠ .empty ∧
    (r.peers i).peerId≠hb.peerId ∧ r.isFresh (runtimeNowMs hb.time) (r.peers i)=true)
  deriving Decidable

/-- A new peer that gets a slot has an identifier that fits, and one that gets none comes while all
are fresh. -/
def Trackable (active : DomainProfile) (r : Runtime) (hb : PeerHeartbeat) : Prop:=
  r.Admits active hb.peerId → r.findPeerSlot hb.peerId=none→
    if ∃ i, (r.peers i).peerId = .empty then
      hb.peerId ≠ .empty ∧ hb.peerId.bytes.length≤31
    else ∀ i, r.isFresh (runtimeNowMs hb.time) (r.peers i)=true

/-- Stored identifiers fit into their slots and differ. -/
structure TableInv (r : Runtime) : Prop where
  distinct : r.DistinctPeers
  length_le : ∀ i, (r.peers i).peerId.bytes.length≤31

variable {active : DomainProfile} {r : Runtime} {peerId : CString} {i : Fin peerCapacity}

lemma of_findPeerSlot_eq_some (h : r.findPeerSlot peerId=some i) :
    (r.peers i).peerId ≠ .empty ∧ (r.peers i).peerId=peerId:=by simpa using List.find?_some h

lemma ne_of_findPeerSlot_eq_none (h : r.findPeerSlot peerId=none)
    (hused : (r.peers i).peerId ≠ .empty) : (r.peers i).peerId≠peerId:=by
  have hnone:=List.find?_eq_none.1 h i (List.mem_finRange i)
  simp_all

lemma DistinctPeers.findPeerSlot (h : r.DistinctPeers) (hused : (r.peers i).peerId ≠ .empty)
    (hid : (r.peers i).peerId=peerId) : r.findPeerSlot peerId=some i:=by
  cases hfind : r.findPeerSlot peerId with
  | none=>exact absurd hid (ne_of_findPeerSlot_eq_none hfind hused)
  | some j=>
    have hj:=of_findPeerSlot_eq_some hfind
    rw [h j i hj.1 (hj.2.trans hid.symm)]

/-- A slot is written for a peer whose identifier no other slot has. -/
lemma DistinctPeers.update (h : r.DistinctPeers) {r' : Runtime} {slot : PeerSlot}
    (hpeers : r'.peers=Function.update r.peers i slot)
    (hnew : ∀ j, j≠i→(r.peers j).peerId ≠ .empty→(r.peers j).peerId≠slot.peerId) : r'.DistinctPeers:=by
  intro j k hused hid
  rw [hpeers] at hused hid
  by_cases hj : j=i
  · by_cases hk : k=i
    · exact hj.trans hk.symm
    · rw [hj,update_self,update_of_ne hk] at hid
      rw [hj,update_self,hid] at hused
      exact absurd hid.symm (hnew k hk hused)
  · rw [update_of_ne hj] at hused hid
    by_cases hk : k=i
    · rw [hk,update_self] at hid
      exact absurd hid (hnew j hj hused)
    · rw [update_of_ne hk] at hid
      exact h j k hused hid

variable {hb : PeerHeartbeat}

/-- A heartbeat that is taken writes one slot of the table. -/
lemma hear_cases (active : DomainProfile) (r : Runtime) (hb : PeerHeartbeat) :
    (¬r.Admits active hb.peerId ∧ r.hear active hb=(.invalidState,r)) ∨
    r.Admits active hb.peerId ∧
      ((r.findPeerSlot hb.peerId=none ∧ (∀ i, (r.peers i).peerId ≠ .empty) ∧ r.hear active hb=(.outOfMemory,r)) ∨
      (r.hear active hb).1 = .ok ∧ ∃ i id, r.NotedIn hb.peerId i id ∧
        (r.hear active hb).2.peers=Function.update r.peers i ⟨id,hb.peerEpoch,runtimeNowMs hb.time,true⟩):=by
  rcases r.reportPeerHeartbeat_cases active hb.time hb.peerId hb.peerEpoch with
    href | ⟨hadm,hfull | ⟨i,id,hnoted,heq⟩⟩
  · exact .inl href
  · exact .inr ⟨hadm,.inl hfull⟩
  · refine .inr ⟨hadm,.inr ⟨by rw [hear,heq],i,id,hnoted,?_⟩⟩
    rw [hear,heq]
    dsimp only
    split <;> rfl

lemma TableInv.tracks_iff (h : r.TableInv) : r.Tracks active hb ↔ r.Trackable active hb:=by
  rcases hear_cases active r hb with
    ⟨hadm,heq⟩ | ⟨hadm,⟨hfind,hfull,heq⟩ | ⟨hok,i,id,hcases,hpeers⟩⟩
  · refine iff_of_true ?_ fun h=>absurd h hadm
    rw [Tracks,heq]
    exact ⟨nofun,nofun⟩
  · have hfree : ¬∃ i, (r.peers i).peerId = .empty:=fun ⟨i,hi⟩=>hfull i hi
    simp only [Tracks,heq,Trackable,hadm,hfind,if_neg hfree,true_imp_iff]
    refine ⟨fun h i=>(h.2 i).2.2,fun h=>⟨nofun,fun i=>⟨hfull i,?_,h i⟩⟩⟩
    exact ne_of_findPeerSlot_eq_none hfind (hfull i)
  -- the slot that is written holds the identifier of the peer, as far as it fits
  have hself : (r.hear active hb).2.peers i=⟨id,hb.peerEpoch,runtimeNowMs hb.time,true⟩:=by rw [hpeers,update_self]
  have htracks (hid : id=hb.peerId) (hused : hb.peerId ≠ .empty)
      (hnew : ∀ j, j≠i→(r.peers j).peerId ≠ .empty→(r.peers j).peerId≠id) :
      r.Tracks active hb:=by
    have hdistinct:=h.distinct.update hpeers hnew
    refine ⟨fun _=>⟨hdistinct,i,hdistinct.findPeerSlot ?_ ?_,?_⟩,fun hfull=>?_⟩
    · rwa [hself,hid]
    · rw [hself,hid]
    · rw [hself,hid]
    · cases hok.symm.trans hfull
  rcases hcases with ⟨hfind,hid⟩ | ⟨hfind,hfree,hid⟩
  · have hfound:=of_findPeerSlot_eq_some hfind
    refine iff_of_true (htracks (hid.trans hfound.2) (hfound.2 ▸ hfound.1) ?_) ?_
    · intro j hj hused heq
      exact hj (h.distinct j i hused (heq.trans hid))
    · intro _ hnone
      rw [hfind] at hnone
      cases hnone
  · simp only [Trackable,hadm,hfind,if_pos (⟨i,hfree⟩ : ∃ i, (r.peers i).peerId = .empty),true_imp_iff]
    constructor
    · rintro ⟨htaken,-⟩
      obtain ⟨-,j,hj,hentry⟩:=htaken hok
      have hused:=of_findPeerSlot_eq_some hj
      refine ⟨hused.2 ▸ hused.1,?_⟩
      rw [← hused.2,hpeers]
      by_cases hji : j=i
      · rw [hji,update_self,hid]
        exact CString.length_truncate_le 31 _
      · rw [update_of_ne hji]
        exact h.length_le j
    · rintro ⟨hused,hlen⟩
      rw [CString.truncate_eq_self hlen] at hid
      refine htracks hid hused fun j _ hj=>?_
      rw [hid]
      exact ne_of_findPeerSlot_eq_none hfind hj

lemma TableInv.hear (h : r.TableInv) (htracks : r.Tracks active hb) : (r.hear active hb).2.TableInv:=by
  rcases hear_cases active r hb with
    ⟨-,heq⟩ | ⟨-,⟨-,-,heq⟩ | ⟨hok,i,id,hcases,hpeers⟩⟩
  · rwa [heq]
  · rwa [heq]
  · refine ⟨(htracks.1 hok).1,fun j=>?_⟩
    rw [hpeers]
    by_cases hj : j=i
    · rw [hj,update_self]
      rcases hcases with ⟨-,hid⟩ | ⟨-,-,hid⟩
      · exact hid ▸ h.length_le i
      · exact hid ▸ CString.length_truncate_le 31 _
    · rw [update_of_ne hj]
      exact h.length_le j

/-- The table tracks the peers exactly if each of them is trackable. -/
theorem peers_tracked_iff (active : DomainProfile) (options : RuntimeOptions) (heartbeats : List PeerHeartbeat) :
    Along (fun r hb=>(r.hear active hb).2) (Tracks active) (create options) heartbeats ↔
      Along (fun r hb=>(r.hear active hb).2) (Trackable active) (create options) heartbeats:=
  along_iff_of_invariant TableInv (fun _ _ h htrackable=>h.hear (h.tracks_iff.2 htrackable))
    (fun _ _ h=>h.tracks_iff) ⟨fun _ _ hused=>absurd rfl hused,fun _=>Nat.zero_le _⟩
    heartbeats

/-- Eight peers keep their slots after they fall silent, and a ninth is refused. -/
theorem ninth_peer_refused :
    ¬Along (fun r hb=>(r.hear .generic hb).2) (Tracks .generic)
      (create ⟨true,3000,.empty,none⟩)
      ((List.range 8).map (fun k=>⟨0,.ofMemory [k.toUInt8+1,0],1⟩)++[⟨1000,.ofMemory [9,0],1⟩]):=by
  decide +kernel

end Runtime

end SoftMessageBus
