import SoftMessageBus.MakeTransport

/-!
# The cooldown after a fallback, and what is recorded of selections

After a failure the manager keeps away from shared memory for a while.
-/
namespace SoftMessageBus
open BucketIndex List

/-- Why a type has been selected: the texts of `reason`. -/
inductive SelectionReason where
  | autoSelectDisabled | explicitShmService | nonRegistration | networkPreferred
  | shmCooldownActive | shmNotReady | sameHostShm | shmCreateFallback
  deriving DecidableEq

/-- `TRANSPORT_SELECTION_RESULT_STRUCT`. -/
structure SelectionResult extends TransportSelection where
  cooldownBlocked : Bool
  fallbackApplied : Bool
  latencyUs : UInt64
  reason : SelectionReason
  deriving DecidableEq

/-- A call with the time that the selection takes. -/
structure TimedMakeCall extends MakeCall where
  latencyUs : UInt64

structure SelectionMetrics where
  autoSelectShmTotal : UInt64
  autoSelectNetworkTotal : UInt64
  autoSelectFallbackTotal : UInt64
  autoSelectCooldownBlockTotal : UInt64
  autoSelectLastLatencyUs : UInt64
  lastSelectedTransportType : Option TransportType
  lastFallbackTransportType : Option TransportType
  lastAutoSelectReason : Option SelectionReason
  deriving DecidableEq

section
variable (metrics : SelectionMetrics)

def SelectionMetrics.recordSelectionResult
    (result : SelectionResult) : SelectionMetrics where
  autoSelectShmTotal:=
    if result.selectedType = .shm then metrics.autoSelectShmTotal+1
    else metrics.autoSelectShmTotal
  autoSelectNetworkTotal:=
    if result.selectedType = .shm then metrics.autoSelectNetworkTotal
    else metrics.autoSelectNetworkTotal+1
  autoSelectFallbackTotal:=
    if result.fallbackApplied then metrics.autoSelectFallbackTotal+1
    else metrics.autoSelectFallbackTotal
  autoSelectCooldownBlockTotal:=
    if result.cooldownBlocked then metrics.autoSelectCooldownBlockTotal+1
    else metrics.autoSelectCooldownBlockTotal
  autoSelectLastLatencyUs:=result.latencyUs
  lastSelectedTransportType:=some result.selectedType
  lastFallbackTransportType:=some result.fallbackType
  lastAutoSelectReason:=some result.reason

def SelectionMetrics.selections : UInt64:=metrics.autoSelectShmTotal+metrics.autoSelectNetworkTotal

lemma SelectionMetrics.selections_record (result : SelectionResult) :
    (metrics.recordSelectionResult result).selections=metrics.selections+1:=by
  unfold selections recordSelectionResult
  dsimp only
  split
  · rw [UInt64.add_assoc,UInt64.add_comm 1,← UInt64.add_assoc]
  · rw [UInt64.add_assoc]

end

def SelectionConfig.cooldownMs (cfg : SelectionConfig) : UInt32:=
  if cfg.transportShmFallbackCooldownMs=0 then 2000 else cfg.transportShmFallbackCooldownMs

/-- The manager with what it records. -/
structure MeteredManager where
  manager : TransportManager
  metrics : SelectionMetrics

namespace TransportManager

section
variable (m : TransportManager) (cfg : SelectionConfig) (s : ServiceDescription)

/-- The branch that `resolve_transport_selection` takes. -/
def selectionReason (call : MakeCall) : SelectionReason:=
  if !cfg.transportAutoSelect then .autoSelectDisabled
  else if s.transportType = .shm then .explicitShmService
  else if s.serviceType ≠ .registration then .nonRegistration
  else if !transportIsSameHost cfg s || !serviceCapabilitySupportsShm s then .networkPreferred
  else if call.nowMs < m.shmFallbackCooldownUntilMs then .shmCooldownActive
  else if !transportShmEndpointReady s call then .shmNotReady
  else .sameHostShm

/-- `resolve_transport_selection`, with what is only recorded. -/
def resolveSelectionResult (call : TimedMakeCall) : SelectionResult where
  toTransportSelection:=m.resolveTransportSelection cfg s call.toMakeCall
  fallbackApplied:=m.selectionReason cfg s call.toMakeCall = .shmNotReady
  cooldownBlocked:=m.selectionReason cfg s call.toMakeCall = .shmCooldownActive
  latencyUs:=call.latencyUs
  reason:=m.selectionReason cfg s call.toMakeCall

end
end TransportManager
namespace MeteredManager

def addTransport (state : MeteredManager) (alloc : Bool) (config : TransportConfig)
    (selection : SelectionResult) : Option Transport × MeteredManager:=
  match state.manager.addTransport alloc config with
  | (some t,m)=>(some t,⟨m,state.metrics.recordSelectionResult selection⟩)
  | (none,m)=>(none,⟨m,state.metrics⟩)

/-- `zoo_smb_transport_manager_make_transport` after a search that found nothing. -/
def createTransport (state : MeteredManager) (cfg : SelectionConfig) (s : ServiceDescription)
    (call : TimedMakeCall) (selection : SelectionResult) : Option Transport × MeteredManager:=
  if call.creates then
    state.addTransport call.indexAlloc (selectedConfig cfg s selection.selectedType) selection
  else if selection.selectedShm ∧ selection.fallbackType≠selection.selectedType then
    let cooling:={state with manager:=state.manager.startCooldown cfg call.toMakeCall}
    let fallback:={selection with
      selectedType:=selection.fallbackType
      fallbackApplied:=true
      reason:=.shmCreateFallback}
    if call.createsFallback then
      cooling.addTransport call.indexAlloc (fallbackConfig cfg s selection.fallbackType) fallback
    else (none,{cooling with metrics:=cooling.metrics.recordSelectionResult fallback})
  else (none,{state with metrics:=state.metrics.recordSelectionResult selection})

/-- `zoo_smb_transport_manager_make_transport`, with its records. -/
def makeTransport (state : MeteredManager) (cfg : SelectionConfig) (s : ServiceDescription)
    (call : TimedMakeCall) : Option Transport × MeteredManager:=
  let selection:=state.manager.resolveSelectionResult cfg s call
  match state.manager.findTransportByService call.indexAlloc s selection.selectedType with
  | (some t,m)=>(some t,⟨m,state.metrics.recordSelectionResult selection⟩)
  | (none,m)=>createTransport ⟨m,state.metrics⟩ cfg s call selection

def step (cfg : SelectionConfig) (state : MeteredManager) (call : ServiceDescription × TimedMakeCall) : MeteredManager:=
  (state.makeTransport cfg call.1 call.2).2

def run (cfg : SelectionConfig) (state : MeteredManager)
    (calls : List (ServiceDescription × TimedMakeCall)) : MeteredManager:=
  calls.foldl (step cfg) state

variable {state : MeteredManager} {cfg : SelectionConfig} {s : ServiceDescription}
  {call : TimedMakeCall} {selection : SelectionResult}

lemma addTransport_manager (state : MeteredManager) (alloc : Bool) (config : TransportConfig)
    (selection : SelectionResult) :
    (state.addTransport alloc config selection).1=(state.manager.addTransport alloc config).1 ∧
      (state.addTransport alloc config selection).2.manager=(state.manager.addTransport alloc config).2:=by
  unfold addTransport
  split <;> rename_i h <;> exact ⟨by rw [h],by rw [h]⟩

section
variable (state : MeteredManager) (cfg : SelectionConfig) (s : ServiceDescription) (call : TimedMakeCall)

lemma createTransport_manager (selection : SelectionResult) :
    (state.createTransport cfg s call selection).1=(state.manager.createTransport cfg s
        call.toMakeCall selection.toTransportSelection).1 ∧
      (state.createTransport cfg s call selection).2.manager=(state.manager.createTransport cfg s
        call.toMakeCall selection.toTransportSelection).2:=by
  unfold createTransport TransportManager.createTransport
  split
  · exact addTransport_manager ..
  · split
    · dsimp only
      split
      · exact addTransport_manager ..
      · exact ⟨rfl,rfl⟩
    · exact ⟨rfl,rfl⟩

lemma makeTransport_manager :
    (state.makeTransport cfg s call).1=(state.manager.makeTransport cfg s call.toMakeCall).1 ∧
      (state.makeTransport cfg s call).2.manager=(state.manager.makeTransport cfg s call.toMakeCall).2:=by
  unfold makeTransport TransportManager.makeTransport
  have hselection : (state.manager.resolveSelectionResult cfg s call).toTransportSelection=
    state.manager.resolveTransportSelection cfg s call.toMakeCall:=rfl
  rw [← hselection]
  dsimp only
  rcases state.manager.findTransportByService call.indexAlloc s
    (state.manager.resolveSelectionResult cfg s call).selectedType with ⟨found,m⟩
  cases found with
  | some t=>exact ⟨rfl,rfl⟩
  | none=>exact createTransport_manager ..

end

lemma selections_addTransport {alloc : Bool} {config : TransportConfig}
    (h : (state.addTransport alloc config selection).1.isSome) :
    (state.addTransport alloc config selection).2.metrics.selections=state.metrics.selections+1:=by
  unfold addTransport at h ⊢
  split
  · exact state.metrics.selections_record selection
  next hadd=>
    rw [hadd] at h
    cases h

lemma selections_makeTransport (h : (state.makeTransport cfg s call).1.isSome) :
    (state.makeTransport cfg s call).2.metrics.selections=state.metrics.selections+1:=by
  unfold makeTransport at h ⊢
  dsimp only at h ⊢
  split at h
  · exact state.metrics.selections_record _
  · unfold createTransport at h ⊢
    split at h
    next hcreated=>
      rw [if_pos hcreated]
      exact selections_addTransport h
    next hcreated=>
      rw [if_neg hcreated]
      split at h
      next hfallback=>
        rw [if_pos hfallback]
        split at h
        next hcreates=>
          rw [if_pos hcreates]
          exact selections_addTransport h
        · cases h
      · cases h

/-- The types of the transports that a call creates, whether the list takes them up or not. -/
def created (state : MeteredManager) (cfg : SelectionConfig) (s : ServiceDescription)
    (call : TimedMakeCall) : List TransportType:=
  let selection:=state.manager.resolveTransportSelection cfg s call.toMakeCall
  if (state.manager.lookup s selection.selectedType).isSome then []
  else if call.creates then [selection.selectedType]
  else if selection.selectedShm ∧ selection.fallbackType≠selection.selectedType ∧
    call.createsFallback then [selection.fallbackType]
  else []

/-- Shared memory was selected for a service of another type, and the transport could not be
created. -/
def ShmCreationFails (state : MeteredManager) (cfg : SelectionConfig) (s : ServiceDescription)
    (call : TimedMakeCall) : Prop:=
  s.transportType ≠ .shm ∧
    state.manager.selectedType cfg s call.toMakeCall = .shm ∧
    state.manager.lookup s .shm=none ∧ call.creates=false

/-- The readings of the clock do not go back, and the end of a cooldown can be represented. -/
structure Chronological (calls : List (ServiceDescription × TimedMakeCall)) : Prop where
  within : ∀ call∈calls, call.2.nowMs≤call.2.fallbackNowMs
  between : calls.Pairwise fun earlier later=>earlier.2.fallbackNowMs≤later.2.nowMs
  representable : ∀ call∈calls, call.2.fallbackNowMs.toNat+UInt32.size≤UInt64.size

lemma resolveTransportSelection_cases (m : TransportManager) (cfg : SelectionConfig)
    (s : ServiceDescription) (call : MakeCall) :
    (∃ selectedShm, m.resolveTransportSelection cfg s call=
        ⟨s.transportType,s.transportType,selectedShm⟩) ∨
      m.shmFallbackCooldownUntilMs≤call.nowMs ∧ m.resolveTransportSelection cfg s call=⟨.shm,s.transportType,true⟩:=by
  unfold TransportManager.resolveTransportSelection
  split
  · exact .inl ⟨_,rfl⟩
  split
  · exact .inl ⟨_,rfl⟩
  split
  · exact .inl ⟨_,rfl⟩
  split
  · exact .inl ⟨_,rfl⟩
  split
  · exact .inl ⟨_,rfl⟩
  rename_i hcool
  split
  · exact .inl ⟨_,rfl⟩
  exact .inr ⟨UInt64.not_lt.1 hcool,rfl⟩

lemma of_selectedType_eq_shm {m : TransportManager} {call : MakeCall}
    (htype : s.transportType ≠ .shm) (h : m.selectedType cfg s call = .shm) :
    m.shmFallbackCooldownUntilMs≤call.nowMs ∧ m.resolveTransportSelection cfg s call=⟨.shm,s.transportType,true⟩:=by
  rcases resolveTransportSelection_cases m cfg s call with ⟨_,hkept⟩ | hshm
  · rw [TransportManager.selectedType,hkept] at h
    exact absurd h htype
  · exact hshm

lemma until_le_of_created (htype : s.transportType ≠ .shm)
    (h : TransportType.shm∈state.created cfg s call) : state.manager.shmFallbackCooldownUntilMs≤call.nowMs:=by
  rcases resolveTransportSelection_cases state.manager cfg s call.toMakeCall with
    ⟨_,hkept⟩ | hshm
  · simp only [created,hkept] at h
    split at h
    · cases h
    · split at h
      · exact absurd (mem_singleton.1 h).symm htype
      · split at h
        · exact absurd (mem_singleton.1 h).symm htype
        · cases h
  · exact hshm.1

lemma until_addTransport (m : TransportManager) (alloc : Bool) (config : TransportConfig) :
    (m.addTransport alloc config).2.shmFallbackCooldownUntilMs=m.shmFallbackCooldownUntilMs:=by
  unfold TransportManager.addTransport
  dsimp only
  split <;> rfl

lemma until_makeTransport (m : TransportManager) (cfg : SelectionConfig) (s : ServiceDescription) (call : MakeCall) :
    (m.makeTransport cfg s call).2.shmFallbackCooldownUntilMs=m.shmFallbackCooldownUntilMs ∨
      (m.makeTransport cfg s call).2.shmFallbackCooldownUntilMs=call.fallbackNowMs+cfg.cooldownMs.toUInt64:=by
  cases hlookup : m.lookup s (m.selectedType cfg s call) with
  | some t=>
    rw [TransportManager.makeTransport_of_lookup hlookup]
    obtain ⟨index,hindex⟩:=m.exists_index_findTransportByService call.indexAlloc s (m.selectedType cfg s call)
    exact .inl (by rw [hindex])
  | none=>
    rw [TransportManager.makeTransport_of_lookup_eq_none hlookup]
    unfold TransportManager.createTransport
    split
    · exact .inl (until_addTransport ..)
    · split
      · split
        · exact .inr (until_addTransport ..)
        · exact .inr rfl
      · exact .inl rfl

lemma until_of_fails (h : state.ShmCreationFails cfg s call) :
    (step cfg state (s,call)).manager.shmFallbackCooldownUntilMs=call.fallbackNowMs+cfg.cooldownMs.toUInt64:=by
  obtain ⟨htype,hsel,hlookup,hcreated⟩:=h
  obtain ⟨-,hselected⟩:=of_selectedType_eq_shm htype hsel
  rw [step,(makeTransport_manager state cfg s call).2,
    TransportManager.makeTransport_of_lookup_eq_none (hsel.symm ▸ hlookup),hselected,
    TransportManager.createTransport,if_neg (by simp [hcreated]),if_pos ⟨rfl,htype⟩]
  split
  · exact until_addTransport ..
  · rfl

lemma toNat_end {nowMs : UInt64} (h : nowMs.toNat+UInt32.size≤UInt64.size) (cooldownMs : UInt32) :
    (nowMs+cooldownMs.toUInt64).toNat=nowMs.toNat+cooldownMs.toNat:=by
  have hlt:=cooldownMs.toNat_lt
  rw [UInt64.toNat_add,UInt32.toNat_toUInt64]
  exact Nat.mod_eq_of_lt (by simp only [UInt32.size,UInt64.size] at h; omega)

lemma le_until_run {deadline : ℕ} {calls : List (ServiceDescription × TimedMakeCall)}
    (hlater : ∀ call∈calls, deadline≤call.2.fallbackNowMs.toNat+cfg.cooldownMs.toNat)
    (hrange : ∀ call∈calls, call.2.fallbackNowMs.toNat+UInt32.size≤UInt64.size)
    (hstate : deadline ≤ state.manager.shmFallbackCooldownUntilMs.toNat) :
    deadline≤(run cfg state calls).manager.shmFallbackCooldownUntilMs.toNat:=by
  induction calls generalizing state with
  | nil=>exact hstate
  | cons call calls ih=>
    obtain ⟨hcall,hcalls⟩:=forall_mem_cons.1 hlater
    obtain ⟨hcallR,hcallsR⟩:=forall_mem_cons.1 hrange
    refine ih hcalls hcallsR ?_
    rw [step,(makeTransport_manager state cfg call.1 call.2).2]
    rcases until_makeTransport state.manager cfg call.1 call.2.toMakeCall with hkept | hmoved
    · rw [hkept]
      exact hstate
    · rw [hmoved,toNat_end hcallR]
      exact hcall

def fresh (manager : TransportManager) : MeteredManager:=⟨manager,⟨0,0,0,0,0,none,none,none⟩⟩

end MeteredManager
end SoftMessageBus
