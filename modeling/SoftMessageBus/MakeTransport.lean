import SoftMessageBus.TransportIndex

/-!
# Making the transport of a service

The manager selects a type and finds or creates a transport of it.
-/
namespace SoftMessageBus
open BucketIndex StepRuns List

/-- What `resolve_transport_selection` and `zoo_smb_transport_manager_make_transport` read. -/
structure SelectionConfig where
  transportAutoSelect : Bool
  localAddress : CString
  transportShmFallbackCooldownMs : UInt32
  maxTimeout : UInt32

/-- What a call finds: the clocks, the probe, and the allocations. -/
structure MakeCall where
  nowMs : UInt64
  fallbackNowMs : UInt64
  endpointReady : Bool
  creates : Bool
  createsFallback : Bool
  indexAlloc : Bool

/-- `TRANSPORT_SELECTION_RESULT_STRUCT`. -/
structure TransportSelection where
  selectedType : TransportType
  fallbackType : TransportType
  selectedShm : Bool
  deriving DecidableEq

section
variable (cfg : SelectionConfig)

variable (s : ServiceDescription)

def transportIsSameHost : Bool:=
  (s.hostFingerprint ≠ .empty ∧ s.hostFingerprint=cfg.localAddress) ∨
    (s.address ≠ .empty ∧ cfg.localAddress ≠ .empty ∧ s.address=cfg.localAddress)

def serviceCapabilitySupportsShm : Bool:=
  if s.transportCapabilities=0 then s.transportType = .shm
  else s.transportCapabilities &&& 1≠0

def transportShmEndpointReady (call : MakeCall) : Bool:=s.shmEndpoint ≠ .empty ∧ call.endpointReady

def initTransportConfig : TransportConfig where
  type:=s.transportType
  name:=s.name.truncate 31
  address:=s.address.truncate 63
  port:=s.port.toUInt16
  multicastAddress:=s.multicastAddress.truncate 63
  multicastPort:=s.multicastPort.toUInt16
  timeoutMs:=cfg.maxTimeout
  isServer:=s.isServer
  retryIntervalS:=5
  maxSendAttempts:=3
  address_le:=CString.length_truncate_le 63 s.address

def selectedConfig (type : TransportType) : TransportConfig:=
  if type = .shm ∧ s.shmEndpoint ≠ .empty then
    {initTransportConfig cfg s with
      type:=type
      name:=s.shmEndpoint.truncate 31
      address:=s.shmEndpoint.truncate 63
      address_le:=CString.length_truncate_le 63 s.shmEndpoint}
  else {initTransportConfig cfg s with type:=type}

def fallbackConfig (type : TransportType) : TransportConfig:={initTransportConfig cfg s with type:=type}

end
namespace TransportManager

section
variable (m : TransportManager)

variable (cfg : SelectionConfig)

def resolveTransportSelection (s : ServiceDescription) (call : MakeCall) : TransportSelection:=
  if !cfg.transportAutoSelect then ⟨s.transportType,s.transportType,false⟩
  else if s.transportType = .shm then ⟨s.transportType,s.transportType,true⟩
  else if s.serviceType ≠ .registration then ⟨s.transportType,s.transportType,false⟩
  else if !transportIsSameHost cfg s || !serviceCapabilitySupportsShm s then
    ⟨s.transportType,s.transportType,false⟩
  else if call.nowMs < m.shmFallbackCooldownUntilMs then ⟨s.transportType,s.transportType,false⟩
  else if !transportShmEndpointReady s call then ⟨s.transportType,s.transportType,false⟩
  else ⟨.shm,s.transportType,true⟩

def selectedType (m : TransportManager) (cfg : SelectionConfig) (s : ServiceDescription)
    (call : MakeCall) : TransportType:=
  (m.resolveTransportSelection cfg s call).selectedType

def startCooldown (call : MakeCall) : TransportManager:=
  {m with
    shmFallbackCooldownUntilMs:=call.fallbackNowMs+
      (if cfg.transportShmFallbackCooldownMs=0 then 2000 else cfg.transportShmFallbackCooldownMs).toUInt64}

variable (s : ServiceDescription)

/-- `zoo_smb_transport_manager_make_transport` after a search that found nothing. -/
def createTransport
    (call : MakeCall) (selection : TransportSelection) : Option Transport × TransportManager:=
  if call.creates then
    m.addTransport call.indexAlloc (selectedConfig cfg s selection.selectedType)
  else if selection.selectedShm ∧ selection.fallbackType≠selection.selectedType then
    if call.createsFallback then
      (m.startCooldown cfg call).addTransport call.indexAlloc (fallbackConfig cfg s selection.fallbackType)
    else (none,m.startCooldown cfg call)
  else (none,m)

/-- `zoo_smb_transport_manager_make_transport`. -/
def makeTransport (call : MakeCall) : Option Transport × TransportManager:=
  let selection:=m.resolveTransportSelection cfg s call
  match m.findTransportByService call.indexAlloc s selection.selectedType with
  | (some t,m)=>(some t,m)
  | (none,m)=>m.createTransport cfg s call selection

/-- `zoo_smb_create_transport_manager`. -/
def create (discovery : ServiceDescription) (indexAlloc : Bool) : TransportManager:=
  (addTransport ⟨[],fun _=>[],0,0⟩ indexAlloc (initTransportConfig cfg discovery)).2

def run (calls : List (ServiceDescription × MakeCall)) : TransportManager:=
  calls.foldl (fun m call=>(m.makeTransport cfg call.1 call.2).2) m

def IndexTakes (alloc : Bool) (key : CString) : Prop:=
  (m.transportIndexFind key).isSome ∨
    alloc ∧ (m.transportIndexBuckets (transportIndexHash key)).length<transportBucketCapacity

def createdType (call : MakeCall) : TransportType:=
  if call.creates then m.selectedType cfg s call
  else (m.resolveTransportSelection cfg s call).fallbackType

/-- A later search for the type of the transport that a call returns finds it. -/
def Retained (call : MakeCall) : Prop:=
  (m.lookup s (m.selectedType cfg s call)).isSome ∨
    (¬(m.createdType cfg s call = .shm ∧ s.shmEndpoint ≠ .empty ∧ s.shmEndpoint≠s.address) ∧
      (m.IndexTakes call.indexAlloc (s.key (m.createdType cfg s call)) ∨
        s.port.toNat<2^16 ∧ m.scan s (m.createdType cfg s call)=none))

end

variable {m : TransportManager} {cfg : SelectionConfig} {s : ServiceDescription} {call : MakeCall}
  {t : Transport} {key : CString} {alloc : Bool}

lemma upsert_eq_none_iff_not_indexTakes {h : ℕ} :
    upsert transportIndexHash transportBucketCapacity alloc m.transportIndexBuckets key h=
      none ↔ ¬m.IndexTakes alloc key:=by
  rw [upsert_eq_none_iff,IndexTakes,not_or,Option.not_isSome_iff_eq_none,transportIndexFind]

lemma transportIndexUpsert_of_not_indexTakes (h : ¬m.IndexTakes alloc key) (handle : ℕ) :
    m.transportIndexUpsert alloc key handle=m ∧ m.transportIndexFind key=none:=by
  have hups:=(upsert_eq_none_iff_not_indexTakes (h:=handle)).2 h
  refine ⟨?_,(upsert_eq_none_iff.1 hups).1⟩
  rw [transportIndexUpsert,hups]
  rfl

lemma IndexTakes.find_upsert (h : m.IndexTakes alloc key) (handle : ℕ) :
    (m.transportIndexUpsert alloc key handle).transportIndexFind key=some handle:=by
  rw [transportIndexFind,transportIndexUpsert]
  cases hups : upsert transportIndexHash transportBucketCapacity alloc m.transportIndexBuckets key handle with
  | none=>exact absurd h (upsert_eq_none_iff_not_indexTakes.1 hups)
  | some index=>exact find_upsert_self hups

lemma toNat_lt_of_toUInt32_eq {a : UInt16} {b : UInt32} (h : a.toUInt32=b) : b.toNat<2^16:=by
  rw [← h,UInt16.toNat_toUInt32]
  exact a.toNat_lt

lemma toUInt32_toUInt16_of_lt {b : UInt32} (h : b.toNat<2^16) : b.toUInt16.toUInt32=b:=by
  rw [← UInt32.toNat_inj,UInt16.toNat_toUInt32,UInt32.toNat_toUInt16]
  exact Nat.mod_eq_of_lt h

variable {config : TransportConfig}

lemma Consistent.lookup_addTransport_iff (h : m.Consistent) {alloc : Bool}
    (hport : config.port=s.port.toUInt16) (hserver : config.isServer=s.isServer)
    (hadd : (m.addTransport alloc config).1=some t) (type : TransportType) :
    (m.addTransport alloc config).2.lookup s type=some t ↔
      type=config.type ∧ config.address=s.address ∧
        (m.IndexTakes alloc (s.key config.type) ∨ s.port.toNat<2^16 ∧ m.scan s config.type=none):=by
  have hcons:=h.addTransport alloc config
  unfold TransportManager.addTransport at hadd hcons ⊢
  dsimp only at hadd hcons ⊢
  split at hadd
  case isFalse=>cases hadd
  rename_i hroom
  cases hadd
  rw [if_pos hroom] at hcons ⊢
  set m' : TransportManager:=
    {m with
      transportList:=m.transportList++[⟨m.nextHandle,config⟩]
      nextHandle:=m.nextHandle+1}
  have hscan : m'.scan s type=(m.scan s type).or
      (if serves s type ⟨m.nextHandle,config⟩ then some ⟨m.nextHandle,config⟩ else none):=by
    rw [scan,scan,find?_append]
    congr 1
    by_cases hserves : serves s type ⟨m.nextHandle,config⟩
    · rw [find?_cons_of_pos hserves,if_pos hserves]
    · rw [find?_cons_of_neg hserves,if_neg hserves,find?_nil]
  constructor
  · intro hlookup
    obtain ⟨-,hkey⟩:=hcons.of_lookup hlookup
    obtain ⟨haddress,-,rfl,-⟩:=of_key_eq hkey
    refine ⟨rfl,haddress,?_⟩
    by_contra hnot
    rw [not_or] at hnot
    obtain ⟨hups,hfind⟩:=transportIndexUpsert_of_not_indexTakes (m:=m') (hkey ▸ hnot.1) m.nextHandle
    rw [hups,lookup,← hkey,hfind] at hlookup
    dsimp only at hlookup
    rw [hscan] at hlookup
    cases hold : m.scan s config.type with
    | none=>
      rw [hold,Option.none_or] at hlookup
      split at hlookup
      next hserves=>exact hnot.2 ⟨toNat_lt_of_toUInt32_eq (serves_iff.1 hserves).2.1,hold⟩
      · cases hlookup
    | some u=>
      rw [hold,Option.some_or] at hlookup
      cases hlookup
      exact absurd (h.handle_lt _ (mem_of_find?_eq_some hold)) (Nat.lt_irrefl _)
  · rintro ⟨rfl,haddress,hkept⟩
    have hkey : (⟨m.nextHandle,config⟩ : Transport).key=s.key config.type:=by
      rw [Transport.key,ServiceDescription.key,haddress,hport,hserver]
    have hat : (m'.transportIndexUpsert alloc (⟨m.nextHandle,config⟩ : Transport).key
        m.nextHandle).transportAt m.nextHandle=some ⟨m.nextHandle,config⟩:=
      hcons.transportAt (t:=⟨m.nextHandle,config⟩) (mem_append_right _ mem_cons_self)
    rw [hkey] at hat ⊢
    rw [lookup]
    rcases m'.transportIndexFind_upsert_self alloc (s.key config.type) m.nextHandle with
      hself | ⟨hnone,hself⟩
    · rw [hself]
      exact hat
    · rw [hself]
      dsimp only
      rcases hkept with htakes | ⟨hrange,hold⟩
      · rw [(show m'.IndexTakes alloc (s.key config.type) from htakes).find_upsert] at hself
        cases hself
      · change m'.scan s config.type=_
        have hserves : serves s config.type ⟨m.nextHandle,config⟩=true:=
          serves_iff.2 ⟨haddress,by rw [hport,toUInt32_toUInt16_of_lt hrange],rfl,hserver⟩
        rw [hscan,hold,Option.none_or,if_pos hserves]

lemma Consistent.lookup_findTransportByService (h : m.Consistent) (alloc : Bool) (type other : TransportType) :
    (m.findTransportByService alloc s type).2.lookup s other=m.lookup s other:=by
  rcases m.findTransportByService_snd alloc s type with heq | ⟨t,hfind,hscan,heq⟩
  · rw [heq]
  rw [heq,lookup,lookup]
  by_cases hother : other=type
  · subst hother
    have ht:=mem_of_find?_eq_some hscan
    have hat : (m.transportIndexUpsert alloc (s.key other) t.handle).transportAt t.handle=some t:=h.transportAt ht
    rw [hfind]
    dsimp only
    rcases m.transportIndexFind_upsert_self alloc (s.key other) t.handle with hself | ⟨-,hself⟩
    · rw [hself,hscan]
      exact hat
    · rw [hself]
      rfl
  · have hne : s.key other≠s.key type:=fun hkey=>hother (makeTransportIndexKey_inj s.address_le s.address_le hkey).2.2.1
    rw [transportIndexFind_upsert_of_ne hne]
    rfl

lemma exists_index_findTransportByService (m : TransportManager) (alloc : Bool)
    (s : ServiceDescription) (type : TransportType) :
    ∃ index, (m.findTransportByService alloc s type).2 = {m with transportIndexBuckets:=index}:=by
  rcases m.findTransportByService_snd alloc s type with heq | ⟨t,-,-,heq⟩ <;> rw [heq]
  · exact ⟨_,rfl⟩
  · exact ⟨_,rfl⟩

lemma makeTransport_of_lookup (hlookup : m.lookup s (m.selectedType cfg s call)=some t) :
    m.makeTransport cfg s call=(some t,(m.findTransportByService call.indexAlloc s (m.selectedType cfg s call)).2):=by
  have hfst:=m.findTransportByService_fst call.indexAlloc s (m.selectedType cfg s call)
  rw [hlookup] at hfst
  unfold makeTransport
  dsimp only
  split
  next u m' heq=>
    rw [selectedType,heq] at hfst
    rw [selectedType,heq]
    cases hfst
    rfl
  next m' heq=>
    rw [selectedType,heq] at hfst
    cases hfst

lemma makeTransport_of_lookup_eq_none (hlookup : m.lookup s (m.selectedType cfg s call)=none) :
    m.makeTransport cfg s call=m.createTransport cfg s call (m.resolveTransportSelection cfg s call):=by
  have hfst:=m.findTransportByService_fst call.indexAlloc s (m.selectedType cfg s call)
  have hsnd : (m.findTransportByService call.indexAlloc s (m.selectedType cfg s call)).2=m:=by
    rcases m.findTransportByService_snd call.indexAlloc s (m.selectedType cfg s call) with
      heq | ⟨t,hfind,hscan,-⟩
    · exact heq
    · rw [lookup,hfind] at hlookup
      cases hscan.symm.trans hlookup
  rw [hlookup] at hfst
  unfold makeTransport
  dsimp only
  split
  next u m' heq=>
    rw [selectedType,heq] at hfst
    cases hfst
  next m' heq=>
    rw [selectedType,heq] at hsnd
    rw [← hsnd]

lemma addTransport_fst {alloc : Bool} (h : (m.addTransport alloc config).1=some t) :
    t=⟨m.nextHandle,config⟩:=by
  unfold addTransport at h
  dsimp only at h
  split at h
  · exact (Option.some.inj h).symm
  · cases h

lemma mem_addTransport {alloc : Bool} (h : (m.addTransport alloc config).1=some t) :
    t∈(m.addTransport alloc config).2.transportList:=by
  unfold addTransport at h ⊢
  dsimp only at h ⊢
  split at h
  next hroom=>
    cases h
    rw [if_pos hroom]
    exact mem_append_right _ mem_cons_self
  · cases h

lemma nextHandle_addTransport (m : TransportManager) (alloc : Bool) (config : TransportConfig) :
    (m.addTransport alloc config).2.nextHandle=m.nextHandle+1:=by
  unfold addTransport
  dsimp only
  split <;> rfl

section
variable {selection : TransportSelection} (h : (m.createTransport cfg s call selection).1=some t)
include selection h

lemma createTransport_cases :
    (call.creates=true ∧ m.createTransport cfg s call selection=
        m.addTransport call.indexAlloc (selectedConfig cfg s selection.selectedType)) ∨
      (call.creates=false ∧ selection.fallbackType≠selection.selectedType ∧
        m.createTransport cfg s call selection=
          (m.startCooldown cfg call).addTransport call.indexAlloc (fallbackConfig cfg s selection.fallbackType)):=by
  unfold createTransport at h ⊢
  split
  next hcreates=>exact .inl ⟨hcreates,rfl⟩
  next hcreates=>
    rw [if_neg hcreates] at h
    split
    next hfallback=>
      rw [if_pos hfallback] at h
      split
      · exact .inr ⟨Bool.not_eq_true _ ▸ hcreates,hfallback.2,rfl⟩
      next hnone=>
        rw [if_neg hnone] at h
        cases h
    next hfallback=>
      rw [if_neg hfallback] at h
      cases h

lemma createTransport_fst : t.handle=m.nextHandle:=by
  rcases createTransport_cases h with ⟨-,heq⟩ | ⟨-,-,heq⟩ <;> rw [heq] at h <;> rw [addTransport_fst h]
  rfl

end
section
variable (h : m.Consistent) (cfg : SelectionConfig) (s : ServiceDescription) (call : MakeCall)
include h

lemma Consistent.createTransport (selection : TransportSelection) :
    (m.createTransport cfg s call selection).2.Consistent:=by
  have hcool : (m.startCooldown cfg call).Consistent:=⟨h.handle_lt,h.handles_nodup,h.indexed⟩
  unfold TransportManager.createTransport
  split
  · exact h.addTransport _ _
  · split
    · split
      · exact hcool.addTransport _ _
      · exact hcool
    · exact h

lemma Consistent.makeTransport : (m.makeTransport cfg s call).2.Consistent:=by
  cases hlookup : m.lookup s (m.selectedType cfg s call) with
  | some t=>
    rw [makeTransport_of_lookup hlookup]
    exact h.findTransportByService _ _ _
  | none=>
    rw [makeTransport_of_lookup_eq_none hlookup]
    exact h.createTransport _ _ _ _

end

lemma consistent_create (cfg : SelectionConfig) (discovery : ServiceDescription)
    (indexAlloc : Bool) : (create cfg discovery indexAlloc).Consistent:=by
  have hempty : (⟨[],fun _=>[],0,0⟩ : TransportManager).Consistent:=
    ⟨fun _ h=>absurd h not_mem_nil,nodup_nil,fun _ _ h=>by cases h⟩
  exact hempty.addTransport _ _

lemma Consistent.run (h : m.Consistent) (cfg : SelectionConfig)
    (calls : List (ServiceDescription × MakeCall)) : (m.run cfg calls).Consistent:=by
  induction calls generalizing m with
  | nil=>exact h
  | cons call calls ih=>exact ih (h.makeTransport cfg call.1 call.2)

lemma nextHandle_makeTransport_le (m : TransportManager) (cfg : SelectionConfig)
    (s : ServiceDescription) (call : MakeCall) :
    (m.makeTransport cfg s call).2.nextHandle ≤ m.nextHandle+1:=by
  cases hlookup : m.lookup s (m.selectedType cfg s call) with
  | some t=>
    obtain ⟨index,heq⟩:=m.exists_index_findTransportByService call.indexAlloc s (m.selectedType cfg s call)
    rw [makeTransport_of_lookup hlookup,heq]
    exact Nat.le_succ _
  | none=>
    rw [makeTransport_of_lookup_eq_none hlookup]
    unfold createTransport
    split
    · exact (nextHandle_addTransport ..).le
    · split
      · split
        · exact (nextHandle_addTransport ..).le
        · exact Nat.le_succ _
      · exact Nat.le_succ _

def Returns (cfg : SelectionConfig) (s : ServiceDescription) (t : Transport)
    (m : TransportManager) (call : MakeCall) : Prop:=
  (m.makeTransport cfg s call).1=some t ∧ (m.makeTransport cfg s call).2.nextHandle=m.nextHandle

lemma Consistent.returns_iff (h : m.Consistent) (ht : t∈m.transportList) :
    Returns cfg s t m call ↔ m.lookup s (m.selectedType cfg s call)=some t:=by
  rw [Returns]
  cases hlookup : m.lookup s (m.selectedType cfg s call) with
  | some u=>
    obtain ⟨index,heq⟩:=m.exists_index_findTransportByService call.indexAlloc s (m.selectedType cfg s call)
    rw [makeTransport_of_lookup hlookup,heq]
    exact and_iff_left rfl
  | none=>
    rw [makeTransport_of_lookup_eq_none hlookup]
    refine ⟨fun hreturns=>?_,fun hnone=>nomatch hnone⟩
    exact absurd (createTransport_fst hreturns.1) (Nat.ne_of_lt (h.handle_lt t ht))

lemma Consistent.along_returns_iff (h : m.Consistent) (ht : t∈m.transportList) (calls : List MakeCall) :
    Along (fun m call=>(m.makeTransport cfg s call).2) (Returns cfg s t) m calls ↔
      ∀ call∈calls, m.lookup s (m.selectedType cfg s call)=some t:=by
  induction calls generalizing m with
  | nil=>simp [Along]
  | cons call calls ih=>
    rw [Along,forall_mem_cons,h.returns_iff ht]
    refine and_congr_right fun hlookup=>?_
    have hsearch:=h.lookup_findTransportByService (s:=s) call.indexAlloc (m.selectedType cfg s call)
    have hcons:=h.findTransportByService call.indexAlloc s (m.selectedType cfg s call)
    obtain ⟨index,heq⟩:=m.exists_index_findTransportByService call.indexAlloc s (m.selectedType cfg s call)
    rw [makeTransport_of_lookup hlookup]
    dsimp only
    rw [heq] at hsearch hcons ⊢
    rw [ih hcons ht]
    simp only [hsearch]
    rfl

section
variable (cfg : SelectionConfig) (s : ServiceDescription) (type : TransportType)

lemma address_selectedConfig :
    (selectedConfig cfg s type).address=s.address ↔ ¬(type = .shm ∧ s.shmEndpoint ≠ .empty ∧ s.shmEndpoint≠s.address):=by
  unfold selectedConfig
  split
  next hshm=>
    change s.shmEndpoint.truncate 63=s.address ↔ _
    rw [CString.truncate_eq_self s.shmEndpoint_le]
    constructor
    · rintro heq ⟨-,-,hne⟩
      exact hne heq
    · intro hnot
      by_contra hne
      exact hnot ⟨hshm.1,hshm.2,hne⟩
  next hshm=>
    refine iff_of_true (CString.truncate_eq_self s.address_le) ?_
    rintro ⟨htype,hendpoint,-⟩
    exact hshm ⟨htype,hendpoint⟩

lemma selectedConfig_fields :
    (selectedConfig cfg s type).type=type ∧
      (selectedConfig cfg s type).port=s.port.toUInt16 ∧
      (selectedConfig cfg s type).isServer=s.isServer:=by
  unfold selectedConfig
  split <;> exact ⟨rfl,rfl,rfl⟩

end

lemma selectedType_eq_shm_of_ne (h : (m.resolveTransportSelection cfg s call).fallbackType≠
      (m.resolveTransportSelection cfg s call).selectedType) :
    (m.resolveTransportSelection cfg s call).selectedType = .shm:=by
  unfold resolveTransportSelection at h ⊢
  grind

lemma Consistent.lookup_makeTransport_iff (h : m.Consistent)
    (hfirst : (m.makeTransport cfg s call).1=some t) (type : TransportType) :
    t∈(m.makeTransport cfg s call).2.transportList ∧
      ((m.makeTransport cfg s call).2.lookup s type=some t ↔ type=t.config.type ∧ m.Retained cfg s call):=by
  cases hlookup : m.lookup s (m.selectedType cfg s call) with
  | some u=>
    rw [makeTransport_of_lookup hlookup] at hfirst ⊢
    cases hfirst
    obtain ⟨hmem,hkey⟩:=h.of_lookup hlookup
    have hret : m.Retained cfg s call:=.inl (by rw [hlookup]; rfl)
    have hsame:=h.lookup_findTransportByService (s:=s) call.indexAlloc (m.selectedType cfg s call) type
    refine ⟨?_,?_⟩
    · obtain ⟨index,heq⟩:=m.exists_index_findTransportByService call.indexAlloc s (m.selectedType cfg s call)
      rw [heq]
      exact hmem
    · dsimp only
      rw [hsame,and_iff_left hret,(of_key_eq hkey).2.2.1]
      constructor
      · intro hfound
        exact (of_key_eq (h.of_lookup hfound).2).2.2.1.symm.trans (of_key_eq hkey).2.2.1
      · rintro rfl
        exact hlookup
  | none=>
    rw [makeTransport_of_lookup_eq_none hlookup] at hfirst ⊢
    rw [Retained,hlookup]
    simp only [Option.isSome_none,Bool.false_eq_true,false_or]
    rcases createTransport_cases hfirst with ⟨hcreates,heq⟩ | ⟨hcreates,hne,heq⟩
    · rw [heq] at hfirst ⊢
      have hcreated : m.createdType cfg s call=(m.resolveTransportSelection cfg s call).selectedType:=if_pos hcreates
      obtain ⟨htype,hport,hserver⟩:=selectedConfig_fields cfg s (m.resolveTransportSelection cfg s call).selectedType
      refine ⟨mem_addTransport hfirst,?_⟩
      rw [h.lookup_addTransport_iff hport hserver hfirst type,addTransport_fst hfirst,htype,address_selectedConfig,hcreated]
    · rw [heq] at hfirst ⊢
      have hcreated : m.createdType cfg s call=
          (m.resolveTransportSelection cfg s call).fallbackType:=
        if_neg (Bool.eq_false_iff.1 hcreates)
      have hcool : (m.startCooldown cfg call).Consistent:=⟨h.handle_lt,h.handles_nodup,h.indexed⟩
      have haddress : (fallbackConfig cfg s
          (m.resolveTransportSelection cfg s call).fallbackType).address=s.address:=
        CString.truncate_eq_self s.address_le
      have hnetwork : ¬((m.resolveTransportSelection cfg s call).fallbackType = .shm ∧
          s.shmEndpoint ≠ .empty ∧ s.shmEndpoint≠s.address):=fun hshm=>
        hne (hshm.1.trans (selectedType_eq_shm_of_ne hne).symm)
      refine ⟨mem_addTransport hfirst,?_⟩
      rw [hcool.lookup_addTransport_iff rfl rfl hfirst type,addTransport_fst hfirst,hcreated,
        and_iff_right haddress,and_iff_right hnetwork]
      rfl

/-- Repeated calls return the first transport exactly if each selects its type and it is retained.
-/
theorem makeTransport_repeated_iff (cfg : SelectionConfig) (discovery : ServiceDescription)
    (indexAlloc : Bool) (history : List (ServiceDescription × MakeCall)) (s : ServiceDescription)
    (call : MakeCall) (t : Transport)
    (hfirst : (((create cfg discovery indexAlloc).run cfg history).makeTransport cfg s call).1=
      some t) (calls : List MakeCall) :
    let m:=(create cfg discovery indexAlloc).run cfg history
    let m':=(m.makeTransport cfg s call).2
    m'.nextHandle ≤ m.nextHandle+1 ∧
      Along (fun m call=>(m.makeTransport cfg s call).2) (Returns cfg s t) m' calls ↔
      ∀ again∈calls, m'.selectedType cfg s again=t.config.type ∧ m.Retained cfg s call:=by
  intro m m'
  have hcons : m.Consistent:=(consistent_create cfg discovery indexAlloc).run cfg history
  have hlookup:=hcons.lookup_makeTransport_iff hfirst
  rw [and_iff_right (m.nextHandle_makeTransport_le cfg s call),
    (hcons.makeTransport cfg s call).along_returns_iff (hlookup t.config.type).1]
  exact forall₂_congr fun again _=>(hlookup _).2

/-- In every history a search finds no transport but one of the endpoint that is asked for. -/
theorem run_finds_own_endpoint (cfg : SelectionConfig) (discovery : ServiceDescription)
    (indexAlloc : Bool) (history : List (ServiceDescription × MakeCall)) :
    let m:=(create cfg discovery indexAlloc).run cfg history
    (m.transportList.map Transport.handle).Nodup ∧
      ∀ alloc s type t, (m.findTransportByService alloc s type).1=some t→
        t∈m.transportList ∧ t.config.address=s.address ∧ t.config.port=s.port.toUInt16 ∧
          t.config.type=type ∧ t.config.isServer=s.isServer:=by
  have h:=(consistent_create cfg discovery indexAlloc).run cfg history
  refine ⟨h.handles_nodup,fun alloc s type t hfind=>?_⟩
  rw [findTransportByService_fst] at hfind
  exact (h.of_lookup hfind).imp_right of_key_eq

def sampleSelection : SelectionConfig:=⟨true,⟨[108,111],by decide⟩,0,5000⟩

def sampleService (transportType : TransportType) : ServiceDescription where
  serviceType:=.registration
  name:=.ofMemory [115]
  address:=.ofMemory [108,111]
  port:=7000
  multicastAddress:=.empty
  multicastPort:=0
  transportType:=transportType
  hostFingerprint:=.empty
  transportCapabilities:=1
  shmEndpoint:=⟨[115,118,99],by decide⟩
  isServer:=false
  address_le:=by decide
  shmEndpoint_le:=by decide

def sampleCall (nowMs : UInt64) (endpointReady creates : Bool) : MakeCall:=⟨nowMs,nowMs,endpointReady,creates,true,true⟩

/-- As long as the endpoint is not ready, the service keeps its network transport. -/
theorem makeTransport_repeated_network :
    let m:=(create sampleSelection (sampleService .udp) true).run sampleSelection []
    let m':=(m.makeTransport sampleSelection (sampleService .tcp) (sampleCall 0 false true)).2
    m'.nextHandle ≤ m.nextHandle+1 ∧
      Along (fun m call=>(m.makeTransport sampleSelection (sampleService .tcp) call).2)
        (Returns sampleSelection (sampleService .tcp) ⟨1,selectedConfig sampleSelection (sampleService .tcp) .tcp⟩) m'
        [sampleCall 10 false true,sampleCall 20 false true]:=by
  refine (makeTransport_repeated_iff sampleSelection (sampleService .udp) true [] (sampleService .tcp)
    (sampleCall 0 false true) ⟨1,selectedConfig sampleSelection (sampleService .tcp) .tcp⟩ (by decide +kernel)
    [sampleCall 10 false true,sampleCall 20 false true]).2 fun again hagain=>?_
  refine ⟨?_,.inr ⟨by decide +kernel,.inr (by decide +kernel)⟩⟩
  rcases mem_cons.1 hagain with rfl | hagain
  · decide +kernel
  · rw [mem_singleton.1 hagain]
    decide +kernel

/-- A service with an endpoint of its own gets another transport with each call. -/
theorem makeTransport_duplicates : (let m:=create sampleSelection (sampleService .udp) true
     let one:=m.makeTransport sampleSelection (sampleService .shm) (sampleCall 0 true true)
     let two:=one.2.makeTransport sampleSelection (sampleService .shm) (sampleCall 10 true true)
     one.1.map Transport.handle=some 1 ∧ two.1.map Transport.handle=some 2 ∧ two.2.nextHandle=3) ∧
    (let m:=create sampleSelection (sampleService .udp) true
     let one:=m.makeTransport sampleSelection (sampleService .tcp) (sampleCall 0 true false)
     let two:=one.2.makeTransport sampleSelection (sampleService .tcp)
      (sampleCall 2000 true false)
     one.1=some ⟨1,fallbackConfig sampleSelection (sampleService .tcp) .tcp⟩ ∧
      two.1=some ⟨2,fallbackConfig sampleSelection (sampleService .tcp) .tcp⟩):=by decide +kernel

end TransportManager
end SoftMessageBus
