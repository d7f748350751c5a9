import SoftMessageBus.DecimalText
import SoftMessageBus.ServiceManager

/-!
# The transports of the transport manager

The manager lists its transports and finds them by their address, port, type and role.
-/
namespace SoftMessageBus
open BucketIndex List

/-- The value of `ZOO_SMB_TRANSPORT_TYPE_ENUM`. -/
def TransportType.code : TransportType→UInt8
  | .udp=>1
  | .udpBroadcast=>2
  | .tcp=>3
  | .shm=>4

/-- `ZOO_SMB_SERVICE_STRUCT`. -/
structure ServiceDescription where
  serviceType : ServiceType
  name : CString
  address : CString
  port : UInt32
  multicastAddress : CString
  multicastPort : UInt32
  transportType : TransportType
  hostFingerprint : CString
  transportCapabilities : UInt32
  shmEndpoint : CString
  isServer : Bool
  address_le : address.bytes.length≤63
  shmEndpoint_le : shmEndpoint.bytes.length≤63

/-- `ZOO_SMB_TRANSPORT_CONFIG_STRUCT`. -/
structure TransportConfig where
  type : TransportType
  name : CString
  address : CString
  port : UInt16
  multicastAddress : CString
  multicastPort : UInt16
  timeoutMs : UInt32
  isServer : Bool
  retryIntervalS : UInt8
  maxSendAttempts : UInt32
  address_le : address.bytes.length≤63
  deriving DecidableEq

/-- A transport, known by its handle, with its configuration. -/
structure Transport where
  handle : ℕ
  config : TransportConfig
  deriving DecidableEq

def transportKeyText (address : CString) (port : UInt16) (type : TransportType)
    (isServer : Bool) : CString where
  bytes:=address.bytes++124::(decimal port.toNat++[124,48+type.code,124,if isServer then 49 else 48])
  nul_notMem:=by
    have hport : (0 : UInt8)∉decimal port.toNat:=notMem_decimal (by decide)
    have haddress:=address.nul_notMem
    cases type <;> cases isServer <;> simp [hport,haddress,TransportType.code]

/-- `make_transport_index_key`. -/
def makeTransportIndexKey (address : CString) (port : UInt16) (type : TransportType) (isServer : Bool) : CString:=
  (transportKeyText address port type isServer).truncate 167

lemma append_cons_inj_of_last {α : Type*} {bar : α} {a b x y : List α} (hx : bar∉x)
    (hy : bar∉y) (h : a++bar::x=b++bar::y) : a=b ∧ x=y:=by
  have hcut {u w z : List α} (hw : bar∉w) (hcons : bar::w=u++bar::z) : u=[]:=by
    cases u with
    | nil=>rfl
    | cons c u=>
      rw [cons_append,List.cons.injEq] at hcons
      exact absurd (hcons.2 ▸ mem_append_right u mem_cons_self) hw
  rcases append_eq_append_iff.1 h with ⟨u,hb,hcons⟩ | ⟨u,ha,hcons⟩
  · obtain rfl:=hcut hx hcons
    exact ⟨by rw [hb,append_nil],(List.cons.inj hcons).2⟩
  · obtain rfl:=hcut hy hcons
    exact ⟨by rw [ha,append_nil],(List.cons.inj hcons).2.symm⟩

lemma length_transportKeyText_le {address : CString} (h : address.bytes.length≤63)
    (port : UInt16) (type : TransportType) (isServer : Bool) :
    (transportKeyText address port type isServer).bytes.length≤167:=by
  have hport:=length_decimal_le port
  simp only [transportKeyText,length_append,length_cons,length_nil]
  omega

lemma makeTransportIndexKey_inj {address address' : CString} {port port' : UInt16}
    {type type' : TransportType} {isServer isServer' : Bool} (hle : address.bytes.length≤63)
    (hle' : address'.bytes.length≤63) (h : makeTransportIndexKey address port type isServer=
      makeTransportIndexKey address' port' type' isServer') :
    address=address' ∧ port=port' ∧ type=type' ∧ isServer=isServer':=by
  rw [makeTransportIndexKey,makeTransportIndexKey,
    CString.truncate_eq_self (length_transportKeyText_le hle port type isServer),
    CString.truncate_eq_self (length_transportKeyText_le hle' port' type' isServer')] at h
  have hbytes:=congrArg CString.bytes h
  simp only [transportKeyText] at hbytes
  rw [← cons_append,← cons_append,← append_assoc,← append_assoc] at hbytes
  -- the last four characters are the type and the role
  obtain ⟨hfront,hback⟩:=append_inj' hbytes rfl
  have hbar {n : ℕ} : (124 : UInt8)∉decimal n:=notMem_decimal (by decide)
  obtain ⟨haddress,hport⟩:=append_cons_inj_of_last hbar hbar hfront
  refine ⟨CString.ext haddress,UInt16.toNat_inj.1 ?_,?_,?_⟩
  · rw [← ofDecimal_decimal port.toNat,hport,ofDecimal_decimal]
  · cases type <;> cases type' <;> first | rfl | cases hback
  · cases isServer <;> cases isServer' <;> first | rfl | simp at hback

def Transport.key (t : Transport) : CString:=
  makeTransportIndexKey t.config.address t.config.port t.config.type t.config.isServer

def ServiceDescription.key (s : ServiceDescription) (type : TransportType) : CString:=
  makeTransportIndexKey s.address s.port.toUInt16 type s.isServer

def transportIndexHash (key : CString) : Fin 257:=nameIndexHash key

/-- The size of the lists that `zoo_smb_create_transport_manager` creates for its buckets. -/
def transportBucketCapacity : ℕ:=16
def maxTransportListSize : ℕ:=256

/-- `ZOO_SMB_TRANSPORT_MANAGER_STRUCT`. -/
structure TransportManager where
  transportList : List Transport
  transportIndexBuckets : Index CString 257
  shmFallbackCooldownUntilMs : UInt64
  nextHandle : ℕ

namespace TransportManager

section
variable (m : TransportManager)

def transportAt (handle : ℕ) : Option Transport:=m.transportList.find? fun t=>t.handle=handle

/-- `transport_index_upsert`, whose callers ignore a failure. -/
def transportIndexUpsert (alloc : Bool) (key : CString) (handle : ℕ) : TransportManager:=
  {m with
    transportIndexBuckets:=(upsert transportIndexHash transportBucketCapacity alloc
      m.transportIndexBuckets key handle).getD m.transportIndexBuckets}

def transportIndexFind (key : CString) : Option ℕ:=find transportIndexHash m.transportIndexBuckets key

variable (s : ServiceDescription)

variable (type : TransportType)

def serves (t : Transport) : Bool:=
  t.config.address=s.address ∧ t.config.port.toUInt32=s.port ∧ t.config.type=type ∧ t.config.isServer=s.isServer

def scan : Option Transport:=m.transportList.find? (serves s type)

/-- `find_transport_by_service`. -/
def findTransportByService (alloc : Bool) (s : ServiceDescription)
    (type : TransportType) : Option Transport × TransportManager:=
  match m.transportIndexFind (s.key type) with
  | some handle=>(m.transportAt handle,m)
  | none=>
    match m.scan s type with
    | some t=>(some t,m.transportIndexUpsert alloc (s.key type) t.handle)
    | none=>(none,m)

def addTransport (alloc : Bool) (config : TransportConfig) : Option Transport × TransportManager:=
  let t : Transport:=⟨m.nextHandle,config⟩
  if m.transportList.length < maxTransportListSize then
    (some t, {m with
      transportList:=m.transportList++[t]
      nextHandle:=m.nextHandle+1}.transportIndexUpsert alloc t.key t.handle)
  else (none,{m with nextHandle:=m.nextHandle+1})

structure Consistent (m : TransportManager) : Prop where
  handle_lt : ∀ t∈m.transportList, t.handle < m.nextHandle
  handles_nodup : (m.transportList.map Transport.handle).Nodup
  indexed : ∀ key handle, m.transportIndexFind key=some handle→ ∃ t∈m.transportList, t.handle=handle ∧ t.key=key

def lookup : Option Transport:=
  match m.transportIndexFind (s.key type) with
  | some handle=>m.transportAt handle
  | none=>m.scan s type

end

variable {m : TransportManager} {s : ServiceDescription} {type : TransportType} {t : Transport} {alloc : Bool}

section
variable (m : TransportManager) (alloc : Bool) (s : ServiceDescription) (type : TransportType)

lemma findTransportByService_fst : (m.findTransportByService alloc s type).1=m.lookup s type:=by
  unfold findTransportByService lookup
  split
  · rfl
  · split <;> simp_all

lemma findTransportByService_snd :
    (m.findTransportByService alloc s type).2=m ∨
      ∃ t, m.transportIndexFind (s.key type)=none ∧ m.scan s type=some t ∧
        (m.findTransportByService alloc s type).2=m.transportIndexUpsert alloc (s.key type) t.handle:=by
  unfold findTransportByService
  split
  · exact .inl rfl
  next hfind=>
    split
    next t hscan=>exact .inr ⟨t,hfind,hscan,rfl⟩
    · exact .inl rfl

end

lemma transportIndexFind_upsert_of_ne {key key' : CString} (hne : key'≠key) (handle : ℕ) :
    (m.transportIndexUpsert alloc key handle).transportIndexFind key' = m.transportIndexFind key':=by
  rw [transportIndexFind,transportIndexFind,transportIndexUpsert]
  cases hups : upsert transportIndexHash transportBucketCapacity alloc m.transportIndexBuckets key handle with
  | none=>rfl
  | some index=>exact find_upsert_of_ne hne hups

lemma transportIndexFind_upsert_self (m : TransportManager) (alloc : Bool) (key : CString) (handle : ℕ) :
    (m.transportIndexUpsert alloc key handle).transportIndexFind key=some handle ∨
      m.transportIndexFind key=none ∧ (m.transportIndexUpsert alloc key handle).transportIndexFind key=none:=by
  rw [transportIndexFind,transportIndexFind,transportIndexUpsert]
  cases hups : upsert transportIndexHash transportBucketCapacity alloc m.transportIndexBuckets key handle with
  | none=>
    have hnone:=(upsert_eq_none_iff.1 hups).1
    exact .inr ⟨hnone,hnone⟩
  | some index=>exact .inl (find_upsert_self hups)

lemma serves_iff : serves s type t=true ↔
    t.config.address=s.address ∧ t.config.port.toUInt32=s.port ∧ t.config.type=type ∧ t.config.isServer=s.isServer:=
  decide_eq_true_iff

lemma key_eq_of_serves (h : serves s type t=true) : t.key=s.key type:=by
  obtain ⟨haddress,hport,htype,hserver⟩:=serves_iff.1 h
  rw [Transport.key,ServiceDescription.key,haddress,htype,hserver,← hport]
  congr 1
  exact (UInt16.toUInt16_toUInt32 _).symm

lemma of_key_eq (h : t.key=s.key type) :
    t.config.address=s.address ∧ t.config.port=s.port.toUInt16 ∧ t.config.type=type ∧ t.config.isServer=s.isServer:=
  makeTransportIndexKey_inj t.config.address_le s.address_le h

namespace Consistent

section
variable (h : m.Consistent)
include h

lemma transportAt (ht : t∈m.transportList) : m.transportAt t.handle=some t:=KeyedList.find?_key_of_mem h.handles_nodup ht

lemma of_lookup (hlookup : m.lookup s type=some t) : t∈m.transportList ∧ t.key=s.key type:=by
  unfold lookup at hlookup
  split at hlookup
  next handle hfind=>
    obtain ⟨u,hu,rfl,hkey⟩:=h.indexed _ _ hfind
    rw [h.transportAt hu] at hlookup
    cases hlookup
    exact ⟨hu,hkey⟩
  · exact ⟨mem_of_find?_eq_some hlookup,key_eq_of_serves (find?_some hlookup)⟩

lemma upsert (ht : t∈m.transportList) (alloc : Bool) :
    (m.transportIndexUpsert alloc t.key t.handle).Consistent:=by
  refine ⟨h.handle_lt,h.handles_nodup,fun key handle hfind=>?_⟩
  by_cases hkey : key=t.key
  · subst hkey
    rcases m.transportIndexFind_upsert_self alloc t.key t.handle with hself | ⟨-,hself⟩
    · rw [hself] at hfind
      cases hfind
      exact ⟨t,ht,rfl,rfl⟩
    · rw [hself] at hfind
      cases hfind
  · rw [transportIndexFind_upsert_of_ne hkey] at hfind
    exact h.indexed key handle hfind

lemma findTransportByService (alloc : Bool) (s : ServiceDescription) (type : TransportType) :
    (m.findTransportByService alloc s type).2.Consistent:=by
  rcases m.findTransportByService_snd alloc s type with heq | ⟨t,-,hscan,heq⟩
  · rw [heq]
    exact h
  · rw [heq,← key_eq_of_serves (find?_some hscan)]
    exact h.upsert (mem_of_find?_eq_some hscan) alloc

lemma append (config : TransportConfig) :
    ({m with
      transportList:=m.transportList++[⟨m.nextHandle,config⟩]
      nextHandle:=m.nextHandle+1} : TransportManager).Consistent:=by
  refine ⟨?_,?_,fun key handle hfind=>?_⟩
  · intro t ht
    rcases mem_append.1 ht with hold | hnew
    · exact Nat.lt_succ_of_lt (h.handle_lt t hold)
    · rw [mem_singleton.1 hnew]
      exact Nat.lt_succ_self _
  · rw [map_append,map_singleton,← concat_eq_append,nodup_concat]
    refine ⟨fun hmem=>?_,h.handles_nodup⟩
    obtain ⟨t,ht,heq⟩:=List.mem_map.1 hmem
    exact absurd heq (Nat.ne_of_lt (h.handle_lt t ht))
  · obtain ⟨t,ht,hrest⟩:=h.indexed key handle hfind
    exact ⟨t,mem_append_left _ ht,hrest⟩

lemma addTransport (alloc : Bool) (config : TransportConfig) :
    (m.addTransport alloc config).2.Consistent:=by
  unfold TransportManager.addTransport
  dsimp only
  split
  · exact (h.append config).upsert (mem_append_right _ mem_cons_self) alloc
  · refine ⟨fun t ht=>Nat.lt_succ_of_lt (h.handle_lt t ht),h.handles_nodup,h.indexed⟩

end
end Consistent
end TransportManager
end SoftMessageBus
