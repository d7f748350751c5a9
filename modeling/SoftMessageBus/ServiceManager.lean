import SoftMessageBus.Node
import SoftMessageBus.BucketIndex
import SoftMessageBus.StepRuns

/-!
# The service manager

Services are listed by type and found through an index over their names.
-/
namespace SoftMessageBus
open BucketIndex StepRuns List Nat Function

/-- `ZOO_SMB_SERVICE_TYPE_ENUM`. -/
inductive ServiceType where
  | discovery | registration | broadcast
  deriving DecidableEq

/-- A name that fits into an array of `MAX_SERVICE_NAME_LENGTH` bytes. -/
structure ServiceName where
  text : CString
  length_le : text.bytes.length≤63

/-- `ZOO_SMB_SERVICE_STRUCT` with its address. -/
structure Service where
  addr : ℕ
  name : ServiceName

def Service.key (s : Service) : CString:=s.name.text

/-- `ZOO_SMB_SERVICE_MANAGER_STRUCT`. -/
@[ext] structure ServiceManager where
  serviceList : ServiceType→List Service
  registrationIndexBuckets : Index CString 257
  nextAddr : ℕ

/-- The size of the lists that `zoo_smb_create_service_manager` creates for the services. -/
def maxServiceListSize : ℕ:=512

/-- The size of the lists that `zoo_smb_create_service_manager` creates for its buckets. -/
def serviceBucketCapacity : ℕ:=16
def serviceIndexHash (name : CString) : Fin 257:=nameIndexHash name

inductive ServiceHandle where
  | listed (addr : ℕ)
  | own (name : ServiceName)

def ServiceHandle.isRecord : ServiceHandle→Service→Bool
  | .listed addr, s=>s.addr=addr
  | .own _, _=>false

/-- The operations on a manager, with the outcome of their allocations. -/
inductive ServiceOp where
  | register (type : ServiceType) (name : ServiceName) (serviceAlloc indexAlloc : Bool)
  | unregister (type : ServiceType) (service : ServiceHandle)

namespace ServiceManager

/-- `zoo_smb_create_service_manager`. -/
def create (discoveryAlloc : Bool) : ServiceManager where
  serviceList
    | .discovery=>
      if discoveryAlloc then [⟨0,⟨[68,105,115,99,111,118,101,114,121],by decide⟩,by decide⟩]
      else []
    | .registration | .broadcast=>[]
  registrationIndexBuckets _:=[]
  nextAddr:=1

section
variable (m : ServiceManager)

/-- `service_index_upsert_locked`, whose result is ignored. -/
def indexUpsert (alloc : Bool) (service : Service) : Index CString 257:=
  (upsert serviceIndexHash serviceBucketCapacity alloc m.registrationIndexBuckets
    (service.key.truncate 63) service.addr).getD m.registrationIndexBuckets

section
variable (type : ServiceType)

def Listed (name : CString) : Prop:=
  ∃ s∈m.serviceList type, s.key=name
  deriving Decidable

def addService (name : ServiceName)
    (indexAlloc : Bool) : ServiceManager where
  serviceList:=Function.update m.serviceList type
    (if (m.serviceList type).length < maxServiceListSize then
      m.serviceList type++[⟨m.nextAddr,name⟩] else m.serviceList type)
  registrationIndexBuckets:=
    if type = .registration then m.indexUpsert indexAlloc ⟨m.nextAddr,name⟩
    else m.registrationIndexBuckets
  nextAddr:=m.nextAddr+1

@[simp] lemma serviceList_addService (name : ServiceName) (indexAlloc : Bool) :
    (m.addService type name indexAlloc).serviceList type=
      if (m.serviceList type).length < maxServiceListSize then
        m.serviceList type++[⟨m.nextAddr,name⟩] else m.serviceList type:=
  update_self ..

def registerService (name : ServiceName) (serviceAlloc indexAlloc : Bool) : ServiceManager:=
  if m.Listed type name.text then m
  else if serviceAlloc then m.addService type name indexAlloc
  else m

def nameOf : ServiceHandle→Option CString
  | .listed addr=>((m.serviceList type).find? fun s=>s.addr=addr).map Service.key
  | .own name=>some name.text

def dropService (name : CString)
    (service : ServiceHandle) : ServiceManager where
  serviceList:=Function.update m.serviceList type ((m.serviceList type).eraseP service.isRecord)
  registrationIndexBuckets:=
    if type = .registration then remove serviceIndexHash m.registrationIndexBuckets name
    else m.registrationIndexBuckets
  nextAddr:=m.nextAddr

@[simp] lemma serviceList_dropService (name : CString) (service : ServiceHandle) :
    (m.dropService type name service).serviceList type=(m.serviceList type).eraseP service.isRecord:=
  update_self ..

def unregisterService (service : ServiceHandle) : ServiceManager:=
  match m.nameOf type service with
  | none=>m
  | some name=>m.dropService type name service

end

/-- `zoo_smb_service_manager_get_service`. -/
def getService (serviceName : CString) : ServiceType→Option ℕ
  | .registration=>find serviceIndexHash m.registrationIndexBuckets serviceName
  | type=>((m.serviceList type).find? fun s=>s.key=serviceName).map Service.addr

def step : ServiceOp→ServiceManager
  | .register type name serviceAlloc indexAlloc=>
    m.registerService type name serviceAlloc indexAlloc
  | .unregister type service=>m.unregisterService type service

def Complete : Prop:=∀ type name, (m.getService name type).isSome ↔ m.Listed type name

/-- Lookup finds exactly the listed names, and an unregistered one is not among them. -/
def Honours (op : ServiceOp) : Prop:=
  (m.step op).Complete ∧
    match op with
    | .register .. => True
    | .unregister type service=>
      ∀ name, m.nameOf type service=some name→¬(m.step op).Listed type name

/-- The operation changes the list and the index alike. -/
def ChangesAlike : ServiceOp→Prop
  | .register type name serviceAlloc indexAlloc=>
    type ≠ .registration ∨ m.Listed type name.text ∨ serviceAlloc=false ∨
      ((m.serviceList type).length < maxServiceListSize ↔
        indexAlloc=true ∧ (m.registrationIndexBuckets (serviceIndexHash name.text)).length<serviceBucketCapacity)
  | .unregister _ (.listed _)=>True
  | .unregister type (.own name)=>¬m.Listed type name.text

end

structure Consistent (m : ServiceManager) : Prop where
  agrees : Agrees serviceIndexHash Service.key Service.addr m.registrationIndexBuckets (m.serviceList .registration)
  keys_nodup : ∀ type, ((m.serviceList type).map Service.key).Nodup
  addrs_nodup : ∀ type, ((m.serviceList type).map Service.addr).Nodup
  addr_lt : ∀ type, ∀ s∈m.serviceList type, s.addr < m.nextAddr

lemma consistent_create (discoveryAlloc : Bool) : (create discoveryAlloc).Consistent where
  agrees:=.empty
  keys_nodup type:=by cases type <;> cases discoveryAlloc <;> simp [create]
  addrs_nodup type:=by cases type <;> cases discoveryAlloc <;> simp [create]
  addr_lt type:=by cases type <;> cases discoveryAlloc <;> simp [create]

namespace Consistent
variable {m : ServiceManager}

lemma complete (h : m.Consistent) : m.Complete:=by
  intro type name
  cases type with
  | registration=>
    rw [getService,Option.isSome_iff_exists]
    constructor
    · rintro ⟨addr,hfind⟩
      obtain ⟨s,hs,hkey,-⟩:=h.agrees.find_eq_some_iff.1 hfind
      exact ⟨s,hs,hkey⟩
    · rintro ⟨s,hs,hkey⟩
      exact ⟨s.addr,h.agrees.find_eq_some_iff.2 ⟨s,hs,hkey,rfl⟩⟩
  | discovery | broadcast=>simp [getService,Listed]

lemma push_list (h : m.Consistent) (type : ServiceType) {name : ServiceName} (hnew : ¬m.Listed type name.text) :
    let services:=m.serviceList type++[⟨m.nextAddr,name⟩]
    (services.map Service.key).Nodup ∧ (services.map Service.addr).Nodup ∧ ∀ s∈services, s.addr < m.nextAddr+1:=by
  intro services
  refine ⟨?_,?_,?_⟩
  · rw [map_append,map_singleton,← concat_eq_append,nodup_concat]
    exact ⟨fun hmem=>hnew (List.mem_map.1 hmem),h.keys_nodup type⟩
  · rw [map_append,map_singleton,← concat_eq_append,nodup_concat]
    refine ⟨fun hmem=>?_,h.addrs_nodup type⟩
    obtain ⟨s,hs,haddr⟩:=List.mem_map.1 hmem
    exact (h.addr_lt type s hs).ne haddr
  · intro s hs
    rcases mem_append.1 hs with hold | hlast
    · exact lt_succ_of_lt (h.addr_lt type s hold)
    · rw [mem_singleton.1 hlast]
      exact lt_succ_self _

lemma indexUpsert_eq (h : m.Consistent) (indexAlloc : Bool) {name : ServiceName}
    (hnew : ¬m.Listed .registration name.text) (addr : ℕ) :
    m.indexUpsert indexAlloc ⟨addr,name⟩=
      if indexAlloc=true ∧ (m.registrationIndexBuckets (serviceIndexHash name.text)).length<
          serviceBucketCapacity then
        Function.update m.registrationIndexBuckets (serviceIndexHash name.text)
          (m.registrationIndexBuckets (serviceIndexHash name.text)++[(name.text,addr)])
      else m.registrationIndexBuckets:=by
  have hnone : find serviceIndexHash m.registrationIndexBuckets name.text=none:=
    h.agrees.find_eq_none_iff.2 fun s hs hkey=>hnew ⟨s,hs,hkey⟩
  rw [indexUpsert,Service.key,CString.truncate_eq_self name.length_le,upsert,hnone]
  cases indexAlloc with
  | false=>simp
  | true=>
    by_cases hroom : (m.registrationIndexBuckets (serviceIndexHash name.text)).length<
        serviceBucketCapacity
    · simp [push,hroom]
    · simp [push,hroom]

variable {type : ServiceType}

lemma update (h : m.Consistent) {services : List Service} {index : Index CString 257}
    {next : ℕ} (hagr : Agrees serviceIndexHash Service.key Service.addr index
      (Function.update m.serviceList type services .registration))
    (hkeys : (services.map Service.key).Nodup) (haddrs : (services.map Service.addr).Nodup)
    (hlt : ∀ s∈services, s.addr<next) (hnext : m.nextAddr≤next) :
    Consistent ⟨Function.update m.serviceList type services,index,next⟩:=by
  refine ⟨hagr,?_,?_,?_⟩
  · exact (forall_update_iff _ fun _ l=>(List.map Service.key l).Nodup).2 ⟨hkeys,fun other _=>h.keys_nodup other⟩
  · exact (forall_update_iff _ fun _ l=>(List.map Service.addr l).Nodup).2 ⟨haddrs,fun other _=>h.addrs_nodup other⟩
  · exact (forall_update_iff _ fun _ l=>∀ s∈l, s.addr<next).2 ⟨hlt,fun other _ s hs=>(h.addr_lt other s hs).trans_le hnext⟩

variable {indexAlloc : Bool}

section
variable (h : m.Consistent)
include h

lemma addService_registration {name : ServiceName} (hnew : ¬m.Listed .registration name.text)
    (hrooms : (m.serviceList .registration).length < maxServiceListSize ↔ indexAlloc=true ∧
      (m.registrationIndexBuckets (serviceIndexHash name.text)).length<serviceBucketCapacity) :
    (m.addService .registration name indexAlloc).Consistent:=by
  rw [addService,if_pos rfl,h.indexUpsert_eq indexAlloc hnew]
  by_cases hroom : (m.serviceList .registration).length < maxServiceListSize
  · obtain ⟨hkeys,haddrs,hlt⟩:=h.push_list _ hnew
    rw [if_pos hroom,if_pos (hrooms.1 hroom)]
    refine h.update ?_ hkeys haddrs hlt (le_succ _)
    rw [update_self]
    exact h.agrees.push (r:=⟨m.nextAddr,name⟩) (fun s hs hkey=>hnew ⟨s,hs,hkey⟩)
      (fun s hs=>(h.addr_lt _ s hs).ne) (if_pos (hrooms.1 hroom).2)
  · rw [if_neg hroom,if_neg fun hindex=>hroom (hrooms.2 hindex)]
    refine h.update ?_ (h.keys_nodup _) (h.addrs_nodup _) (fun s hs=>lt_succ_of_lt (h.addr_lt _ s hs)) (le_succ _)
    rw [update_self]
    exact h.agrees

lemma addService_of_ne (htype : type ≠ .registration) {name : ServiceName}
    (hnew : ¬m.Listed type name.text) (indexAlloc : Bool) : (m.addService type name indexAlloc).Consistent:=by
  have hagr (services : List Service) : Agrees serviceIndexHash Service.key Service.addr
      m.registrationIndexBuckets (Function.update m.serviceList type services .registration):=by
    rw [update_of_ne (Ne.symm htype)]
    exact h.agrees
  rw [addService,if_neg htype]
  split
  · obtain ⟨hkeys,haddrs,hlt⟩:=h.push_list type hnew
    exact h.update (hagr _) hkeys haddrs hlt (le_succ _)
  · exact h.update (hagr _) (h.keys_nodup _) (h.addrs_nodup _) (fun s hs=>lt_succ_of_lt (h.addr_lt _ s hs)) (le_succ _)

lemma registerService {name : ServiceName} {serviceAlloc : Bool}
    (halike : m.ChangesAlike (.register type name serviceAlloc indexAlloc)) :
    (m.registerService type name serviceAlloc indexAlloc).Consistent:=by
  unfold ServiceManager.registerService
  split
  · exact h
  rename_i hnew
  split
  case isFalse=>exact h
  case isTrue halloc=>
    rcases halike with hne | hlist | hfail | hrooms
    · exact h.addService_of_ne hne hnew indexAlloc
    · exact absurd hlist hnew
    · exact absurd (halloc.symm.trans hfail) (by decide)
    · by_cases htype : type = .registration
      · subst htype
        exact h.addService_registration hnew hrooms
      · exact h.addService_of_ne htype hnew indexAlloc

lemma rooms_of_complete {name : ServiceName} (hnew : ¬m.Listed .registration name.text)
    (hcomplete : (m.addService .registration name indexAlloc).Complete) :
    (m.serviceList .registration).length < maxServiceListSize ↔ indexAlloc=true ∧
      (m.registrationIndexBuckets (serviceIndexHash name.text)).length<serviceBucketCapacity:=by
  have hname:=hcomplete .registration name.text
  have hlisted : (m.addService .registration name indexAlloc).Listed .registration name.text ↔
      (m.serviceList .registration).length < maxServiceListSize:=by
    rw [Listed,serviceList_addService]
    constructor
    · rintro ⟨s,hs,hkey⟩
      by_contra hfull
      rw [if_neg hfull] at hs
      exact hnew ⟨s,hs,hkey⟩
    · intro hroom
      rw [if_pos hroom]
      exact ⟨⟨m.nextAddr,name⟩,by simp,rfl⟩
  have hfound : ((m.addService .registration name indexAlloc).getService name.text
      .registration).isSome ↔ indexAlloc=true ∧
        (m.registrationIndexBuckets (serviceIndexHash name.text)).length < serviceBucketCapacity:=by
    have hindex : (m.addService .registration name indexAlloc).registrationIndexBuckets=
        m.indexUpsert indexAlloc ⟨m.nextAddr,name⟩:=by rw [addService,if_pos rfl]
    rw [getService,hindex,h.indexUpsert_eq indexAlloc hnew]
    constructor
    · intro hsome
      by_contra hfull
      rw [if_neg hfull] at hsome
      exact hnew ((h.complete .registration name.text).1 hsome)
    · intro hroom
      rw [if_pos hroom,find,update_self]
      simp
  exact hlisted.symm.trans (hname.symm.trans hfound)

lemma unregisterService_listed {s : Service} (hs : s∈m.serviceList type) :
    (m.unregisterService type (.listed s.addr)).Consistent ∧
      ¬(m.unregisterService type (.listed s.addr)).Listed type s.key:=by
  have hname : m.nameOf type (.listed s.addr)=some s.key:=by
    rw [nameOf,KeyedList.find?_key_of_mem (h.addrs_nodup type) hs,Option.map_some]
  have hsub : Sublist ((m.serviceList type).eraseP (ServiceHandle.listed s.addr).isRecord)
    (m.serviceList type):=eraseP_sublist
  have heq : m.unregisterService type (.listed s.addr)=
      m.dropService type s.key (.listed s.addr):=by rw [unregisterService,hname]
  rw [heq]
  constructor
  · refine h.update ?_ ((h.keys_nodup type).sublist (hsub.map _))
      ((h.addrs_nodup type).sublist (hsub.map _))
      (fun t ht=>h.addr_lt type t (hsub.subset ht)) le_rfl
    by_cases htype : type = .registration
    · subst htype
      rw [if_pos rfl,update_self]
      exact h.agrees.remove hs
    · rw [if_neg htype,update_of_ne (Ne.symm htype)]
      exact h.agrees
  · rintro ⟨t,ht,hkey⟩
    rw [serviceList_dropService] at ht
    obtain ⟨hmem,haddr⟩:=(KeyedList.mem_eraseP_key (h.addrs_nodup type)).1 ht
    exact haddr (congrArg Service.addr (inj_on_of_nodup_map (h.keys_nodup type) hmem hs hkey))

end

lemma serviceList_unregisterService_own (m : ServiceManager) (type : ServiceType)
    (name : ServiceName) : (m.unregisterService type (.own name)).serviceList=m.serviceList:=by
  have herase : (m.serviceList type).eraseP (ServiceHandle.own name).isRecord=
      m.serviceList type:=eraseP_of_forall_not (by simp [ServiceHandle.isRecord])
  calc (m.unregisterService type (.own name)).serviceList
      = Function.update m.serviceList type ((m.serviceList type).eraseP (ServiceHandle.own name).isRecord):=rfl
    _=m.serviceList:=by rw [herase,update_eq_self]

lemma unregisterService_own (h : m.Consistent) {name : ServiceName}
    (hnew : ¬m.Listed type name.text) : m.unregisterService type (.own name)=m:=by
  apply ServiceManager.ext
  · exact serviceList_unregisterService_own m type name
  · by_cases htype : type = .registration
    · subst htype
      exact remove_eq_self (h.agrees.find_eq_none_iff.2 fun s hs hkey=>hnew ⟨s,hs,hkey⟩)
    · exact if_neg htype
  · rfl

lemma step (h : m.Consistent) {op : ServiceOp} (halike : m.ChangesAlike op) : (m.step op).Consistent:=by
  cases op with
  | register type name serviceAlloc indexAlloc=>exact h.registerService halike
  | unregister type service=>
    cases service with
    | listed addr=>
      cases hfind : (m.serviceList type).find? fun s=>s.addr=addr with
      | none=>
        rw [ServiceManager.step,unregisterService,nameOf,hfind]
        exact h
      | some s=>
        obtain rfl : s.addr=addr:=by simpa using find?_some hfind
        exact (h.unregisterService_listed (mem_of_find?_eq_some hfind)).1
    | own name=>
      rw [ServiceManager.step,h.unregisterService_own halike]
      exact h

lemma honours_iff (h : m.Consistent) (op : ServiceOp) : m.Honours op ↔ m.ChangesAlike op:=by
  constructor
  · rintro ⟨hcomplete,hgone⟩
    cases op with
    | register type name serviceAlloc indexAlloc=>
      by_cases htype : type = .registration
      case neg=>exact .inl htype
      by_cases hnew : m.Listed type name.text
      case pos=>exact .inr (.inl hnew)
      cases serviceAlloc with
      | false=>exact .inr (.inr (.inl rfl))
      | true=>
        subst htype
        rw [ServiceManager.step,ServiceManager.registerService,if_neg hnew,if_pos rfl] at hcomplete
        exact .inr (.inr (.inr (h.rooms_of_complete hnew hcomplete)))
    | unregister type service=>
      cases service with
      | listed addr=>trivial
      | own name=>
        rintro ⟨s,hs,hkey⟩
        refine hgone name.text rfl ⟨s,?_,hkey⟩
        rw [ServiceManager.step,serviceList_unregisterService_own]
        exact hs
  · intro halike
    refine ⟨(h.step halike).complete,?_⟩
    cases op with
    | register type name serviceAlloc indexAlloc=>trivial
    | unregister type service=>
      intro name hname
      cases service with
      | listed addr=>
        obtain ⟨s,hfind,rfl⟩:=Option.map_eq_some_iff.1 hname
        obtain rfl : s.addr=addr:=by simpa using find?_some hfind
        exact (h.unregisterService_listed (mem_of_find?_eq_some hfind)).2
      | own own=>
        cases hname
        rw [ServiceManager.step,h.unregisterService_own halike]
        exact halike

end Consistent

/-- Lookup is complete along a run exactly when every operation changes both alike. -/
theorem run_honours_iff (discoveryAlloc : Bool) (ops : List ServiceOp) :
    Along step Honours (create discoveryAlloc) ops ↔ Along step ChangesAlike (create discoveryAlloc) ops:=
  along_iff_of_invariant Consistent (fun _ _ h halike=>h.step halike)
    (fun _ op h=>h.honours_iff op) (consistent_create discoveryAlloc) ops

/-- A service unregistered through a record of the caller is still listed. -/
theorem unregister_own_stays_listed :
    let name : ServiceName:=⟨⟨[97],by decide⟩,by decide⟩
    let m:=[ServiceOp.register .registration name true true,
      .unregister .registration (.own name)].foldl step (create true)
    m.getService name.text .registration=none ∧ m.Listed .registration name.text:=by decide +kernel

end ServiceManager
end SoftMessageBus
