import SoftMessageBus.BucketIndex
import SoftMessageBus.QosPolicy

/-!
# QoS contexts

A bounded list of state records and a hash index over it.
-/
namespace SoftMessageBus
open BucketIndex List

/-- `ZOO_SMB_MSG_ST_ENUM`. -/
inductive MsgStatus where
  | created | sending | waitingAck | acked | timeout | failed | unknown
  deriving DecidableEq

def maxQosMsgListSize : ℕ:=10240
def qosPruneIntervalMs : UInt64:=1000

/-- The size of the lists that `zoo_smb_create_qos_ctx` creates for its buckets. -/
def qosStateBucketCapacity : ℕ:=16

def getQosCtxCapacity (policy : QosPolicy) : ℕ:=
  if policy.resourceLimitsEnabled && decide (0<policy.resourceLimits.maxSamples) then
    policy.resourceLimits.maxSamples.toNat
  else if policy.historyEnabled && policy.history.kind == historyKeepLast &&
      decide (0<policy.history.depth) then
    policy.history.depth.toNat
  else maxQosMsgListSize

/-- `ZOO_SMB_QOS_STATE_STRUCT`. -/
structure QosState where
  addr : ℕ
  requestId : UInt64
  status : MsgStatus
  msg : Option Message
  timestampMs : UInt64
  matched : Bool
  incompatibilityMask : UInt32
  deriving DecidableEq

/-- `ZOO_SMB_QOS_CTX_STRUCT`. -/
structure QosCtx where
  qosPolicy : QosPolicy
  messages : List QosState
  stateIndexBuckets : Index UInt64 257
  nextPruneDeadlineMs : UInt64
  nextAddr : ℕ
  lost : List ℕ

def qosStateBucketOf (requestId : UInt64) : Fin 257:=⟨requestId.toNat % 257,Nat.mod_lt _ (by decide)⟩

/-- The clock when a call prunes and when it stamps, and whether a record can be allocated. -/
structure QosCall where
  pruneNow : UInt64
  now : UInt64
  alloc : Bool

namespace QosCtx

/-- `zoo_smb_create_qos_ctx`, when its allocations succeed. -/
def create (qosPolicy : QosPolicy) : QosCtx:=⟨qosPolicy,[],fun _=>[],0,0,[]⟩

section
variable (ctx : QosCtx)

def capacity : ℕ:=getQosCtxCapacity ctx.qosPolicy

lemma capacity_pos : 0<ctx.capacity:=by
  unfold capacity getQosCtxCapacity
  split
  next h=>
    simp only [Bool.and_eq_true,decide_eq_true_eq] at h
    exact UInt32.lt_iff_toNat_lt.1 h.2
  split
  next h=>
    simp only [Bool.and_eq_true,decide_eq_true_eq] at h
    exact UInt32.lt_iff_toNat_lt.1 h.2
  · decide

def findState (requestId : UInt64) : Option QosState:=
  lookup qosStateBucketOf QosState.addr ctx.stateIndexBuckets ctx.messages requestId

def stateIsExpired (now : UInt64) (state : QosState) : Bool:=
  ctx.qosPolicy.lifespanEnabled && ctx.qosPolicy.lifespanDurationMs != 0 &&
    decide (ctx.qosPolicy.lifespanDurationMs≤now-state.timestampMs)

/-- The loop of `qos_ctx_prune_expired_locked` over the records still to be popped. -/
def pruneLoop (expired : QosState→Bool) :
    List QosState→List QosState→Index UInt64 257→List QosState × Index UInt64 257
  | kept, [], index=>(kept,index)
  | kept, state::rest, index=>
    if expired state then
      pruneLoop expired kept rest (removeAddr qosStateBucketOf index state.requestId state.addr)
    else pruneLoop expired (kept++[state]) rest index

def pruneExpired (now : UInt64) : QosCtx:=
  if now<ctx.nextPruneDeadlineMs then ctx
  else
    let pruned:=pruneLoop (ctx.stateIsExpired now) [] ctx.messages ctx.stateIndexBuckets
    {ctx with
      messages:=pruned.1
      stateIndexBuckets:=pruned.2
      nextPruneDeadlineMs:=now+qosPruneIntervalMs}

/-- The end of `zoo_smb_qos_ctx_set_state` for an unknown request: a record that does not fit
into the list is lost. -/
def addState (call : QosCall) (requestId : UInt64) (status : MsgStatus) (msg : Option Message) : ErrorType × QosCtx:=
  if !call.alloc then (.invalidParam,ctx)
  else if ctx.capacity≤ctx.messages.length then
    (.bufferFull,{ctx with nextAddr:=ctx.nextAddr+1, lost:=ctx.nextAddr::ctx.lost})
  else match push qosStateBucketOf qosStateBucketCapacity ctx.stateIndexBuckets requestId
      ctx.nextAddr with
    | some index=>
      (.ok, {ctx with
        messages:=ctx.messages++[⟨ctx.nextAddr,requestId,status,msg,call.now,false,0⟩]
        stateIndexBuckets:=index
        nextAddr:=ctx.nextAddr+1})
    | none=>(.bufferFull,ctx)

def setState (call : QosCall) (requestId : UInt64) (status : MsgStatus) (msg : Option Message) : ErrorType × QosCtx:=
  let ctx:=ctx.pruneExpired call.pruneNow
  match ctx.findState requestId with
  | none=>ctx.addState call requestId status msg
  | some state=>
    (.ok, {ctx with
      messages:=modifyAt QosState.addr ctx.messages state.addr fun state=>
        {state with status:=status, timestampMs:=call.now} })

end

structure Consistent (ctx : QosCtx) : Prop where
  agrees : Agrees qosStateBucketOf QosState.requestId QosState.addr ctx.stateIndexBuckets ctx.messages
  addr_lt : ∀ state∈ctx.messages, state.addr<ctx.nextAddr

lemma consistent_create (qosPolicy : QosPolicy) : (create qosPolicy).Consistent where
  agrees:=.empty
  addr_lt _ h:=absurd h not_mem_nil

lemma pruneLoop_spec (expired : QosState→Bool) (rest : List QosState) :
    ∀ (kept : List QosState) (index : Index UInt64 257),
      Agrees qosStateBucketOf QosState.requestId QosState.addr index (kept++rest)→
      (pruneLoop expired kept rest index).1=kept++rest.filter (fun state=>!expired state) ∧
      Agrees qosStateBucketOf QosState.requestId QosState.addr
        (pruneLoop expired kept rest index).2 (pruneLoop expired kept rest index).1:=by
  induction rest with
  | nil=>
    intro kept index h
    rw [append_nil] at h
    exact ⟨by simp [pruneLoop],h⟩
  | cons state rest ih=>
    intro kept index h
    cases hexp : expired state with
    | true=>
      simp only [pruneLoop,hexp,if_true,filter_cons_of_neg,Bool.not_true,Bool.false_eq_true,not_false_eq_true]
      exact ih kept _ h.removeAddr_append_cons
    | false=>
      rw [append_cons] at h
      obtain ⟨hlist,hagr⟩:=ih (kept++[state]) index h
      simp only [pruneLoop,hexp,if_false,Bool.false_eq_true]
      refine ⟨?_,hagr⟩
      rw [hlist,filter_cons_of_pos (by simp [hexp]),append_assoc]
      rfl

variable {ctx : QosCtx} {call : QosCall} {requestId : UInt64}

lemma setState_of_none (h : (ctx.pruneExpired call.pruneNow).findState requestId=none)
    (status : MsgStatus) (msg : Option Message) :
    ctx.setState call requestId status msg=(ctx.pruneExpired call.pruneNow).addState call requestId status msg:=by
  simp only [setState,h]

lemma setState_of_some {state : QosState}
    (h : (ctx.pruneExpired call.pruneNow).findState requestId=some state) (status : MsgStatus) (msg : Option Message) :
    (ctx.setState call requestId status msg).2=
      {ctx.pruneExpired call.pruneNow with
        messages:=modifyAt QosState.addr (ctx.pruneExpired call.pruneNow).messages state.addr
          fun state=>{state with status:=status, timestampMs:=call.now} }:=by simp only [setState,h]

structure HasRoom (ctx : QosCtx) (alloc : Bool) (requestId : UInt64) : Prop where
  alloc : alloc=true
  messages : ctx.messages.length<ctx.capacity
  bucket : (ctx.stateIndexBuckets (qosStateBucketOf requestId)).length<qosStateBucketCapacity

instance (ctx : QosCtx) (alloc : Bool) (requestId : UInt64) : Decidable (ctx.HasRoom alloc requestId):=
  decidable_of_iff (alloc=true ∧ ctx.messages.length<ctx.capacity ∧
      (ctx.stateIndexBuckets (qosStateBucketOf requestId)).length<qosStateBucketCapacity)
    ⟨fun h=>⟨h.1,h.2.1,h.2.2⟩,fun h=>⟨h.1,h.2,h.3⟩⟩

lemma addState_of_hasRoom (h : ctx.HasRoom call.alloc requestId) (status : MsgStatus) (msg : Option Message) :
    ∃ index, push qosStateBucketOf qosStateBucketCapacity ctx.stateIndexBuckets requestId
        ctx.nextAddr=some index ∧
      ctx.addState call requestId status msg=(.ok, {ctx with
        messages:=ctx.messages++[⟨ctx.nextAddr,requestId,status,msg,call.now,false,0⟩]
        stateIndexBuckets:=index
        nextAddr:=ctx.nextAddr+1}):=by
  refine ⟨_,if_pos h.bucket,?_⟩
  rw [addState,if_neg (by simp [h.alloc]),if_neg (Nat.not_le.2 h.messages),push,if_pos h.bucket]

lemma addState_of_not_hasRoom (h : ¬ctx.HasRoom call.alloc requestId) (status : MsgStatus) (msg : Option Message) :
    ∃ nextAddr lost, ctx.nextAddr≤nextAddr ∧
      (ctx.addState call requestId status msg).2 = {ctx with nextAddr:=nextAddr, lost:=lost}:=by
  unfold addState
  split
  · exact ⟨_,_,le_rfl,rfl⟩
  next halloc=>
    split
    · exact ⟨_,_,Nat.le_succ _,rfl⟩
    next hfull=>
      have hbucket : ¬(ctx.stateIndexBuckets (qosStateBucketOf requestId)).length<
          qosStateBucketCapacity:=fun hlt=>
        h ⟨by simpa using halloc,Nat.not_le.1 hfull,hlt⟩
      rw [push,if_neg hbucket]
      exact ⟨_,_,le_rfl,rfl⟩

/-- The records whose lifespan has not passed. -/
def unexpired (ctx : QosCtx) (now : UInt64) : List QosState:=ctx.messages.filter fun state=>!ctx.stateIsExpired now state

/-- The address of a new record for the request, if list and bucket have room for it. -/
def freshAddr (ctx : QosCtx) (alloc : Bool) (requestId : UInt64) : Option ℕ:=
  if ctx.HasRoom alloc requestId then some ctx.nextAddr else none

namespace Consistent
variable {ctx : QosCtx} {id : UInt64} {state : QosState}

section
variable (h : ctx.Consistent)
include h

lemma findState_eq_some_iff : ctx.findState id=some state ↔ state∈ctx.messages ∧ state.requestId=id:=
  h.agrees.lookup_eq_some_iff

lemma messages_pruneExpired (now : UInt64) :
    (ctx.pruneExpired now).messages=if now<ctx.nextPruneDeadlineMs then ctx.messages else ctx.unexpired now:=by
  unfold QosCtx.pruneExpired
  split
  · rfl
  · exact (pruneLoop_spec (ctx.stateIsExpired now) ctx.messages [] ctx.stateIndexBuckets h.agrees).1

lemma mem_of_mem_pruneExpired {now : UInt64} (hstate : state∈(ctx.pruneExpired now).messages) :
    state∈ctx.messages:=by
  rw [h.messages_pruneExpired] at hstate
  split at hstate
  · exact hstate
  · exact mem_of_mem_filter hstate

lemma pruneExpired (now : UInt64) : (ctx.pruneExpired now).Consistent:=by
  have hmem (state : QosState) (hstate : state∈(ctx.pruneExpired now).messages):=h.mem_of_mem_pruneExpired hstate
  unfold QosCtx.pruneExpired at hmem ⊢
  split
  · exact h
  next hdue=>
    rw [if_neg hdue] at hmem
    exact ⟨(pruneLoop_spec (ctx.stateIsExpired now) ctx.messages [] ctx.stateIndexBuckets
      h.agrees).2,fun state hstate=>h.addr_lt state (hmem state hstate)⟩

lemma addState (call : QosCall) {requestId : UInt64} (status : MsgStatus) (msg : Option Message)
    (hnone : ctx.findState requestId=none) : (ctx.addState call requestId status msg).2.Consistent:=by
  by_cases hroom : ctx.HasRoom call.alloc requestId
  · obtain ⟨index,hpush,heq⟩:=addState_of_hasRoom hroom status msg
    rw [heq]
    obtain ⟨hagr,hlt⟩:=h.agrees.push_next
      (r:=⟨ctx.nextAddr,requestId,status,msg,call.now,false,0⟩)
      (h.agrees.lookup_eq_none_iff.1 hnone) h.addr_lt hpush
    exact ⟨hagr,hlt⟩
  · obtain ⟨nextAddr,lost,hle,heq⟩:=addState_of_not_hasRoom hroom status msg
    rw [heq]
    exact ⟨h.agrees,fun state hstate=>lt_of_lt_of_le (h.addr_lt state hstate) hle⟩

lemma setState (call : QosCall) (requestId : UInt64) (status : MsgStatus) (msg : Option Message) :
    (ctx.setState call requestId status msg).2.Consistent:=by
  have hp:=h.pruneExpired call.pruneNow
  cases hfind : (ctx.pruneExpired call.pruneNow).findState requestId with
  | none=>
    rw [setState_of_none hfind]
    exact hp.addState call status msg hfind
  | some state=>
    rw [setState_of_some hfind]
    refine ⟨hp.agrees.modifyAt state.addr (fun _=>rfl) (fun _=>rfl),?_⟩
    intro s hs
    obtain ⟨t,ht,rfl⟩:=List.mem_map.1 hs
    have hlt:=hp.addr_lt t ht
    split <;> exact hlt

lemma findState_modifyAt {found : UInt64} (hfind : ctx.findState found=some state)
    {f : QosState→QosState} (haddr : ∀ s, (f s).addr=s.addr) :
    lookup qosStateBucketOf QosState.addr ctx.stateIndexBuckets
        (modifyAt QosState.addr ctx.messages state.addr f) id=
      if found=id then some (f state) else ctx.findState id:=by
  have hstate:=h.findState_eq_some_iff.1 hfind
  rw [lookup_modifyAt _ _ _ _ _ haddr]
  change (ctx.findState id).map _=_
  split
  next heq=>rw [← heq,hfind,Option.map_some,if_pos rfl]
  next hne=>
    cases hid : ctx.findState id with
    | none=>rfl
    | some s=>
      have hs:=h.findState_eq_some_iff.1 hid
      have haddr_ne : s.addr≠state.addr:=by
        intro heq
        have:=h.agrees.eq_of_addr_eq hs.1 hstate.1 heq
        subst this
        exact hne (hstate.2.symm.trans hs.2)
      rw [Option.map_some,if_neg haddr_ne]

lemma findState_addState {new : UInt64} (hnone : ctx.findState new=none) (call : QosCall)
    (status : MsgStatus) (msg : Option Message) :
    (ctx.addState call new status msg).2.findState id=
      if new=id then (ctx.freshAddr call.alloc new).map fun addr=>
        ⟨addr,new,status,msg,call.now,false,0⟩
      else ctx.findState id:=by
  have hadd:=h.addState call status msg hnone
  unfold freshAddr
  by_cases hroom : ctx.HasRoom call.alloc new
  · obtain ⟨index,-,heq⟩:=addState_of_hasRoom hroom status msg
    rw [heq] at hadd ⊢
    rw [if_pos hroom,Option.map_some]
    apply Option.ext
    intro s
    rw [hadd.findState_eq_some_iff,mem_append,mem_singleton]
    split
    next hid=>
      rw [Option.some.injEq,eq_comm]
      constructor
      · rintro ⟨hs | hs,hkey⟩
        · exact absurd (hkey.trans hid.symm) (h.agrees.lookup_eq_none_iff.1 hnone s hs)
        · exact hs
      · rintro rfl
        exact ⟨.inr rfl,hid⟩
    next hid=>
      rw [h.findState_eq_some_iff]
      refine and_congr_left fun hkey=>or_iff_left ?_
      rintro rfl
      exact hid hkey
  · obtain ⟨nextAddr,lost,-,heq⟩:=addState_of_not_hasRoom hroom status msg
    rw [heq,if_neg hroom]
    split
    next hid=>
      subst hid
      exact hnone
    · rfl

lemma findState_setState (call : QosCall) (requestId : UInt64) (status : MsgStatus) (msg : Option Message) :
    ((ctx.setState call requestId status msg).2.findState requestId).map QosState.status=
        some status ↔
      ((ctx.pruneExpired call.pruneNow).findState requestId).isSome ∨
        (ctx.pruneExpired call.pruneNow).HasRoom call.alloc requestId:=by
  have hp:=h.pruneExpired call.pruneNow
  cases hfind : (ctx.pruneExpired call.pruneNow).findState requestId with
  | none=>
    rw [setState_of_none hfind,hp.findState_addState hfind,if_pos rfl]
    by_cases hroom : (ctx.pruneExpired call.pruneNow).HasRoom call.alloc requestId
    · simp [freshAddr,hroom]
    · simp [freshAddr,hroom]
  | some state=>
    rw [setState_of_some hfind]
    unfold QosCtx.findState
    rw [hp.findState_modifyAt hfind (by exact fun _=>rfl),if_pos rfl]
    simp

end
end Consistent
end QosCtx

/-! ## Operations on QoS contexts -/

inductive QosOp where
  | setState (requestId : UInt64) (status : MsgStatus) (msg : Option Message)
  | setMsgStatus (requestId : UInt64) (status : MsgStatus)
  | setMatchResult (requestId : UInt64) (matched : Bool) (incompatibilityMask : UInt32)
  | removeState (requestId : UInt64)
  | read

namespace QosCtx

section
variable (ctx : QosCtx)

def modifyState (addr : ℕ) (f : QosState→QosState) : QosCtx:=
  {ctx with messages:=modifyAt QosState.addr ctx.messages addr f}

variable (call : QosCall)

def setMsgStatus (requestId : UInt64) (status : MsgStatus) : QosCtx:=
  let ctx:=ctx.pruneExpired call.pruneNow
  match ctx.findState requestId with
  | none=>ctx
  | some state=>ctx.modifyState state.addr fun state=>
      {state with status:=status, timestampMs:=call.now}

def setMatchResult (requestId : UInt64) (matched : Bool) (incompatibilityMask : UInt32) : ErrorType × QosCtx:=
  let ctx:=ctx.pruneExpired call.pruneNow
  match ctx.findState requestId with
  | none=>
    if !call.alloc then (.outOfMemory,ctx)
    else
      let added:=ctx.addState call requestId (if matched then .acked else .failed) none
      (added.1, added.2.modifyState ctx.nextAddr fun state=>
        {state with matched:=matched, incompatibilityMask:=incompatibilityMask})
  | some state=>
    (.ok, ctx.modifyState state.addr fun state=>
      {state with
        matched:=matched
        incompatibilityMask:=incompatibilityMask
        timestampMs:=call.now})

def dropState (state : QosState) : QosCtx:=
  {ctx with
    messages:=ctx.messages.eraseP fun s=>s.addr=state.addr
    stateIndexBuckets:=removeAddr qosStateBucketOf ctx.stateIndexBuckets state.requestId state.addr}

def removeState (requestId : UInt64) : QosCtx:=
  let ctx:=ctx.pruneExpired call.pruneNow
  match ctx.findState requestId with
  | none=>ctx
  | some state=>ctx.dropState state

def perform : QosOp→QosCtx
  | .setState requestId status msg=>(ctx.setState call requestId status msg).2
  | .setMsgStatus requestId status=>ctx.setMsgStatus call requestId status
  | .setMatchResult requestId matched incompatibilityMask=>
    (ctx.setMatchResult call requestId matched incompatibilityMask).2
  | .removeState requestId=>ctx.removeState call requestId
  | .read=>ctx.pruneExpired call.pruneNow

/-- The records that `qos_ctx_prune_expired_locked` frees. -/
def prunedStates (now : UInt64) : List ℕ:=
  if now<ctx.nextPruneDeadlineMs then []
  else (ctx.messages.filter (ctx.stateIsExpired now)).map QosState.addr

/-- The records that a call frees. -/
def freedStates (op : QosOp) : List ℕ:=
  ctx.prunedStates call.pruneNow++
    let ctx:=ctx.pruneExpired call.pruneNow
    match op with
    | .removeState requestId=>((ctx.findState requestId).map QosState.addr).toList
    | .setState requestId _ _ | .setMatchResult requestId _ _=>
      if (ctx.findState requestId).isNone && call.alloc &&
          decide (ctx.messages.length<ctx.capacity) &&
          decide (qosStateBucketCapacity≤(ctx.stateIndexBuckets (qosStateBucketOf requestId)).length) then
        [ctx.nextAddr]
      else []
    | .setMsgStatus _ _ | .read=>[]

def broadcasts : QosOp→Bool
  | .setMatchResult requestId _ _=>
    ((ctx.pruneExpired call.pruneNow).findState requestId).isSome || call.alloc
  | .setState _ _ _ | .setMsgStatus _ _ | .removeState _=>true
  | .read=>false

lemma perform_of_not_broadcasts {ctx : QosCtx} {call : QosCall} {op : QosOp}
    (h : ctx.broadcasts call op=false) : ctx.perform call op=ctx.pruneExpired call.pruneNow:=by
  cases op with
  | setState=>cases h
  | setMsgStatus=>cases h
  | removeState=>cases h
  | read=>rfl
  | setMatchResult requestId matched incompatibilityMask=>
    rw [broadcasts,Bool.or_eq_false_iff,Option.isSome_eq_false_iff,Option.isNone_iff_eq_none] at h
    simp only [perform,setMatchResult,h.1,h.2,Bool.not_false,if_true]

@[simp]
lemma qosPolicy_pruneExpired (now : UInt64) : (ctx.pruneExpired now).qosPolicy=ctx.qosPolicy:=by
  unfold pruneExpired
  split <;> rfl

lemma messages_pruneExpired_nil {ctx : QosCtx} (h : ctx.messages=[]) (now : UInt64) :
    (ctx.pruneExpired now).messages=[]:=by
  unfold pruneExpired
  split
  · exact h
  · dsimp only
    rw [h,pruneLoop]

lemma addState_frame (requestId : UInt64) (status : MsgStatus) (msg : Option Message) :
    ∃ messages index nextAddr lost, (ctx.addState call requestId status msg).2=
      ⟨ctx.qosPolicy,messages,index,ctx.nextPruneDeadlineMs,nextAddr,lost⟩:=by
  by_cases hroom : ctx.HasRoom call.alloc requestId
  · obtain ⟨index,-,heq⟩:=addState_of_hasRoom hroom status msg
    rw [heq]
    exact ⟨_,_,_,_,rfl⟩
  · obtain ⟨nextAddr,lost,-,heq⟩:=addState_of_not_hasRoom hroom status msg
    rw [heq]
    exact ⟨_,_,_,_,rfl⟩

lemma perform_frame (op : QosOp) :
    ∃ messages index nextAddr lost, ctx.perform call op=
      ⟨(ctx.pruneExpired call.pruneNow).qosPolicy,messages,index,
        (ctx.pruneExpired call.pruneNow).nextPruneDeadlineMs,nextAddr,lost⟩:=by
  cases op with
  | setState requestId status msg=>
    rw [perform,setState]
    split
    · exact addState_frame _ _ _ _ _
    · exact ⟨_,_,_,_,rfl⟩
  | setMsgStatus requestId status=>
    rw [perform,setMsgStatus]
    split <;> exact ⟨_,_,_,_,rfl⟩
  | setMatchResult requestId matched incompatibilityMask=>
    rw [perform,setMatchResult]
    dsimp only
    split
    · split
      · exact ⟨_,_,_,_,rfl⟩
      · obtain ⟨_,_,_,_,heq⟩:=addState_frame (ctx.pruneExpired call.pruneNow) call requestId
          (if matched then .acked else .failed) none
        rw [heq]
        exact ⟨_,_,_,_,rfl⟩
    · exact ⟨_,_,_,_,rfl⟩
  | removeState requestId=>
    rw [perform,removeState]
    split <;> exact ⟨_,_,_,_,rfl⟩
  | read=>exact ⟨_,_,_,_,rfl⟩

@[simp]
lemma qosPolicy_perform (op : QosOp) : (ctx.perform call op).qosPolicy=ctx.qosPolicy:=by
  obtain ⟨_,_,_,_,heq⟩:=ctx.perform_frame call op
  rw [heq]
  exact qosPolicy_pruneExpired ctx call.pruneNow

end
namespace Consistent
variable {ctx : QosCtx}

lemma modifyState (h : ctx.Consistent) (addr : ℕ) {f : QosState→QosState}
    (hkey : ∀ state, (f state).requestId=state.requestId)
    (haddr : ∀ state, (f state).addr=state.addr) : (ctx.modifyState addr f).Consistent:=by
  refine ⟨h.agrees.modifyAt addr hkey haddr,fun s hs=>?_⟩
  obtain ⟨t,ht,rfl⟩:=List.mem_map.1 hs
  have hlt:=h.addr_lt t ht
  split
  · exact haddr t ▸ hlt
  · exact hlt

lemma dropState (h : ctx.Consistent) {state : QosState} (hstate : state∈ctx.messages) :
    (ctx.dropState state).Consistent:=by
  refine ⟨?_,fun s hs=>h.addr_lt s (List.mem_of_mem_eraseP hs)⟩
  rw [QosCtx.dropState,h.agrees.removeAddr_eq_remove hstate]
  exact h.agrees.remove hstate

lemma perform (h : ctx.Consistent) (call : QosCall) (op : QosOp) : (ctx.perform call op).Consistent:=by
  have hp:=h.pruneExpired call.pruneNow
  cases op with
  | setState requestId status msg=>exact h.setState call requestId status msg
  | setMsgStatus requestId status=>
    rw [QosCtx.perform,setMsgStatus]
    split
    · exact hp
    · exact hp.modifyState _ (fun _=>rfl) (fun _=>rfl)
  | setMatchResult requestId matched incompatibilityMask=>
    rw [QosCtx.perform,setMatchResult]
    dsimp only
    split
    next hfind=>
      split
      · exact hp
      · exact (hp.addState call _ none hfind).modifyState _ (fun _=>rfl) (fun _=>rfl)
    · exact hp.modifyState _ (fun _=>rfl) (fun _=>rfl)
  | removeState requestId=>
    rw [QosCtx.perform,removeState]
    split
    · exact hp
    next state hfind=>exact hp.dropState (hp.agrees.lookup_eq_some_iff.1 hfind).1
  | read=>exact hp

lemma findState_of_pruneExpired (h : ctx.Consistent) {now requestId : UInt64} {state : QosState}
    (hfind : (ctx.pruneExpired now).findState requestId=some state) : ctx.findState requestId=some state:=by
  have hmem:=(h.pruneExpired now).findState_eq_some_iff.1 hfind
  exact h.findState_eq_some_iff.2 ⟨h.mem_of_mem_pruneExpired hmem.1,hmem.2⟩

end Consistent
end QosCtx

end SoftMessageBus
