import SoftMessageBus.ProtocolCodec
import SoftMessageBus.StepRuns
import SoftMessageBus.QosWait

/-!
# Histories of a QoS context

What a context answers for a request after any history of calls.
-/
namespace SoftMessageBus
open BucketIndex StepRuns List

/-- The calls of a client on its QoS context for one request. -/
structure RequestExchange where
  requestId : UInt64
  request : Message
  send : QosCall
  acks : List QosCall

namespace QosCtx

def sendRequest (ctx : QosCtx) (e : RequestExchange) : QosCtx:=
  (ctx.setState e.send e.requestId .created (some e.request)).2

def acknowledge (requestId : UInt64) (ctx : QosCtx) (call : QosCall) : QosCtx:=(ctx.setState call requestId .acked none).2
def exchange (ctx : QosCtx) (e : RequestExchange) : QosCtx:=e.acks.foldl (acknowledge e.requestId) (ctx.sendRequest e)

def Records (ctx : QosCtx) (e : RequestExchange) : Prop:=
  ((ctx.sendRequest e).findState e.requestId).map QosState.status=some .created

/-- Once pruned, the context has a record of the request or room for one. -/
def Accommodates (ctx : QosCtx) (e : RequestExchange) : Prop:=
  ((ctx.pruneExpired e.send.pruneNow).findState e.requestId).isSome ∨
    (ctx.pruneExpired e.send.pruneNow).HasRoom e.send.alloc e.requestId

structure Bounded (policy : QosPolicy) (ctx : QosCtx) : Prop extends ctx.Consistent where
  policy_eq : ctx.qosPolicy=policy
  length_le : ctx.messages.length≤getQosCtxCapacity policy

namespace Bounded
variable {policy : QosPolicy} {ctx : QosCtx}

lemma create (policy : QosPolicy) : (create policy).Bounded policy:=⟨consistent_create policy,rfl,Nat.zero_le _⟩

section
variable (h : ctx.Bounded policy)
include h

lemma pruneExpired (now : UInt64) : (ctx.pruneExpired now).Bounded policy:=by
  refine ⟨h.toConsistent.pruneExpired now,by rw [qosPolicy_pruneExpired,h.policy_eq],?_⟩
  rw [h.toConsistent.messages_pruneExpired]
  split
  · exact h.length_le
  · exact (length_filter_le _ _).trans h.length_le

lemma setState (call : QosCall) (requestId : UInt64) (status : MsgStatus) (msg : Option Message) :
    (ctx.setState call requestId status msg).2.Bounded policy:=by
  have hp:=h.pruneExpired call.pruneNow
  refine ⟨h.toConsistent.setState call requestId status msg,
    (qosPolicy_perform ctx call (.setState requestId status msg)).trans h.policy_eq,?_⟩
  cases hfind : (ctx.pruneExpired call.pruneNow).findState requestId with
  | none=>
    rw [setState_of_none hfind]
    by_cases hroom : (ctx.pruneExpired call.pruneNow).HasRoom call.alloc requestId
    · obtain ⟨index,-,hadd⟩:=addState_of_hasRoom hroom status msg
      have hlt:=hroom.messages
      rw [capacity,hp.policy_eq] at hlt
      rw [hadd,length_append]
      exact hlt
    · obtain ⟨nextAddr,lost,-,hadd⟩:=addState_of_not_hasRoom hroom status msg
      rw [hadd]
      exact hp.length_le
  | some state=>
    rw [setState_of_some hfind]
    exact (length_map _).trans_le hp.length_le

lemma exchange (e : RequestExchange) : (ctx.exchange e).Bounded policy:=by
  have hacks : ∀ (acks : List QosCall) (ctx : QosCtx), ctx.Bounded policy→
      (acks.foldl (acknowledge e.requestId) ctx).Bounded policy:=by
    intro acks
    induction acks with
    | nil=>exact fun _ h=>h
    | cons call acks ih=>exact fun ctx h=>ih _ (h.setState call e.requestId .acked none)
  exact hacks e.acks _ (h.setState e.send e.requestId .created (some e.request))

lemma run (exchanges : List RequestExchange) : (exchanges.foldl QosCtx.exchange ctx).Bounded policy:=by
  induction exchanges generalizing ctx with
  | nil=>exact h
  | cons e exchanges ih=>exact ih (h.exchange e)

end
end Bounded

/-- Every new request of a sequence is recorded exactly when each finds room. -/
theorem exchanges_recorded_iff (policy : QosPolicy) (exchanges : List RequestExchange) :
    ((∀ n, ((exchanges.take n).foldl exchange (.create policy)).messages.length≤
        getQosCtxCapacity policy) ∧ Along exchange Records (.create policy) exchanges) ↔
      Along exchange Accommodates (.create policy) exchanges:=by
  rw [and_iff_right fun n=>((Bounded.create policy).run (exchanges.take n)).length_le]
  refine along_iff_of_invariant (Bounded policy) ?_ ?_ (.create policy) exchanges
  · exact fun ctx e h _=>h.exchange e
  · exact fun ctx e h=>h.toConsistent.findState_setState e.send e.requestId .created (some e.request)

/-- Sixteen completed exchanges take up the bucket of the next request. -/
theorem seventeenth_request_not_recorded :
    ¬Along exchange Records (.create defaultQosPolicy)
      ((range 17).map fun i=>⟨UInt64.ofNat (257*(i+1)),samplePublication,⟨0,0,true⟩, [⟨0,0,true⟩,⟨0,0,true⟩]⟩):=by
  unfold Records
  decide +kernel

end QosCtx
namespace QosOp

/-- The request that an operation makes a record of, if there is none yet. -/
def records : QosOp→Option UInt64
  | setState requestId _ _ | setMatchResult requestId _ _=>some requestId
  | _=>none

def requestId : QosOp→Option UInt64
  | setState requestId _ _ | setMsgStatus requestId _ | setMatchResult requestId _ _
  | removeState requestId=>some requestId
  | read=>none

/-- The record of its request after an operation, given the one before and a fresh address. -/
def record (now : UInt64) (fresh : Option ℕ) : QosOp→Option QosState→Option QosState
  | setState requestId status msg, none=>
    fresh.map fun addr=>⟨addr,requestId,status,msg,now,false,0⟩
  | setState _ status _, some state | setMsgStatus _ status, some state=>
    some {state with status:=status, timestampMs:=now}
  | setMatchResult requestId matched mask, none=>
    fresh.map fun addr=>⟨addr,requestId,if matched then .acked else .failed,none,now,matched,mask⟩
  | setMatchResult _ matched mask, some state=>
    some {state with matched:=matched, incompatibilityMask:=mask, timestampMs:=now}
  | setMsgStatus _ _, none | removeState _, _=>none
  | read, old=>old

end QosOp

lemma QosOp.timestampMs_record {now : UInt64} {fresh : Option ℕ} {op : QosOp}
    {old : Option QosState} {state : QosState} (hop : op.requestId≠none)
    (h : op.record now fresh old=some state) : state.timestampMs=now:=by
  cases op <;> cases old <;> cases fresh <;> cases h <;> first | rfl | exact absurd rfl hop

namespace QosCtx
namespace Consistent
variable {ctx : QosCtx} {id : UInt64} {state : QosState}

lemma findState_addMatched (h : ctx.Consistent) {new : UInt64}
    (hnone : ctx.findState new=none) (call : QosCall) (matched : Bool) (mask : UInt32) :
    ((ctx.addState call new (if matched then .acked else .failed) none).2.modifyState
        ctx.nextAddr fun s=>{s with matched:=matched, incompatibilityMask:=mask}).findState
        id=
      if new=id then (QosOp.setMatchResult new matched mask).record call.now
        (ctx.freshAddr call.alloc new) none
      else ctx.findState id:=by
  refine (lookup_modifyAt qosStateBucketOf _ _ _ _ (by exact fun _=>rfl)).trans ?_
  change ((ctx.addState _ _ _ _).2.findState id).map _=_
  rw [h.findState_addState hnone]
  split
  · by_cases hroom : ctx.HasRoom call.alloc new
    · rw [freshAddr,if_pos hroom,Option.map_some,Option.map_some,if_pos rfl]
      rfl
    · rw [freshAddr,if_neg hroom]
      rfl
  · cases hid : ctx.findState id with
    | none=>rfl
    | some s=>
      have hlt:=h.addr_lt s (h.findState_eq_some_iff.1 hid).1
      rw [Option.map_some,if_neg hlt.ne]

lemma findState_dropState (h : ctx.Consistent) {found : UInt64} (hfind : ctx.findState found=some state) :
    (ctx.dropState state).findState id=if found=id then none else ctx.findState id:=by
  have hstate:=h.findState_eq_some_iff.1 hfind
  have hdrop:=h.dropState hstate.1
  apply Option.ext
  intro s
  have hmem : s∈(ctx.dropState state).messages ↔ s∈ctx.messages ∧ s.addr≠state.addr:=
    KeyedList.mem_eraseP_key h.agrees.addrs_nodup
  rw [hdrop.findState_eq_some_iff,hmem]
  split
  next hid=>
    refine iff_of_false ?_ (by simp)
    rintro ⟨⟨hs,haddr⟩,hkey⟩
    have:=h.agrees.eq_of_key_eq hs hstate.1 (hkey.trans (hid.symm.trans hstate.2.symm))
    exact haddr (congrArg QosState.addr this)
  next hid=>
    rw [h.findState_eq_some_iff]
    refine and_congr_left fun hkey=>and_iff_left_of_imp fun hs haddr=>hid ?_
    rw [← hkey,← hstate.2,h.agrees.eq_of_addr_eq hs hstate.1 haddr]

lemma findState_perform_of_requestId (h : ctx.Consistent) (call : QosCall) {op : QosOp}
    {found : UInt64} (hop : op.requestId=some found) :
    (ctx.perform call op).findState id=
      if found=id then
        op.record call.now ((ctx.pruneExpired call.pruneNow).freshAddr call.alloc found)
          ((ctx.pruneExpired call.pruneNow).findState found)
      else (ctx.pruneExpired call.pruneNow).findState id:=by
  have hp:=h.pruneExpired call.pruneNow
  generalize hctx : ctx.pruneExpired call.pruneNow=pruned at hp ⊢
  have hunknown (hnone : pruned.findState found=none) :
      pruned.findState id=if found=id then none else pruned.findState id:=by
    split
    next hid=>exact hid ▸ hnone
    · rfl
  cases hfind : pruned.findState found with
  | none=>
    cases op with
    | setState new status msg=>
      cases hop
      simp only [QosCtx.perform,QosCtx.setState,hctx,hfind]
      exact hp.findState_addState hfind call status msg
    | setMsgStatus known status=>
      cases hop
      simp only [QosCtx.perform,QosCtx.setMsgStatus,hctx,hfind]
      exact hunknown hfind
    | setMatchResult new matched mask=>
      cases hop
      simp only [QosCtx.perform,QosCtx.setMatchResult,hctx,hfind]
      by_cases halloc : (!call.alloc)=true
      · have hroom : ¬pruned.HasRoom call.alloc found:=fun hroom=>by simp [hroom.alloc] at halloc
        rw [if_pos halloc,freshAddr,if_neg hroom]
        exact hunknown hfind
      · rw [if_neg halloc]
        exact hp.findState_addMatched hfind call matched mask
    | removeState known=>
      cases hop
      simp only [QosCtx.perform,QosCtx.removeState,hctx,hfind]
      exact hunknown hfind
    | read=>cases hop
  | some s=>
    cases op with
    | setState | setMsgStatus | setMatchResult=>
      cases hop
      simp only [QosCtx.perform,QosCtx.setState,QosCtx.setMsgStatus,QosCtx.setMatchResult,hctx,hfind]
      exact hp.findState_modifyAt hfind (by exact fun _=>rfl)
    | removeState known=>
      cases hop
      simp only [QosCtx.perform,QosCtx.removeState,hctx,hfind]
      exact hp.findState_dropState hfind
    | read=>cases hop

/-- What a call makes a lookup answer. -/
lemma findState_perform (h : ctx.Consistent) (call : QosCall) (op : QosOp) :
    (ctx.perform call op).findState id=
      if op.requestId=some id then
        op.record call.now ((ctx.pruneExpired call.pruneNow).freshAddr call.alloc id)
          ((ctx.pruneExpired call.pruneNow).findState id)
      else (ctx.pruneExpired call.pruneNow).findState id:=by
  cases hop : op.requestId with
  | none=>
    cases op <;> cases hop
    rfl
  | some found=>
    rw [h.findState_perform_of_requestId call hop]
    simp only [Option.some.injEq]
    split
    next hid=>rw [hid]
    · rfl

end Consistent

/-- A context beside the record that was last set for each request it holds. -/
def trackLatest (s : QosCtx × (UInt64→Option QosState)) (call : QosCall × QosOp) :
    QosCtx × (UInt64→Option QosState):=
  let pruned:=s.1.pruneExpired call.1.pruneNow
  (s.1.perform call.1 call.2, fun id=>
    let held:=if (pruned.findState id).isSome then s.2 id else none
    if call.2.requestId=some id then
      call.2.record call.1.now (pruned.freshAddr call.1.alloc id) held
    else held)

def latest (policy : QosPolicy) (calls : List (QosCall × QosOp)) : UInt64→Option QosState:=
  (calls.foldl trackLatest (create policy, fun _=>none)).2

lemma trackLatest_step {s : QosCtx × (UInt64→Option QosState)} (hctx : s.1.Consistent)
    (hs : s.2=s.1.findState) (call : QosCall × QosOp) :
    (trackLatest s call).2=(trackLatest s call).1.findState:=by
  funext id
  have hheld : (if ((s.1.pruneExpired call.1.pruneNow).findState id).isSome then
      s.1.findState id else none)=(s.1.pruneExpired call.1.pruneNow).findState id:=by
    cases hfind : (s.1.pruneExpired call.1.pruneNow).findState id with
    | none=>rfl
    | some state=>exact hctx.findState_of_pruneExpired hfind
  simp only [trackLatest,hs,hheld,hctx.findState_perform]

lemma findState_after (policy : QosPolicy) (calls : List (QosCall × QosOp)) :
    (after policy calls).findState=latest policy calls:=by
  have hrun : ∀ s : QosCtx × (UInt64→Option QosState), s.1.Consistent→
      s.2=s.1.findState→
      (calls.foldl (fun ctx call=>ctx.perform call.1 call.2) s.1).findState=(calls.foldl trackLatest s).2:=by
    induction calls with
    | nil=>exact fun s _ hs=>hs.symm
    | cons call calls ih=>
      exact fun s hctx hs=>ih (trackLatest s call) (hctx.perform call.1 call.2) (trackLatest_step hctx hs call)
  exact hrun (create policy, fun _=>none) (consistent_create policy) rfl

/-- List and index hold the same records, and a lookup answers with the one set last. -/
theorem views_agree (policy : QosPolicy) (calls : List (QosCall × QosOp)) :
    ((after policy calls).messages.map QosState.requestId).Nodup ∧
    ((after policy calls).messages.map QosState.addr).Nodup ∧
    (∀ bucket, (((after policy calls).stateIndexBuckets bucket).map Prod.fst).Nodup) ∧
    (∀ bucket entry, entry∈(after policy calls).stateIndexBuckets bucket ↔
      qosStateBucketOf entry.1=bucket ∧ ∃ state∈(after policy calls).messages, (state.requestId,state.addr)=entry) ∧
    ∀ id, (after policy calls).findState id=latest policy calls id:=by
  have h:=(consistent_after policy calls).1.agrees
  refine ⟨h.keys_nodup,h.addrs_nodup,h.entries_nodup,fun bucket entry=>?_,congrFun (findState_after policy calls)⟩
  rw [h.mem_iff,List.mem_map]

/-- A new request is recorded below the capacity, and takes no memory if it is not. -/
def Honours (ctx : QosCtx) (call : QosCall) (requestId : UInt64) (result : QosCtx) : Prop:=
  ((ctx.unexpired call.pruneNow).length<ctx.capacity→(result.findState requestId).isSome) ∧
  (result.findState requestId=none → result.lost=ctx.lost)

/-- List and bucket have room for a record, or there is neither memory nor a place for one. -/
def Fits (ctx : QosCtx) (call : QosCall) (requestId : UInt64) : Prop:=
  (ctx.pruneExpired call.pruneNow).HasRoom call.alloc requestId ∨
    (call.alloc=false ∧ ctx.capacity≤(ctx.unexpired call.pruneNow).length)

lemma lost_pruneExpired (ctx : QosCtx) (now : UInt64) : (ctx.pruneExpired now).lost=ctx.lost:=by
  unfold pruneExpired
  split <;> rfl

lemma lost_addState (ctx : QosCtx) (call : QosCall) (requestId : UInt64) (status : MsgStatus) (msg : Option Message) :
    (ctx.addState call requestId status msg).2.lost=
      if call.alloc=true ∧ ctx.capacity≤ctx.messages.length then ctx.nextAddr::ctx.lost
      else ctx.lost:=by
  cases halloc : call.alloc with
  | false=>simp [addState,halloc]
  | true=>
    simp only [addState,halloc,Bool.not_true,Bool.false_eq_true,if_false,true_and]
    split
    · rfl
    · split <;> rfl

variable {ctx : QosCtx} {call : QosCall} {op : QosOp} {id : UInt64}

section
variable (h : ctx.Consistent)
include h

lemma findState_pruneExpired_of_new (hnew : ctx.findState id=none) (now : UInt64) :
    (ctx.pruneExpired now).findState id=none:=by
  rw [Option.eq_none_iff_forall_ne_some]
  intro state hfind
  rw [h.findState_of_pruneExpired hfind] at hnew
  cases hnew

lemma isSome_findState_of_new (call : QosCall) (hop : op.records=some id) (hnew : ctx.findState id=none) :
    ((ctx.perform call op).findState id).isSome ↔ (ctx.pruneExpired call.pruneNow).HasRoom call.alloc id:=by
  rw [h.findState_perform,findState_pruneExpired_of_new h hnew]
  unfold freshAddr
  cases op <;> cases hop <;> by_cases hroom :
    (ctx.pruneExpired call.pruneNow).HasRoom call.alloc id <;>
    simp [QosOp.requestId,QosOp.record,hroom]

lemma lost_perform_of_new (hop : op.records=some id) (hnew : ctx.findState id=none) :
    (ctx.perform call op).lost=
      if call.alloc=true ∧ ctx.capacity≤(ctx.pruneExpired call.pruneNow).messages.length then
        (ctx.pruneExpired call.pruneNow).nextAddr::ctx.lost
      else ctx.lost:=by
  have hgone:=findState_pruneExpired_of_new h hnew call.pruneNow
  have hlost (status : MsgStatus) (msg : Option Message):=lost_addState (ctx.pruneExpired call.pruneNow) call id status msg
  rw [capacity,qosPolicy_pruneExpired,lost_pruneExpired] at hlost
  cases op with
  | setState new status msg=>
    cases hop
    rw [perform,setState_of_none hgone]
    exact hlost status msg
  | setMatchResult new matched mask=>
    cases hop
    simp only [perform,setMatchResult,hgone]
    by_cases halloc : (!call.alloc)=true
    · rw [if_pos halloc,lost_pruneExpired,if_neg (by simp_all)]
    · rw [if_neg halloc]
      exact hlost _ none
  | setMsgStatus=>cases hop
  | removeState=>cases hop
  | read=>cases hop

lemma unexpired_length_le (now : UInt64) :
    (ctx.unexpired now).length≤(ctx.pruneExpired now).messages.length:=by
  rw [h.messages_pruneExpired]
  split
  · exact length_filter_le _ _
  · exact le_rfl

lemma honours_iff_fits (hop : op.records=some id) (hnew : ctx.findState id=none) :
    ctx.Honours call id (ctx.perform call op) ↔ ctx.Fits call id:=by
  have hsome:=isSome_findState_of_new h call hop hnew
  have hle:=unexpired_length_le h call.pruneNow
  have hcap : (ctx.pruneExpired call.pruneNow).capacity=ctx.capacity:=by
    rw [capacity,qosPolicy_pruneExpired,capacity]
  rw [Honours,Fits,lost_perform_of_new h hop hnew,← Option.not_isSome_iff_eq_none,hsome]
  by_cases hroom : (ctx.pruneExpired call.pruneNow).HasRoom call.alloc id
  · exact iff_of_true ⟨fun _=>hroom,absurd hroom⟩ (.inl hroom)
  constructor
  · rintro ⟨hheld,hkept⟩
    have hfull:=Nat.not_lt.1 fun hlt=>hroom (hheld hlt)
    refine .inr ⟨Bool.eq_false_iff.2 fun halloc=>?_,hfull⟩
    have:=hkept hroom
    rw [if_pos ⟨halloc,hfull.trans hle⟩] at this
    exact cons_ne_self _ _ this
  · rintro (hfits | ⟨halloc,hfull⟩)
    · exact absurd hfits hroom
    · exact ⟨fun hlt=>absurd hlt (Nat.not_lt.2 hfull),
        fun _=>if_neg fun hlost=>Bool.false_ne_true (halloc.symm.trans hlost.1)⟩

end

/-- A context honours its capacity exactly if list and bucket have room for the record. -/
theorem capacity_honoured_iff (policy : QosPolicy) (calls : List (QosCall × QosOp))
    (call : QosCall) (op : QosOp) (id : UInt64) (hop : op.records=some id)
    (hnew : (after policy calls).findState id=none) :
    (after policy calls).Honours call id ((after policy calls).perform call op) ↔ (after policy calls).Fits call id:=
  honours_iff_fits (consistent_after policy calls).1 hop hnew

def sameBucketCalls : List (QosCall × QosOp):=(range 16).map fun k=>(⟨0,0,true⟩,.setState (257*k).toUInt64 .created none)

/-- The sixteenth request of a bucket is recorded. -/
theorem capacity_honoured_first :
    (after defaultQosPolicy (sameBucketCalls.take 15)).Honours ⟨0,0,true⟩ 4112
      ((after defaultQosPolicy (sameBucketCalls.take 15)).perform ⟨0,0,true⟩ (.setState 4112 .created none)):=
  (capacity_honoured_iff _ _ _ (.setState 4112 .created none) 4112 rfl (by decide +kernel)).2 (.inl (by decide +kernel))

/-- Sixteen requests fill a bucket, and the context of capacity 10240 refuses the next one. -/
theorem bucket_full_before_capacity :
    ¬(after defaultQosPolicy sameBucketCalls).Honours ⟨0,0,true⟩ 4112
      ((after defaultQosPolicy sameBucketCalls).perform ⟨0,0,true⟩ (.setState 4112 .created none)):=by
  rw [honours_iff_fits (consistent_after _ _).1 rfl (by decide +kernel)]
  rintro (h | ⟨h,-⟩)
  · exact absurd h (by decide +kernel)
  · cases h

/-- A context and the clock when it was used last. -/
def timedStep (s : QosCtx × UInt64) (call : QosCall × QosOp) : QosCtx × UInt64:=(s.1.perform call.1 call.2,call.1.now)
def ClockOrdered (s : QosCtx × UInt64) (call : QosCall × QosOp) : Prop:=s.2≤call.1.pruneNow ∧ call.1.pruneNow≤call.1.now

/-- The time of the last pruning pass bounds the next one, and no record had expired then. -/
structure Aged (policy : QosPolicy) (ctx : QosCtx) (clock : UInt64) : Prop where
  consistent : ctx.Consistent
  qosPolicy : ctx.qosPolicy=policy
  stamped : ∀ state∈ctx.messages, state.timestampMs≤clock
  pruned : ∃ last, last≤clock.toNat ∧ ctx.nextPruneDeadlineMs.toNat≤last+1000 ∧
    ∀ state∈ctx.messages, last<state.timestampMs.toNat+policy.lifespanDurationMs.toNat

section
variable {policy : QosPolicy} {clock now : UInt64} {state : QosState}

lemma stateIsExpired_eq_false_iff (hlife : ctx.qosPolicy.lifespanEnabled=true)
    (hduration : ctx.qosPolicy.lifespanDurationMs≠0) (hstamp : state.timestampMs≤now) :
    (!ctx.stateIsExpired now state)=true ↔ now.toNat<state.timestampMs.toNat+ctx.qosPolicy.lifespanDurationMs.toNat:=by
  have hsub:=UInt64.toNat_sub_of_le now state.timestampMs hstamp
  have hle:=UInt64.le_iff_toNat_le.1 hstamp
  simp only [stateIsExpired,hlife,bne_iff_ne.2 hduration,Bool.and_true,Bool.true_and,
    Bool.not_eq_true',decide_eq_false_iff_not,UInt64.le_iff_toNat_le,hsub]
  omega

section
variable (h : Aged policy ctx clock) (hlife : policy.lifespanEnabled=true)
  (hduration : policy.lifespanDurationMs≠0) (hnow : clock≤now)
include h hlife hduration hnow

lemma Aged.unexpired_eq :
    ctx.unexpired now=ctx.messages.filter fun state=>now.toNat<state.timestampMs.toNat+policy.lifespanDurationMs.toNat:=by
  have hpol:=h.qosPolicy
  subst hpol
  apply filter_congr
  intro state hstate
  rw [Bool.eq_iff_iff,decide_eq_true_iff]
  exact stateIsExpired_eq_false_iff hlife hduration (UInt64.le_trans (h.stamped state hstate) hnow)

lemma Aged.pruneExpired : Aged policy (ctx.pruneExpired now) now:=by
  have hmessages:=h.consistent.messages_pruneExpired now
  have hle:=UInt64.le_iff_toNat_le.1 hnow
  refine ⟨h.consistent.pruneExpired now,by rw [qosPolicy_pruneExpired,h.qosPolicy],
    fun state hstate=>UInt64.le_trans (h.stamped state (h.consistent.mem_of_mem_pruneExpired hstate)) hnow,?_⟩
  by_cases hearly : now<ctx.nextPruneDeadlineMs
  · obtain ⟨last,hlast,hdeadline,hpassed⟩:=h.pruned
    rw [QosCtx.pruneExpired,if_pos hearly]
    exact ⟨last,hlast.trans hle,hdeadline,hpassed⟩
  · refine ⟨now.toNat,le_rfl,?_,?_⟩
    · rw [QosCtx.pruneExpired,if_neg hearly]
      exact (UInt64.toNat_add _ _).trans_le (Nat.mod_le _ _)
    · intro state hstate
      rw [hmessages,if_neg hearly,h.unexpired_eq hlife hduration hnow] at hstate
      simpa using of_mem_filter hstate

lemma Aged.lt_of_mem_pruneExpired (hstate : state∈(ctx.pruneExpired now).messages) :
    now.toNat<state.timestampMs.toNat+policy.lifespanDurationMs.toNat+1000:=by
  rw [h.consistent.messages_pruneExpired] at hstate
  split at hstate
  next hearly=>
    obtain ⟨last,-,hdeadline,hpassed⟩:=h.pruned
    have hlt:=UInt64.lt_iff_toNat_lt.1 hearly
    have:=hpassed state hstate
    omega
  · rw [h.unexpired_eq hlife hduration hnow] at hstate
    have hyoung:=of_decide_eq_true (mem_filter.1 hstate).2
    omega

end

lemma Consistent.mem_perform (h : ctx.Consistent) (hstate : state∈(ctx.perform call op).messages) :
    state∈(ctx.pruneExpired call.pruneNow).messages ∨ state.timestampMs=call.now:=by
  have hfind:=(h.perform call op).findState_eq_some_iff.2 ⟨hstate,rfl⟩
  rw [h.findState_perform] at hfind
  split at hfind
  next hop=>exact .inr (QosOp.timestampMs_record (by simp [hop]) hfind)
  · exact .inl ((h.pruneExpired _).findState_eq_some_iff.1 hfind).1

lemma Aged.timedStep {s : QosCtx × UInt64} (h : Aged policy s.1 s.2)
    (hlife : policy.lifespanEnabled=true) (hduration : policy.lifespanDurationMs≠0)
    {call : QosCall × QosOp} (hclock : ClockOrdered s call) :
    Aged policy (timedStep s call).1 (timedStep s call).2:=by
  have hp:=h.pruneExpired hlife hduration hclock.1
  have hle:=UInt64.le_iff_toNat_le.1 hclock.2
  have hpos : policy.lifespanDurationMs.toNat≠0:=fun h0=>hduration (UInt64.toNat_inj.1 h0)
  refine ⟨h.consistent.perform call.1 call.2,(qosPolicy_perform _ _ _).trans h.qosPolicy,?_,?_⟩
  · intro state hstate
    rcases h.consistent.mem_perform hstate with hold | hnew
    · exact UInt64.le_trans (hp.stamped state hold) hclock.2
    · exact hnew ▸ UInt64.le_refl _
  · obtain ⟨last,hlast,hdeadline,hpassed⟩:=hp.pruned
    refine ⟨last,hlast.trans hle,?_,?_⟩
    · obtain ⟨_,_,_,_,heq⟩:=s.1.perform_frame call.1 call.2
      rw [QosCtx.timedStep,heq]
      exact hdeadline
    · intro state hstate
      rcases h.consistent.mem_perform hstate with hold | hnew
      · exact hpassed state hold
      · rw [hnew]
        omega

lemma aged_after (hlife : policy.lifespanEnabled=true)
    (hduration : policy.lifespanDurationMs≠0) {calls : List (QosCall × QosOp)}
    (hclock : StepRuns.Along timedStep ClockOrdered (create policy,0) calls) :
    Aged policy (calls.foldl timedStep (create policy,0)).1 (calls.foldl timedStep (create policy,0)).2:=
  hclock.foldl (fun s=>Aged policy s.1 s.2) (fun _ _ h hord=>
      h.timedStep hlife hduration hord)
    ⟨consistent_create policy,rfl,fun _ h=>absurd h not_mem_nil,
      0,Nat.zero_le _,Nat.zero_le _,fun _ h=>absurd h not_mem_nil⟩

end

end QosCtx
end SoftMessageBus
