import SoftMessageBus.Publisher
import SoftMessageBus.ProtocolCodec

/-!
# Subscriptions at a publisher

A publisher answers with the match, whether or not there was room.
-/
namespace SoftMessageBus
open ByteEncoding BucketIndex List

/-- A subscription with a complete policy and a name that fits. -/
structure SubRequest where
  env : MessageEnvironment
  message : Message
  sender_le : message.sender.bytes.length≤31
  complete : message.payload.isSome ∧ message.header.payloadSize.toNat=qosPolicySize

def SubRequest.policy (e : Endian) (sub : SubRequest) : QosPolicy:=.ofMemory e (sub.message.payload.getD [])

def Send.Matched (send : Send) : Prop:=send.message.payload.bind head?=some 1
  deriving Decidable

namespace Publisher

/-- `publisher_on_handle_SUB_message_cb` when memory can be allocated. -/
def handleSub (e : Endian) (p : Publisher) (sub : SubRequest) : Publisher × List Send:=
  p.onHandleSub e sub.env ⟨true,true,true,true⟩ sub.message

def afterSubs (e : Endian) (p : Publisher) (subs : List SubRequest) : Publisher:=
  subs.foldl (fun p sub=>(p.handleSub e sub).1) p

def Accepts (e : Endian) (p : Publisher) (sub : SubRequest) : Prop:=
  (qosPolicyMatch p.qosPolicy (sub.policy e)).compatible=true

def Registered (e : Endian) (p : Publisher) (sub : SubRequest) : Prop:=
  ∃ ctx∈p.subscribers, ctx.subscriberName=sub.message.sender ∧
    ctx.qosPolicy=some (sub.policy e) ∧
    find subscriberIndexHash p.subscriberIndexBuckets sub.message.sender=some ctx.addr

/-- A subscriber that is not known finds room in the list and in its bucket. -/
def FindsRoom (p : Publisher) (sub : SubRequest) : Prop:=
  p.findSubscriberCtxByName sub.message.sender=none→
    p.subscribers.length < maxSubscriberNumber ∧
      (p.subscriberIndexBuckets (subscriberIndexHash sub.message.sender)).length<subscriberBucketCapacity

variable {e : Endian} {p : Publisher} {sub : SubRequest}

lemma onHandleSub_sub (e : Endian) (p : Publisher) (sub : SubRequest) :
    p.handleSub e sub=
      ((p.registerOrUpdateSubscriberQosCtx ⟨true,true,true,true⟩ sub.message.sender
          (sub.policy e) (qosPolicyMatch p.qosPolicy (sub.policy e))).2,
        p.sendAck e sub.env sub.message (qosPolicyMatch p.qosPolicy (sub.policy e))):=by
  obtain ⟨hpayload,hsize⟩:=sub.complete
  obtain ⟨bytes,hbytes⟩:=Option.isSome_iff_exists.1 hpayload
  have hpos : 0<sub.message.header.payloadSize:=by
    rw [UInt32.lt_iff_toNat_lt,hsize]
    decide
  have hreq : requestedPolicy e sub.message=some (sub.policy e):=by
    rw [requestedPolicy,if_pos hpos,SubRequest.policy,hbytes]
    rfl
  rw [handleSub,onHandleSub,hreq]

lemma Consistent.afterSubs (h : p.Consistent) (e : Endian) (subs : List SubRequest) :
    (p.afterSubs e subs).Consistent:=by
  induction subs generalizing p with
  | nil=>exact h
  | cons sub subs ih=>exact ih (h.onHandleSub e sub.env _ sub.sender_le)

lemma accepts_of_matched {send : Send} (hsend : send∈(p.handleSub e sub).2) (hmatched : send.Matched) : p.Accepts e sub:=by
  rw [onHandleSub_sub,sendAck,Option.mem_toList,Option.map_eq_some_iff] at hsend
  obtain ⟨ack,hack,rfl⟩:=hsend
  unfold createMessage at hack
  split at hack
  · cases hack
  · split at hack
    · cases hack
      by_contra hnot
      rw [Accepts,Bool.not_eq_true] at hnot
      simp [Send.Matched,negotiationResult,hnot] at hmatched
    · cases hack

lemma Consistent.registered_iff_mem (h : p.Consistent) :
    p.Registered e sub ↔ ∃ ctx∈p.subscribers, ctx.subscriberName=sub.message.sender ∧ ctx.qosPolicy=some (sub.policy e):=by
  refine exists_congr fun ctx=>and_congr_right fun hctx=>and_congr_right fun hname=>and_iff_left ?_
  rw [← hname]
  exact h.agrees.find_of_mem hctx

lemma mem_updateSubscriber {ctx : SubscriberQosCtx} (hctx : ctx∈p.subscribers)
    (policy : QosPolicy) (matchResult : QosMatchResult) :
    ∃ s∈(p.updateSubscriber ⟨true,true,true,true⟩ ctx policy matchResult).2.subscribers,
      s.subscriberName=ctx.subscriberName ∧ s.qosPolicy=some policy:=by
  unfold updateSubscriber
  split
  next hpol=>exact ⟨_,List.mem_map_of_mem hctx,by rw [if_pos rfl],by rw [if_pos rfl]; exact hpol⟩
  · exact ⟨_,List.mem_map_of_mem hctx,by rw [if_pos rfl],by rw [if_pos rfl]⟩

lemma mem_of_mem_updateSubscriber {alloc : RegisterAllocations} {ctx s : SubscriberQosCtx}
    {policy : QosPolicy} {matchResult : QosMatchResult}
    (hs : s∈(p.updateSubscriber alloc ctx policy matchResult).2.subscribers) :
    ∃ old∈p.subscribers, old.subscriberName=s.subscriberName:=by
  have hmod {f : SubscriberQosCtx→SubscriberQosCtx}
      (hs : s∈(p.modifySubscriber ctx.addr f).subscribers)
      (hname : ∀ r, (f r).subscriberName=r.subscriberName) :
      ∃ old∈p.subscribers, old.subscriberName=s.subscriberName:=by
    obtain ⟨old,hold,rfl⟩:=List.mem_map.1 hs
    refine ⟨old,hold,?_⟩
    split
    · exact (hname old).symm
    · rfl
  unfold updateSubscriber at hs
  split at hs
  · exact hmod hs fun _=>rfl
  · split at hs
    · exact hmod hs fun _=>rfl
    · exact hmod hs fun _=>rfl

lemma mem_registerSubscriber {alloc : RegisterAllocations} {name : CString}
    {s : SubscriberQosCtx} {policy : QosPolicy} {matchResult : QosMatchResult}
    (hs : s∈(p.registerSubscriber alloc name policy matchResult).2.subscribers) :
    s∈p.subscribers ∨ s.subscriberName=name.truncate 31:=by
  unfold registerSubscriber at hs
  split at hs
  · exact Or.inl hs
  · split at hs
    · exact Or.inl hs
    · split at hs
      · rcases mem_append.1 hs with hold | hnew
        · exact Or.inl hold
        · exact Or.inr (by rw [mem_singleton.1 hnew])
      · exact Or.inl hs

lemma Consistent.registered_handleSub_iff (h : p.Consistent) (hacc : p.Accepts e sub) :
    (p.handleSub e sub).1.Registered e sub ↔ p.FindsRoom sub:=by
  have hafter : (p.handleSub e sub).1.Consistent:=h.onHandleSub e sub.env _ sub.sender_le
  rw [hafter.registered_iff_mem,onHandleSub_sub,registerOrUpdateSubscriberQosCtx,hacc, FindsRoom]
  cases hfind : p.findSubscriberCtxByName sub.message.sender with
  | some ctx=>
    obtain ⟨hctx,hname⟩:=h.findSubscriberCtxByName_eq_some_iff.1 hfind
    refine iff_of_true ?_ (fun hnone=>by cases hnone)
    rw [← hname]
    exact mem_updateSubscriber hctx _ _
  | none=>
    have hkeys:=h.agrees.lookup_eq_none_iff.1 hfind
    have hnew : find subscriberIndexHash p.subscriberIndexBuckets sub.message.sender=none:=
      h.agrees.find_eq_none_iff.2 hkeys
    have hlost : ¬∃ ctx∈p.subscribers, ctx.subscriberName=sub.message.sender ∧
        ctx.qosPolicy=some (sub.policy e):=
      fun ⟨ctx,hctx,hname,_⟩=>hkeys ctx hctx hname
    simp only [Bool.not_true,Bool.false_eq_true,if_false,forall_true_left]
    unfold Publisher.registerSubscriber
    rw [CString.truncate_eq_self sub.sender_le,if_neg (by decide)]
    split
    next hfull=>exact iff_of_false hlost fun hroom=>absurd hroom.1 (Nat.not_lt.2 hfull)
    next hfull=>
      cases hups : upsert subscriberIndexHash subscriberBucketCapacity true
          p.subscriberIndexBuckets sub.message.sender p.nextAddr with
      | none=>
        have hbucket:=(upsert_eq_none_iff.1 hups).2
        exact iff_of_false hlost fun hroom=>hbucket ⟨rfl,hroom.2⟩
      | some index=>
        refine iff_of_true ⟨_,mem_append_right _ mem_cons_self,rfl,rfl⟩ ⟨Nat.not_le.1 hfull,?_⟩
        by_contra hbucket
        rw [upsert_eq_none_iff.2 ⟨hnew,fun hroom=>hbucket hroom.2⟩] at hups
        cases hups

/-- A positive answer means a registration exactly when the subscriber was known or fits. -/
theorem positive_answer_registered_iff (e : Endian) (node : Node) (policy : QosPolicy)
    (subs : List SubRequest) (sub : SubRequest) :
    let p:=(create node policy).afterSubs e subs
    (∀ send∈(p.handleSub e sub).2, send.Matched→(p.handleSub e sub).1.Registered e sub) ↔
      ∀ send∈(p.handleSub e sub).2, send.Matched→p.FindsRoom sub:=by
  intro p
  have h : p.Consistent:=(consistent_create node policy).afterSubs e subs
  refine forall₂_congr fun send hsend=>imp_congr_right fun hmatched=>?_
  exact h.registered_handleSub_iff (accepts_of_matched hsend hmatched)

end Publisher

/-- A subscription from a subscriber with a name of two characters. -/
def subscriptionFrom (a b : UInt8) : SubRequest where
  env:=⟨none,fun _=>true,samplePublication.header,0⟩
  message:={
    header:={samplePublication.header with
      payloadSize:=176, sender:=CString.copyTo (.replicate 32 0) (.ofMemory [a,b])}
    payload:=some (replicate 176 0)
    payload_le:=fun bs h=>by
      cases h
      exact (length_replicate ..).ge}
  sender_le:=by
    rw [Message.sender,CString.ofArray_copyTo]
    exact CString.length_truncate_le 31 _
  complete:=⟨rfl,rfl⟩

namespace Publisher

/-- The ninth subscriber of a bucket gets a positive answer and is not registered. -/
theorem positive_answer_without_room :
    let node:=createNode .empty .empty .empty .publisher .tcp
    let subs:=[(1,231),(2,198),(3,165),(4,132),(5,99),(6,66),(7,33),(9,224)].map
      fun name : UInt8 × UInt8=>subscriptionFrom name.1 name.2
    let p:=(create node defaultQosPolicy).afterSubs .little subs
    let after:=p.handleSub .little (subscriptionFrom 10 191)
    after.2.map (fun send=>decide send.Matched)=[true] ∧
      after.1.subscribers.length=8 ∧
      ¬∃ ctx∈after.1.subscribers, ctx.subscriberName = .ofMemory [10,191]:=by decide +kernel

def lastFrom (name : CString) (subs : List SubRequest) : Option SubRequest:=
  subs.reverse.find? fun sub=>sub.message.sender=name

lemma qosPolicy_afterSubs (e : Endian) (p : Publisher) (subs : List SubRequest) :
    (p.afterSubs e subs).qosPolicy=p.qosPolicy:=by
  have hstep (p : Publisher) (sub : SubRequest) :
      (p.handleSub e sub).1.qosPolicy=p.qosPolicy:=by
    rw [onHandleSub_sub]
    unfold registerOrUpdateSubscriberQosCtx registerSubscriber updateSubscriber
    repeat' split
    all_goals rfl
  induction subs generalizing p with
  | nil=>rfl
  | cons sub subs ih=>exact (ih _).trans (hstep p sub)

variable {e : Endian} {p : Publisher} {sub : SubRequest}

lemma Consistent.name_handleSub (h : p.Consistent) {ctx : SubscriberQosCtx}
    (hctx : ctx∈(p.handleSub e sub).1.subscribers) :
    if ctx.subscriberName=sub.message.sender then p.Accepts e sub
    else ∃ s∈p.subscribers, s.subscriberName=ctx.subscriberName:=by
  have hkept (hname : ∃ s∈p.subscribers, s.subscriberName=ctx.subscriberName)
      (hself : ctx.subscriberName=sub.message.sender→p.Accepts e sub) :
      if ctx.subscriberName=sub.message.sender then p.Accepts e sub
      else ∃ s∈p.subscribers, s.subscriberName=ctx.subscriberName:=by
    split
    next heq=>exact hself heq
    · exact hname
  rw [onHandleSub_sub,registerOrUpdateSubscriberQosCtx] at hctx
  cases hfind : p.findSubscriberCtxByName sub.message.sender with
  | none=>
    have hkeys:=h.agrees.lookup_eq_none_iff.1 hfind
    rw [hfind] at hctx
    dsimp only at hctx
    split at hctx
    · exact hkept ⟨ctx,hctx,rfl⟩ fun hname=>absurd hname (hkeys ctx hctx)
    next hacc=>
      have hacc : p.Accepts e sub:=by simpa [Accepts] using hacc
      rcases mem_registerSubscriber hctx with hold | hname
      · exact hkept ⟨ctx,hold,rfl⟩ fun _=>hacc
      · rw [CString.truncate_eq_self sub.sender_le] at hname
        rw [if_pos hname]
        exact hacc
  | some known=>
    obtain ⟨hknown,hsender⟩:=h.findSubscriberCtxByName_eq_some_iff.1 hfind
    rw [hfind] at hctx
    dsimp only at hctx
    split at hctx
    · obtain ⟨hold,haddr⟩:=(KeyedList.mem_eraseP_key h.agrees.addrs_nodup).1 hctx
      refine hkept ⟨ctx,hold,rfl⟩ fun hname=>absurd ?_ haddr
      rw [h.agrees.eq_of_key_eq hold hknown (hname.trans hsender.symm)]
    next hacc=>
      obtain ⟨s,hs,hname⟩:=mem_of_mem_updateSubscriber hctx
      exact hkept ⟨s,hs,hname⟩ fun _=>by simpa [Accepts] using hacc

lemma not_listed_of_last (node : Node) (policy : QosPolicy) (e : Endian)
    (subs : List SubRequest) {name : CString} {sub : SubRequest} (hlast : lastFrom name subs=some sub)
    (hrej : (qosPolicyMatch policy (sub.policy e)).compatible=false) :
    ∀ ctx∈((create node policy).afterSubs e subs).subscribers, ctx.subscriberName≠name:=by
  induction subs using reverseRecOn with
  | nil=>cases hlast
  | append_singleton subs s ih=>
    intro ctx hctx hname
    have hpol:=qosPolicy_afterSubs e (create node policy) subs
    rw [afterSubs,foldl_concat] at hctx
    have hcase:=((consistent_create node policy).afterSubs e subs).name_handleSub hctx
    rw [lastFrom,reverse_concat,find?_cons] at hlast
    by_cases hsender : s.message.sender=name
    · rw [hname,if_pos hsender.symm,Accepts,hpol] at hcase
      rw [decide_eq_true hsender] at hlast
      cases hlast
      exact Bool.false_ne_true (hrej.symm.trans hcase)
    · rw [decide_eq_false hsender] at hlast
      rw [hname,if_neg fun heq=>hsender heq.symm] at hcase
      obtain ⟨old,hold,holdName⟩:=hcase
      exact ih hlast old hold holdName

/-- List and index hold the same subscribers, and none whose last subscription did not match. -/
theorem subscribers_indexed (e : Endian) (node : Node) (policy : QosPolicy) (subs : List SubRequest) :
    let p:=(create node policy).afterSubs e subs
    (p.subscribers.map SubscriberQosCtx.subscriberName).Nodup ∧
      (∀ i, ((p.subscriberIndexBuckets i).map Prod.fst).Nodup) ∧
      (∀ i entry, entry∈p.subscriberIndexBuckets i ↔ subscriberIndexHash entry.1=i ∧
        ∃ ctx∈p.subscribers, entry=(ctx.subscriberName,ctx.addr)) ∧
      ∀ name sub, lastFrom name subs=some sub→
        (qosPolicyMatch policy (sub.policy e)).compatible=false→
        (∀ ctx∈p.subscribers, ctx.subscriberName≠name) ∧ ∀ i, ∀ entry∈p.subscriberIndexBuckets i, entry.1≠name:=by
  intro p
  have h : p.Consistent:=(consistent_create node policy).afterSubs e subs
  have hentry (i : Fin 257) (entry : CString × ℕ) : entry∈p.subscriberIndexBuckets i ↔
      subscriberIndexHash entry.1=i ∧ ∃ ctx∈p.subscribers, entry=(ctx.subscriberName,ctx.addr):=by
    rw [h.agrees.mem_iff,List.mem_map]
    simp only [eq_comm]
  refine ⟨h.agrees.keys_nodup,h.agrees.entries_nodup,hentry,?_⟩
  intro name sub hlast hrejected
  have hlist:=not_listed_of_last node policy e subs hlast hrejected
  refine ⟨hlist,fun i entry hmem=>?_⟩
  obtain ⟨ctx,hctx,rfl⟩:=((hentry i entry).1 hmem).2
  exact hlist ctx hctx

end Publisher
section
variable (offered requested : QosPolicy)

/-- When `zoo_smb_qos_policy_match` reads a field, its offset and its size. -/
def otherFields : List (Bool × ℕ × ℕ):=
  let offeredKind:=
    if offered.livelinessEnabled then offered.liveliness.kind else livelinessAutomatic
  let history:=requested.historyEnabled && offered.historyEnabled
  [(true,8,1),(requested.reliabilityEnabled,16,4),
   (true,60,1),(requested.durabilityEnabled,64,4),
   (true,68,1),(requested.deadlineEnabled && offered.deadlineEnabled,80,8),
   (true,88,1),(requested.livelinessEnabled,96,4),
   (requested.livelinessEnabled && !decide (offeredKind < requested.liveliness.kind),104,8),
   (true,48,1),(history,52,4),
   (history && !decide (offered.history.kind < requested.history.kind) &&
     decide (requested.history.kind=historyKeepLast), 56, 4),
   (true,112,1),(requested.ownershipEnabled && offered.ownershipEnabled,116,4),
   (true,124,1),(requested.destinationOrderEnabled && offered.destinationOrderEnabled,128,4),
   (true,144,1),(requested.latencyBudgetEnabled && offered.latencyBudgetEnabled,152,8),
   (true,132,1),(requested.lifespanEnabled && offered.lifespanEnabled,136,8)]

def limitFields : List (Bool × ℕ × ℕ):=
  let limits:=requested.resourceLimitsEnabled && offered.resourceLimitsEnabled
  let samples:=!decide (offered.resourceLimits.maxSamples < requested.resourceLimits.maxSamples)
  let instances:=
    !decide (offered.resourceLimits.maxInstances < requested.resourceLimits.maxInstances)
  [(true,160,1),(limits,164,4),(limits && samples,168,4), (limits && samples && instances,172,4)]

def limitEnd : ℕ:=
  if !(requested.resourceLimitsEnabled && offered.resourceLimitsEnabled) then 161
  else if offered.resourceLimits.maxSamples < requested.resourceLimits.maxSamples then 168
  else if offered.resourceLimits.maxInstances < requested.resourceLimits.maxInstances then 172
  else 176

end

def Inside (size : ℕ) (fields : List (Bool × ℕ × ℕ)) : Prop:=∀ field∈fields, field.1=true→field.2.1+field.2.2 ≤ size

variable (offered requested : QosPolicy)

lemma inside_limitFields_iff (size : ℕ) :
    Inside size (limitFields offered requested) ↔ limitEnd offered requested ≤ size:=by
  simp only [Inside,limitFields,forall_mem_cons,limitEnd]
  cases requested.resourceLimitsEnabled && offered.resourceLimitsEnabled with
  | false=>simp
  | true=>
    by_cases hsamples : offered.resourceLimits.maxSamples < requested.resourceLimits.maxSamples
    · simp [hsamples]
      omega
    · by_cases hinstances :
          offered.resourceLimits.maxInstances < requested.resourceLimits.maxInstances
      · simp [hsamples,hinstances]
        omega
      · simp [hsamples,hinstances]
        omega

lemma limitEnd_bounds : 160≤limitEnd offered requested ∧ limitEnd offered requested≤qosPolicySize:=by
  unfold limitEnd qosPolicySize
  repeat' split
  all_goals omega

lemma inside_otherFields {size : ℕ} (h : 160 ≤ size) : Inside size (otherFields offered requested):=by
  have hend : ∀ field∈otherFields offered requested, field.2.1+field.2.2≤160:=by simp [otherFields]
  exact fun field hfield _=>(hend field hfield).trans h

namespace Publisher

/-- What `publisher_on_handle_SUB_message_cb` reads of the payload. -/
def subFields (e : Endian) (p : Publisher) (message : Message) : List (Bool × ℕ × ℕ):=
  match requestedPolicy e message with
  | none=>[]
  | some policy=>
    otherFields p.qosPolicy policy++limitFields p.qosPolicy policy++
      [((qosPolicyMatch p.qosPolicy policy).compatible,0,qosPolicySize)]

def readEnd (p : Publisher) (policy : QosPolicy) : ℕ:=
  if (qosPolicyMatch p.qosPolicy policy).compatible then qosPolicySize
  else limitEnd p.qosPolicy policy

/-- Only the payload is read exactly when it reaches to the end of what is read. -/
theorem subFields_inside_iff (e : Endian) (p : Publisher) (message : Message) :
    Inside message.header.payloadSize.toNat (p.subFields e message) ↔
      ∀ policy, requestedPolicy e message=some policy→p.readEnd policy ≤ message.header.payloadSize.toNat:=by
  rw [subFields]
  cases requestedPolicy e message with
  | none=>simp [Inside]
  | some policy=>
    obtain ⟨hlow,hhigh⟩:=limitEnd_bounds p.qosPolicy policy
    have hlimit:=inside_limitFields_iff p.qosPolicy policy message.header.payloadSize.toNat
    simp only [Inside,forall_mem_append,forall_mem_singleton,Option.some.injEq,forall_eq',readEnd,Nat.zero_add] at hlimit ⊢
    rw [hlimit]
    constructor
    · rintro ⟨⟨-,hle⟩,hwhole⟩
      split
      next hmatch=>exact hwhole hmatch
      · exact hle
    · intro hle
      have hend : limitEnd p.qosPolicy policy ≤ message.header.payloadSize.toNat:=by split at hle <;> omega
      refine ⟨⟨inside_otherFields _ _ (hlow.trans hend),hend⟩,fun hmatch=>?_⟩
      rwa [if_pos hmatch] at hle

/-- A subscription with a payload of one byte is read beyond its payload. -/
theorem subFields_beyond_payload :
    let message : Message:=
      { header:={samplePublication.header with payloadSize:=1}
        payload:=some [0]
        payload_le:=by simp}
    let p:=create (createNode .empty .empty .empty .publisher .tcp) defaultQosPolicy
    message.header.payloadSize.toNat=1 ∧ ¬Inside message.header.payloadSize.toNat (p.subFields .little message):=by
  intro message p
  have hread : (true,8,1)∈p.subFields .little message:=by decide +kernel
  exact ⟨rfl,fun h=>absurd (h _ hread rfl) (by decide)⟩

end Publisher
end SoftMessageBus
