import SoftMessageBus.CString
import SoftMessageBus.MessageHeader

/-!
# Routing messages through the queue of the engine

A context says whether a message is to be destroyed after sending.
-/
namespace SoftMessageBus
open List

/-- `ROUTING_CONTEXT_STRUCT`. -/
structure RoutingContext where
  rule : ℕ
  receiver : Option CString
  message : ℕ
  deleteMessageFlag : Bool
  deriving DecidableEq

inductive QueueEntry where
  | route (context : RoutingContext)
  | ingress
  deriving DecidableEq

def QueueEntry.context? : QueueEntry→Option RoutingContext
  | route context=>some context
  | ingress=>none

@[simp]
lemma QueueEntry.context?_route (context : RoutingContext) : (route context).context?=some context:=rfl

@[simp]
lemma QueueEntry.context?_ingress : ingress.context?=none:=rfl

inductive MessageAction where
  | use (message : ℕ)
  | destroy (message : ℕ)
  deriving DecidableEq

def MessageAction.message : MessageAction→ℕ
  | use message=>message
  | destroy message=>message

/-- `engine_handle_route_message`. -/
def engineHandleRouteMessage (context : RoutingContext) (_sendResult : ErrorType) : List MessageAction:=
  .use context.message::if context.deleteMessageFlag then [.destroy context.message] else []

/-- The result of a call that has returned. -/
structure RouteReturn where
  message : ℕ
  deleteAfterSend : Bool
  result : ErrorType
  deriving DecidableEq

/-- A call of `zoo_smb_send_message` with what it finds. -/
structure SendCall where
  busRunning : Bool
  nodeActive : Bool
  association : ErrorType
  rule : Option ℕ
  receiver : Option CString
  contextAlloc : Bool
  deleteAfterSend : Bool

/-- The routing engine and its queue. -/
structure RouteEngine where
  isRunning : Bool
  exitFlag : Bool
  maxQueueSize : ℕ
  messages : List QueueEntry
  pending : List (RoutingContext × ℕ)
  handled : List (RoutingContext × ErrorType)
  abandoned : List RoutingContext
  returned : List RouteReturn
  nextMessage : ℕ

/-- The engine runs, calls make their attempts, and the dispatcher takes entries. -/
inductive RouteEvent where
  | start
  | send (call : SendCall)
  | attempt (index : ℕ) (nodeAlloc : Bool)
  | enqueueIngress (nodeAlloc : Bool)
  | dispatch (sendResult : ErrorType)
  | stop
  | destroy

def enqueueRetryLimit : ℕ:=16

namespace RouteEngine

def create (maxQueueSize : ℕ) : RouteEngine:=⟨false,false,maxQueueSize,[],[],[],[],[],0⟩

section
variable (s : RouteEngine)

/-- `zoo_smb_send_message` up to the first attempt: the error or the context. -/
def prepareRoute (call : SendCall) : Except ErrorType RoutingContext:=
  if !call.busRunning then .error .notInitialized
  else if !call.nodeActive && call.association ≠ .ok then .error call.association
  else match call.rule with
    | none=>.error .invalidParam
    | some rule=>
      if !s.isRunning then .error .notInitialized
      else if !call.contextAlloc then .error .outOfMemory
      else .ok ⟨rule,call.receiver,s.nextMessage,call.deleteAfterSend⟩

/-- A call begins: it returns an error or is about to make its first attempt. -/
def send (call : SendCall) : RouteEngine:=
  match s.prepareRoute call with
  | .error error=>
    {s with
      returned:=s.returned++[⟨s.nextMessage,call.deleteAfterSend,error⟩]
      nextMessage:=s.nextMessage+1}
  | .ok context=>
    {s with pending:=s.pending++[(context,0)], nextMessage:=s.nextMessage+1}

/-- The queue takes an entry: `zoo_queue_enqueue` does not look at the exit flag. -/
def accepts (nodeAlloc : Bool) : Bool:=s.messages.length<s.maxQueueSize && nodeAlloc

/-- One attempt of a pending call. -/
def attempt (index : ℕ) (nodeAlloc : Bool) : RouteEngine:=
  match s.pending[index]? with
  | none=>s
  | some (context,attempts)=>
    if s.accepts nodeAlloc then
      {s with
        messages:=s.messages++[.route context]
        pending:=s.pending.eraseIdx index
        returned:=s.returned++[⟨context.message,context.deleteMessageFlag,.ok⟩]}
    else if attempts+1<enqueueRetryLimit then
      {s with pending:=s.pending.set index (context,attempts+1)}
    else
      {s with
        pending:=s.pending.eraseIdx index
        returned:=s.returned++[⟨context.message,context.deleteMessageFlag,.queueFull⟩]}

/-- One turn of the dispatcher: once the exit flag is set, nothing leaves the queue. -/
def dispatch (sendResult : ErrorType) : RouteEngine:=
  if s.exitFlag then s
  else match s.messages with
    | []=>s
    | .ingress::rest=>{s with messages:=rest}
    | .route context::rest=>
      {s with messages:=rest, handled:=s.handled++[(context,sendResult)]}

def queued : List RoutingContext:=s.messages.filterMap QueueEntry.context?

/-- `zoo_smb_destroy_routing_engine`. -/
def destroy : RouteEngine:=
  if s.pending.isEmpty then
    {s with
      isRunning:=false
      exitFlag:=true
      messages:=[]
      abandoned:=s.abandoned++s.queued}
  else s

def step : RouteEvent→RouteEngine
  | .start=>{s with isRunning:=true}
  | .send call=>s.send call
  | .attempt index nodeAlloc=>s.attempt index nodeAlloc
  | .enqueueIngress nodeAlloc=>
    if s.accepts nodeAlloc then {s with messages:=s.messages++[.ingress]} else s
  | .dispatch sendResult=>s.dispatch sendResult
  | .stop=>if s.isRunning then {s with isRunning:=false, exitFlag:=true} else s
  | .destroy=>s.destroy

def log : List MessageAction:=s.handled.flatMap fun h=>engineHandleRouteMessage h.1 h.2
def taken : List RoutingContext:=s.queued++s.abandoned++s.handled.map Prod.fst
def contexts : List RoutingContext:=s.pending.map Prod.fst++s.taken

lemma taken_subset_contexts : s.taken ⊆ s.contexts:=subset_append_right _ _

end

variable {context : RoutingContext}

lemma prepareRoute_ok {s : RouteEngine} {call : SendCall} (h : s.prepareRoute call = .ok context) :
    context.message=s.nextMessage ∧ context.deleteMessageFlag=call.deleteAfterSend:=by
  unfold prepareRoute at h
  split at h
  · cases h
  split at h
  · cases h
  split at h
  · cases h
  split at h
  · cases h
  split at h <;> cases h
  exact ⟨rfl,rfl⟩

lemma prepareRoute_error {s : RouteEngine} {call : SendCall} {error : ErrorType}
    (h : s.prepareRoute call = .error error) : error ≠ .ok:=by
  unfold prepareRoute at h
  split at h
  · cases h; decide
  split at h
  next hassociation=>
    cases h
    simp only [Bool.and_eq_true,decide_eq_true_eq] at hassociation
    exact hassociation.2
  split at h
  · cases h; decide
  split at h
  · cases h; decide
  split at h <;> cases h
  decide

def DestroyedOnce (message : ℕ) (actions : List MessageAction) : Prop:=
  ∃ before after, actions=before ++ .destroy message::after ∧
    .destroy message∉before ∧ ∀ action∈after, action.message≠message

structure Settled (s : RouteEngine) (r : RouteReturn) : Prop where
  lt_next : r.message<s.nextMessage
  taken_of_ok : r.result = .ok→∃ context∈s.taken, context.message=r.message ∧ context.deleteMessageFlag=r.deleteAfterSend
  lost_of_error : r.result ≠ .ok→∀ context∈s.contexts, context.message≠r.message

/-- Every message is in one place, and the calls that have returned are settled. -/
structure Accounted (s : RouteEngine) : Prop where
  nodup : (s.contexts.map RoutingContext.message).Nodup
  lt_next : ∀ context∈s.contexts, context.message<s.nextMessage
  settled : ∀ r∈s.returned, s.Settled r

structure Moves (s s' : RouteEngine) (dropped : List RoutingContext) : Prop where
  contexts : (dropped++s'.contexts).Perm s.contexts
  taken : s.taken ⊆ s'.taken
  nextMessage : s'.nextMessage=s.nextMessage
  returned : ∀ r∈s'.returned, r∈s.returned ∨
    (∃ context∈s'.taken, r=⟨context.message,context.deleteMessageFlag,.ok⟩) ∨
    ∃ context∈dropped, r=⟨context.message,context.deleteMessageFlag,.queueFull⟩

lemma Moves.of_taken {s s' : RouteEngine} (hpending : s'.pending=s.pending)
    (htaken : s'.taken.Perm s.taken) (hret : s'.returned=s.returned)
    (hnext : s'.nextMessage=s.nextMessage) : s.Moves s' [] where
  contexts:=by
    rw [nil_append,RouteEngine.contexts,hpending]
    exact htaken.append_left _
  taken:=htaken.symm.subset
  nextMessage:=hnext
  returned r hr:=.inl (hret ▸ hr)

lemma Moves.refl (s : RouteEngine) : s.Moves s []:=.of_taken rfl (Perm.refl _) rfl rfl

lemma Moves.contexts_subset {s s' : RouteEngine} {dropped : List RoutingContext}
    (h : s.Moves s' dropped) : s'.contexts ⊆ s.contexts:=fun _ hc=>
  h.contexts.subset (mem_append_right dropped hc)

section
variable (s : RouteEngine)

lemma moves_attempt (index : ℕ) (nodeAlloc : Bool) :
    ∃ dropped, s.Moves (s.attempt index nodeAlloc) dropped:=by
  unfold RouteEngine.attempt
  cases hfind : s.pending[index]? with
  | none=>exact ⟨[],.refl s⟩
  | some entry=>
    obtain ⟨context,attempts⟩:=entry
    obtain ⟨hlt,hget⟩:=List.getElem?_eq_some_iff.1 hfind
    have hperm : ((context,attempts)::s.pending.eraseIdx index).Perm s.pending:=hget ▸ getElem_cons_eraseIdx_perm hlt
    have hcontents : (context::((s.pending.eraseIdx index).map Prod.fst++s.taken)).Perm
        s.contexts:=(hperm.map Prod.fst).append_right s.taken
    dsimp only
    split
    · -- the context moves from the pending ones to the end of the queue
      have htaken : ((s.messages++[QueueEntry.route context]).filterMap QueueEntry.context?++
          s.abandoned++s.handled.map Prod.fst).Perm (context::s.taken):=by
        rw [filterMap_append,append_assoc,append_assoc,taken,append_assoc]
        exact perm_middle
      refine ⟨[],((htaken.append_left _).trans perm_middle).trans hcontents,
        fun c hc=>htaken.symm.subset (mem_cons_of_mem context hc),rfl,fun r hr=>?_⟩
      rcases mem_append.1 hr with hr | hr
      · exact .inl hr
      · exact .inr (.inl ⟨context,htaken.symm.subset mem_cons_self,mem_singleton.1 hr⟩)
    split
    · -- the context stays where it is
      have hset : (s.pending.set index (context,attempts+1)).map Prod.fst=
          s.pending.map Prod.fst:=by
        have hkey : (s.pending.map Prod.fst)[index]?=some context:=by
          rw [getElem?_map,hfind]
          rfl
        obtain ⟨hlt',hget'⟩:=List.getElem?_eq_some_iff.1 hkey
        rw [map_set,← hget',set_getElem_self]
      refine ⟨[],Perm.of_eq ?_,List.Subset.refl _,rfl,fun r hr=>.inl hr⟩
      exact congrArg (· ++ s.taken) hset
    · -- the context is dropped
      refine ⟨[context],hcontents,List.Subset.refl _,rfl,fun r hr=>?_⟩
      rcases mem_append.1 hr with hr | hr
      · exact .inl hr
      · exact .inr (.inr ⟨context,mem_cons_self,mem_singleton.1 hr⟩)

lemma moves_enqueueIngress (nodeAlloc : Bool) : s.Moves (s.step (.enqueueIngress nodeAlloc)) []:=by
  rw [step]
  split
  · refine .of_taken rfl (Perm.of_eq ?_) rfl rfl
    simp [taken,queued]
  · exact .refl s

lemma moves_dispatch (sendResult : ErrorType) : s.Moves (s.dispatch sendResult) []:=by
  unfold RouteEngine.dispatch
  split
  · exact .refl s
  split
  · exact .refl s
  next rest hmessage=>
    refine .of_taken rfl (Perm.of_eq ?_) rfl rfl
    rw [taken,taken,queued,queued,hmessage,filterMap_cons_none rfl]
  next context rest hmessage=>
    refine .of_taken rfl ?_ rfl rfl
    have hqueued : s.taken=context::(rest.filterMap QueueEntry.context? ++ s.abandoned++
        s.handled.map Prod.fst):=by
      rw [taken,queued,hmessage,filterMap_cons_some (QueueEntry.context?_route _),cons_append,cons_append]
    rw [hqueued,taken,map_append,← append_assoc]
    exact perm_append_singleton _ _

lemma moves_destroy : s.Moves s.destroy []:=by
  unfold RouteEngine.destroy
  split
  · refine .of_taken rfl ?_ rfl rfl
    have hcomm : (s.abandoned++s.queued).Perm (s.queued++s.abandoned):=perm_append_comm
    exact hcomm.append_right (s.handled.map Prod.fst)
  · exact .refl s

lemma step_cases (event : RouteEvent) :
    (∃ call, event = .send call) ∨ ∃ dropped, s.Moves (s.step event) dropped:=by
  cases event with
  | start=>exact .inr ⟨[],.of_taken rfl (Perm.refl _) rfl rfl⟩
  | send call=>exact .inl ⟨call,rfl⟩
  | attempt index nodeAlloc=>exact .inr (s.moves_attempt index nodeAlloc)
  | enqueueIngress nodeAlloc=>exact .inr ⟨[],s.moves_enqueueIngress nodeAlloc⟩
  | dispatch sendResult=>exact .inr ⟨[],s.moves_dispatch sendResult⟩
  | stop=>
    refine .inr ⟨[],?_⟩
    rw [step]
    split
    · exact .of_taken rfl (Perm.refl _) rfl rfl
    · exact .refl s
  | destroy=>exact .inr ⟨[],s.moves_destroy⟩

end

lemma contexts_send_error {s : RouteEngine} {call : SendCall} {error : ErrorType}
    (h : s.prepareRoute call = .error error) : (s.send call).contexts=s.contexts:=by
  rw [send,h]
  rfl

lemma contexts_send_ok {s : RouteEngine} {call : SendCall} (h : s.prepareRoute call = .ok context) :
    (s.send call).contexts.Perm (context::s.contexts):=by
  rw [send,h,contexts,map_append,append_assoc]
  exact perm_middle

lemma nextMessage_send (s : RouteEngine) (call : SendCall) : (s.send call).nextMessage=s.nextMessage+1:=by
  unfold send
  split <;> rfl

lemma mem_contexts_send (s : RouteEngine) {call : SendCall} (h : context∈(s.send call).contexts) :
    (context.message=s.nextMessage ∧ context.deleteMessageFlag=call.deleteAfterSend) ∨ context∈s.contexts:=by
  cases hprepare : s.prepareRoute call with
  | error error=>exact .inr (contexts_send_error hprepare ▸ h)
  | ok new=>
    rcases mem_cons.1 ((contexts_send_ok hprepare).subset h) with rfl | h
    · exact .inl (prepareRoute_ok hprepare)
    · exact .inr h

lemma accounted_create (maxQueueSize : ℕ) : (create maxQueueSize).Accounted where
  nodup:=nodup_nil
  lt_next _ h:=absurd h not_mem_nil
  settled _ h:=absurd h not_mem_nil

namespace Accounted
variable {s s' : RouteEngine}

lemma of_moves (h : s.Accounted) {dropped : List RoutingContext} (hmoves : s.Moves s' dropped) :
    s'.Accounted:=by
  have hnodup:=(hmoves.contexts.map RoutingContext.message).nodup_iff.2 h.nodup
  rw [map_append] at hnodup
  have hlt : ∀ context∈s.contexts, context.message<s'.nextMessage:=hmoves.nextMessage ▸ h.lt_next
  refine ⟨hnodup.of_append_right,fun c hc=>hlt c (hmoves.contexts_subset hc),fun r hr=>?_⟩
  rcases hmoves.returned r hr with hr | ⟨context,hc,rfl⟩ | ⟨context,hc,rfl⟩
  · have hr:=h.settled r hr
    refine ⟨hmoves.nextMessage ▸ hr.lt_next,fun hok=>?_,fun herror c hc=>?_⟩
    · obtain ⟨context,hc,heq⟩:=hr.taken_of_ok hok
      exact ⟨context,hmoves.taken hc,heq⟩
    · exact hr.lost_of_error herror c (hmoves.contexts_subset hc)
  · refine ⟨hlt context ?_,fun _=>⟨context,hc,rfl,rfl⟩,fun herror=>absurd rfl herror⟩
    exact hmoves.contexts_subset (s'.taken_subset_contexts hc)
  · refine ⟨hlt context ?_,fun hok=>ErrorType.noConfusion hok,fun _ c hcm heq=>?_⟩
    · exact hmoves.contexts.subset (mem_append_left _ hc)
    · exact disjoint_of_nodup_append hnodup (List.mem_map_of_mem hc) (List.mem_map.2 ⟨c,hcm,heq⟩)

lemma send (h : s.Accounted) (call : SendCall) : (s.send call).Accounted:=by
  have hnext:=s.nextMessage_send call
  cases hprepared : s.prepareRoute call with
  | error error=>
    have hcontents:=contexts_send_error hprepared
    refine ⟨hcontents ▸ h.nodup,fun c hc=>?_,fun r hr=>?_⟩
    · exact hnext ▸ Nat.lt_succ_of_lt (h.lt_next c (hcontents ▸ hc))
    · rw [RouteEngine.send,hprepared] at hr ⊢
      rcases mem_append.1 hr with hr | hr
      · have hr:=h.settled r hr
        exact ⟨Nat.lt_succ_of_lt hr.lt_next,hr.taken_of_ok,hr.lost_of_error⟩
      · rw [mem_singleton.1 hr]
        refine ⟨Nat.lt_succ_self _,fun hok=>absurd hok (prepareRoute_error hprepared),
          fun _ c hc=>Nat.ne_of_lt (h.lt_next c hc)⟩
  | ok context=>
    have hmessage:=(prepareRoute_ok hprepared).1
    have hperm:=contexts_send_ok hprepared
    refine ⟨(hperm.map RoutingContext.message).nodup_iff.2 (List.nodup_cons.2 ⟨fun hin=>?_,
      h.nodup⟩),fun c hc=>?_,fun r hr=>?_⟩
    · obtain ⟨other,hother,heq⟩:=List.mem_map.1 hin
      exact Nat.ne_of_lt (h.lt_next other hother) (heq.trans hmessage)
    · rw [hnext]
      rcases mem_cons.1 (hperm.subset hc) with rfl | hc
      · exact hmessage ▸ Nat.lt_succ_self _
      · exact Nat.lt_succ_of_lt (h.lt_next c hc)
    · have hr : s.Settled r:=by
        rw [RouteEngine.send,hprepared] at hr
        exact h.settled r hr
      refine ⟨hnext ▸ Nat.lt_succ_of_lt hr.lt_next,?_,fun herror c hc=>?_⟩
      · rw [RouteEngine.send,hprepared]
        exact hr.taken_of_ok
      · rcases mem_cons.1 (hperm.subset hc) with rfl | hc
        · exact hmessage ▸ (Nat.ne_of_lt hr.lt_next).symm
        · exact hr.lost_of_error herror c hc

lemma step (h : s.Accounted) (event : RouteEvent) : (s.step event).Accounted:=by
  rcases s.step_cases event with ⟨call,rfl⟩ | ⟨dropped,hmoves⟩
  · exact h.send call
  · exact h.of_moves hmoves

lemma run (h : s.Accounted) (events : List RouteEvent) : (events.foldl RouteEngine.step s).Accounted:=by
  induction events generalizing s with
  | nil=>exact h
  | cons event events ih=>exact ih (h.step event)

end Accounted

lemma exists_handled_of_mem_log {handled : List (RoutingContext × ErrorType)} {action : MessageAction}
    (h : action∈handled.flatMap fun h=>engineHandleRouteMessage h.1 h.2) :
    ∃ entry∈handled, entry.1.message=action.message:=by
  obtain ⟨entry,hentry,hact⟩:=mem_flatMap.1 h
  refine ⟨entry,hentry,?_⟩
  rw [engineHandleRouteMessage,mem_cons] at hact
  rcases hact with rfl | hact
  · rfl
  · split at hact
    · rw [mem_singleton.1 hact]
      rfl
    · cases hact

lemma exists_context_of_destroy_mem_log {s : RouteEngine} {message : ℕ} (h : MessageAction.destroy message∈s.log) :
    ∃ context∈s.contexts, context.message=message ∧ context.deleteMessageFlag=true:=by
  obtain ⟨entry,hentry,hact⟩:=mem_flatMap.1 h
  refine ⟨entry.1,s.taken_subset_contexts (mem_append_right _ (List.mem_map_of_mem hentry)),?_⟩
  rw [engineHandleRouteMessage,mem_cons] at hact
  rcases hact with hact | hact
  · cases hact
  · split at hact
    next hflag=>
      cases mem_singleton.1 hact
      exact ⟨rfl,hflag⟩
    · cases hact

lemma destroyedOnce_of_handled {before after : List (RoutingContext × ErrorType)}
    {entry : RoutingContext × ErrorType} (hdel : entry.1.deleteMessageFlag=true)
    (hbefore : ∀ other∈before, other.1.message≠entry.1.message) (hafter : ∀ other∈after, other.1.message≠entry.1.message) :
    DestroyedOnce entry.1.message ((before++entry::after).flatMap fun h=>engineHandleRouteMessage h.1 h.2):=by
  refine ⟨(before.flatMap fun h=>engineHandleRouteMessage h.1 h.2)++[.use entry.1.message],
    after.flatMap fun h=>engineHandleRouteMessage h.1 h.2,?_,fun hmem=>?_,fun action hact heq=>?_⟩
  · simp [engineHandleRouteMessage,hdel]
  · rcases mem_append.1 hmem with hmem | hmem
    · obtain ⟨other,hother,heq⟩:=exists_handled_of_mem_log hmem
      exact hbefore other hother heq
    · cases mem_singleton.1 hmem
  · obtain ⟨other,hother,heq'⟩:=exists_handled_of_mem_log hact
    exact hafter other hother (heq'.trans heq)

def LeftQueued (s : RouteEngine) (message : ℕ) : Prop:=∃ context∈s.queued++s.abandoned, context.message=message

/-- A message is destroyed exactly once exactly if its call succeeded and the dispatcher got to it.
-/
theorem run_destroyedOnce_iff (maxQueueSize : ℕ) (events : List RouteEvent) (r : RouteReturn)
    (hr : r∈(events.foldl step (create maxQueueSize)).returned) (hdelete : r.deleteAfterSend=true) :
    DestroyedOnce r.message (events.foldl step (create maxQueueSize)).log ↔
      r.result = .ok ∧ ¬(events.foldl step (create maxQueueSize)).LeftQueued r.message:=by
  have h:=(accounted_create maxQueueSize).run events
  generalize events.foldl step (create maxQueueSize)=s at h hr
  have hnodup : ((s.queued++s.abandoned).map RoutingContext.message++
      (s.handled.map Prod.fst).map RoutingContext.message).Nodup:=by
    have htaken:=h.nodup
    rw [contexts,map_append,taken,map_append] at htaken
    exact htaken.of_append_right
  constructor
  · rintro ⟨before,after,hlog,-,-⟩
    have hdestroy : MessageAction.destroy r.message∈s.log:=by
      rw [hlog]
      exact mem_append_right before mem_cons_self
    obtain ⟨entry,hentry,hmessage⟩:=exists_handled_of_mem_log hdestroy
    have hhandled : entry.1∈s.handled.map Prod.fst:=List.mem_map_of_mem hentry
    refine ⟨?_,?_⟩
    · by_contra herror
      exact (h.settled r hr).lost_of_error herror entry.1 (s.taken_subset_contexts (mem_append_right _ hhandled)) hmessage
    · rintro ⟨context,hcontext,heq⟩
      exact disjoint_of_nodup_append hnodup (List.mem_map_of_mem hcontext)
        (heq.trans hmessage.symm ▸ List.mem_map_of_mem hhandled)
  · rintro ⟨hok,hleft⟩
    obtain ⟨context,hcontext,hmessage,hflag⟩:=(h.settled r hr).taken_of_ok hok
    rcases mem_append.1 hcontext with hcontext | hcontext
    · exact absurd ⟨context,hcontext,hmessage⟩ hleft
    obtain ⟨entry,hentry,rfl⟩:=List.mem_map.1 hcontext
    obtain ⟨before,after,hsplit⟩:=append_of_mem hentry
    have hhandled:=hnodup.of_append_right
    rw [List.map_map,hsplit,map_append,map_cons,nodup_middle,List.nodup_cons,mem_append,not_or] at hhandled
    rw [log,hsplit,← hmessage]
    refine destroyedOnce_of_handled (hflag.trans hdelete) (fun other hother heq=>?_)
      (fun other hother heq=>?_)
    · exact hhandled.1.1 (List.mem_map.2 ⟨other,hother,heq⟩)
    · exact hhandled.1.2 (List.mem_map.2 ⟨other,hother,heq⟩)

/-- The accepted messages, in the order of their calls, have left the queue or are in it. -/
structure InOrder (s : RouteEngine) : Prop where
  order : (s.returned.filter fun r=>r.result = .ok).map RouteReturn.message=
    (s.handled.map Prod.fst++s.abandoned++s.queued).map RoutingContext.message
  abandoned : s.exitFlag=false→s.abandoned=[]

lemma InOrder.step {s : RouteEngine} (h : s.InOrder) (event : RouteEvent) : (s.step event).InOrder:=by
  obtain ⟨horder,hnone⟩:=h
  rw [queued] at horder
  cases event with
  | start=>exact ⟨horder,hnone⟩
  | send call=>
    simp only [RouteEngine.step,send]
    split
    · have hne:=prepareRoute_error ‹_›
      constructor <;> simp_all [queued]
    · exact ⟨horder,hnone⟩
  | attempt index nodeAlloc=>
    simp only [RouteEngine.step,attempt]
    repeat' split
    all_goals constructor <;> simp_all [queued]
  | enqueueIngress nodeAlloc=>
    simp only [RouteEngine.step]
    split <;> constructor <;> simp_all [queued,filterMap_cons]
  | dispatch sendResult=>
    -- nothing is abandoned while the queue is served
    simp only [RouteEngine.step,dispatch]
    repeat' split
    all_goals constructor <;> simp_all [queued,filterMap_cons]
  | stop=>
    simp only [RouteEngine.step]
    split <;> constructor <;> simp_all [queued]
  | destroy=>
    simp only [RouteEngine.step,destroy]
    split <;> constructor <;> simp_all [queued]

/-- Accepted messages are dispatched once and in order, and none is dropped before a stop. -/
theorem run_dispatches_in_order (maxQueueSize : ℕ) (events : List RouteEvent) :
    let s:=events.foldl step (create maxQueueSize)
    s.InOrder ∧ ((s.handled.map Prod.fst++s.abandoned++s.queued).map RoutingContext.message).Nodup:=by
  have hnodup:=((accounted_create maxQueueSize).run events).nodup
  rw [contexts,map_append] at hnodup
  refine ⟨foldlRecOn events step ⟨rfl,fun _=>rfl⟩ fun _ h event _=>h.step event,?_⟩
  refine ((Perm.map _ ?_).nodup_iff).1 hnodup.of_append_right
  rw [append_assoc]
  exact perm_append_comm.trans (perm_append_comm.append_left _)

def sampleSend : SendCall:=⟨true,true,.ok,some 0,none,true,true⟩

/-- A message that is sent and dispatched is destroyed. -/
theorem run_destroyedOnce_dispatched :
    DestroyedOnce 0 ([RouteEvent.start,.send sampleSend,.attempt 0 true,.dispatch .timeout].foldl step (create 1)).log:=
  (run_destroyedOnce_iff 1 [.start,.send sampleSend,.attempt 0 true,.dispatch .timeout]
    ⟨0,true,.ok⟩ (by decide) rfl).2 ⟨rfl,by rintro ⟨_,h,-⟩; cases h⟩

/-- A message is never destroyed if the bus does not run or the engine stops first. -/
theorem run_not_destroyed :
    ¬DestroyedOnce 0 ([RouteEvent.start,.send {sampleSend with busRunning:=false}].foldl step (create 1)).log ∧
    ¬DestroyedOnce 0 ([RouteEvent.start,.send sampleSend,.attempt 0 true,.stop,
      .dispatch .ok,.destroy].foldl step (create 1)).log:=by
  constructor <;> rintro ⟨before,after,h,-,-⟩ <;> exact absurd (h ▸ mem_append_right before mem_cons_self) not_mem_nil

end RouteEngine
end SoftMessageBus
