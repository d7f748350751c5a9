import SoftMessageBus.RouteDispatch
import SoftMessageBus.RoutingEngine
import SoftMessageBus.SlotCounts

/-!
# The handlers at the queue of the routing engine

Arriving messages, sent messages and the dispatcher share the engine.
-/
namespace SoftMessageBus

/-- The part of the engine that stays as it is while handlers run. -/
structure IngressSettings where
  isRunning : Bool
  config : Option IngressConfig
  transportBufferSize : Option ℕ
  maxQueueSize : ℕ
  highWatermark : UInt32
  lowWatermark : UInt32
  telemetryEnabled : Bool
  hasObservers : ℕ→Bool

/-- The counters of `ZOO_SMB_ROUTING_ENGINE_METRICS_STRUCT`. -/
structure IngressMetrics where
  received : UInt64
  enqueued : UInt64
  dequeued : UInt64
  droppedTotal : UInt64
  dropQueueFull : UInt64
  dropBackpressure : UInt64
  dropInvalidHeader : UInt64
  dropSecurityPolicy : UInt64
  deriving DecidableEq

structure IngressArrival where
  rule : ℕ
  message : Message
  now : ℤ
  structAlloc : Bool
  payloadAlloc : Bool
  deriving DecidableEq

/-- How a handler ends; `outgoing` marks a message to be sent. -/
inductive HandlerResult where
  | ignored
  | queued
  | dropped (outgoing : Bool) (reason : IngressDrop)
  | completed
  deriving DecidableEq

/-- What a handler does next. -/
inductive IngressPhase where
  | receive (arrival : IngressArrival)
  | admission (arrival : IngressArrival)
  | enqueue (rule : ℕ)
  | countEnqueued
  | giveBack (reason : IngressDrop)
  | dropTotal (outgoing : Bool) (reason : IngressDrop)
  | dropReason (outgoing : Bool) (reason : IngressDrop)
  | raise (outgoing : Bool)
  | attempt (attempts : ℕ)
  | deliver
  | finish
  | countDequeued (remain : UInt32)
  | look (remain : UInt32)
  | release
  | discard
  | leave
  | transmit
  | finished (result : HandlerResult)
  deriving DecidableEq

def IngressPhase.isFinished : IngressPhase→Bool
  | .finished _=>true
  | _=>false

lemma IngressPhase.isFinished_iff {phase : IngressPhase} :
    phase.isFinished=true ↔ ∃ result, phase = .finished result:=by
  cases phase <;> simp [isFinished]

/-- An entry of the queue: a message that has arrived for a rule, or one to be sent. -/
inductive IngressEntry where
  | ingress (rule : ℕ)
  | route
  deriving DecidableEq

structure IngressState where
  backpressureActive : Bool
  inFlight : UInt32
  metrics : IngressMetrics
  queue : List IngressEntry
  handlers : List IngressPhase
  deriving DecidableEq

/-- A message arrives or is sent, an entry is taken, a handler takes a step. -/
inductive IngressEvent where
  | arrive (arrival : IngressArrival)
  | send (contextAlloc : Bool)
  | dispatch
  | advance (index : ℕ) (nodeAlloc : Bool)
  deriving DecidableEq

namespace IngressMetrics

def zero : IngressMetrics:=⟨0,0,0,0,0,0,0,0⟩

/-- The counter of a reason in `routing_engine_record_drop`; some reasons have none. -/
def countReason (m : IngressMetrics) : IngressDrop→IngressMetrics
  | .queueFull=>{m with dropQueueFull:=m.dropQueueFull+1}
  | .backpressure=>{m with dropBackpressure:=m.dropBackpressure+1}
  | .invalidHeader=>{m with dropInvalidHeader:=m.dropInvalidHeader+1}
  | .securityPolicy=>{m with dropSecurityPolicy:=m.dropSecurityPolicy+1}
  | .invalidParam | .notRunning=>m

def reasonTotal (m : IngressMetrics) : UInt64:=m.dropQueueFull+m.dropBackpressure+m.dropInvalidHeader+m.dropSecurityPolicy

end IngressMetrics
namespace IngressSettings
variable (cfg : IngressSettings)

def check (arrival : IngressArrival) : Option IngressDrop:=
  IngressEnvironment.check
    { isRunning:=true
      config:=cfg.config
      transportBufferSize:=cfg.transportBufferSize
      now:=arrival.now
      inFlight:=0
      highWatermark:=0
      alloc:=fun _=>true
      queueAccepts:=true} arrival.message.header

def record (m : IngressMetrics) (count : IngressMetrics→IngressMetrics) : IngressMetrics:=
  if cfg.telemetryEnabled then count m else m

def admission (arrival : IngressArrival) (inFlight : UInt32) : IngressPhase:=
  if cfg.highWatermark < inFlight then .giveBack .backpressure
  else if !arrival.structAlloc then .giveBack .invalidParam
  else if (copyMessage (fun _=>arrival.payloadAlloc) arrival.message).isNone then
    .giveBack .invalidParam
  else .enqueue arrival.rule

end IngressSettings
namespace IngressState
variable (cfg : IngressSettings)

def afterReset (backpressureActive : Bool) (inFlight : UInt32) (queue : List IngressEntry) : IngressState:=
  ⟨backpressureActive,inFlight,.zero,queue,[]⟩

def create : IngressState:=afterReset false 0 []

section
variable (s : IngressState)

/-- `zoo_queue_enqueue` takes an entry. -/
def accepts (nodeAlloc : Bool) : Bool:=s.queue.length<cfg.maxQueueSize && nodeAlloc
def moveTo (index : ℕ) (phase : IngressPhase) : IngressState:={s with handlers:=s.handlers.set index phase}

def advance (index : ℕ) (nodeAlloc : Bool) : IngressPhase→IngressState
  | .receive arrival=>
    {s with metrics:=cfg.record s.metrics fun m=>{m with received:=m.received+1} }.moveTo
      index (match cfg.check arrival with
        | some reason=>.dropTotal false reason
        | none=>.admission arrival)
  | .admission arrival=>
    {s with inFlight:=s.inFlight+1}.moveTo index (cfg.admission arrival (s.inFlight+1))
  | .enqueue rule=>
    if s.accepts cfg nodeAlloc then
      {s with queue:=s.queue++[IngressEntry.ingress rule]}.moveTo index .countEnqueued
    else s.moveTo index (.giveBack .queueFull)
  | .countEnqueued=>
    {s with metrics:=cfg.record s.metrics fun m=>{m with enqueued:=m.enqueued+1} }.moveTo index (.finished .queued)
  | .giveBack reason=>
    {s with inFlight:=s.inFlight-1}.moveTo index (.dropTotal false reason)
  | .dropTotal outgoing reason=>
    {s with
      metrics:=cfg.record s.metrics fun m=>{m with droppedTotal:=m.droppedTotal+1} }.moveTo
      index (.dropReason outgoing reason)
  | .dropReason outgoing reason=>
    {s with metrics:=cfg.record s.metrics fun m=>m.countReason reason}.moveTo index
      (if reason=IngressDrop.backpressure then .raise outgoing else .finished (.dropped outgoing reason))
  | .raise outgoing=>
    {s with backpressureActive:=true}.moveTo index (.finished (.dropped outgoing .backpressure))
  | .attempt attempts=>
    if s.accepts cfg nodeAlloc then
      {s with queue:=s.queue++[IngressEntry.route]}.moveTo index (.finished .queued)
    else if attempts+1<enqueueRetryLimit then s.moveTo index (.attempt (attempts+1))
    else s.moveTo index (.dropTotal true .queueFull)
  | .deliver=>s.moveTo index .finish
  | .finish=>
    {s with inFlight:=s.inFlight-1}.moveTo index (.countDequeued (s.inFlight-1))
  | .countDequeued remain=>
    {s with metrics:=cfg.record s.metrics fun m=>{m with dequeued:=m.dequeued+1} }.moveTo index (.look remain)
  | .look remain=>
    s.moveTo index
      (if s.backpressureActive && remain≤cfg.lowWatermark then .release
      else .finished .completed)
  | .release=>{s with backpressureActive:=false}.moveTo index (.finished .completed)
  | .discard=>
    {s with metrics:=cfg.record s.metrics fun m=>{m with dequeued:=m.dequeued+1} }.moveTo index .leave
  | .leave=>{s with inFlight:=s.inFlight-1}.moveTo index (.finished .completed)
  | .transmit=>s.moveTo index (.finished .completed)
  | .finished _=>s

def begin (phase : IngressPhase) : IngressState:={s with handlers:=s.handlers++[phase]}

/-- The dispatcher takes the first entry of the queue and calls its handler. -/
def dispatch : IngressState:=
  match s.queue with
  | []=>s
  | .ingress rule::rest=>
    {s with queue:=rest}.begin (if cfg.hasObservers rule then .deliver else .discard)
  | .route::rest=>{s with queue:=rest}.begin .transmit

def step : IngressEvent→IngressState
  | .arrive arrival=>s.begin (if cfg.isRunning then .receive arrival else .finished .ignored)
  | .send contextAlloc=>
    s.begin (if cfg.isRunning && contextAlloc then .attempt 0 else .finished .ignored)
  | .dispatch=>s.dispatch cfg
  | .advance index nodeAlloc=>
    match s.handlers[index]? with
    | none=>s
    | some phase=>s.advance cfg index nodeAlloc phase

def run (events : List IngressEvent) : IngressState:=events.foldl (step cfg) s

def Quiet : Prop:=∀ phase∈s.handlers, phase.isFinished=true
  deriving Decidable

end

def sampleSettings : IngressSettings where
  isRunning:=true
  config:=none
  transportBufferSize:=none
  maxQueueSize:=1
  highWatermark:=1
  lowWatermark:=1
  telemetryEnabled:=true
  hasObservers:=fun _=>true

def sampleArrival : IngressArrival:=⟨1,samplePublication,0,true,true⟩

end IngressState

/-! ## The backpressure flag -/

open SlotCounts StepRuns List

def IngressPhase.willLook : IngressPhase→Bool
  | .deliver | .finish=>true
  | _=>false

def IngressPhase.willRelease (lowWatermark : UInt32) : IngressPhase→Bool
  | .countDequeued remain | .look remain=>remain≤lowWatermark
  | .release=>true
  | _=>false

def IngressPhase.tends (lowWatermark : UInt32) (phase : IngressPhase) : Bool:=
  phase.willLook || phase.willRelease lowWatermark

def IngressEntry.watched (cfg : IngressSettings) : IngressEntry→Bool
  | .ingress rule=>cfg.hasObservers rule
  | .route=>false

namespace IngressState
variable (cfg : IngressSettings)

section
variable (s : IngressState)

def lookers : ℕ:=s.queue.countP (IngressEntry.watched cfg)+s.handlers.countP IngressPhase.willLook
def tenders : ℕ:=s.queue.countP (IngressEntry.watched cfg)+s.handlers.countP (IngressPhase.tends cfg.lowWatermark)

def orderlyPhase : IngressPhase→Bool
  | .raise _=>0<s.lookers cfg
  | .finish=>
    !s.backpressureActive || 1<s.lookers cfg || s.inFlight-1≤cfg.lowWatermark
  | _=>true

def orderly : IngressEvent→Bool
  | .advance index _=>s.handlers[index]?.all (s.orderlyPhase cfg)
  | _=>true

/-- No message that has arrived is in flight and no handler is running. -/
structure Idle (s : IngressState) : Prop where
  queue : ∀ entry∈s.queue, entry = .route
  quiet : s.Quiet

def Tended : Prop:=s.backpressureActive=true → 0<s.tenders cfg

end

variable {cfg} {s : IngressState}

lemma lookers_le_tenders (cfg : IngressSettings) (s : IngressState) : s.lookers cfg ≤ s.tenders cfg:=by
  refine Nat.add_le_add_left (countP_mono_left fun phase _ h=>?_) _
  rw [IngressPhase.tends,h,Bool.true_or]

lemma Idle.tenders_eq (h : s.Idle) : s.tenders cfg=0:=by
  have hqueue : s.queue.countP (IngressEntry.watched cfg)=0:=by
    rw [countP_eq_zero]
    intro entry hentry
    rw [h.queue entry hentry]
    exact Bool.false_ne_true
  have hhandlers : s.handlers.countP (IngressPhase.tends cfg.lowWatermark)=0:=by
    rw [countP_eq_zero]
    intro phase hphase
    obtain ⟨result,rfl⟩:=IngressPhase.isFinished_iff.1 (h.quiet phase hphase)
    exact Bool.false_ne_true
  rw [tenders,hqueue,hhandlers]

section
variable {index : ℕ} {phase phase' : IngressPhase}

lemma tenders_set (cfg : IngressSettings) (hphase : s.handlers[index]?=some phase) {t : IngressState}
    (hqueue : t.queue=s.queue) (hhandlers : t.handlers=s.handlers.set index phase') :
    t.tenders cfg+(if phase.tends cfg.lowWatermark then 1 else 0)=
      s.tenders cfg+(if phase'.tends cfg.lowWatermark then 1 else 0):=by
  have hset:=countP_set_add (p:=IngressPhase.tends cfg.lowWatermark) hphase phase'
  rw [tenders,tenders,hqueue,hhandlers]
  omega

lemma Tended.moveTo (h : s.Tended cfg) (hphase : s.handlers[index]?=some phase)
    {t : IngressState} (hact : t.backpressureActive=s.backpressureActive)
    (hqueue : t.queue=s.queue) (hhandlers : t.handlers=s.handlers.set index phase')
    (htends : phase.tends cfg.lowWatermark=phase'.tends cfg.lowWatermark) : t.Tended cfg:=by
  intro hraised
  have hset:=tenders_set cfg hphase hqueue hhandlers
  have htend:=h (hact ▸ hraised)
  rw [htends] at hset
  omega

lemma Tended.enqueued (h : s.Tended cfg) (hphase : s.handlers[index]?=some phase)
    (hphase' : phase.tends cfg.lowWatermark=false) (entry : IngressEntry) (phase' : IngressPhase) :
    ({s with queue:=s.queue++[entry]}.moveTo index phase').Tended cfg:=by
  intro hraised
  have htended:=h hraised
  have hset:=countP_set_add (p:=IngressPhase.tends cfg.lowWatermark) hphase phase'
  rw [hphase'] at hset
  simp only [Bool.false_eq_true,if_false] at hset
  simp only [tenders,IngressState.moveTo,countP_append] at htended ⊢
  omega

lemma Tended.finish (h : s.Tended cfg) (hphase : s.handlers[index]?=some .finish)
    (hord : s.orderlyPhase cfg .finish=true) :
    ({s with inFlight:=s.inFlight-1}.moveTo index (.countDequeued (s.inFlight-1))).Tended cfg:=by
  intro hraised
  have hset:=tenders_set cfg (t:={s with inFlight:=s.inFlight-1}.moveTo index
    (.countDequeued (s.inFlight-1))) hphase rfl rfl
  have htended:=h hraised
  have hlookers:=lookers_le_tenders cfg s
  have hfin : IngressPhase.tends cfg.lowWatermark .finish=true:=rfl
  have hraised' : s.backpressureActive=true:=hraised
  rw [hfin,if_pos rfl] at hset
  simp only [orderlyPhase,hraised',Bool.not_true,Bool.false_or,Bool.or_eq_true,decide_eq_true_eq] at hord
  rcases hord with hmore | hlow
  · omega
  · have hrel : IngressPhase.tends cfg.lowWatermark (.countDequeued (s.inFlight-1))=true:=decide_eq_true hlow
    rw [hrel,if_pos rfl] at hset
    omega

lemma Tended.look (h : s.Tended cfg) {remain : UInt32} (hphase : s.handlers[index]?=some (.look remain)) :
    (s.moveTo index (if s.backpressureActive && remain≤cfg.lowWatermark then .release
      else .finished .completed)).Tended cfg:=by
  intro hraised
  have hraised' : s.backpressureActive=true:=hraised
  refine h.moveTo hphase rfl rfl rfl ?_ hraised
  rw [hraised',Bool.true_and]
  by_cases hlow : remain≤cfg.lowWatermark
  · rw [decide_eq_true hlow,if_pos rfl]
    exact decide_eq_true hlow
  · rw [decide_eq_false hlow,if_neg Bool.false_ne_true]
    exact decide_eq_false hlow

lemma tended_raise {outgoing : Bool} (hphase : s.handlers[index]?=some (.raise outgoing))
    (hord : s.orderlyPhase cfg (.raise outgoing)=true) :
    ({s with backpressureActive:=true}.moveTo index phase').Tended cfg:=by
  intro _
  have hset:=tenders_set cfg (t:={s with backpressureActive:=true}.moveTo index phase') hphase rfl rfl
  have hlookers:=lookers_le_tenders cfg s
  have hsome : 0<s.lookers cfg:=of_decide_eq_true hord
  have hraise : IngressPhase.tends cfg.lowWatermark (.raise outgoing)=false:=rfl
  rw [hraise,if_neg Bool.false_ne_true] at hset
  omega

lemma Tended.advance (h : s.Tended cfg) (hphase : s.handlers[index]?=some phase)
    (hord : s.orderlyPhase cfg phase=true) (nodeAlloc : Bool) :
    (s.advance cfg index nodeAlloc phase).Tended cfg:=by
  cases phase with
  | receive arrival=>
    refine h.moveTo hphase rfl rfl rfl ?_
    cases cfg.check arrival <;> rfl
  | admission arrival=>
    refine h.moveTo hphase rfl rfl rfl ?_
    unfold IngressSettings.admission
    split
    · rfl
    split
    · rfl
    split <;> rfl
  | enqueue rule=>
    rw [IngressState.advance]
    split
    · exact h.enqueued hphase rfl _ _
    · exact h.moveTo hphase rfl rfl rfl rfl
  | countEnqueued | giveBack | dropTotal | deliver | countDequeued | discard | leave | transmit=>
    exact h.moveTo hphase rfl rfl rfl rfl
  | dropReason outgoing reason=>
    refine h.moveTo hphase rfl rfl rfl ?_
    split <;> rfl
  | «raise» outgoing=>exact tended_raise hphase hord
  | attempt attempts=>
    rw [IngressState.advance]
    split
    · exact h.enqueued hphase rfl _ _
    split
    · exact h.moveTo hphase rfl rfl rfl rfl
    · exact h.moveTo hphase rfl rfl rfl rfl
  | finish=>exact h.finish hphase hord
  | look remain=>exact h.look hphase
  | release=>exact fun hraised=>absurd hraised Bool.false_ne_true
  | finished result=>exact h

end

lemma Tended.begin (h : s.Tended cfg) (phase : IngressPhase) : (s.begin phase).Tended cfg:=by
  intro hraised
  have htended:=h hraised
  simp only [tenders,IngressState.begin,countP_append] at htended ⊢
  omega

lemma Tended.dispatch (h : s.Tended cfg) : (s.dispatch cfg).Tended cfg:=by
  unfold IngressState.dispatch
  split
  · exact h
  next rule rest hqueue=>
    intro hraised
    have htended:=h hraised
    cases hrule : cfg.hasObservers rule with
    | false=>
      have hdiscard : IngressPhase.tends cfg.lowWatermark .discard=false:=rfl
      simp only [tenders,IngressState.begin,hqueue,countP_cons,countP_append,
        countP_nil,IngressEntry.watched,hrule,hdiscard,Bool.false_eq_true,if_false]
        at htended ⊢
      exact htended
    | true=>
      have hdel : IngressPhase.tends cfg.lowWatermark .deliver=true:=rfl
      simp only [tenders,IngressState.begin,countP_append,countP_cons, countP_nil,if_true,hdel]
      omega
  next rest hqueue=>
    refine Tended.begin (fun hraised=>?_) _
    have htended:=h hraised
    simpa [tenders,hqueue,IngressEntry.watched] using htended

lemma Tended.step (h : s.Tended cfg) (event : IngressEvent)
    (hord : s.orderly cfg event=true) : (s.step cfg event).Tended cfg:=by
  cases event with
  | arrive | send=>exact h.begin _
  | dispatch=>exact h.dispatch
  | advance index nodeAlloc=>
    rw [IngressState.step]
    split
    · exact h
    next phase hphase=>
      rw [orderly,hphase] at hord
      exact h.advance hphase hord nodeAlloc

/-- In every run of orderly steps the flag is down whenever nothing is in flight. -/
theorem backpressure_released (cfg : IngressSettings) (events : List IngressEvent)
    (horderly : Along (step cfg) (fun s event=>s.orderly cfg event=true) create events)
    (hidle : (create.run cfg events).Idle) : (create.run cfg events).backpressureActive=false:=by
  have htended : (create.run cfg events).Tended cfg:=
    horderly.foldl (Tended cfg) (fun _ event h hevent=>h.step event hevent)
      (fun hraised=>absurd hraised Bool.false_ne_true)
  by_contra hraised
  rw [Bool.not_eq_false] at hraised
  exact (htended hraised).ne' hidle.tenders_eq

/-- The flag raised by a message turned away is cleared by the next completion. -/
theorem backpressure_released_after_rejection :
    let accepted : List IngressEvent:=.arrive sampleArrival::replicate 4 (.advance 0 true)
    let rejected : List IngressEvent:=.arrive sampleArrival::replicate 6 (.advance 1 true)
    let completed : List IngressEvent:=.dispatch::replicate 5 (.advance 2 true)
    (create.run sampleSettings (accepted++rejected)).backpressureActive=true ∧
      (create.run sampleSettings (accepted++rejected++completed)).backpressureActive=false:=
  ⟨by decide +kernel,backpressure_released sampleSettings _ (by decide +kernel) ⟨by decide +kernel,by decide +kernel⟩⟩

/-- The flag is raised after the last completion and stays raised with nothing in flight. -/
theorem backpressure_raised_after_completion :
    let accepted : List IngressEvent:=.arrive sampleArrival::replicate 4 (.advance 0 true)
    let rejected : List IngressEvent:=.arrive sampleArrival::replicate 5 (.advance 1 true)
    let completed : List IngressEvent:=.dispatch::replicate 4 (.advance 2 true)
    let s:=create.run sampleSettings (accepted++rejected++completed++[.advance 1 true])
    s.queue=[] ∧ s.inFlight=0 ∧ s.Quiet ∧ s.backpressureActive=true:=by decide +kernel

end IngressState

/-! ## Reconciling the ingress metrics -/

/-- `routing_engine_record_drop` has a counter for the reason. -/
def IngressDrop.hasCounter : IngressDrop→Bool
  | .queueFull | .backpressure | .invalidHeader | .securityPolicy=>true
  | .invalidParam | .notRunning=>false

namespace IngressPhase

def unaccounted : IngressPhase→UInt64
  | .admission _ | .enqueue _ | .countEnqueued | .giveBack _ | .dropTotal false _=>1
  | .dropReason true _ | .raise true | .finished (.dropped true _)=>-1
  | _=>0

def unexplained : IngressPhase→UInt64
  | .dropReason _ _=>1
  | .finished (.dropped _ reason)=>if reason.hasCounter then 0 else 1
  | _=>0

def refusedSend : IngressPhase→Bool
  | .finished (.dropped true _)=>true
  | _=>false

def uncountedDrop : IngressPhase→Bool
  | .finished (.dropped _ reason)=>!reason.hasCounter
  | _=>false

end IngressPhase

-- The counters are compared in the ring of 64-bit words.
open scoped UInt64.CommRing

namespace IngressMetrics

def unaccounted (m : IngressMetrics) : UInt64:=m.received-(m.enqueued+m.droppedTotal)
def unexplained (m : IngressMetrics) : UInt64:=m.droppedTotal-m.reasonTotal

variable (m : IngressMetrics) (reason : IngressDrop)

lemma reasonTotal_countReason :
    (m.countReason reason).reasonTotal=m.reasonTotal+if reason.hasCounter then 1 else 0:=by
  cases reason <;> simp only [countReason,reasonTotal,IngressDrop.hasCounter,if_true,
    Bool.false_eq_true,if_false,add_zero] <;> ring

lemma droppedTotal_countReason : (m.countReason reason).droppedTotal=m.droppedTotal:=by cases reason <;> rfl

lemma unaccounted_countReason : (m.countReason reason).unaccounted=m.unaccounted:=by cases reason <;> rfl

end IngressMetrics
namespace IngressState
variable {cfg : IngressSettings} {s : IngressState}

structure Reconciled (s : IngressState) : Prop where
  unaccounted : s.metrics.unaccounted=(s.handlers.map IngressPhase.unaccounted).sum
  unexplained : s.metrics.unexplained=(s.handlers.map IngressPhase.unexplained).sum

structure Accounts (m : IngressMetrics) (phase : IngressPhase) (m' : IngressMetrics)
    (phase' : IngressPhase) : Prop where
  unaccounted : m'.unaccounted+phase.unaccounted=m.unaccounted+phase'.unaccounted
  unexplained : m'.unexplained+phase.unexplained=m.unexplained+phase'.unexplained

variable {phase : IngressPhase}

lemma Reconciled.of_accounts (h : s.Reconciled) {index : ℕ} {phase' : IngressPhase}
    (hphase : s.handlers[index]?=some phase) {t : IngressState} (ht : t.handlers=s.handlers.set index phase')
    (hacc : Accounts s.metrics phase t.metrics phase') : t.Reconciled:=by
  constructor
  · apply add_right_cancel
    rw [hacc.unaccounted,ht,sum_map_set_add _ hphase,h.unaccounted]
  · apply add_right_cancel
    rw [hacc.unexplained,ht,sum_map_set_add _ hphase,h.unexplained]

lemma Accounts.same (m : IngressMetrics) {phase' : IngressPhase}
    (h₁ : phase.unaccounted=phase'.unaccounted) (h₂ : phase.unexplained=phase'.unexplained) :
    Accounts m phase m phase':=
  ⟨by rw [h₁],by rw [h₂]⟩

lemma accounts_received (m : IngressMetrics) (arrival : IngressArrival) (found : Option IngressDrop) :
    Accounts m (.receive arrival) {m with received:=m.received+1}
      (match found with
        | some reason=>.dropTotal false reason
        | none=>.admission arrival):=by
  constructor
  · cases found <;> simp only [IngressMetrics.unaccounted,IngressPhase.unaccounted] <;> ring
  · cases found <;> rfl

lemma accounts_dropReason (m : IngressMetrics) (outgoing : Bool) (reason : IngressDrop) :
    Accounts m (.dropReason outgoing reason) (m.countReason reason)
      (if reason = .backpressure then .raise outgoing else .finished (.dropped outgoing reason)):=by
  constructor
  · rw [IngressMetrics.unaccounted_countReason]
    cases outgoing <;> cases reason <;> rfl
  · rw [IngressMetrics.unexplained,IngressMetrics.unexplained,
      IngressMetrics.droppedTotal_countReason,IngressMetrics.reasonTotal_countReason]
    cases reason <;> simp [IngressPhase.unexplained,IngressDrop.hasCounter] <;> ring

lemma advance_accounts (htel : cfg.telemetryEnabled=true) {index : ℕ}
    (hphase : s.handlers[index]?=some phase) (nodeAlloc : Bool) :
    ∃ phase', (s.advance cfg index nodeAlloc phase).handlers=s.handlers.set index phase' ∧
      Accounts s.metrics phase (s.advance cfg index nodeAlloc phase).metrics phase':=by
  have hrec : ∀ count, cfg.record s.metrics count=count s.metrics:=fun count=>if_pos htel
  cases phase with
  | receive arrival=>
    refine ⟨_,rfl,?_⟩
    simp only [advance,moveTo,hrec]
    exact accounts_received _ _ _
  | admission arrival=>
    refine ⟨_,rfl,Accounts.same _ ?_ ?_⟩ <;>
      · unfold IngressSettings.admission
        split
        · rfl
        split
        · rfl
        split <;> rfl
  | enqueue rule=>
    rw [advance]
    split
    · exact ⟨_,rfl,Accounts.same _ rfl rfl⟩
    · exact ⟨_,rfl,Accounts.same _ rfl rfl⟩
  | countEnqueued=>
    refine ⟨_,rfl,?_⟩
    simp only [advance,moveTo,hrec]
    refine ⟨?_,rfl⟩
    simp only [IngressMetrics.unaccounted,IngressPhase.unaccounted]
    ring
  | dropTotal outgoing reason=>
    refine ⟨_,rfl,?_⟩
    simp only [advance,moveTo,hrec]
    constructor
    · cases outgoing <;> simp only [IngressMetrics.unaccounted,IngressPhase.unaccounted] <;> ring
    · simp only [IngressMetrics.unexplained,IngressPhase.unexplained,IngressMetrics.reasonTotal]
      ring
  | dropReason outgoing reason=>
    refine ⟨_,rfl,?_⟩
    simp only [advance,moveTo,hrec]
    exact accounts_dropReason _ _ _
  | «raise» outgoing=>
    refine ⟨_,rfl,Accounts.same _ ?_ rfl⟩
    cases outgoing <;> rfl
  | attempt attempts=>
    rw [advance]
    split
    · exact ⟨_,rfl,Accounts.same _ rfl rfl⟩
    split
    · exact ⟨_,rfl,Accounts.same _ rfl rfl⟩
    · exact ⟨_,rfl,Accounts.same _ rfl rfl⟩
  | look remain=>
    refine ⟨_,rfl,Accounts.same _ ?_ ?_⟩ <;> split <;> rfl
  | countDequeued | discard=>
    refine ⟨_,rfl,?_⟩
    simp only [advance,moveTo,hrec]
    exact ⟨rfl,rfl⟩
  | giveBack | deliver | finish | release | leave | transmit=>
    exact ⟨_,rfl,Accounts.same _ rfl rfl⟩
  | finished result=>
    refine ⟨.finished result,?_,Accounts.same _ rfl rfl⟩
    obtain ⟨hlt,hget⟩:=List.getElem?_eq_some_iff.1 hphase
    exact (congrArg (s.handlers.set index) hget.symm).trans (set_getElem_self hlt) |>.symm

lemma Reconciled.begin (h : s.Reconciled) (h₁ : phase.unaccounted=0)
    (h₂ : phase.unexplained=0) : (s.begin phase).Reconciled:=by
  constructor
  · simpa [IngressState.begin,h₁] using h.unaccounted
  · simpa [IngressState.begin,h₂] using h.unexplained

lemma Reconciled.step (htel : cfg.telemetryEnabled=true) (h : s.Reconciled)
    (event : IngressEvent) : (s.step cfg event).Reconciled:=by
  cases event with
  | arrive | send=>apply h.begin <;> split <;> rfl
  | dispatch=>
    have hqueue : ∀ queue, ({s with queue:=queue} : IngressState).Reconciled:=fun queue=>⟨h.unaccounted,h.unexplained⟩
    change (s.dispatch cfg).Reconciled
    unfold dispatch
    split
    · exact h
    · apply (hqueue _).begin <;> split <;> rfl
    · exact (hqueue _).begin rfl rfl
  | advance index nodeAlloc=>
    rw [IngressState.step]
    split
    · exact h
    next phase hphase=>
      obtain ⟨phase',hhandlers,hacc⟩:=advance_accounts htel hphase nodeAlloc
      exact h.of_accounts hphase hhandlers hacc

lemma Reconciled.run (htel : cfg.telemetryEnabled=true) (h : s.Reconciled)
    (events : List IngressEvent) : (s.run cfg events).Reconciled:=by
  induction events generalizing s with
  | nil=>exact h
  | cons event events ih=>exact ih (h.step htel event)

lemma reconciled_afterReset (backpressureActive : Bool) (inFlight : UInt32)
    (queue : List IngressEntry) : (afterReset backpressureActive inFlight queue).Reconciled:=
  ⟨sub_self _,sub_self _⟩

section
variable {handlers : List IngressPhase} (h : ∀ phase∈handlers, phase.isFinished=true)
include h

lemma sum_unaccounted_of_finished :
    (handlers.map IngressPhase.unaccounted).sum= -((handlers.countP IngressPhase.refusedSend : ℕ) : UInt64):=by
  induction handlers with
  | nil=>rfl
  | cons phase handlers ih=>
    obtain ⟨hphase,hrest⟩:=forall_mem_cons.1 h
    obtain ⟨result,rfl⟩:=IngressPhase.isFinished_iff.1 hphase
    rw [map_cons,sum_cons,countP_cons,ih hrest]
    rcases result with _ | _ | ⟨_ | _,reason⟩ | _ <;> simp [IngressPhase.unaccounted,IngressPhase.refusedSend]

lemma sum_unexplained_of_finished :
    (handlers.map IngressPhase.unexplained).sum=((handlers.countP IngressPhase.uncountedDrop : ℕ) : UInt64):=by
  induction handlers with
  | nil=>rfl
  | cons phase handlers ih=>
    obtain ⟨hphase,hrest⟩:=forall_mem_cons.1 h
    obtain ⟨result,rfl⟩:=IngressPhase.isFinished_iff.1 hphase
    rw [map_cons,sum_cons,countP_cons,ih hrest]
    rcases result with _ | _ | ⟨outgoing,reason⟩ | _
    case dropped=>cases reason <;> simp [IngressPhase.unexplained,IngressPhase.uncountedDrop,
      IngressDrop.hasCounter,add_comm]
    all_goals simp [IngressPhase.unexplained,IngressPhase.uncountedDrop]

end

lemma natCast_eq_zero_iff_dvd (n : ℕ) : ((n : ℕ) : UInt64)=0 ↔ 2^64 ∣ n:=by
  rw [← UInt64.toNat_inj]
  change n % 2^64=0 ↔ _
  exact Nat.dvd_iff_mod_eq_zero.symm

lemma Reconciled.received_iff (h : s.Reconciled) (hquiet : s.Quiet) :
    s.metrics.received=s.metrics.enqueued+s.metrics.droppedTotal ↔ 2^64 ∣ s.handlers.countP IngressPhase.refusedSend:=by
  have hsum:=h.unaccounted.trans (sum_unaccounted_of_finished hquiet)
  rw [← natCast_eq_zero_iff_dvd,← neg_eq_zero,← hsum,IngressMetrics.unaccounted,sub_eq_zero]

lemma Reconciled.dropped_iff (h : s.Reconciled) (hquiet : s.Quiet) :
    s.metrics.droppedTotal=s.metrics.reasonTotal ↔ 2^64 ∣ s.handlers.countP IngressPhase.uncountedDrop:=by
  have hsum:=h.unexplained.trans (sum_unexplained_of_finished hquiet)
  rw [← natCast_eq_zero_iff_dvd,← hsum,IngressMetrics.unexplained,sub_eq_zero]

/-- With telemetry the counters of an idle engine add up exactly when no message to be sent and none
without a counter was dropped. -/
theorem metrics_reconcile_iff (cfg : IngressSettings) (htelemetry : cfg.telemetryEnabled=true)
    (backpressureActive : Bool) (inFlight : UInt32) (queue : List IngressEntry) (events : List IngressEvent)
    (hquiet : ((afterReset backpressureActive inFlight queue).run cfg events).Quiet) :
    let s:=(afterReset backpressureActive inFlight queue).run cfg events
    (s.metrics.received=s.metrics.enqueued+s.metrics.droppedTotal ∧
        s.metrics.droppedTotal=s.metrics.reasonTotal) ↔
      2^64 ∣ s.handlers.countP IngressPhase.refusedSend ∧ 2^64 ∣ s.handlers.countP IngressPhase.uncountedDrop:=by
  have h:=(reconciled_afterReset backpressureActive inFlight queue).run htelemetry events
  exact and_congr (h.received_iff hquiet) (h.dropped_iff hquiet)

def sampleProcessing : List IngressEvent:=
  [.arrive sampleArrival,.advance 0 true,.advance 0 true,.advance 0 true,.advance 0 true,
    .dispatch,.advance 1 true,.advance 1 true,.advance 1 true,.advance 1 true]

theorem metrics_reconcile_one_message :
    let s:=create.run sampleSettings sampleProcessing
    s.metrics.received=s.metrics.enqueued+s.metrics.droppedTotal ∧ s.metrics.droppedTotal=s.metrics.reasonTotal:=
  (metrics_reconcile_iff sampleSettings rfl false 0 [] sampleProcessing (by decide +kernel)).2 (by decide +kernel)

/-- The second of two messages to be sent is counted as dropped and was never received. -/
theorem refused_send_counted_as_ingress_drop :
    let s:=create.run sampleSettings
      ([.send true,.advance 0 true,.send true]++replicate 18 (.advance 1 true))
    s.handlers=[.finished .queued,.finished (.dropped true .queueFull)] ∧
      s.metrics.received=0 ∧ s.metrics.enqueued=0 ∧ s.metrics.droppedTotal=1:=by decide +kernel

end IngressState

end SoftMessageBus
