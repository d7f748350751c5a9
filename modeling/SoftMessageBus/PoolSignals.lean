import SoftMessageBus.StepRuns

/-!
# The condition variable of the thread pool

Idle workers and blocked submitters wait on one condition variable, and a signal wakes one of them.
-/
namespace SoftMessageBus
open List StepRuns

/-- Where a worker is: about to dequeue, about to check whether to wait, or waiting. -/
inductive PoolWorker where
  | checking
  | executing
  | idle
  | waiting
  deriving DecidableEq

/-- Where a submission is: `blocked` is about to check whether to wait for space. -/
inductive PoolSubmitter where
  | entering (block : Bool)
  | blocked
  | waiting
  | pushing
  | signalling
  | done
  deriving DecidableEq

inductive PoolWaiter where
  | worker (index : ℕ)
  | submitter (index : ℕ)

/-- The pool while it is not shut down, with the number of queued tasks. -/
structure PoolSignals where
  maxQueueSize : ℕ
  tasks : ℕ
  workers : List PoolWorker
  submitters : List PoolSubmitter

/-- A new submission, or a step of a submission or a worker, with the waiter that a signal of
it wakes. -/
inductive SignalEvent where
  | submit (block : Bool)
  | submitter (index : ℕ) (alloc : Bool) (wakes : Option PoolWaiter)
  | worker (index : ℕ) (wakes : Option PoolWaiter)

namespace PoolSignals

def create (threadCount maxQueueSize : ℕ) : PoolSignals:=⟨maxQueueSize,0,replicate threadCount .checking,[]⟩

section
variable (s : PoolSignals)

def setWorker (index : ℕ) (worker : PoolWorker) : PoolSignals:={s with workers:=s.workers.set index worker}

def setSubmitter (index : ℕ) (submitter : PoolSubmitter) : PoolSignals:=
  {s with submitters:=s.submitters.set index submitter}

/-- `ZOO_COND_SIGNAL`: it wakes a waiter, and nobody only if there is none. -/
def signal : Option PoolWaiter→Option PoolSignals
  | some (.worker index)=>
    if s.workers[index]?=some .waiting then some (s.setWorker index .idle) else none
  | some (.submitter index)=>
    if s.submitters[index]?=some .waiting then some (s.setSubmitter index .blocked) else none
  | none=>if .waiting∈s.workers ∨ .waiting∈s.submitters then none else some s

/-- The phase after `wait_for_space` has found space. -/
def afterSpace (alloc : Bool) : PoolSubmitter:=if alloc then .pushing else .done

def step : SignalEvent→PoolSignals
  | .submit block=>{s with submitters:=s.submitters++[.entering block]}
  | .submitter index alloc wakes=>
    match s.submitters[index]? with
    | some (.entering block)=>s.setSubmitter index <|
        if s.tasks<s.maxQueueSize then afterSpace alloc else if block then .blocked else .done
    | some .blocked=>s.setSubmitter index <|
        if s.tasks<s.maxQueueSize then afterSpace alloc else .waiting
    | some .pushing=>
      {s.setSubmitter index .signalling with
        tasks:=if s.tasks<s.maxQueueSize then s.tasks+1 else s.tasks}
    | some .signalling=>((s.setSubmitter index .done).signal wakes).getD s
    | _=>s
  | .worker index wakes=>
    match s.workers[index]? with
    | some .checking=>
      if 0<s.tasks then {s.setWorker index .executing with tasks:=s.tasks-1}
      else s.setWorker index .idle
    | some .executing=>((s.setWorker index .checking).signal wakes).getD s
    | some .idle=>s.setWorker index (if 0<s.tasks then .checking else .waiting)
    | _=>s

/-- A task is queued, a worker waits, no worker is running and none is going to be woken. -/
def Stuck : Prop:=
  0<s.tasks ∧ .waiting∈s.workers ∧ (∀ worker∈s.workers, worker = .waiting) ∧ .signalling∉s.submitters
  deriving Decidable

/-- No submitter is woken by the signal that is left for the workers. -/
def Reaches : SignalEvent→Prop
  | .submitter index _ wakes=>s.submitters[index]?=some .signalling→
      ∀ other, wakes=some (.submitter other)→
        ((s.setSubmitter index .done).signal wakes).isSome→¬(s.setSubmitter index .done).Stuck
  | _=>True

end

variable {s : PoolSignals}

lemma not_stuck_of_worker {worker : PoolWorker} (hmem : worker∈s.workers) (hne : worker ≠ .waiting) : ¬s.Stuck:=
  fun h=>hne (h.2.2.1 worker hmem)

lemma not_stuck_of_signalling (hmem : .signalling∈s.submitters) : ¬s.Stuck:=fun h=>h.2.2.2 hmem

lemma not_stuck_setWorker {index : ℕ} {before after : PoolWorker}
    (hbefore : s.workers[index]?=some before) (hne : after ≠ .waiting) : ¬(s.setWorker index after).Stuck:=
  not_stuck_of_worker (mem_set (List.getElem?_eq_some_iff.1 hbefore).1 after) hne

lemma stuck_setSubmitter_iff {index : ℕ} {before after : PoolSubmitter}
    (hbefore : s.submitters[index]?=some before) (hne : before ≠ .signalling)
    (hne' : after ≠ .signalling) : (s.setSubmitter index after).Stuck ↔ s.Stuck:=by
  have hmem : .signalling∈s.submitters.set index after ↔ .signalling∈s.submitters:=by
    simp only [mem_iff_getElem?]
    refine exists_congr fun place=>?_
    rw [getElem?_set]
    split
    next heq=>
      rw [← heq,hbefore]
      split <;> simp [hne,hne']
    next=>rfl
  simp only [Stuck,setSubmitter,hmem]

lemma not_stuck_signal_iff (wakes : Option PoolWaiter) {next : PoolSignals}
    (hnext : s.signal wakes=some next) : ¬next.Stuck ↔ ∀ index, wakes=some (.submitter index)→¬s.Stuck:=by
  unfold signal at hnext
  split at hnext
  next index=>
    split at hnext
    next hwaits=>
      cases hnext
      exact iff_of_true (not_stuck_setWorker hwaits (by simp)) (by simp)
    next=>cases hnext
  next index=>
    split at hnext
    next hwaits=>
      cases hnext
      rw [stuck_setSubmitter_iff hwaits (by simp) (by simp)]
      simp
    next=>cases hnext
  next=>
    split at hnext
    next=>cases hnext
    next hnobody=>
      cases hnext
      exact iff_of_true (fun h=>hnobody (.inl h.2.1)) (by simp)

lemma not_stuck_step_iff (h : ¬s.Stuck) (event : SignalEvent) : ¬(s.step event).Stuck ↔ s.Reaches event:=by
  cases event with
  | submit block=>
    refine iff_of_true (fun hstuck=>h ⟨hstuck.1,hstuck.2.1,hstuck.2.2.1,fun hmem=>?_⟩) trivial
    exact hstuck.2.2.2 (mem_append_left _ hmem)
  | worker index wakes=>
    refine iff_of_true ?_ trivial
    rw [step]
    split
    next hchecking=>
      split
      · exact not_stuck_setWorker (s:={s with tasks:=s.tasks-1}) hchecking (by simp)
      · exact not_stuck_setWorker hchecking (by simp)
    next hexecuting=>
      cases hsignal : (s.setWorker index .checking).signal wakes with
      | none=>exact h
      | some next=>
        refine (not_stuck_signal_iff wakes hsignal).2 fun _ _=>?_
        exact not_stuck_setWorker hexecuting (by simp)
    next hidle=>
      split
      · exact not_stuck_setWorker hidle (by simp)
      next hnone=>exact fun hstuck=>hnone hstuck.1
    next=>exact h
  | submitter index alloc wakes=>
    have hreaches (hne : s.submitters[index]?≠some .signalling) :
        s.Reaches (.submitter index alloc wakes):=fun hsignalling=>absurd hsignalling hne
    have hspace : afterSpace alloc ≠ .signalling:=by cases alloc <;> simp [afterSpace]
    rw [step]
    split
    next block hentering=>
      refine iff_of_true ?_ (hreaches (by simp [hentering]))
      rwa [stuck_setSubmitter_iff hentering (by simp)]
      split
      · exact hspace
      · split <;> simp
    next hblocked=>
      refine iff_of_true ?_ (hreaches (by simp [hblocked]))
      rwa [stuck_setSubmitter_iff hblocked (by simp)]
      split
      · exact hspace
      · simp
    next hpushing=>
      refine iff_of_true (not_stuck_of_signalling ?_) (hreaches (by simp [hpushing]))
      exact mem_set (List.getElem?_eq_some_iff.1 hpushing).1 _
    next hsignalling=>
      cases hsignal : (s.setSubmitter index .done).signal wakes with
      | none=>exact iff_of_true h fun _ _ _ hsome=>by simp [hsignal] at hsome
      | some next=>
        rw [Option.getD_some,not_stuck_signal_iff wakes hsignal]
        refine ⟨fun hall _ other hother _=>hall other hother,fun hall other hother=>?_⟩
        exact hall hsignalling other hother (by simp [hsignal])
    next hsignalling=>exact iff_of_true h (hreaches hsignalling)

/-- Queued tasks are picked up exactly as long as each such signal reaches a worker. -/
theorem idle_workers_reached_iff (threadCount maxQueueSize : ℕ) (events : List SignalEvent) :
    Along step (fun s event=>¬(s.step event).Stuck) (create threadCount maxQueueSize) events ↔
      Along step Reaches (create threadCount maxQueueSize) events:=
  along_iff_of_invariant (fun s=>¬s.Stuck) (fun _ event h hreaches=>
    (not_stuck_step_iff h event).2 hreaches) (fun _ event h=>not_stuck_step_iff h event)
    (fun h=>Nat.lt_irrefl 0 h.1) events

def sampleSignals : List SignalEvent:=
  [.submit true,.submitter 0 true none,.submitter 0 true none,.submitter 0 true none,
    .submit true,.submitter 1 true none,.submitter 1 true none,
    .submit true,.submitter 2 true none,.submitter 2 true none,
    .worker 0 none,.worker 0 (some (.submitter 1)),.worker 0 none,.worker 0 none,
    .submitter 1 true none,.submitter 1 true none,.submitter 1 true (some (.submitter 2))]

/-- A blocked submitter gets the signal for the task of another one. -/
theorem idle_worker_not_reached :
    ¬Along step (fun s event=>¬(s.step event).Stuck) (create 1 1) sampleSignals:=by decide

end PoolSignals
end SoftMessageBus
