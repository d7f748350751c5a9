import SoftMessageBus.MessageHeader
import SoftMessageBus.SlotCounts

/-!
# The thread pool

Producers put tasks into a bounded list, from which the workers take them.
-/
namespace SoftMessageBus
open List

/-- Where a worker is in `thread_worker`. -/
inductive WorkerPhase where
  | checking
  | ready
  | executing (task : ℕ)
  | waiting
  | rechecking
  | exited
  deriving DecidableEq

/-- Where a call of `zoo_thread_pool_submit_task` is. -/
inductive SubmitPhase where
  | waiting (block : Bool)
  | pushing
  | finishing (result : ErrorType)
  | returned (result : ErrorType)
  deriving DecidableEq

/-- `ZOO_THREAD_POOL_STRUCT` with its workers and all submissions so far. -/
structure ThreadPool where
  maxQueueSize : ℕ
  tasks : List ℕ
  shutdown : Bool
  threads : List (Option ℕ)
  threadCount : ℕ
  workers : List WorkerPhase
  submits : List SubmitPhase
  lost : List ℕ
  executed : List ℕ
  returned : Bool
  deriving DecidableEq

/-- Submissions and workers take their steps, and the pool is destroyed. -/
inductive PoolEvent where
  | submit (block : Bool)
  | space (task : ℕ) (taskAlloc : Bool)
  | push (task : ℕ) (nodeAlloc : Bool)
  | finish (task : ℕ) (due arrayAlloc : Bool) (creates : ℕ→Bool)
  | work (worker : ℕ)
  | destroy
  | join

def threadPoolMinThreads : ℕ:=2
def threadPoolMaxThreads : ℕ:=64

namespace ThreadPool

/-- `zoo_create_thread_pool`, when its allocations succeed. -/
def create (threadCount maxQueueSize : ℕ) : ThreadPool where
  maxQueueSize:=maxQueueSize
  tasks:=[]
  shutdown:=false
  threads:=(range threadCount).map some
  threadCount:=threadCount
  workers:=replicate threadCount .checking
  submits:=[]
  lost:=[]
  executed:=[]
  returned:=false

section
variable (s : ThreadPool)

def activeThreads : ℕ:=
  s.workers.countP fun phase=>match phase with
    | .executing _=>true
    | _=>false

/-- One turn of the loop of `adjust_thread_pool_size` that creates threads. -/
def createThread (creates : ℕ→Bool) (s : ThreadPool) (index : ℕ) : ThreadPool:=
  if creates index then
    {s with
      threads:=s.threads++[some s.workers.length]
      threadCount:=s.threadCount+1
      workers:=s.workers++[.checking]}
  else {s with threads:=s.threads++[none]}

/-- `adjust_thread_pool_size`. -/
def adjustThreadPoolSize (due arrayAlloc : Bool) (creates : ℕ→Bool) : ThreadPool:=
  if due then
    let demand:=s.activeThreads+s.tasks.length
    if 3*s.threadCount<4*demand then
      let newThreads:=min (s.threadCount*2) threadPoolMaxThreads
      if s.threadCount<newThreads ∧ arrayAlloc then
        (range' s.threadCount (newThreads-s.threadCount)).foldl (createThread creates)
          {s with threads:=s.threads.take s.threadCount}
      else s
    else if 4*demand<s.threadCount then
      let targetThreads:=max (s.threadCount/2) threadPoolMinThreads
      if targetThreads<s.threadCount then {s with threadCount:=targetThreads} else s
    else s
  else s

def setSubmit (task : ℕ) (phase : SubmitPhase) : ThreadPool:={s with submits:=s.submits.set task phase}
def setWorker (worker : ℕ) (phase : WorkerPhase) : ThreadPool:={s with workers:=s.workers.set worker phase}

/-- The phase in which a submission begins: `check_params` refuses it once the flag is set. -/
def enterPhase (block : Bool) : SubmitPhase:=
  if s.returned then .returned .invalidParam
  else if s.shutdown then .finishing .notStarted
  else .waiting block

/-- `wait_for_space` and `create_task`. -/
def afterWait (block taskAlloc : Bool) : SubmitPhase:=
  if s.tasks.length<s.maxQueueSize ∨ (block ∧ s.shutdown) then
    if taskAlloc then .pushing else .finishing .outOfMemory
  else if block then .waiting block
  else .finishing .again

/-- `enqueue_task`: the result of `zoo_list_push_back` is ignored. -/
def enqueueTask (task : ℕ) (nodeAlloc : Bool) : ThreadPool:=
  if s.tasks.length<s.maxQueueSize ∧ nodeAlloc then {s with tasks:=s.tasks++[task]}
  else {s with lost:=s.lost++[task]}

def workerStep (worker : ℕ) : ThreadPool:=
  match s.workers[worker]? with
  | some .checking=>s.setWorker worker (if s.shutdown then .exited else .ready)
  | some .ready=>
    match s.tasks with
    | []=>s.setWorker worker .waiting
    | task::rest=>{s.setWorker worker (.executing task) with tasks:=rest}
  | some (.executing task)=>
    {s.setWorker worker .checking with executed:=s.executed++[task]}
  | some .waiting=>if s.shutdown ∨ s.tasks≠[] then s.setWorker worker .rechecking else s
  | some .rechecking=>s.setWorker worker (if s.shutdown then .exited else .checking)
  | some .exited | none=>s

/-- `zoo_thread_pool_join_threads` waits for a worker. -/
def Joins (worker : ℕ) : Prop:=some worker∈s.threads.take s.threadCount
  deriving Decidable

def AllJoined : Prop:=
  ∀ handle∈s.threads.take s.threadCount, ∀ worker∈handle, s.workers[worker]?=some .exited
  deriving Decidable

def step : PoolEvent→ThreadPool
  | .submit block=>{s with submits:=s.submits++[s.enterPhase block]}
  | .space task taskAlloc=>
    match s.submits[task]? with
    | some (.waiting block)=>s.setSubmit task (s.afterWait block taskAlloc)
    | _=>s
  | .push task nodeAlloc=>
    match s.submits[task]? with
    | some .pushing=>(s.enqueueTask task nodeAlloc).setSubmit task (.finishing .ok)
    | _=>s
  | .finish task due arrayAlloc creates=>
    match s.submits[task]? with
    | some (.finishing result)=>
      (s.adjustThreadPoolSize due arrayAlloc creates).setSubmit task (.returned result)
    | _=>s
  | .work worker=>s.workerStep worker
  | .destroy=>{s with shutdown:=true}
  | .join=>if s.shutdown ∧ s.AllJoined then {s with returned:=true} else s

def run (events : List PoolEvent) : ThreadPool:=events.foldl step s

def Handed (task : ℕ) : Prop:=
  s.submits[task]?=some (.finishing .ok) ∨ s.submits[task]?=some (.returned .ok)
  deriving Decidable

def places (task : ℕ) : ℕ:=
  s.executed.count task+s.workers.countP (fun phase=>phase = .executing task)+ s.tasks.count task+s.lost.count task

end

/-- Every task that was handed over is in one place, and the handles belong to workers. -/
structure WellFormed (s : ThreadPool) : Prop where
  accounted : ∀ task, s.places task=if s.Handed task then 1 else 0
  handles : ∀ worker, some worker∈s.threads→worker<s.workers.length

lemma wellFormed_create (threadCount maxQueueSize : ℕ) :
    (create threadCount maxQueueSize).WellFormed where
  accounted task:=by
    have hworkers : (replicate threadCount WorkerPhase.checking).countP
        (fun phase=>phase = .executing task)=0:=by
      rw [countP_eq_zero]
      intro phase hphase
      rw [eq_of_mem_replicate hphase]
      simp
    simp [places,create,Handed,hworkers]
  handles worker hmem:=by
    obtain ⟨index,hindex,heq⟩:=List.mem_map.1 hmem
    cases heq
    simpa [create] using hindex

structure Resizes (s next : ThreadPool) : Prop where
  tasks : next.tasks=s.tasks
  shutdown : next.shutdown=s.shutdown
  submits : next.submits=s.submits
  lost : next.lost=s.lost
  executed : next.executed=s.executed
  returned : next.returned=s.returned
  workers : ∃ count, next.workers=s.workers++replicate count .checking
  handles : (∀ worker, some worker∈s.threads→worker<s.workers.length)→
    ∀ worker, some worker∈next.threads→worker<next.workers.length

namespace Resizes
variable {s next : ThreadPool}

lemma refl (s : ThreadPool) : s.Resizes s:=⟨rfl,rfl,rfl,rfl,rfl,rfl,⟨0,(append_nil _).symm⟩,id⟩

lemma createThread (h : s.Resizes next) (creates : ℕ→Bool) (index : ℕ) :
    s.Resizes (createThread creates next index):=by
  obtain ⟨count,hwork⟩:=h.workers
  unfold ThreadPool.createThread
  split
  · refine ⟨h.tasks,h.shutdown,h.submits,h.lost,h.executed,h.returned,⟨count+1,?_⟩,?_⟩
    · rw [hwork,append_assoc,replicate_succ']
    · intro hvalid worker hmem
      rw [length_append,length_singleton]
      rcases mem_append.1 hmem with hmem | hmem
      · exact Nat.lt_succ_of_lt (h.handles hvalid worker hmem)
      · rw [mem_singleton,Option.some_inj] at hmem
        omega
  · refine ⟨h.tasks,h.shutdown,h.submits,h.lost,h.executed,h.returned,⟨count,hwork⟩,?_⟩
    intro hvalid worker hmem
    rcases mem_append.1 hmem with hmem | hmem
    · exact h.handles hvalid worker hmem
    · simp at hmem

lemma foldl_createThread (h : s.Resizes next) (creates : ℕ→Bool) (indices : List ℕ) :
    s.Resizes (indices.foldl (ThreadPool.createThread creates) next):=by
  induction indices generalizing next with
  | nil=>exact h
  | cons index indices ih=>exact ih (h.createThread creates index)

end Resizes

lemma resizes_adjustThreadPoolSize (s : ThreadPool) (due arrayAlloc : Bool)
    (creates : ℕ→Bool) : s.Resizes (s.adjustThreadPoolSize due arrayAlloc creates):=by
  unfold adjustThreadPoolSize
  split
  · dsimp only
    split
    · split
      · have hcop : s.Resizes {s with threads:=s.threads.take s.threadCount}:=
          ⟨rfl,rfl,rfl,rfl,rfl,rfl,⟨0,(append_nil _).symm⟩,fun hvalid worker hmem=>hvalid worker (mem_of_mem_take hmem)⟩
        exact hcop.foldl_createThread creates _
      · exact .refl s
    · split
      · split
        · exact ⟨rfl,rfl,rfl,rfl,rfl,rfl,⟨0,(append_nil _).symm⟩,id⟩
        · exact .refl s
      · exact .refl s
  · exact .refl s

section
variable {s : ThreadPool}

lemma handed_setSubmit {task : ℕ} {before after : SubmitPhase} (hbefore : s.submits[task]?=some before) (other : ℕ) :
    (s.setSubmit task after).Handed other ↔
      if other=task then after = .finishing .ok ∨ after = .returned .ok else s.Handed other:=by
  unfold Handed setSubmit
  by_cases hother : other=task
  · subst hother
    have hlt:=(List.getElem?_eq_some_iff.1 hbefore).1
    rw [if_pos rfl,getElem?_set_self hlt,Option.some_inj,Option.some_inj]
  · rw [if_neg hother,getElem?_set_ne (Ne.symm hother)]

lemma places_setWorker {worker : ℕ} {before : WorkerPhase}
    (hbefore : s.workers[worker]?=some before) (after : WorkerPhase) (task : ℕ) :
    (s.setWorker worker after).places task+(if before = .executing task then 1 else 0)=
      s.places task+(if after = .executing task then 1 else 0):=by
  have hset:=SlotCounts.countP_set_add (p:=fun phase=>decide (phase = .executing task)) hbefore after
  simp only [decide_eq_true_eq] at hset
  simp only [places,setWorker]
  omega

lemma places_of_resizes {next : ThreadPool} (h : s.Resizes next) (task : ℕ) :
    next.places task=s.places task:=by
  obtain ⟨count,hworkers⟩:=h.workers
  have hnew : (replicate count WorkerPhase.checking).countP
      (fun phase=>phase = .executing task)=0:=by
    rw [countP_eq_zero]
    intro phase hphase
    rw [eq_of_mem_replicate hphase]
    simp
  simp only [places,h.tasks,h.lost,h.executed,hworkers,countP_append,hnew,Nat.add_zero]

lemma places_enqueueTask (task other : ℕ) (nodeAlloc : Bool) :
    (s.enqueueTask task nodeAlloc).places other=s.places other+if task=other then 1 else 0:=by
  unfold enqueueTask places
  split <;> simp only [count_append,count_singleton,beq_iff_eq] <;> omega

end
namespace WellFormed
variable {s : ThreadPool}

section
variable (h : s.WellFormed)
include h

lemma submit (block : Bool) : (s.step (.submit block)).WellFormed:=by
  refine ⟨fun task=>?_,h.handles⟩
  have hphase : s.enterPhase block ≠ .finishing .ok ∧ s.enterPhase block ≠ .returned .ok:=by
    unfold enterPhase
    split
    · exact ⟨nofun,nofun⟩
    · split <;> exact ⟨nofun,nofun⟩
  have hhanded : (s.step (.submit block)).Handed task ↔ s.Handed task:=by
    unfold Handed
    simp only [step,getElem?_append,getElem?_singleton]
    split
    · rfl
    next hlt=>
      rw [getElem?_eq_none (Nat.not_lt.1 hlt)]
      split <;> simp [hphase]
  rw [if_congr hhanded rfl rfl]
  exact h.accounted task

lemma setSubmit {task : ℕ} {before after : SubmitPhase} (hbefore : s.submits[task]?=some before)
    (hphase : (after = .finishing .ok ∨ after = .returned .ok) ↔
      (before = .finishing .ok ∨ before = .returned .ok)) : (s.setSubmit task after).WellFormed:=by
  refine ⟨fun other=>?_,h.handles⟩
  have hhand : (s.setSubmit task after).Handed other ↔ s.Handed other:=by
    rw [handed_setSubmit hbefore]
    split
    next hother=>rw [hphase,Handed,hother,hbefore,Option.some_inj,Option.some_inj]
    · exact Iff.rfl
  rw [if_congr hhand rfl rfl]
  exact h.accounted other

lemma space (task : ℕ) (taskAlloc : Bool) : (s.step (.space task taskAlloc)).WellFormed:=by
  rw [step]
  split
  next block hbefore=>
    refine h.setSubmit hbefore ?_
    unfold afterWait
    split
    · split <;> simp
    · split <;> simp
  · exact h

lemma push (task : ℕ) (nodeAlloc : Bool) : (s.step (.push task nodeAlloc)).WellFormed:=by
  rw [step]
  split
  next hbefore=>
    have hsubmits : (s.enqueueTask task nodeAlloc).submits=s.submits:=by
      unfold enqueueTask
      split <;> rfl
    refine ⟨fun other=>?_,?_⟩
    · have hplaces:=places_enqueueTask (s:=s) task other nodeAlloc
      have hacc:=h.accounted other
      change (s.enqueueTask task nodeAlloc).places other=_
      rw [if_congr (handed_setSubmit (hsubmits ▸ hbefore) other) rfl rfl,hplaces]
      by_cases hother : other=task
      · subst hother
        have hnot : ¬s.Handed other:=by
          rw [Handed,hbefore]
          simp
        rw [hacc,if_neg hnot,if_pos rfl,if_pos (by rw [if_pos rfl]; exact .inl rfl)]
      · have hkept : (s.enqueueTask task nodeAlloc).Handed other ↔ s.Handed other:=by rw [Handed,Handed,hsubmits]
        rw [hacc,if_neg (Ne.symm hother),Nat.add_zero]
        exact if_congr (by rw [if_neg hother,hkept]) rfl rfl
    · have hkept : (s.enqueueTask task nodeAlloc).threads=s.threads ∧
          (s.enqueueTask task nodeAlloc).workers=s.workers:=by
        unfold enqueueTask
        split <;> exact ⟨rfl,rfl⟩
      intro worker hmem
      change some worker∈(s.enqueueTask task nodeAlloc).threads at hmem
      change worker<(s.enqueueTask task nodeAlloc).workers.length
      rw [hkept.1] at hmem
      rw [hkept.2]
      exact h.handles worker hmem
  · exact h

lemma finish (task : ℕ) (due arrayAlloc : Bool) (creates : ℕ→Bool) :
    (s.step (.finish task due arrayAlloc creates)).WellFormed:=by
  have hres:=s.resizes_adjustThreadPoolSize due arrayAlloc creates
  have hadj : (s.adjustThreadPoolSize due arrayAlloc creates).WellFormed:=by
    refine ⟨fun other=>?_,hres.handles h.handles⟩
    have hkept : (s.adjustThreadPoolSize due arrayAlloc creates).Handed other ↔
        s.Handed other:=by rw [Handed,Handed,hres.submits]
    rw [places_of_resizes hres,if_congr hkept rfl rfl]
    exact h.accounted other
  rw [step]
  split
  next result hbefore=>
    refine hadj.setSubmit (hres.submits ▸ hbefore) ?_
    simp
  · exact h

lemma setWorker {worker : ℕ} {before after : WorkerPhase}
    (hbefore : s.workers[worker]?=some before) (hplain : ∀ task, before ≠ .executing task)
    (hplain' : ∀ task, after ≠ .executing task) : (s.setWorker worker after).WellFormed:=by
  refine ⟨fun task=>?_,fun other hmem=>?_⟩
  · have hplaces:=places_setWorker hbefore after task
    rw [if_neg (hplain task),if_neg (hplain' task)] at hplaces
    exact hplaces.trans (h.accounted task)
  · rw [ThreadPool.setWorker,length_set]
    exact h.handles other hmem

lemma work (worker : ℕ) : (s.workerStep worker).WellFormed:=by
  unfold workerStep
  split
  next hbefore=>
    refine h.setWorker hbefore nofun ?_
    split <;> nofun
  next hbefore=>
    split
    · exact h.setWorker hbefore nofun nofun
    next task rest htasks=>
      refine ⟨fun other=>?_,fun other hmem=>?_⟩
      · have hplaces:=places_setWorker hbefore (.executing task) other
        have hacc:=h.accounted other
        simp only [places,ThreadPool.setWorker,htasks,count_cons,beq_iff_eq,
          reduceCtorEq,if_false,WorkerPhase.executing.injEq] at hplaces hacc ⊢
        change _=if s.Handed other then 1 else 0
        omega
      · change other<(s.workers.set worker _).length
        rw [length_set]
        exact h.handles other hmem
  next task hbefore=>
    refine ⟨fun other=>?_,fun other hmem=>?_⟩
    · have hplaces:=places_setWorker hbefore .checking other
      have hacc:=h.accounted other
      simp only [places,ThreadPool.setWorker,count_append,count_singleton,beq_iff_eq,
        reduceCtorEq,if_false,WorkerPhase.executing.injEq] at hplaces hacc ⊢
      change _=if s.Handed other then 1 else 0
      omega
    · change other<(s.workers.set worker _).length
      rw [length_set]
      exact h.handles other hmem
  next hbefore=>
    split
    · exact h.setWorker hbefore nofun nofun
    · exact h
  next hbefore=>
    refine h.setWorker hbefore nofun ?_
    split <;> nofun
  · exact h
  · exact h

lemma step (event : PoolEvent) : (s.step event).WellFormed:=by
  cases event with
  | submit block=>exact h.submit block
  | space task taskAlloc=>exact h.space task taskAlloc
  | push task nodeAlloc=>exact h.push task nodeAlloc
  | finish task due arrayAlloc creates=>exact h.finish task due arrayAlloc creates
  | work worker=>exact h.work worker
  | destroy=>exact ⟨h.accounted,h.handles⟩
  | join=>
    rw [ThreadPool.step]
    split
    · exact ⟨h.accounted,h.handles⟩
    · exact h

lemma run (events : List PoolEvent) : (s.run events).WellFormed:=by
  induction events generalizing s with
  | nil=>exact h
  | cons event events ih=>exact ih (h.step event)

end
end WellFormed

/-- However the steps interleave, no task is taken twice, and none that was not handed over. -/
theorem run_executes_once (threadCount maxQueueSize : ℕ) (events : List PoolEvent) (task : ℕ) :
    let s:=(create threadCount maxQueueSize).run events
    let taken:=s.executed.count task+s.workers.countP fun phase=>phase = .executing task
    taken≤1 ∧ (0<taken→s.Handed task ∧ task∉s.tasks ∧ task∉s.lost):=by
  intro s taken
  have hplaces : taken+s.tasks.count task+s.lost.count task=if s.Handed task then 1 else 0:=
    ((wellFormed_create threadCount maxQueueSize).run events).accounted task
  split at hplaces
  · refine ⟨by omega,fun htaken=>⟨‹_›,?_,?_⟩⟩ <;> exact count_eq_zero.1 (by omega)
  · omega

end ThreadPool
end SoftMessageBus
