import Mathlib.Data.List.ReduceOption
import SoftMessageBus.ThreadPool

/-!
# Destroying the thread pool

A worker that finds the flag set leaves, whatever is in the list.
-/
namespace SoftMessageBus
open List Option

def PoolEvent.IsWorker : PoolEvent→Prop
  | .work _ | .join=>True
  | _=>False

def WorkerPhase.stepsLeft : WorkerPhase→ℕ
  | .exited=>0
  | .checking | .rechecking=>1
  | .executing _ | .waiting=>2
  | .ready=>3

lemma WorkerPhase.stepsLeft_le (phase : WorkerPhase) : phase.stepsLeft≤3:=by
  cases phase with
  | executing task=>exact Nat.le_succ 2
  | _=>decide

namespace ThreadPool

def Accepted (s : ThreadPool) (task : ℕ) : Prop:=s.submits[task]?=some (.returned .ok)
  deriving Decidable

def Completed (s : ThreadPool) : Prop:=
  (∀ task, s.Accepted task→s.executed.count task=1) ∧ ∀ worker task : ℕ, s.workers[worker]?≠some (.executing task)

def backlog (s : ThreadPool) : List ℕ:=s.tasks.drop (s.workers.countP fun phase=>phase = .ready)

/-- No accepted task is lost or queued, and the workers in a task are waited for. -/
structure Drained (s : ThreadPool) : Prop where
  lost : ∀ task∈s.lost, ¬s.Accepted task
  backlog : ∀ task∈s.backlog, ¬s.Accepted task
  executing : ∀ worker task : ℕ, s.workers[worker]?=some (.executing task)→s.Joins worker
  ready : s.tasks≠[]→∀ worker : ℕ, s.workers[worker]?=some .ready→s.Joins worker

structure Keeps (s next : ThreadPool) : Prop where
  threads : next.threads=s.threads
  threadCount : next.threadCount=s.threadCount
  submits : next.submits=s.submits
  lost : next.lost=s.lost
  shutdown : next.shutdown=s.shutdown
  length : next.workers.length=s.workers.length
  exited : ∀ worker : ℕ, s.workers[worker]?=some .exited→next.workers[worker]?=some .exited

section
variable {s next : ThreadPool}

lemma Keeps.refl (s : ThreadPool) : s.Keeps s:=⟨rfl,rfl,rfl,rfl,rfl,rfl,fun _ h=>h⟩

lemma Keeps.trans {third : ThreadPool} (h₁ : s.Keeps next) (h₂ : next.Keeps third) : s.Keeps third:=
  ⟨h₂.threads.trans h₁.threads,h₂.threadCount.trans h₁.threadCount,
    h₂.submits.trans h₁.submits,h₂.lost.trans h₁.lost,h₂.shutdown.trans h₁.shutdown,
    h₂.length.trans h₁.length,fun worker h=>h₂.exited worker (h₁.exited worker h)⟩

lemma Keeps.joins_iff (h : s.Keeps next) (worker : ℕ) : next.Joins worker ↔ s.Joins worker:=by
  rw [Joins,Joins,h.threads,h.threadCount]

lemma Keeps.accepted_iff (h : s.Keeps next) (task : ℕ) : next.Accepted task ↔ s.Accepted task:=by
  rw [Accepted,Accepted,h.submits]

lemma Keeps.allJoined (h : s.Keeps next) (hjoined : s.AllJoined) : next.AllJoined:=by
  intro handle hhandle worker hworker
  rw [h.threads,h.threadCount] at hhandle
  exact h.exited worker (hjoined handle hhandle worker hworker)

variable {worker : ℕ}

lemma getElem?_setWorker_self {before : WorkerPhase} (hbefore : s.workers[worker]?=some before) (after : WorkerPhase) :
    (s.setWorker worker after).workers[worker]?=some after:=
  getElem?_set_self (List.getElem?_eq_some_iff.1 hbefore).1

lemma getElem?_setWorker_of_ne {other : ℕ} (hne : other≠worker) (after : WorkerPhase) :
    (s.setWorker worker after).workers[other]?=s.workers[other]?:=
  getElem?_set_ne (Ne.symm hne)

lemma keeps_setWorker {before : WorkerPhase} (hbefore : s.workers[worker]?=some before)
    (hexited : before ≠ .exited) (after : WorkerPhase) : s.Keeps (s.setWorker worker after):=by
  refine ⟨rfl,rfl,rfl,rfl,rfl,length_set,fun other hother=>?_⟩
  have hne : other≠worker:=by
    rintro rfl
    rw [hbefore,some_inj] at hother
    exact hexited hother
  rw [getElem?_setWorker_of_ne hne,hother]

lemma workerStep_cases (hshutdown : s.shutdown=true) (worker : ℕ) :
    s.workerStep worker=s ∨
      (∃ before after, s.workers[worker]?=some before ∧
        before ≠ .ready ∧ before ≠ .exited ∧ (∀ task, before ≠ .executing task) ∧
        (after = .exited ∨ after = .rechecking) ∧
        s.workerStep worker=s.setWorker worker after) ∨
      (s.workers[worker]?=some .ready ∧ s.tasks=[] ∧ s.workerStep worker=s.setWorker worker .waiting) ∨
      (∃ task rest, s.workers[worker]?=some .ready ∧ s.tasks=task::rest ∧
        s.workerStep worker = {s.setWorker worker (.executing task) with tasks:=rest}) ∨
      ∃ task, s.workers[worker]?=some (.executing task) ∧
        s.workerStep worker = {s.setWorker worker .checking with executed:=s.executed++[task]}:=by
  unfold workerStep
  split
  next hbefore=>
    refine .inr (.inl ⟨_,.exited,hbefore,nofun,nofun,nofun,.inl rfl,?_⟩)
    rw [if_pos hshutdown]
  next hbefore=>
    split
    next htasks=>exact .inr (.inr (.inl ⟨hbefore,htasks,rfl⟩))
    next task rest htasks=>exact .inr (.inr (.inr (.inl ⟨task,rest,hbefore,htasks,rfl⟩)))
  next task hbefore=>exact .inr (.inr (.inr (.inr ⟨task,hbefore,rfl⟩)))
  next hbefore=>
    refine .inr (.inl ⟨_,.rechecking,hbefore,nofun,nofun,nofun,.inr rfl,?_⟩)
    rw [if_pos (.inl hshutdown)]
  next hbefore=>
    refine .inr (.inl ⟨_,.exited,hbefore,nofun,nofun,nofun,.inl rfl,?_⟩)
    rw [if_pos hshutdown]
  · exact .inl rfl
  · exact .inl rfl

lemma returned_workerStep (s : ThreadPool) (worker : ℕ) : (s.workerStep worker).returned=s.returned:=by
  unfold workerStep
  split
  · rfl
  · split <;> rfl
  · rfl
  · split <;> rfl
  · rfl
  · rfl
  · rfl

lemma keeps_workerStep (s : ThreadPool) (worker : ℕ) : s.Keeps (s.workerStep worker):=by
  unfold workerStep
  split
  next hbefore=>exact keeps_setWorker hbefore nofun _
  next hbefore=>
    split
    · exact keeps_setWorker hbefore nofun _
    · have h:=keeps_setWorker hbefore nofun (.executing ‹ℕ›)
      exact ⟨h.threads,h.threadCount,h.submits,h.lost,h.shutdown,h.length,h.exited⟩
  next hbefore=>
    have h:=keeps_setWorker hbefore nofun .checking
    exact ⟨h.threads,h.threadCount,h.submits,h.lost,h.shutdown,h.length,h.exited⟩
  next hbefore=>
    split
    · exact keeps_setWorker hbefore nofun _
    · exact .refl s
  next hbefore=>exact keeps_setWorker hbefore nofun _
  · exact .refl s
  · exact .refl s

lemma keeps_step {event : PoolEvent} (hevent : event.IsWorker) : s.Keeps (s.step event):=by
  cases event with
  | work worker=>exact s.keeps_workerStep worker
  | join=>
    rw [step]
    split
    · exact ⟨rfl,rfl,rfl,rfl,rfl,rfl,fun _ h=>h⟩
    · exact .refl s
  | _=>cases hevent

lemma keeps_run {events : List PoolEvent} (hev : ∀ event∈events, event.IsWorker) :
    s.Keeps (s.run events):=by
  induction events generalizing s with
  | nil=>exact .refl s
  | cons event events ih=>
    obtain ⟨hevent,hev⟩:=forall_mem_cons.1 hev
    exact (keeps_step hevent).trans (ih hev)

end

section
variable {s : ThreadPool} {worker : ℕ}

lemma AllJoined.exited (h : s.AllJoined) (hjoins : s.Joins worker) : s.workers[worker]?=some .exited:=
  h _ hjoins worker rfl

lemma backlog_workerStep (hshutdown : s.shutdown=true) (worker : ℕ) :
    (s.workerStep worker).backlog=s.backlog:=by
  have hset : ∀ {before : WorkerPhase}, s.workers[worker]?=some before→∀ after,
      (s.setWorker worker after).workers.countP (fun phase=>phase = .ready)+
          (if before = .ready then 1 else 0)=
        s.workers.countP (fun phase=>phase = .ready)+if after = .ready then 1 else 0:=by
    intro before hbefore after
    have h:=SlotCounts.countP_set_add (p:=fun phase=>decide (phase = .ready)) hbefore after
    simp only [decide_eq_true_eq] at h
    exact h
  obtain heq | ⟨before,after,hbefore,hready,-,-,hafter,heq⟩ | ⟨hbefore,htasks,heq⟩ |
    ⟨task,rest,hbefore,htasks,heq⟩ | ⟨task,hbefore,heq⟩:=workerStep_cases hshutdown worker
  · rw [heq]
  · have hcount:=hset hbefore after
    have hnot : after ≠ .ready:=by rcases hafter with rfl | rfl <;> nofun
    rw [if_neg hready,if_neg hnot] at hcount
    rw [heq,backlog,backlog,← Nat.add_right_cancel hcount]
    rfl
  · rw [heq,backlog,backlog,htasks]
    change s.tasks.drop _=_
    rw [htasks,drop_nil,drop_nil]
  · have hcount:=hset hbefore (.executing task)
    rw [if_pos rfl,if_neg nofun] at hcount
    rw [heq,backlog,backlog,htasks,← Nat.add_zero (s.workers.countP _),← hcount,drop_succ_cons]
  · have hcount:=hset hbefore .checking
    rw [if_neg nofun,if_neg nofun] at hcount
    rw [heq,backlog,backlog,← Nat.add_right_cancel hcount]
    rfl

variable {other : ℕ}

lemma getElem?_workerStep_of_ne (s : ThreadPool) (hne : other≠worker) :
    (s.workerStep worker).workers[other]?=s.workers[other]?:=by
  unfold workerStep
  split
  · exact getElem?_setWorker_of_ne hne _
  · split
    · exact getElem?_setWorker_of_ne hne _
    · exact getElem?_setWorker_of_ne hne _
  · exact getElem?_setWorker_of_ne hne _
  · split
    · exact getElem?_setWorker_of_ne hne _
    · rfl
  · exact getElem?_setWorker_of_ne hne _
  · rfl
  · rfl

lemma phase_of_workerStep (hshutdown : s.shutdown=true) {phase : WorkerPhase}
    (hphase : (s.workerStep worker).workers[other]?=some phase) :
    s.workers[other]?=some phase ∨ (phase ≠ .ready ∧
      ∀ task, phase = .executing task→s.tasks≠[] ∧ s.workers[other]?=some .ready):=by
  by_cases hne : other=worker
  · subst hne
    obtain heq | ⟨before,after,hbefore,-,-,-,hafter,heq⟩ | ⟨hbefore,-,heq⟩ |
      ⟨task,rest,hbefore,htasks,heq⟩ | ⟨task,hbefore,heq⟩:=workerStep_cases hshutdown other
    · rw [heq] at hphase
      exact .inl hphase
    · rw [heq,getElem?_setWorker_self hbefore,some_inj] at hphase
      subst hphase
      right
      rcases hafter with rfl | rfl <;> exact ⟨nofun,nofun⟩
    · rw [heq,getElem?_setWorker_self hbefore,some_inj] at hphase
      subst hphase
      exact .inr ⟨nofun,nofun⟩
    · rw [heq] at hphase
      change (s.setWorker other (.executing task)).workers[other]?=_ at hphase
      rw [getElem?_setWorker_self hbefore,some_inj] at hphase
      subst hphase
      refine .inr ⟨nofun,fun _ _=>⟨?_,hbefore⟩⟩
      rw [htasks]
      exact cons_ne_nil _ _
    · rw [heq] at hphase
      change (s.setWorker other .checking).workers[other]?=_ at hphase
      rw [getElem?_setWorker_self hbefore,some_inj] at hphase
      subst hphase
      exact .inr ⟨nofun,nofun⟩
  · rw [getElem?_workerStep_of_ne s hne] at hphase
    exact .inl hphase

lemma tasks_ne_nil_of_workerStep (htasks : (s.workerStep worker).tasks≠[]) : s.tasks≠[]:=by
  intro hnil
  apply htasks
  unfold workerStep
  rw [hnil]
  split
  · exact hnil
  · exact hnil
  · exact hnil
  · split
    · exact hnil
    · exact hnil
  · exact hnil
  · exact hnil
  · exact hnil

lemma Drained.work (h : s.Drained) (hshutdown : s.shutdown=true) (worker : ℕ) :
    (s.workerStep worker).Drained:=by
  have hkeeps:=s.keeps_workerStep worker
  refine ⟨fun task hmem=>?_,fun task hmem=>?_,fun other task hother=>?_,fun htasks other hother=>?_⟩
  · rw [hkeeps.lost] at hmem
    rw [hkeeps.accepted_iff]
    exact h.lost task hmem
  · rw [backlog_workerStep hshutdown] at hmem
    rw [hkeeps.accepted_iff]
    exact h.backlog task hmem
  · rw [hkeeps.joins_iff]
    rcases phase_of_workerStep hshutdown hother with hbefore | ⟨-,hbefore⟩
    · exact h.executing other task hbefore
    · obtain ⟨htasks,hready⟩:=hbefore task rfl
      exact h.ready htasks other hready
  · rw [hkeeps.joins_iff]
    rcases phase_of_workerStep hshutdown hother with hbefore | ⟨hnot,-⟩
    · exact h.ready (tasks_ne_nil_of_workerStep htasks) other hbefore
    · exact absurd rfl hnot

structure Ending (s : ThreadPool) : Prop where
  wellFormed : s.WellFormed
  shutdown : s.shutdown=true
  drained : s.Drained
  joined : s.returned=true→s.AllJoined

lemma Ending.step (h : s.Ending) {event : PoolEvent} (hevent : event.IsWorker) : (s.step event).Ending:=by
  have hkeeps:=keeps_step (s:=s) hevent
  refine ⟨h.wellFormed.step event,hkeeps.shutdown.trans h.shutdown,?_,?_⟩
  · cases event with
    | work worker=>exact h.drained.work h.shutdown worker
    | join=>
      rw [ThreadPool.step]
      split
      · exact ⟨h.drained.lost,h.drained.backlog,h.drained.executing,h.drained.ready⟩
      · exact h.drained
    | _=>cases hevent
  · intro hret
    apply hkeeps.allJoined
    cases event with
    | work worker=>
      exact h.joined ((s.returned_workerStep worker).symm.trans hret)
    | join=>
      rw [ThreadPool.step] at hret
      split at hret
      next hends=>exact hends.2
      · exact h.joined hret
    | _=>cases hevent

lemma Ending.run (h : s.Ending) {events : List PoolEvent}
    (hev : ∀ event∈events, event.IsWorker) : (s.run events).Ending:=by
  induction events generalizing s with
  | nil=>exact h
  | cons event events ih=>
    obtain ⟨hevent,hev⟩:=forall_mem_cons.1 hev
    exact ih (h.step hevent) hev

lemma Ending.completed (h : s.Ending) (hret : s.returned=true) : s.Completed:=by
  have hjoined:=h.joined hret
  have hidle : ∀ worker task : ℕ, s.workers[worker]?≠some (.executing task):=by
    intro worker task hworker
    have hexited:=hjoined.exited (h.drained.executing worker task hworker)
    rw [hworker] at hexited
    cases hexited
  refine ⟨fun task hacc=>?_,hidle⟩
  have hlost : s.lost.count task=0:=count_eq_zero.2 fun hmem=>h.drained.lost task hmem hacc
  have hexecuting : s.workers.countP (fun phase=>phase = .executing task)=0:=by
    rw [countP_eq_zero]
    intro phase hphase heq
    obtain ⟨worker,hworker⟩:=mem_iff_getElem?.1 hphase
    rw [of_decide_eq_true heq] at hworker
    exact hidle worker task hworker
  have htasks : s.tasks.count task=0:=by
    rw [count_eq_zero]
    intro hmem
    -- nobody is left to take a task, so that the whole list is the backlog
    have hready : s.workers.countP (fun phase=>phase = .ready)=0:=by
      rw [countP_eq_zero]
      intro phase hphase heq
      obtain ⟨worker,hworker⟩:=mem_iff_getElem?.1 hphase
      rw [of_decide_eq_true heq] at hworker
      have hexited:=hjoined.exited (h.drained.ready (ne_nil_of_mem hmem) worker hworker)
      rw [hworker] at hexited
      cases hexited
    refine h.drained.backlog task ?_ hacc
    rw [backlog,hready]
    exact hmem
  have haccounted:=h.wellFormed.accounted task
  rw [if_pos (.inr hacc),places,hlost,hexecuting,htasks] at haccounted
  exact haccounted

section
variable (hshutdown : s.shutdown=true) {before : WorkerPhase} (hbefore : s.workers[worker]?=some before)
include hshutdown hbefore

lemma stepsLeft_workerStep :
    ∃ after, (s.workerStep worker).workers[worker]?=some after ∧ after.stepsLeft≤before.stepsLeft-1:=by
  unfold workerStep
  rw [hbefore]
  cases before with
  | checking | rechecking=>
    refine ⟨_,getElem?_setWorker_self hbefore _,?_⟩
    rw [if_pos hshutdown]
    decide
  | ready=>
    cases s.tasks with
    | nil=>exact ⟨.waiting,getElem?_setWorker_self hbefore _,by decide⟩
    | cons task rest=>
      exact ⟨.executing task,getElem?_setWorker_self hbefore _,le_refl 2⟩
  | executing task=>exact ⟨.checking,getElem?_setWorker_self hbefore _,le_refl 1⟩
  | waiting=>
    refine ⟨.rechecking,?_,le_refl 1⟩
    dsimp only
    rw [if_pos (.inl hshutdown)]
    exact getElem?_setWorker_self hbefore _
  | exited=>exact ⟨.exited,hbefore,le_refl 0⟩

lemma exited_run_replicate {count : ℕ} (hcount : before.stepsLeft≤count) :
    (s.run (replicate count (.work worker))).workers[worker]?=some .exited:=by
  induction count generalizing s before with
  | zero=>
    cases before with
    | exited=>exact hbefore
    | _=>cases hcount
  | succ count ih=>
    obtain ⟨after,hafter,hle⟩:=stepsLeft_workerStep hshutdown hbefore
    refine ih ((s.keeps_workerStep worker).shutdown.trans hshutdown) hafter ?_
    omega

end

def leaving (workers : List ℕ) : List PoolEvent:=workers.flatMap fun worker=>replicate 3 (.work worker)

lemma isWorker_leaving (workers : List ℕ) : ∀ event∈leaving workers, event.IsWorker:=by
  intro event hevent
  obtain ⟨worker,-,hmem⟩:=mem_flatMap.1 hevent
  rw [eq_of_mem_replicate hmem]
  trivial

lemma isWorker_leaving_join (workers : List ℕ) : ∀ event∈leaving workers++[.join], event.IsWorker:=by
  intro event hevent
  rcases mem_append.1 hevent with hevent | hevent
  · exact isWorker_leaving workers event hevent
  · rw [mem_singleton.1 hevent]
    trivial

lemma run_append (s : ThreadPool) (first second : List PoolEvent) :
    s.run (first++second)=(s.run first).run second:=
  foldl_append

lemma keeps_replicate (s : ThreadPool) (count worker : ℕ) :
    s.Keeps (s.run (replicate count (.work worker))):=by
  apply keeps_run
  intro event hevent
  rw [eq_of_mem_replicate hevent]
  trivial

lemma run_leaving_cons (s : ThreadPool) (left : ℕ) (workers : List ℕ) :
    s.run (leaving (left::workers))=(s.run (replicate 3 (.work left))).run (leaving workers):=by
  rw [leaving,flatMap_cons,run_append]
  rfl

lemma exited_run_leaving {workers : List ℕ} (hshutdown : s.shutdown=true)
    (hlt : ∀ worker∈workers, worker<s.workers.length) :
    ∀ worker∈workers, (s.run (leaving workers)).workers[worker]?=some .exited:=by
  induction workers generalizing s with
  | nil=>nofun
  | cons left workers ih=>
    obtain ⟨hleft,hlt⟩:=forall_mem_cons.1 hlt
    have hkeeps:=s.keeps_replicate 3 left
    have hexited:=exited_run_replicate hshutdown (getElem?_eq_getElem hleft) (WorkerPhase.stepsLeft_le _)
    rw [run_leaving_cons]
    intro worker hmem
    rcases mem_cons.1 hmem with rfl | hmem
    · exact (keeps_run (isWorker_leaving workers)).exited worker hexited
    · refine ih (hkeeps.shutdown.trans hshutdown) (fun other hother=>?_) worker hmem
      rw [hkeeps.length]
      exact hlt other hother

lemma getElem?_run_leaving {workers : List ℕ} (hother : other∉workers) :
    (s.run (leaving workers)).workers[other]?=s.workers[other]?:=by
  induction workers generalizing s with
  | nil=>rfl
  | cons left workers ih=>
    obtain ⟨hne,hother⟩:=not_or.1 (fun h=>hother (mem_cons.2 h))
    rw [run_leaving_cons,ih hother]
    change (((s.workerStep left).workerStep left).workerStep left).workers[other]?=_
    rw [getElem?_workerStep_of_ne _ hne,getElem?_workerStep_of_ne _ hne,getElem?_workerStep_of_ne _ hne]

lemma backlog_run_leaving (hshutdown : s.shutdown=true) (workers : List ℕ) :
    (s.run (leaving workers)).backlog=s.backlog:=by
  induction workers generalizing s with
  | nil=>rfl
  | cons left workers ih=>
    have h₁:=(s.keeps_workerStep left).shutdown.trans hshutdown
    have h₂:=((s.workerStep left).keeps_workerStep left).shutdown.trans h₁
    have h₃:=(((s.workerStep left).workerStep left).keeps_workerStep left).shutdown.trans h₂
    rw [run_leaving_cons]
    change ((((s.workerStep left).workerStep left).workerStep left).run (leaving workers)).backlog = _
    rw [ih h₃,backlog_workerStep h₂,backlog_workerStep h₁,backlog_workerStep hshutdown]

def joined (s : ThreadPool) : List ℕ:=(s.threads.take s.threadCount).reduceOption

lemma mem_joined : worker∈s.joined ↔ s.Joins worker:=reduceOption_mem_iff

lemma returned_leaving (hwf : s.WellFormed) (hshutdown : s.shutdown=true) :
    (s.run (leaving s.joined++[.join])).returned=true:=by
  have hkeeps:=keeps_run (s:=s) (isWorker_leaving s.joined)
  have hall : (s.run (leaving s.joined)).AllJoined:=by
    intro handle hhandle worker hworker
    rw [hkeeps.threads,hkeeps.threadCount] at hhandle
    refine exited_run_leaving hshutdown (fun other hother=>?_) worker ?_
    · exact hwf.handles other (mem_of_mem_take (mem_joined.1 hother))
    · rw [mem_def.1 hworker] at hhandle
      exact mem_joined.2 hhandle
  rw [run_append]
  change ((s.run (leaving s.joined)).step .join).returned=true
  rw [step,if_pos ⟨hkeeps.shutdown.trans hshutdown,hall⟩]

def Graceful (s : ThreadPool) : Prop:=
  ∀ schedule : List PoolEvent, (∀ event∈schedule, event.IsWorker)→
    (s.run schedule).returned=true→(s.run schedule).Completed

lemma Ending.graceful (h : s.Ending) : s.Graceful:=by
  intro schedule hschedule hret
  exact (h.run hschedule).completed hret

lemma Graceful.run (h : s.Graceful) {events : List PoolEvent}
    (hev : ∀ event∈events, event.IsWorker) : (s.run events).Graceful:=by
  intro schedule hschedule hret
  rw [← run_append] at hret ⊢
  refine h _ (fun event hevent=>?_) hret
  rcases mem_append.1 hevent with hevent | hevent
  · exact hev event hevent
  · exact hschedule event hevent

lemma Graceful.leaving (h : s.Graceful) (hwf : s.WellFormed) (hshutdown : s.shutdown=true) :
    (s.run (leaving s.joined)).Completed:=by
  have hcompleted:=h _ (isWorker_leaving_join s.joined) (returned_leaving hwf hshutdown)
  rw [run_append] at hcompleted
  change ((s.run (ThreadPool.leaving s.joined)).step .join).Completed at hcompleted
  rw [step] at hcompleted
  split at hcompleted
  · exact hcompleted
  · exact hcompleted

lemma Completed.not_mem (h : s.Completed) (hwf : s.WellFormed) {task : ℕ}
    (hacc : s.Accepted task) : task∉s.tasks ∧ task∉s.lost:=by
  have haccounted:=hwf.accounted task
  have hexecuted:=h.1 task hacc
  rw [if_pos (.inr hacc),places] at haccounted
  refine ⟨fun hmem=>?_,fun hmem=>?_⟩
  · have hcount:=count_pos_iff.2 hmem
    omega
  · have hcount:=count_pos_iff.2 hmem
    omega

lemma Graceful.joins_of_executing (h : s.Graceful) (hwf : s.WellFormed) (hshutdown : s.shutdown=true) {task : ℕ}
    (hworker : s.workers[worker]?=some (.executing task)) : s.Joins worker:=by
  by_contra hjoins
  refine (h.leaving hwf hshutdown).2 worker task ?_
  rw [getElem?_run_leaving (fun hmem=>hjoins (mem_joined.1 hmem)),hworker]

lemma Graceful.drained (h : s.Graceful) (hwf : s.WellFormed) (hshutdown : s.shutdown=true) : s.Drained:=by
  have hcompleted:=h.leaving hwf hshutdown
  have hkeeps:=keeps_run (s:=s) (isWorker_leaving s.joined)
  have hend:=hwf.run (ThreadPool.leaving s.joined)
  refine ⟨fun task hmem hacc=>?_,fun task hmem hacc=>?_,fun worker task hworker=>?_,fun htasks worker hworker=>?_⟩
  · rw [← hkeeps.accepted_iff] at hacc
    rw [← hkeeps.lost] at hmem
    exact (hcompleted.not_mem hend hacc).2 hmem
  · rw [← hkeeps.accepted_iff] at hacc
    rw [← backlog_run_leaving hshutdown s.joined] at hmem
    exact (hcompleted.not_mem hend hacc).1 (mem_of_mem_drop hmem)
  · exact h.joins_of_executing hwf hshutdown hworker
  · -- the worker takes the task before the others move
    obtain ⟨task,rest,htasks⟩:=exists_cons_of_ne_nil htasks
    have htaken : (s.workerStep worker).workers[worker]?=some (.executing task):=by
      unfold workerStep
      rw [hworker,htasks]
      exact getElem?_setWorker_self hworker _
    have hnext : (s.run [.work worker]).Graceful:=by
      apply h.run
      intro event hevent
      rw [mem_singleton.1 hevent]
      trivial
    have hkept:=s.keeps_workerStep worker
    rw [← hkept.joins_iff]
    exact hnext.joins_of_executing (hwf.work worker) (hkept.shutdown.trans hshutdown) htaken

end

lemma shutdown_of_returned_step {s : ThreadPool} (h : s.returned=true→s.shutdown=true)
    (event : PoolEvent) : (s.step event).returned=true→(s.step event).shutdown=true:=by
  cases event with
  | submit block=>exact h
  | space task taskAlloc=>
    rw [step]
    split <;> exact h
  | push task nodeAlloc=>
    rw [step]
    split
    · unfold enqueueTask
      split <;> exact h
    · exact h
  | finish task due arrayAlloc creates=>
    have hres:=s.resizes_adjustThreadPoolSize due arrayAlloc creates
    rw [step]
    split
    · change (s.adjustThreadPoolSize due arrayAlloc creates).returned=true→
        (s.adjustThreadPoolSize due arrayAlloc creates).shutdown=true
      rw [hres.returned,hres.shutdown]
      exact h
    · exact h
  | work worker=>
    rw [step,returned_workerStep,(s.keeps_workerStep worker).shutdown]
    exact h
  | destroy=>exact fun _=>rfl
  | join=>
    rw [step]
    split
    next hends=>exact fun _=>hends.1
    · exact h

lemma shutdown_of_returned_run {s : ThreadPool} (h : s.returned=true→s.shutdown=true)
    (events : List PoolEvent) : (s.run events).returned=true→(s.run events).shutdown=true:=by
  induction events generalizing s with
  | nil=>exact h
  | cons event events ih=>exact ih (shutdown_of_returned_step h event)

def sampleSubmission (task : ℕ) (due : Bool) : List PoolEvent:=
  [.submit true,.space task true,.push task true,.finish task due true fun _=>false]

/-- A task is in execution while only four of nine threads are waited for. -/
def sampleResize : List PoolEvent:=
  [.submit true,.space 0 true,.push 0 true,.work 8,.work 8,.finish 0 true true fun _=>false]

end ThreadPool
end SoftMessageBus
