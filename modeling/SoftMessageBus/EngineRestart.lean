import SoftMessageBus.StepRuns

/-!
# Restarting the routing engine

A task of the thread pool runs the loop of the dispatcher.
-/
namespace SoftMessageBus
open StepRuns List

/-- The engine, its dispatcher and its queue. -/
structure EngineRuntime where
  isRunning : Bool
  dispatcherRunning : Bool
  exitFlag : Bool
  maxQueueSize : ℕ
  messages : List ℕ
  nextMessage : ℕ
  dispatched : List ℕ
  submitted : ℕ
  entering : ℕ
  looping : ℕ
  deriving DecidableEq

/-- The engine is started and stopped, workers take turns, messages arrive. -/
inductive EngineEvent where
  | start (submits : Bool)
  | stop
  | taskBegin
  | taskEnter
  | turn
  | enqueue (nodeAlloc : Bool)
  deriving DecidableEq

namespace EngineRuntime

def create (maxQueue : ℕ) : EngineRuntime:=⟨false,false,false,maxQueue,[],0,[],0,0,0⟩

section
variable (s : EngineRuntime)

/-- `zoo_queue_enqueue` takes a message. -/
def accepts (nodeAlloc : Bool) : Bool:=s.messages.length<s.maxQueueSize && nodeAlloc

/-- `process_message`. -/
def processMessage : EngineRuntime:=
  if s.exitFlag then s
  else match s.messages with
    | []=>s
    | message::rest=>{s with messages:=rest, dispatched:=s.dispatched++[message]}

def step : EngineEvent→EngineRuntime
  | .start submits=>{s with isRunning:=submits, submitted:=s.submitted+submits.toNat}
  | .stop=>
    if s.isRunning then
      {s with isRunning:=false, dispatcherRunning:=false, exitFlag:=true}
    else s
  | .taskBegin=>
    if s.submitted=0 then s
    else if s.dispatcherRunning then {s with submitted:=s.submitted-1}
    else {s with submitted:=s.submitted-1, entering:=s.entering+1}
  | .taskEnter=>
    if s.entering=0 then s
    else
      {s with
        entering:=s.entering-1
        dispatcherRunning:=true
        looping:=s.looping+1}
  | .turn=>
    if s.looping=0 then s
    else if s.dispatcherRunning then s.processMessage
    else {s with looping:=s.looping-1}
  | .enqueue nodeAlloc=>
    if s.accepts nodeAlloc then
      {s with messages:=s.messages++[s.nextMessage], nextMessage:=s.nextMessage+1}
    else s

/-- Messages leave the queue in order, and a running dispatcher has a worker in its loop. -/
structure WellFormed (s : EngineRuntime) : Prop where
  ordered : s.dispatched++s.messages=range s.nextMessage
  looping : s.dispatcherRunning=true → 0<s.looping

lemma wellFormed_create (maxQueue : ℕ) : (create maxQueue).WellFormed:=⟨rfl,fun h=>nomatch h⟩

lemma processMessage_cases :
    (s.processMessage=s ∧ (s.exitFlag=true ∨ s.messages=[])) ∨
      ∃ message rest, s.exitFlag=false ∧ s.messages=message::rest ∧
        s.processMessage = {s with messages:=rest, dispatched:=s.dispatched++[message]}:=by
  unfold processMessage
  split
  next hexit=>exact .inl ⟨rfl,.inl hexit⟩
  next hexit=>
    split
    next hnil=>exact .inl ⟨rfl,.inr hnil⟩
    next message rest hcons=>exact .inr ⟨message,rest,Bool.eq_false_iff.2 hexit,hcons,rfl⟩

end

variable {s : EngineRuntime}

lemma WellFormed.processMessage (h : s.WellFormed) : s.processMessage.WellFormed:=by
  rcases s.processMessage_cases with ⟨heq,-⟩ | ⟨message,rest,-,hcons,heq⟩
  · rw [heq]
    exact h
  · rw [heq]
    refine ⟨?_,h.looping⟩
    have hord:=h.ordered
    rw [hcons,append_cons] at hord
    exact hord

lemma WellFormed.step (h : s.WellFormed) (event : EngineEvent) : (s.step event).WellFormed:=by
  cases event <;> rw [EngineRuntime.step]
  case start submits=>exact ⟨h.ordered,h.looping⟩
  case stop=>
    split
    · exact ⟨h.ordered,fun hrunning=>nomatch hrunning⟩
    · exact h
  case taskBegin=>
    split
    · exact h
    · split <;> exact ⟨h.ordered,h.looping⟩
  case taskEnter=>
    split
    · exact h
    · exact ⟨h.ordered,fun _=>Nat.succ_pos _⟩
  case turn=>
    split
    · exact h
    · split
      · exact h.processMessage
      next hidle=>exact ⟨h.ordered,fun hrunning=>absurd hrunning hidle⟩
  case enqueue nodeAlloc=>
    split
    · refine ⟨?_,h.looping⟩
      change s.dispatched++(s.messages++[s.nextMessage])=range (s.nextMessage+1)
      rw [← append_assoc,h.ordered,range_succ]
    · exact h

lemma exitFlag_step (s : EngineRuntime) (event : EngineEvent) :
    (s.step event).exitFlag=true ↔ s.exitFlag=true ∨ event = .stop ∧ s.isRunning=true:=by
  cases event <;> grind [step,processMessage]

lemma dispatched_step_of_exitFlag (h : s.exitFlag=true) (event : EngineEvent) :
    (s.step event).dispatched=s.dispatched:=by
  cases event <;> grind [step,processMessage]

variable {event : EngineEvent}

lemma dispatcherRunning_step (h : s.dispatcherRunning=true) (hevent : event ≠ .stop) :
    (s.step event).dispatcherRunning=true:=by
  cases event <;> grind [step,processMessage]

lemma counts_step (s : EngineRuntime) (event : EngineEvent) :
    s.nextMessage≤(s.step event).nextMessage ∧ s.dispatched.length≤(s.step event).dispatched.length:=by
  cases event <;> grind [step,processMessage]

lemma submitted_step (h : 0<s.submitted) (hevent : event ≠ .taskBegin) : 0<(s.step event).submitted:=by
  cases event <;> grind [step,processMessage]

lemma entering_step (h : 0<s.entering) (hevent : event ≠ .taskEnter) : 0<(s.step event).entering:=by
  cases event <;> grind [step,processMessage]

section
variable (maxQueue : ℕ)

variable (events : ℕ→EngineEvent)

def runAt (n : ℕ) : EngineRuntime:=stateAt step (create maxQueue) events n

lemma runAt_succ (n : ℕ) : runAt maxQueue events (n+1)=(runAt maxQueue events n).step (events n):=rfl

/-- The pool begins the submitted tasks and gives turns to their workers. -/
structure Fair (maxQueue : ℕ) (events : ℕ→EngineEvent) : Prop where
  begins : ∀ n, 0<(runAt maxQueue events n).submitted→∃ m, n ≤ m ∧ events m = .taskBegin
  enters : ∀ n, 0<(runAt maxQueue events n).entering→∃ m, n ≤ m ∧ events m = .taskEnter
  turns : ∀ n, 0<(runAt maxQueue events n).looping→∃ m, n ≤ m ∧ events m = .turn

def AcceptsAt (k : ℕ) : Prop:=
  ∃ nodeAlloc, events k = .enqueue nodeAlloc ∧ (runAt maxQueue events k).accepts nodeAlloc=true

def StopsAt (p : ℕ) : Prop:=events p = .stop ∧ (runAt maxQueue events p).isRunning=true

end
section
variable (maxQueue : ℕ) (events : ℕ→EngineEvent)

lemma wellFormed_runAt (n : ℕ) : (runAt maxQueue events n).WellFormed:=by
  induction n with
  | zero=>exact wellFormed_create maxQueue
  | succ n ih=>exact ih.step (events n)

lemma exitFlag_runAt (n : ℕ) :
    (runAt maxQueue events n).exitFlag=true ↔ ∃ p<n, StopsAt maxQueue events p:=by
  induction n with
  | zero=>exact iff_of_false (fun h=>nomatch h) fun ⟨p,hp,_⟩=>absurd hp (Nat.not_lt_zero p)
  | succ n ih=>
    rw [runAt_succ,exitFlag_step,ih]
    constructor
    · rintro (⟨p,hp,hstops⟩ | hstops)
      · exact ⟨p,Nat.lt_succ_of_lt hp,hstops⟩
      · exact ⟨n,Nat.lt_succ_self n,hstops⟩
    · rintro ⟨p,hp,hstops⟩
      rcases Nat.lt_succ_iff_lt_or_eq.1 hp with hlt | rfl
      · exact .inl ⟨p,hlt,hstops⟩
      · exact .inr hstops

lemma counts_mono {m n : ℕ} (h : m≤n) :
    (runAt maxQueue events m).nextMessage≤(runAt maxQueue events n).nextMessage ∧
      (runAt maxQueue events m).dispatched.length≤(runAt maxQueue events n).dispatched.length:=by
  induction n, h using Nat.le_induction with
  | base=>exact ⟨Nat.le_refl _,Nat.le_refl _⟩
  | succ n hn ih=>
    have hstep:=counts_step (runAt maxQueue events n) (events n)
    exact ⟨Nat.le_trans ih.1 hstep.1,Nat.le_trans ih.2 hstep.2⟩

lemma length_dispatched (n : ℕ) :
    (runAt maxQueue events n).dispatched.length+(runAt maxQueue events n).messages.length=
      (runAt maxQueue events n).nextMessage:=by
  rw [← length_append,(wellFormed_runAt maxQueue events n).ordered,length_range]

lemma mem_dispatched_iff (n : ℕ) {message : ℕ} :
    message∈(runAt maxQueue events n).dispatched ↔ message<(runAt maxQueue events n).dispatched.length:=by
  have hord:=(wellFormed_runAt maxQueue events n).ordered
  have hlen:=length_dispatched maxQueue events n
  have htake:=congrArg (List.take (runAt maxQueue events n).dispatched.length) hord
  rw [take_left,take_range] at htake
  rw [htake,mem_range,length_range]

lemma dispatched_after_stop {p n : ℕ} (hstops : StopsAt maxQueue events p) (hn : p<n) :
    (runAt maxQueue events n).dispatched=(runAt maxQueue events (p+1)).dispatched:=by
  induction n, hn using Nat.le_induction with
  | base=>rfl
  | succ n hn ih=>
    have hexit:=(exitFlag_runAt maxQueue events n).2 ⟨p,hn,hstops⟩
    rw [runAt_succ,dispatched_step_of_exitFlag hexit,ih]

lemma not_dispatched_of_stopsAt {p k : ℕ} (hstops : StopsAt maxQueue events p) (hk : p<k)
    (j : ℕ) : (runAt maxQueue events k).nextMessage ∉ (runAt maxQueue events j).dispatched:=by
  rw [mem_dispatched_iff]
  have hj:=length_dispatched maxQueue events j
  rcases Nat.lt_or_ge k j with hkj | hjk
  · rw [dispatched_after_stop maxQueue events hstops (Nat.lt_trans hk hkj),
      ← dispatched_after_stop maxQueue events hstops hk]
    have hk:=length_dispatched maxQueue events k
    omega
  · have hmono:=(counts_mono maxQueue events hjk).1
    omega

end
section
variable {maxQueue : ℕ} {events : ℕ→EngineEvent}

lemma Fair.dispatcherRunning (hfair : Fair maxQueue events) {n : ℕ} (hstart : events n = .start true) :
    ∃ m, n < m ∧ (runAt maxQueue events m).dispatcherRunning=true:=by
  have hsubmitted : 0<(runAt maxQueue events (n+1)).submitted:=by
    rw [runAt_succ,hstart]
    exact Nat.succ_pos _
  obtain ⟨m,hnm,hbegin,hpending⟩ : ∃ m, n+1 ≤ m ∧ events m = .taskBegin ∧
      0<(runAt maxQueue events m).submitted:=
    holds_at_next (R:=fun s : EngineRuntime=>0<s.submitted) hsubmitted
      (fun s event h hne=>submitted_step h hne) (hfair.begins (n+1) hsubmitted)
  by_cases hrunning : (runAt maxQueue events m).dispatcherRunning=true
  · exact ⟨m,hnm,hrunning⟩
  · have hent : 0<(runAt maxQueue events (m+1)).entering:=by
      rw [runAt_succ,hbegin,step,if_neg (Nat.ne_of_gt hpending),if_neg hrunning]
      exact Nat.succ_pos _
    obtain ⟨k,hmk,henter,hwaiting⟩ : ∃ k, m+1≤k ∧ events k = .taskEnter ∧
        0<(runAt maxQueue events k).entering:=
      holds_at_next (R:=fun s : EngineRuntime=>0<s.entering) hent
        (fun s event h hne=>entering_step h hne) (hfair.enters (m+1) hent)
    refine ⟨k+1,by omega,?_⟩
    rw [runAt_succ,henter,step,if_neg (Nat.ne_of_gt hwaiting)]

lemma Fair.dispatches (hfair : Fair maxQueue events) {m message : ℕ}
    (hrunning : ∀ n, m≤n→(runAt maxQueue events n).dispatcherRunning=true)
    (hclear : ∀ n, (runAt maxQueue events n).exitFlag=false)
    (htaken : message<(runAt maxQueue events m).nextMessage) (count : ℕ) (hcount : count ≤ message+1) :
    ∃ n, m≤n ∧ count≤(runAt maxQueue events n).dispatched.length:=by
  induction count with
  | zero=>exact ⟨m,Nat.le_refl m,Nat.zero_le _⟩
  | succ count ih=>
    obtain ⟨n,hmn,hn⟩:=ih (Nat.le_of_succ_le hcount)
    have hloops:=(wellFormed_runAt maxQueue events n).looping (hrunning n hmn)
    obtain ⟨k,hnk,hturn⟩:=hfair.turns n hloops
    have hk:=Nat.le_trans hn (counts_mono maxQueue events hnk).2
    by_cases hdone : count+1≤(runAt maxQueue events k).dispatched.length
    · exact ⟨k,Nat.le_trans hmn hnk,hdone⟩
    -- the queue still holds the message, so the turn takes its first one
    have hlen:=length_dispatched maxQueue events k
    have hmono:=(counts_mono maxQueue events (Nat.le_trans hmn hnk)).1
    have hmk:=Nat.le_trans hmn hnk
    have hlooping:=(wellFormed_runAt maxQueue events k).looping (hrunning k hmk)
    refine ⟨k+1,Nat.le_succ_of_le hmk,?_⟩
    rw [runAt_succ,hturn,step,if_neg (Nat.ne_of_gt hlooping),if_pos (hrunning k hmk)]
    rcases (runAt maxQueue events k).processMessage_cases with
      ⟨-,hexit | hnil⟩ | ⟨first,rest,-,-,heq⟩
    · rw [hclear k] at hexit
      cases hexit
    · rw [hnil,length_nil] at hlen
      omega
    · rw [heq]
      change count+1≤((runAt maxQueue events k).dispatched++[first]).length
      rw [length_append,length_singleton]
      omega

/-- A restarted engine dispatches all it takes exactly if no stop before has found it running or it
takes none. -/
theorem restart_dispatches_iff (maxQueue : ℕ) (events : ℕ→EngineEvent)
    (hfair : Fair maxQueue events) (n : ℕ) (hstart : events n = .start true) (hkept : ∀ p, n<p→events p ≠ .stop) :
    (∀ k, n<k→AcceptsAt maxQueue events k→
        ∃ j, (runAt maxQueue events k).nextMessage∈(runAt maxQueue events j).dispatched) ↔
      (∀ p<n, ¬StopsAt maxQueue events p) ∨ ∀ k, n<k→¬AcceptsAt maxQueue events k:=by
  constructor
  · intro hdispatched
    by_cases hstopped : ∃ p<n, StopsAt maxQueue events p
    · obtain ⟨p,hpn,hstops⟩:=hstopped
      refine .inr fun k hnk haccepts=>?_
      obtain ⟨j,hmem⟩:=hdispatched k hnk haccepts
      exact not_dispatched_of_stopsAt maxQueue events hstops (Nat.lt_trans hpn hnk) j hmem
    · exact .inl fun p hpn hstops=>hstopped ⟨p,hpn,hstops⟩
  · rintro (hnever | hnone) k hnk haccepts
    · have hclear : ∀ m, (runAt maxQueue events m).exitFlag=false:=by
        intro m
        rw [Bool.eq_false_iff]
        intro hexit
        obtain ⟨p,-,hstops⟩:=(exitFlag_runAt maxQueue events m).1 hexit
        rcases Nat.lt_trichotomy p n with hlt | rfl | hgt
        · exact hnever p hlt hstops
        · exact absurd (hstart.symm.trans hstops.1) EngineEvent.noConfusion
        · exact hkept p hgt hstops.1
      obtain ⟨m,hnm,hrunning⟩:=hfair.dispatcherRunning hstart
      have hruns : ∀ i, m ≤ i→(runAt maxQueue events i).dispatcherRunning=true:=by
        intro i hi
        induction i, hi using Nat.le_induction with
        | base=>exact hrunning
        | succ i hi ih=>exact dispatcherRunning_step ih (hkept i (Nat.lt_of_lt_of_le hnm hi))
      have htaken : (runAt maxQueue events k).nextMessage<
          (runAt maxQueue events (max m (k+1))).nextMessage:=by
        obtain ⟨nodeAlloc,henqueue,hroom⟩:=haccepts
        refine Nat.lt_of_lt_of_le ?_ (counts_mono maxQueue events (Nat.le_max_right m (k+1))).1
        rw [runAt_succ,henqueue,step,if_pos hroom]
        exact Nat.lt_succ_self _
      obtain ⟨j,-,hj⟩:=hfair.dispatches
        (fun i hi=>hruns i (Nat.le_trans (Nat.le_max_left m (k+1)) hi)) hclear htaken _
        (Nat.le_refl _)
      exact ⟨j,(mem_dispatched_iff maxQueue events j).2 hj⟩
    · exact absurd haccepts (hnone k hnk)

lemma fair_of_tail (first : ℕ) (htail : ∀ n, first≤n→events n = .turn ∨ events n = .enqueue true)
    (hturns : ∀ n, ∃ m, n ≤ m ∧ events m = .turn)
    (hidle : (runAt maxQueue events first).submitted=0 ∧ (runAt maxQueue events first).entering=0)
    (hbegins : ∀ n<first, 0<(runAt maxQueue events n).submitted→∃ m<first, n ≤ m ∧ events m = .taskBegin)
    (henters : ∀ n<first, 0<(runAt maxQueue events n).entering→
      ∃ m<first, n ≤ m ∧ events m = .taskEnter) : Fair maxQueue events:=by
  have hrest : ∀ n, first≤n→(runAt maxQueue events n).submitted=0 ∧
      (runAt maxQueue events n).entering=0:=by
    intro n hn
    induction n, hn using Nat.le_induction with
    | base=>exact hidle
    | succ n hn ih=>
      rw [runAt_succ]
      rcases htail n hn with hevent | hevent <;> rw [hevent] <;> grind [step,processMessage]
  refine ⟨fun n hpending=>?_,fun n hpending=>?_,fun n _=>hturns n⟩
  · by_cases hn : n<first
    · obtain ⟨m,-,hnm,hm⟩:=hbegins n hn hpending
      exact ⟨m,hnm,hm⟩
    · exact absurd (hrest n (Nat.le_of_not_lt hn)).1 (Nat.ne_of_gt hpending)
  · by_cases hn : n<first
    · obtain ⟨m,-,hnm,hm⟩:=henters n hn hpending
      exact ⟨m,hnm,hm⟩
    · exact absurd (hrest n (Nat.le_of_not_lt hn)).2 (Nat.ne_of_gt hpending)

end

def traffic (n : ℕ) : EngineEvent:=if n % 2=0 then .enqueue true else .turn

/-- An engine that is stopped before it has been started. -/
def stopFirst : ℕ→EngineEvent
  | 0=>.stop
  | 1=>.start true
  | 2=>.taskBegin
  | 3=>.taskEnter
  | n+4=>traffic n

/-- An engine that is started, stopped and started again. -/
def restarted : ℕ→EngineEvent
  | 0=>.start true
  | 1=>.taskBegin
  | 2=>.taskEnter
  | 3=>.stop
  | 4=>.turn
  | 5=>.start true
  | 6=>.taskBegin
  | 7=>.taskEnter
  | n+8=>traffic n

lemma traffic_cases (n : ℕ) : traffic n = .turn ∨ traffic n = .enqueue true:=by
  unfold traffic
  split
  · exact .inr rfl
  · exact .inl rfl

lemma traffic_odd (n : ℕ) : traffic (2*n+1) = .turn:=if_neg (by omega)

lemma fair_stopFirst : Fair 4 stopFirst:=by
  refine fair_of_tail 4 ?_ (fun n=>⟨2*n+1+4,by omega,traffic_odd n⟩) (by decide) (by decide) (by decide)
  intro n hn
  obtain ⟨k,rfl⟩:=Nat.exists_eq_add_of_le' hn
  exact traffic_cases k

lemma fair_restarted : Fair 4 restarted:=by
  refine fair_of_tail 8 ?_ (fun n=>⟨2*n+1+8,by omega,traffic_odd n⟩) (by decide) (by decide) (by decide)
  intro n hn
  obtain ⟨k,rfl⟩:=Nat.exists_eq_add_of_le' hn
  exact traffic_cases k

lemma stopFirst_ne_stop (p : ℕ) (hp : 1<p) : stopFirst p ≠ .stop:=by
  match p, hp with
  | 2, _ | 3, _=>decide
  | n+4, _=>rcases traffic_cases n with h | h <;> rw [stopFirst,h] <;> decide

lemma restarted_ne_stop (p : ℕ) (hp : 5<p) : restarted p ≠ .stop:=by
  match p, hp with
  | 6, _ | 7, _=>decide
  | n+8, _=>rcases traffic_cases n with h | h <;> rw [restarted,h] <;> decide

/-- A stop before the first start does no harm. -/
theorem restart_dispatches_stopFirst :
    AcceptsAt 4 stopFirst 4 ∧ ∀ k, 1<k→AcceptsAt 4 stopFirst k→
      ∃ j, (runAt 4 stopFirst k).nextMessage∈(runAt 4 stopFirst j).dispatched:=
  ⟨⟨true,rfl,by decide⟩,
    (restart_dispatches_iff 4 stopFirst fair_stopFirst 1 rfl stopFirst_ne_stop).2
      (.inl fun p hp hstops=>by
        obtain rfl : p=0:=Nat.lt_one_iff.1 hp
        exact absurd hstops.2 (by decide))⟩

/-- After a restart a message is taken and never dispatched. -/
theorem restart_dispatches_nothing :
    Fair 4 restarted ∧ restarted 3 = .stop ∧ restarted 5 = .start true ∧
      (∀ p, 5<p → restarted p ≠ .stop) ∧ AcceptsAt 4 restarted 8 ∧
      ∀ j, (runAt 4 restarted 8).nextMessage∉(runAt 4 restarted j).dispatched:=
  ⟨fair_restarted,rfl,rfl,restarted_ne_stop,⟨true,rfl,by decide⟩,
    not_dispatched_of_stopsAt 4 restarted (p:=3) ⟨rfl,by decide⟩ (by decide)⟩

end EngineRuntime
end SoftMessageBus
