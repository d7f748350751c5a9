import SoftMessageBus.Runtime

/-!
# Clusters of runtimes

Heartbeats with epochs may be delayed, reordered and dropped.
-/
namespace SoftMessageBus
open StepRuns

structure Heartbeat (ι : Type*) where
  sender : ι
  receiver : ι
  epoch : UInt64
  deriving DecidableEq

/-- Runtimes and the heartbeats that are in flight between them. -/
structure Cluster (ι : Type*) where
  runtimes : ι→Runtime
  inFlight : List (Heartbeat ι)

instance {ι : Type*} [Fintype ι] [DecidableEq ι] : DecidableEq (Cluster ι):=fun c d=>
  decidable_of_iff (c.runtimes=d.runtimes ∧ c.inFlight=d.inFlight) (by cases c; cases d; simp)

/-- What can happen in a cluster; the times are what the clock of the runtime shows. -/
inductive ClusterEvent (ι : Type*) where
  | send (sender receiver : ι)
  | deliver (heartbeat : Heartbeat ι) (time : UInt64)
  | drop (heartbeat : Heartbeat ι)
  | monitor (i : ι) (time : UInt64)
  | reportTimeout (i : ι)
  | triggerElection (i : ι)
  deriving DecidableEq

namespace Cluster
variable {ι : Type*}

def report (active : DomainProfile) (c : Cluster ι) (heartbeat : Heartbeat ι) (time : UInt64) :
    ErrorType × Runtime:=
  (c.runtimes heartbeat.receiver).reportPeerHeartbeat active time
    (c.runtimes heartbeat.sender).options.localPeerId heartbeat.epoch

variable [DecidableEq ι]

def setRuntime (c : Cluster ι) (i : ι) (r : Runtime) : Cluster ι:={c with runtimes:=Function.update c.runtimes i r}

def step (active : DomainProfile) (c : Cluster ι) : ClusterEvent ι→Cluster ι
  | .send sender receiver=>
    {c with inFlight:=c.inFlight++[⟨sender,receiver,(c.runtimes sender).epoch⟩]}
  | .deliver heartbeat time=>
    if heartbeat∈c.inFlight then
      {c.setRuntime heartbeat.receiver (c.report active heartbeat time).2 with
        inFlight:=c.inFlight.erase heartbeat}
    else c
  | .drop heartbeat=>{c with inFlight:=c.inFlight.erase heartbeat}
  | .monitor i time=>c.setRuntime i ((c.runtimes i).monitorPass time)
  | .reportTimeout i=>c.setRuntime i (c.runtimes i).reportPeerTimeout.2
  | .triggerElection i=>c.setRuntime i (c.runtimes i).triggerElection.2

def promoted (c : Cluster ι) : ClusterEvent ι→Option ι
  | .monitor i time=>if (c.runtimes i).monitorPromotes time then some i else none
  | .reportTimeout i | .triggerElection i=>
    if (c.runtimes i).options.enableHa ∧ (c.runtimes i).role ≠ .primary then some i else none
  | .send .. | .deliver .. | .drop .. => none

def Accepts (active : DomainProfile) (c : Cluster ι) (event : ClusterEvent ι) (heartbeat : Heartbeat ι) : Prop:=
  ∃ time, event = .deliver heartbeat time ∧ heartbeat∈c.inFlight ∧ (c.report active heartbeat time).1 = .ok

variable {active : DomainProfile} {c : Cluster ι}

lemma standing_setRuntime (c : Cluster ι) (i j : ι) (r : Runtime) :
    ((c.setRuntime i r).runtimes j).standing=if j=i then r.standing else (c.runtimes j).standing:=by
  by_cases hj : j=i
  · subst hj
    simp [setRuntime]
  · simp [setRuntime,hj]

def Outcome (active : DomainProfile) (c : Cluster ι) (event : ClusterEvent ι) (i : ι) : Prop:=
  (c.promoted event=some i ∧ (c.runtimes i).role ≠ .primary ∧
    ((c.step active event).runtimes i).standing=(.primary,(c.runtimes i).epoch+1)) ∨
  (∃ heartbeat, c.Accepts active event heartbeat ∧ heartbeat.receiver=i ∧
    (c.runtimes i).epoch≤heartbeat.epoch ∧
    ((c.step active event).runtimes i).standing=(.secondary,heartbeat.epoch)) ∨
  (c.promoted event≠some i ∧
    ((c.step active event).runtimes i).standing=(c.runtimes i).standing ∧
    ∀ heartbeat, c.Accepts active event heartbeat→heartbeat.receiver=i→heartbeat.epoch<(c.runtimes i).epoch)

lemma outcome_of_local (active : DomainProfile) {event : ClusterEvent ι} {k : ι} {r : Runtime}
    {p : Prop} [Decidable p] (hevent : ∀ heartbeat time, event ≠ .deliver heartbeat time)
    (hstep : c.step active event=c.setRuntime k r) (hpromoted : c.promoted event=if p then some k else none)
    (hstanding : r.standing=if p then (.primary,(c.runtimes k).epoch+1) else (c.runtimes k).standing)
    (hrole : p→(c.runtimes k).role ≠ .primary) (i : ι) : c.Outcome active event i:=by
  have hacc (heartbeat : Heartbeat ι) : ¬c.Accepts active event heartbeat:=by
    rintro ⟨time,htime,-⟩
    exact hevent heartbeat time htime
  rw [Outcome,hpromoted,hstep,standing_setRuntime]
  by_cases hi : i=k
  · subst hi
    rw [if_pos rfl,hstanding]
    by_cases hp : p
    · rw [if_pos hp,if_pos hp]
      exact .inl ⟨rfl,hrole hp,rfl⟩
    · rw [if_neg hp,if_neg hp]
      exact .inr (.inr ⟨nofun,rfl,fun heartbeat h=>absurd h (hacc heartbeat)⟩)
  · rw [if_neg hi]
    refine .inr (.inr ⟨?_,rfl,fun heartbeat h=>absurd h (hacc heartbeat)⟩)
    split
    · exact fun hk=>hi (Option.some.inj hk).symm
    · exact nofun

lemma outcome_deliver (active : DomainProfile) (c : Cluster ι) (heartbeat : Heartbeat ι)
    (time : UInt64) (i : ι) : c.Outcome active (.deliver heartbeat time) i:=by
  by_cases hflight : heartbeat∈c.inFlight
  case neg=>
    refine .inr (.inr ⟨nofun,by rw [step,if_neg hflight],?_⟩)
    rintro other ⟨_,hevent,hmem,-⟩
    cases hevent
    exact absurd hmem hflight
  have hstep : ((c.step active (.deliver heartbeat time)).runtimes i).standing=
      if i=heartbeat.receiver then (c.report active heartbeat time).2.standing
      else (c.runtimes i).standing:=by
    rw [step,if_pos hflight]
    exact standing_setRuntime c heartbeat.receiver i _
  by_cases hi : i=heartbeat.receiver
  case neg=>
    refine .inr (.inr ⟨nofun,by rw [hstep,if_neg hi],?_⟩)
    rintro other ⟨_,hevent,-⟩ hrec
    cases hevent
    exact absurd hrec.symm hi
  rw [if_pos hi,report,Runtime.standing_reportPeerHeartbeat,← report,← hi] at hstep
  by_cases hfollows : (c.report active heartbeat time).1 = .ok ∧
      (c.runtimes i).epoch≤heartbeat.epoch
  · rw [if_pos hfollows] at hstep
    exact .inr (.inl ⟨heartbeat,⟨time,rfl,hflight,hfollows.1⟩,hi.symm,hfollows.2,hstep⟩)
  · rw [if_neg hfollows] at hstep
    refine .inr (.inr ⟨nofun,hstep,?_⟩)
    rintro other ⟨_,hevent,-,hok⟩ -
    cases hevent
    exact UInt64.not_le.1 fun hle=>hfollows ⟨hok,hle⟩

lemma outcome (active : DomainProfile) (c : Cluster ι) (event : ClusterEvent ι) (i : ι) :
    c.Outcome active event i:=by
  cases event with
  | send | drop=>exact .inr (.inr ⟨nofun,rfl,fun _ ⟨_,hevent,_⟩=>nomatch hevent⟩)
  | deliver heartbeat time=>exact outcome_deliver active c heartbeat time i
  | monitor k time=>
    refine outcome_of_local active (by simp) rfl rfl ((c.runtimes k).standing_monitorPass time) (fun hpromoted=>?_) i
    rw [Runtime.monitorPromotes,Bool.and_eq_true] at hpromoted
    exact of_decide_eq_true hpromoted.2
  | reportTimeout k=>
    exact outcome_of_local active (by simp) rfl rfl (c.runtimes k).standing_reportPeerTimeout And.right i
  | triggerElection k=>
    exact outcome_of_local active (by simp) rfl rfl (c.runtimes k).standing_triggerElection And.right i

def NoSplitBrain (c : Cluster ι) : Prop:=
  ∀ i j, i≠j→(c.runtimes i).role = .primary→(c.runtimes j).role = .primary→ (c.runtimes i).epoch≠(c.runtimes j).epoch

def PromotesAlone (c : Cluster ι) (event : ClusterEvent ι) : Prop:=
  ∀ i, c.promoted event=some i→∀ j, j≠i→(c.runtimes j).role = .primary→ (c.runtimes j).epoch≠(c.runtimes i).epoch+1

instance [Fintype ι] (c : Cluster ι) (event : ClusterEvent ι) : Decidable (c.PromotesAlone event):=
  inferInstanceAs (Decidable (∀ i, c.promoted event=some i→∀ j, j≠i→
    (c.runtimes j).role = .primary→(c.runtimes j).epoch≠(c.runtimes i).epoch+1))

lemma primary_step {event : ClusterEvent ι} {i : ι} (hnot : c.promoted event≠some i)
    (hprimary : ((c.step active event).runtimes i).role = .primary) :
    (c.runtimes i).role = .primary ∧ ((c.step active event).runtimes i).epoch=(c.runtimes i).epoch:=by
  rcases c.outcome active event i with ⟨hpromoted,-⟩ | ⟨heartbeat,-,-,-,hfollows⟩ |
    ⟨-,hsame,-⟩
  · exact absurd hpromoted hnot
  · obtain ⟨hrole,-⟩:=Prod.mk.inj hfollows
    cases hrole.symm.trans hprimary
  · obtain ⟨hrole,hepoch⟩:=Prod.mk.inj hsame
    exact ⟨hrole.symm.trans hprimary,hepoch⟩

lemma standing_of_promoted (active : DomainProfile) {event : ClusterEvent ι} {i : ι} (hi : c.promoted event=some i) :
    ((c.step active event).runtimes i).standing=(.primary,(c.runtimes i).epoch+1) ∧
      ∀ j, j≠i→((c.step active event).runtimes j).standing=(c.runtimes j).standing:=by
  have hacc (heartbeat : Heartbeat ι) : ¬c.Accepts active event heartbeat:=by
    rintro ⟨time,rfl,-⟩
    cases hi
  constructor
  · rcases c.outcome active event i with ⟨-,-,hstanding⟩ | ⟨heartbeat,haccept,-⟩ | ⟨hnot,-⟩
    · exact hstanding
    · exact absurd haccept (hacc heartbeat)
    · exact absurd hi hnot
  · intro j hj
    rcases c.outcome active event j with ⟨hpromoted,-⟩ | ⟨heartbeat,haccept,-⟩ | ⟨-,hsame,-⟩
    · exact absurd (Option.some.inj (hpromoted.symm.trans hi)) hj
    · exact absurd haccept (hacc heartbeat)
    · exact hsame

lemma epoch_eq_of_promoted (active : DomainProfile) {event : ClusterEvent ι} {i j : ι}
    (hi : c.promoted event=some i) (hj : j≠i) :
    (((c.step active event).runtimes j).role = .primary ∧
      ((c.step active event).runtimes j).epoch=((c.step active event).runtimes i).epoch) ↔
      (c.runtimes j).role = .primary ∧ (c.runtimes j).epoch=(c.runtimes i).epoch+1:=by
  obtain ⟨hnew,hoth⟩:=standing_of_promoted active hi
  obtain ⟨-,hepoch⟩:=Prod.mk.inj hnew
  obtain ⟨hrole,hsame⟩:=Prod.mk.inj (hoth j hj)
  rw [hrole,hsame,hepoch]

lemma noSplitBrain_step_iff (h : c.NoSplitBrain) (event : ClusterEvent ι) :
    (c.step active event).NoSplitBrain ↔ c.PromotesAlone event:=by
  constructor
  · intro hstep i hi j hj hprimary hepoch
    obtain ⟨hrole,heq⟩:=(epoch_eq_of_promoted active hi hj).2 ⟨hprimary,hepoch⟩
    obtain ⟨hnew,-⟩:=standing_of_promoted active hi
    exact hstep j i hj hrole (Prod.mk.inj hnew).1 heq
  · intro halone i j hij hi hj hepoch
    by_cases hpi : c.promoted event=some i
    · obtain ⟨hprimary,heq⟩:=(epoch_eq_of_promoted active hpi hij.symm).1 ⟨hj,hepoch.symm⟩
      exact halone i hpi j hij.symm hprimary heq
    · by_cases hpj : c.promoted event=some j
      · obtain ⟨hprimary,heq⟩:=(epoch_eq_of_promoted active hpj hij).1 ⟨hi,hepoch⟩
        exact halone j hpj i hij hprimary heq
      · obtain ⟨hri,hei⟩:=primary_step hpi hi
        obtain ⟨hrj,hej⟩:=primary_step hpj hj
        exact h i j hij hri hrj (hei.symm.trans (hepoch.trans hej))

def Starting (c : Cluster ι) : Prop:=
  ∃ epoch, ∀ i, (c.runtimes i).options.enableHa=true ∧ (c.runtimes i).standing=(.secondary,epoch)

omit [DecidableEq ι] in
lemma Starting.noSplitBrain (h : c.Starting) : c.NoSplitBrain:=by
  obtain ⟨epoch,hall⟩:=h
  intro i j _ hi
  cases (congrArg Prod.fst (hall i).2).symm.trans hi

/-- No two runtimes are primary in one epoch exactly when no promotion leads to that. -/
theorem run_noSplitBrain_iff (active : DomainProfile) (c : Cluster ι) (hstart : c.Starting)
    (events : List (ClusterEvent ι)) :
    Along (step active) (fun c event=>(c.step active event).NoSplitBrain) c events ↔
      Along (step active) PromotesAlone c events:=
  along_iff_of_invariant NoSplitBrain (fun _ event h halone=>(noSplitBrain_step_iff h event).2 halone)
    (fun _ event h=>noSplitBrain_step_iff h event) hstart.noSplitBrain events

def sampleElected : Fin 2:=0
def sampleOther : Fin 2:=1

/-- Two new runtimes "a" and "b" with high availability and a failover timeout of three
seconds. -/
def samplePair : Cluster (Fin 2) where
  runtimes i:=Runtime.create ⟨true,3000,⟨[if i=0 then 97 else 98],by split <;> decide⟩,none⟩
  inFlight:=[]

/-- An election at one of two runtimes after the other has heard of it is safe. -/
theorem run_noSplitBrain_one_election :
    Along (step .generic) (fun c event=>(c.step .generic event).NoSplitBrain) samplePair
      [.triggerElection 0,.send 0 1,.deliver ⟨0,1,2⟩ 0,.triggerElection 1]:=
  (run_noSplitBrain_iff .generic samplePair ⟨1,by decide⟩ _).2 ⟨by decide,by decide,by decide,by decide,trivial⟩

/-- Elections at two runtimes make both primary in one epoch. -/
theorem two_elections_split_brain :
    samplePair.Starting ∧
      let c:=[ClusterEvent.triggerElection 0,.triggerElection 1].foldl (step .generic) samplePair
      ∀ i, (c.runtimes i).standing=(.primary,2):=by exact ⟨⟨1,by decide⟩,by decide⟩

end Cluster

/-- An infinite run of a cluster. -/
structure ClusterRun (ι : Type*) where
  active : DomainProfile
  start : Cluster ι
  events : ℕ→ClusterEvent ι

namespace ClusterRun
variable {ι : Type*} [DecidableEq ι]

def state (run : ClusterRun ι) (n : ℕ) : Cluster ι:=stateAt (Cluster.step run.active) run.start run.events n
def role (run : ClusterRun ι) (n : ℕ) (i : ι) : RuntimeRole:=((run.state n).runtimes i).role
def epoch (run : ClusterRun ι) (n : ℕ) (i : ι) : UInt64:=((run.state n).runtimes i).epoch
def promoted (run : ClusterRun ι) (n : ℕ) : Option ι:=(run.state n).promoted (run.events n)

def Accepts (run : ClusterRun ι) (n : ℕ) (heartbeat : Heartbeat ι) : Prop:=
  (run.state n).Accepts run.active (run.events n) heartbeat

/-- Each runtime again and again sends its epoch to each other one, and it is accepted. -/
def HeartbeatsDelivered (run : ClusterRun ι) : Prop:=
  ∀ i j, i≠j→∀ n, ∃ s, n ≤ s ∧ run.events s = .send i j ∧ ∃ d, s<d ∧ run.Accepts d ⟨i,j,run.epoch s i⟩

def Converges (run : ClusterRun ι) : Prop:=∃ i m, ∀ n, m≤n → run.role n i = .primary ∧ ∀ j, j≠i → run.role n j ≠ .primary

variable {run : ClusterRun ι}

lemma outcome (run : ClusterRun ι) (n : ℕ) (i : ι) :
    (run.promoted n=some i ∧ run.role n i ≠ .primary ∧ run.role (n+1) i = .primary) ∨
    (∃ heartbeat, run.Accepts n heartbeat ∧ heartbeat.receiver=i ∧
      run.epoch n i≤heartbeat.epoch ∧ run.role (n+1) i = .secondary ∧
      run.epoch (n+1) i=heartbeat.epoch) ∨
    (run.promoted n≠some i ∧ run.role (n+1) i=run.role n i ∧
      run.epoch (n+1) i=run.epoch n i ∧
      ∀ heartbeat, run.Accepts n heartbeat→heartbeat.receiver=i→heartbeat.epoch < run.epoch n i):=by
  rcases (run.state n).outcome run.active (run.events n) i with
    ⟨hpromotes,hrole,hstanding⟩ | ⟨heartbeat,hacc,hrec,hle,hstanding⟩ |
    ⟨hnot,hstanding,hlt⟩
  · exact .inl ⟨hpromotes,hrole,(Prod.mk.inj hstanding).1⟩
  · exact .inr (.inl ⟨heartbeat,hacc,hrec,hle,Prod.mk.inj hstanding⟩)
  · obtain ⟨hrole,hepoch⟩:=Prod.mk.inj hstanding
    exact .inr (.inr ⟨hnot,hrole,hepoch,hlt⟩)

variable {n : ℕ}

lemma epoch_le_succ {i : ι} (hnot : run.promoted n≠some i) : run.epoch n i≤run.epoch (n+1) i:=by
  rcases run.outcome n i with ⟨hpromoted,-⟩ | ⟨heartbeat,-,-,hle,-,hepoch⟩ |
    ⟨-,-,hepoch,-⟩
  · exact absurd hpromoted hnot
  · exact hepoch ▸ hle
  · exact hepoch ▸ UInt64.le_refl _

lemma le_epoch_of_accepts {heartbeat : Heartbeat ι} (hacc : run.Accepts n heartbeat) :
    heartbeat.epoch≤run.epoch (n+1) heartbeat.receiver:=by
  rcases run.outcome n heartbeat.receiver with ⟨hpromoted,-⟩ | ⟨other,hother,-,-,-,hepoch⟩ |
    ⟨-,-,hepoch,hlt⟩
  · obtain ⟨_,hevent,-⟩:=hacc
    rw [promoted,hevent] at hpromoted
    cases hpromoted
  · obtain ⟨_,hevent,-⟩:=hacc
    obtain ⟨_,hevent',-⟩:=hother
    cases hevent.symm.trans hevent'
    exact hepoch ▸ UInt64.le_refl _
  · exact hepoch ▸ UInt64.le_of_lt (hlt heartbeat hacc rfl)

lemma epoch_succ_of_primary {i : ι} (hprimary : run.role n i = .primary)
    (hprimary' : run.role (n+1) i = .primary) : run.epoch (n+1) i=run.epoch n i:=by
  rcases run.outcome n i with ⟨-,hrole,-⟩ | ⟨_,-,-,-,hrole,-⟩ | ⟨-,-,hepoch,-⟩
  · exact absurd hprimary hrole
  · cases hrole.symm.trans hprimary'
  · exact hepoch

lemma epoch_lt_of_primary {heartbeat : Heartbeat ι} (hprimary : run.role n heartbeat.receiver = .primary)
    (hprimary' : run.role (n+1) heartbeat.receiver = .primary)
    (hacc : run.Accepts n heartbeat) : heartbeat.epoch < run.epoch n heartbeat.receiver:=by
  rcases run.outcome n heartbeat.receiver with ⟨-,hrole,-⟩ | ⟨_,-,-,-,hrole,-⟩ |
    ⟨-,-,-,hlt⟩
  · exact absurd hprimary hrole
  · cases hrole.symm.trans hprimary'
  · exact hlt heartbeat hacc rfl

lemma HeartbeatsDelivered.not_stays_primary (h : run.HeartbeatsDelivered) {i j : ι}
    (hij : i≠j) {m : ℕ} (hprimary : ∀ n, m≤n → run.role n i = .primary) (hnot : ∀ n, m≤n → run.promoted n≠some j) : False:=by
  have hconst (n : ℕ) (hn : m≤n) : run.epoch n i=run.epoch m i:=by
    induction n, hn using Nat.le_induction with
    | base=>rfl
    | succ n hn ih=>
      exact (epoch_succ_of_primary (hprimary n hn) (hprimary (n+1) (hn.trans n.le_succ))).trans ih
  -- The other runtime reaches the epoch of the primary and does not fall behind it again.
  obtain ⟨s,hs,-,d,hd,hacc⟩:=h i j hij m
  have hreach : run.epoch m i≤run.epoch (d+1) j:=by
    have hle:=le_epoch_of_accepts hacc
    rwa [hconst s hs] at hle
  have hstay (n : ℕ) (hn : d+1≤n) : run.epoch m i≤run.epoch n j:=by
    induction n, hn using Nat.le_induction with
    | base=>exact hreach
    | succ n hn ih=>exact UInt64.le_trans ih (epoch_le_succ (hnot n (by omega)))
  -- So its next heartbeat demotes the primary.
  obtain ⟨s',hs',-,d',hd',hacc'⟩:=h j i hij.symm (d+1)
  have hlt:=epoch_lt_of_primary (hprimary d' (by omega)) (hprimary (d'+1) (by omega)) hacc'
  have hle : run.epoch d' i≤run.epoch s' j:=by
    rw [hconst d' (by omega)]
    exact hstay s' hs'
  exact UInt64.not_lt.2 hle hlt

/-- Runtimes whose heartbeats keep arriving never settle on one primary. -/
theorem not_converges [Nontrivial ι] (run : ClusterRun ι) (h : run.HeartbeatsDelivered) : ¬run.Converges:=by
  rintro ⟨i,m,hconverges⟩
  obtain ⟨j,hj⟩:=exists_ne i
  refine h.not_stays_primary hj.symm (fun n hn=>(hconverges n hn).1) fun n hn hpromoted=>?_
  rcases run.outcome n j with ⟨-,-,hprimary⟩ | ⟨_,⟨_,hevent,-⟩,-⟩ | ⟨hnot,-⟩
  · exact (hconverges (n+1) (hn.trans n.le_succ)).2 j hj hprimary
  · rw [promoted,hevent] at hpromoted
    cases hpromoted
  · exact hnot hpromoted

def sampleCycle : List (ClusterEvent (Fin 2)):=
  let a:=Cluster.sampleElected
  let b:=Cluster.sampleOther
  [.send a b,.deliver ⟨a,b,2⟩ 0,.send b a,.deliver ⟨b,a,2⟩ 0,.monitor a 0,.monitor b 0]

def sampleExchange : ClusterRun (Fin 2) where
  active:=.generic
  start:=Cluster.samplePair.step .generic (.triggerElection Cluster.sampleElected)
  events n:=sampleCycle.getD (n % 6) (.send Cluster.sampleElected Cluster.sampleOther)

lemma sampleExchange_events (n q : ℕ) : sampleExchange.events (n+q*6)=sampleExchange.events n:=by
  simp [sampleExchange]

lemma sampleExchange_state (hn : 6≤n) (q : ℕ) : sampleExchange.state (n+q*6)=sampleExchange.state n:=
  stateAt_add_mul_period (fun k=>sampleExchange_events k 1) (by decide +kernel) hn q

lemma sampleExchange_accepts (hn : 6≤n) (q : ℕ) {heartbeat : Heartbeat (Fin 2)}
    (h : sampleExchange.Accepts n heartbeat) : sampleExchange.Accepts (n+q*6) heartbeat:=by
  rw [Accepts,sampleExchange_state hn,sampleExchange_events]
  exact h

lemma sampleExchange_heartbeatsDelivered : sampleExchange.HeartbeatsDelivered:=by
  intro i j hij n
  have hepoch (k : ℕ) (hk : 6≤k) (i : Fin 2) :
      sampleExchange.epoch (k+n*6) i=sampleExchange.epoch k i:=by
    rw [epoch,sampleExchange_state hk,epoch]
  match i, j with
  | 0, 1=>
    refine ⟨6+n*6,by omega,(sampleExchange_events 6 n).trans rfl,7+n*6,by omega,?_⟩
    rw [hepoch 6 le_rfl]
    exact sampleExchange_accepts (by omega) n ⟨0,rfl,by decide +kernel,by decide +kernel⟩
  | 1, 0=>
    refine ⟨8+n*6,by omega,(sampleExchange_events 8 n).trans rfl,9+n*6,by omega,?_⟩
    rw [hepoch 8 (by omega)]
    exact sampleExchange_accepts (by omega) n ⟨0,rfl,by decide +kernel,by decide +kernel⟩
  | 0, 0 | 1, 1=>exact absurd rfl hij

theorem sampleExchange_not_converges : ¬sampleExchange.Converges:=
  not_converges sampleExchange sampleExchange_heartbeatsDelivered

def isUndisturbed (c : Cluster ι) : ClusterEvent ι→Bool
  | .monitor i time=>(c.runtimes i).anyHealthyPeer time
  | .reportTimeout _ | .triggerElection _=>false
  | .send .. | .deliver .. | .drop .. => true

def UndisturbedFrom (run : ClusterRun ι) (m : ℕ) : Prop:=∀ n, m≤n→isUndisturbed (run.state n) (run.events n)=true

lemma sampleExchange_forall {P : Cluster (Fin 2)→ClusterEvent (Fin 2)→Prop}
    (h : ∀ k<6, P (sampleExchange.state (6+k)) (sampleExchange.events (6+k))) (hn : 6≤n) :
    P (sampleExchange.state n) (sampleExchange.events n):=by
  obtain ⟨k,q,hk,rfl⟩ : ∃ k q, k<6 ∧ n=(6+k)+q*6:=⟨n % 6,n/6-1,Nat.mod_lt n (by decide),by omega⟩
  rw [sampleExchange_events,sampleExchange_state (Nat.le_add_right 6 k)]
  exact h k hk

/-- Two runtimes that hear each other end without a primary. -/
theorem sampleExchange_ends_without_primary :
    sampleExchange.role 0 0 = .primary ∧ sampleExchange.HeartbeatsDelivered ∧
      sampleExchange.UndisturbedFrom 6 ∧
      ∀ n, 6≤n→∀ i, sampleExchange.role n i = .secondary:=by
  refine ⟨by decide,sampleExchange_heartbeatsDelivered,?_,?_⟩
  · intro n hn
    exact sampleExchange_forall (P:=fun c event=>isUndisturbed c event=true) (by decide +kernel) hn
  · intro n hn
    exact sampleExchange_forall (P:=fun c _=>∀ i, (c.runtimes i).role = .secondary) (by decide +kernel) hn

end ClusterRun
end SoftMessageBus
