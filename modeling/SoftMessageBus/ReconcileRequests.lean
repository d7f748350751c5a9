import SoftMessageBus.StepRuns
import Mathlib.Data.Nat.Pairing

/-!
# Requests for the reconcile task

Threads request a reconcile pass through two flags of the subscriber.
-/
namespace SoftMessageBus
open StepRuns

structure ReconcileFlags where
  requested : Bool
  active : Bool
  running : Bool

/-- Where a thread is in `subscriber_request_reconcile` or `subscriber_reconcile_task`. -/
inductive ReconcilePhase where
  | idle
  | set | signal | exchange | submit
  | queued | top | clear | pass | check (pending sleeps : Bool)
  | sleepRunning | sleepRequested | sleepLocked | sleeping | exit
  | broadcast | loadRunning | loadRequested
  deriving DecidableEq

namespace ReconcilePhase

/-- One step of a thread; `pending` and `sleeps` are what a pass reports. -/
def next (f : ReconcileFlags) (pending sleeps : Bool) : ReconcilePhase→
    ReconcileFlags × ReconcilePhase
  | idle=>(f,idle)
  | set=>({f with requested:=true},signal)
  | signal=>(f,exchange)
  | exchange=>if f.active then (f,idle) else ({f with active:=true},submit)
  | submit=>(f,queued)
  | queued=>(f,top)
  | top=>(f,if f.running then clear else exit)
  | clear=>({f with requested:=false},pass)
  | pass=>(f,check pending sleeps)
  | check pending sleeps=>
    (f,if !pending && !f.requested then exit else if sleeps then sleepRunning else top)
  | sleepRunning=>(f,if f.running then sleepRequested else top)
  | sleepRequested=>(f,if f.requested then top else sleepLocked)
  | sleepLocked=>(f,if f.running && !f.requested then sleeping else top)
  | sleeping=>(f,top)
  | exit=>({f with active:=false},broadcast)
  | broadcast=>(f,loadRunning)
  | loadRunning=>(f,if f.running then loadRequested else idle)
  | loadRequested=>(f,if f.requested then set else idle)

def Holds : ReconcilePhase→Prop
  | idle | set | signal | exchange | broadcast | loadRunning | loadRequested=>False
  | _=>True

def InLoop : ReconcilePhase→Prop
  | top | clear | pass | check _ _ | sleepRunning | sleepRequested | sleepLocked | sleeping=>True
  | _=>False

lemma InLoop.holds {p : ReconcilePhase} (h : p.InLoop) : p.Holds:=by cases p <;> trivial

def rank : ReconcilePhase→ℕ
  | idle | pass=>0
  | clear=>1
  | top=>2
  | queued | sleepRequested | sleepLocked | sleeping=>3
  | submit | sleepRunning=>4
  | check _ _=>5
  | exchange=>6
  | signal=>7
  | set=>8
  | loadRequested=>9
  | loadRunning=>10
  | broadcast=>11
  | exit=>12

variable {f : ReconcileFlags} {p : ReconcilePhase} (pending sleeps : Bool)

lemma running_next : (p.next f pending sleeps).1.running=f.running:=by
  cases p <;> simp only [next]
  split <;> rfl

lemma holds_next (hexchange : p≠exchange) (hexit : p≠exit) :
    ((p.next f pending sleeps).2.Holds ↔ p.Holds) ∧ (p.next f pending sleeps).1.active=f.active:=by
  obtain ⟨requested,active,running⟩:=f
  cases p <;> cases requested <;> cases running <;> simp_all [next,Holds] <;> grind [Holds]

lemma rank_next (hreq : f.requested=true) (hrunning : f.running=true)
    (hidle : p≠idle) (hpass : p≠pass) (hexchange : p=exchange→f.active=false) :
    (p.next f pending sleeps).2≠idle ∧ (p.next f pending sleeps).2≠exit ∧
      (p.next f pending sleeps).2.rank<p.rank ∧
      ((p.next f pending sleeps).1.requested=true ∨ (p.next f pending sleeps).2=pass):=by
  cases p <;> simp_all [next,rank]
  grind [rank]

lemma rank_le (p : ReconcilePhase) : p.rank≤12:=by cases p <;> simp [rank]

lemma rank_pos (hidle : p≠idle) (hpass : p≠pass) : 0<p.rank:=by
  cases p <;> first | contradiction | simp [rank]

lemma Holds.rank_lt (h : p.Holds) (hexit : p≠exit) : p.rank<6:=by
  cases p <;> first | contradiction | simp [rank]

lemma requested_next (hreq : f.requested=true) (hrunning : f.running=true) :
    (p.next f pending sleeps).2≠exit ∧ ((p.next f pending sleeps).1.requested=true ∨ (p.next f pending sleeps).2=pass) ∨
    p=pass:=by
  cases p <;> simp_all [next] <;> grind

end ReconcilePhase

structure ReconcileState where
  flags : ReconcileFlags
  phase : ℕ→ReconcilePhase

/-- A thread calls `subscriber_request_reconcile`, a thread takes a step, or the subscriber
stops. -/
inductive ReconcileEvent where
  | request (i : ℕ)
  | run (i : ℕ) (pending sleeps : Bool)
  | stop

namespace ReconcileState
open ReconcilePhase Function

def initial : ReconcileState:=⟨⟨false,false,true⟩,fun _=>.idle⟩

def step (s : ReconcileState) : ReconcileEvent→ReconcileState
  | .request i=>if s.phase i = .idle then {s with phase:=update s.phase i .set} else s
  | .run i pending sleeps=>
    ⟨((s.phase i).next s.flags pending sleeps).1,update s.phase i ((s.phase i).next s.flags pending sleeps).2⟩
  | .stop=>{s with flags.running:=false}

structure Inv (s : ReconcileState) : Prop where
  unique : ∀ i j, (s.phase i).Holds→(s.phase j).Holds→i=j
  active : s.flags.active=true ↔ ∃ i, (s.phase i).Holds

variable {s : ReconcileState} {i j : ℕ}

lemma inv_initial : initial.Inv where
  unique _ _ h:=h.elim
  active:=⟨nofun,fun ⟨_,h⟩=>h.elim⟩

lemma Inv.of_holds {t : ReconcileState} (h : s.Inv)
    (hholds : ∀ j, (t.phase j).Holds ↔ (s.phase j).Holds) (hact : t.flags.active=s.flags.active) : t.Inv:=by
  refine ⟨fun i j hi hj=>h.unique i j ((hholds i).1 hi) ((hholds j).1 hj),?_⟩
  rw [hact,h.active]
  exact exists_congr fun j=>(hholds j).symm

lemma holds_update {p : ReconcilePhase} (hp : p.Holds ↔ (s.phase i).Holds) (j : ℕ) :
    (update s.phase i p j).Holds ↔ (s.phase j).Holds:=by
  by_cases hj : j=i
  · subst hj
    rw [update_self,hp]
  · rw [update_of_ne hj]

lemma Inv.step (h : s.Inv) (event : ReconcileEvent) : (s.step event).Inv:=by
  cases event with
  | request i=>
    dsimp only [ReconcileState.step]
    split
    next hidle=>
      refine h.of_holds (holds_update ?_) rfl
      rw [hidle]
      exact Iff.rfl
    · exact h
  | run i pending sleeps=>
    by_cases hexchange : s.phase i = .exchange
    · cases hact : s.flags.active with
      | true=>
        refine h.of_holds (holds_update ?_) ?_ <;> simp [ReconcileState.step,hexchange,next,hact,Holds]
      | false=>
        have hnone : ∀ j, ¬(s.phase j).Holds:=fun j hj=>by simp [h.active.2 ⟨j,hj⟩] at hact
        have hhold (j : ℕ) : ((s.step (.run i pending sleeps)).phase j).Holds→j=i:=by
          intro hj
          by_contra hne
          exact hnone j (by simpa [ReconcileState.step,hne] using hj)
        refine ⟨fun j k hj hk=>(hhold j hj).trans (hhold k hk).symm,?_⟩
        refine iff_of_true ?_ ⟨i,?_⟩ <;> simp [ReconcileState.step,hexchange,next,hact,Holds]
    by_cases hexit : s.phase i = .exit
    · have hnone (j : ℕ) : ¬((s.step (.run i pending sleeps)).phase j).Holds:=by
        by_cases hj : j=i
        · simp [ReconcileState.step,hj,hexit,next,Holds]
        · intro hholds
          refine hj (h.unique j i ?_ (by simp [hexit,Holds]))
          simpa [ReconcileState.step,hj] using hholds
      refine ⟨fun j k hj=>absurd hj (hnone j),iff_of_false ?_ fun ⟨j,hj⟩=>hnone j hj⟩
      simp [ReconcileState.step,hexit,next]
    · obtain ⟨hholds,hact⟩:=holds_next pending sleeps hexchange hexit
      exact h.of_holds (holds_update hholds) hact
  | stop=>exact h.of_holds (fun _=>Iff.rfl) rfl

lemma inv_stateAt (events : ℕ→ReconcileEvent) (n : ℕ) : (stateAt step initial events n).Inv:=by
  induction n with
  | zero=>exact inv_initial
  | succ n ih=>exact ih.step (events n)

def Passes (s : ReconcileState) : ReconcileEvent→Prop
  | .run i _ _=>s.phase i = .pass
  | _=>False

inductive Helpful (s : ReconcileState) : ℕ→ℕ→Prop where
  | begun {i : ℕ} (hphase : s.phase i = .pass) : Helpful s 0 i
  | onWay {i : ℕ} (hreq : s.flags.requested=true) (hidle : s.phase i ≠ .idle)
      (hpass : s.phase i ≠ .pass) (hexit : ∀ j, s.phase j = .exit→j=i) :
      Helpful s (s.phase i).rank i
  | asking {i : ℕ} (hphase : s.phase i = .set) : Helpful s 13 i

lemma Inv.exists_helpful (h : s.Inv) (hreq : s.flags.requested=true)
    (hidle : s.phase i ≠ .idle) : ∃ k<13, ∃ j, s.Helpful k j:=by
  by_cases hexits : ∃ e, s.phase e = .exit
  · obtain ⟨e,he⟩:=hexits
    refine ⟨(s.phase e).rank,Nat.lt_succ_of_le (rank_le _),e,.onWay hreq ?_ ?_ ?_⟩
    · simp [he]
    · simp [he]
    · intro j hj
      exact h.unique j e (by simp [hj,Holds]) (by simp [he,Holds])
  · by_cases hpass : s.phase i = .pass
    · exact ⟨0,by decide,i,.begun hpass⟩
    · exact ⟨_,Nat.lt_succ_of_le (rank_le _),i,.onWay hreq hidle hpass fun j hj=>absurd ⟨j,hj⟩ hexits⟩

lemma Helpful.step_self {k : ℕ} (h : s.Helpful k i) (hinv : s.Inv)
    (hrunning : s.flags.running=true) (hpass : s.phase i ≠ .pass) (pending sleeps : Bool) :
    ∃ k' < k, ∃ j, (s.step (.run i pending sleeps)).Helpful k' j:=by
  cases h with
  | begun hphase=>exact absurd hphase hpass
  | onWay hreq hidle _ hexit=>
    by_cases hexchange : s.phase i = .exchange ∧ s.flags.active=true
    · -- the request is left to the thread that has the active flag
      obtain ⟨holder,hholds⟩:=hinv.active.1 hexchange.2
      have hne : holder≠i:=by
        rintro rfl
        simp [hexchange.1,Holds] at hholds
      have hexits (j : ℕ) : s.phase j ≠ .exit:=by
        intro hj
        obtain rfl:=hexit j hj
        simp [hexchange.1] at hj
      have hphase : (s.step (.run i pending sleeps)).phase holder=s.phase holder:=update_of_ne hne _ _
      have hlt:=hholds.rank_lt (hexits holder)
      rw [hexchange.1]
      by_cases hbegun : s.phase holder = .pass
      · exact ⟨0,by decide,holder,.begun (hphase.trans hbegun)⟩
      · refine ⟨_,hphase ▸ hlt,holder,.onWay ?_ ?_ ?_ ?_⟩
        · simpa [ReconcileState.step,hexchange,next] using hreq
        · rw [hphase]
          rintro hidle
          simp [hidle,Holds] at hholds
        · rwa [hphase]
        · intro j hj
          by_cases hji : j=i
          · simp [ReconcileState.step,hji,hexchange,next] at hj
          · exact absurd (by simpa [ReconcileState.step,hji] using hj) (hexits j)
    · obtain ⟨hidle',hexit',hrank,hkept⟩:=rank_next pending sleeps hreq hrunning hidle
        hpass fun hp=>by simpa [hp] using hexchange
      have hphase : (s.step (.run i pending sleeps)).phase i=((s.phase i).next s.flags pending sleeps).2:=update_self ..
      by_cases hbegun : ((s.phase i).next s.flags pending sleeps).2 = .pass
      · exact ⟨0,Nat.zero_lt_of_lt hrank,i,.begun (hphase.trans hbegun)⟩
      · refine ⟨_,hphase ▸ hrank,i,.onWay (hkept.resolve_right hbegun) ?_ ?_ ?_⟩
        · rwa [hphase]
        · rwa [hphase]
        · intro j hj
          by_contra hji
          exact hji (hexit j (by simpa [ReconcileState.step,hji] using hj))
  | asking hphase=>
    refine (hinv.step _).exists_helpful (i:=i) ?_ ?_ <;> simp [ReconcileState.step,hphase,next]

lemma Helpful.step_other {k : ℕ} (h : s.Helpful k j) (hrunning : s.flags.running=true)
    (hij : j≠i) (hpass : s.phase i ≠ .pass) (pending sleeps : Bool) :
    (s.step (.run i pending sleeps)).Helpful k j ∨ ∃ k' < k, ∃ j', (s.step (.run i pending sleeps)).Helpful k' j':=by
  have hphase : (s.step (.run i pending sleeps)).phase j=s.phase j:=update_of_ne hij _ _
  cases h with
  | begun hbegun=>exact .inl (.begun (hphase.trans hbegun))
  | onWay hreq hidle hnot hexit=>
    obtain ⟨hexit',hkept⟩:=(requested_next pending sleeps hreq hrunning).resolve_right hpass
    rcases hkept with hkept | hbegun
    · rw [← hphase] at hidle hnot ⊢
      refine .inl (.onWay hkept hidle hnot fun l hl=>?_)
      by_cases hli : l=i
      · subst hli
        exact absurd ((update_self ..).symm.trans hl) hexit'
      · exact hexit l (by simpa [ReconcileState.step,hli] using hl)
    · exact .inr ⟨0,rank_pos hidle hnot,i,.begun ((update_self ..).trans hbegun)⟩
  | asking hset=>exact .inl (.asking (hphase.trans hset))

lemma Helpful.request {k : ℕ} (h : s.Helpful k j) (i : ℕ) : (s.step (.request i)).Helpful k j:=by
  dsimp only [ReconcileState.step]
  split
  next hi=>
    have hphase (hidle : s.phase j ≠ .idle) : update s.phase i .set j=s.phase j:=by
      refine update_of_ne (fun hji=>hidle ?_) _ _
      rw [hji,hi]
    cases h with
    | begun hbegun=>exact .begun ((hphase (by simp [hbegun])).trans hbegun)
    | onWay hreq hidle hnot hexit=>
      have heq:=hphase hidle
      rw [← heq] at hidle hnot ⊢
      refine .onWay hreq hidle hnot fun l hl=>hexit l ?_
      by_cases hli : l=i
      · simp [hli] at hl
      · simpa [hli] using hl
    | asking hset=>exact .asking ((hphase (by simp [hset])).trans hset)
  · exact h

/-- Every request is followed by a complete pass, and one task at most is in the loop. -/
theorem request_followed_by_pass (events : ℕ→ReconcileEvent)
    (hfair : ∀ i m, ∃ n, m≤n ∧ ∃ pending sleeps, events n = .run i pending sleeps) :
    (∀ n i, events n = .request i→(stateAt step initial events n).phase i = .idle→
      (stateAt step initial events n).flags.running=true→
      ∃ m, n < m ∧ (Passes (stateAt step initial events m) (events m) ∨ events m = .stop)) ∧
    ∀ n i j, ((stateAt step initial events n).phase i).InLoop→ ((stateAt step initial events n).phase j).InLoop→i=j:=by
  constructor
  · intro n i hrequest hidle hrunning
    refine leads_to (R:=fun k j s=>s.Inv ∧ s.flags.running=true ∧ s.Helpful k j)
      (M:=fun j e=>∃ pending sleeps, e = .run j pending sleeps)
      (G:=fun s e=>Passes s e ∨ e = .stop) ?_ hfair (k:=13) (m:=n+1) (j:=i) ?_
    · rintro k j s event ⟨hinv,hrunning,hhelpful⟩
      cases event with
      | request i=>
        refine .inr (.inl ⟨⟨hinv.step _,?_,hhelpful.request i⟩,fun ⟨_,_,h⟩=>nomatch h⟩)
        dsimp only [ReconcileState.step]
        split <;> exact hrunning
      | run i pending sleeps=>
        by_cases hpass : s.phase i = .pass
        · exact .inl (.inl hpass)
        have hrunning':=(running_next pending sleeps (p:=s.phase i)).trans hrunning
        by_cases hij : j=i
        · subst hij
          obtain ⟨k',hk',j',h⟩:=hhelpful.step_self hinv hrunning hpass pending sleeps
          exact .inr (.inr ⟨k',hk',j',hinv.step _,hrunning',h⟩)
        · rcases hhelpful.step_other hrunning hij hpass pending sleeps with h | ⟨k',hk',j',h⟩
          · refine .inr (.inl ⟨⟨hinv.step _,hrunning',h⟩,?_⟩)
            rintro ⟨_,_,heq⟩
            cases heq
            exact hij rfl
          · exact .inr (.inr ⟨k',hk',j',hinv.step _,hrunning',h⟩)
      | stop=>exact .inl (.inr rfl)
    · rw [stateAt_succ,hrequest]
      refine ⟨(inv_stateAt events n).step _,?_,.asking ?_⟩
      · simpa [ReconcileState.step,hidle] using hrunning
      · simp [ReconcileState.step,hidle]
  · intro n i j hi hj
    exact (inv_stateAt events n).unique i j hi.holds hj.holds

def sampleSchedule (n : ℕ) : ReconcileEvent:=if n=0 then .request 0 else .run n.unpair.1 false false

theorem request_followed_by_pass_sample :
    ∃ m, 0 < m ∧ (Passes (stateAt step initial sampleSchedule m) (sampleSchedule m) ∨ sampleSchedule m = .stop):=by
  refine (request_followed_by_pass sampleSchedule ?_).1 0 0 rfl rfl rfl
  intro i m
  refine ⟨Nat.pair i (m+1),?_,false,false,?_⟩
  · exact (Nat.le_succ m).trans (Nat.right_le_pair i (m+1))
  · have hpos : Nat.pair i (m+1)≠0:=(Nat.zero_lt_of_lt (Nat.right_le_pair i (m+1))).ne'
    rw [sampleSchedule,if_neg hpos,Nat.unpair_pair]

end ReconcileState
end SoftMessageBus
