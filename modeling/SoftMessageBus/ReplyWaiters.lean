import SoftMessageBus.ReplyBuffer

/-!
# Concurrent calls that wait for replies

Calls that wait for different replies share one condition variable.
-/
namespace SoftMessageBus
open StepRuns List Function

/-- The arguments of a call of `zoo_smb_client_recv_reply`. -/
structure ReplyCall where
  msgId : UInt32
  requestId : Int64
  timeoutMs : UInt32

/-- A call is `looking` also while it sleeps, and `timedOut` until it has the mutex back. -/
inductive CallPhase where
  | idle | looking | timedOut | returned (result : ErrorType)
  deriving DecidableEq

/-- The client of the calls: `sleeping` are those in the condition variable. -/
structure ReplyWaiters where
  clock : ℕ
  replies : List Reply
  start : ℕ→ℕ
  phase : ℕ→CallPhase
  sleeping : List ℕ

/-- What can happen. -/
inductive WaitersEvent where
  | advance (ms : ℕ)
  | enter (i : ℕ)
  | look (i : ℕ) (payloadAlloc : Bool)
  | arrive (alloc : ℕ→Bool) (message : Message) (pick : ℕ)
  | wake (i : ℕ)
  | expire (i : ℕ)
  | giveUp (i : ℕ)

namespace ReplyWaiters

def initial : ReplyWaiters:=⟨0,[],fun _=>0,fun _=>.idle,[]⟩
def setPhase (s : ReplyWaiters) (i : ℕ) (phase : CallPhase) : ReplyWaiters:={s with phase:=Function.update s.phase i phase}
def signalled (s : ReplyWaiters) (pick : ℕ) : Option ℕ:=s.sleeping[pick % s.sleeping.length]?

variable (calls : ℕ→ReplyCall)

def found (i : ℕ) (replies : List Reply) : Option Reply:=
  findReplyMessage replies (calls i).msgId (calls i).requestId.toUInt64

section
variable (s : ReplyWaiters)

def step : WaitersEvent→ReplyWaiters
  | .advance ms=>{s with clock:=s.clock+ms}
  | .enter i=>
    if s.phase i = .idle then
      {s.setPhase i .looking with start:=Function.update s.start i s.clock}
    else s
  | .look i payloadAlloc=>
    if s.phase i = .looking ∧ i∉s.sleeping then
      match found calls i s.replies with
      | some _=>
        if payloadAlloc then
          {s.setPhase i (.returned .ok) with
            replies:=s.replies.eraseP fun r=>r.requestId=(calls i).requestId.toUInt64}
        else s.setPhase i (.returned .outOfMemory)
      | none=>
        if s.start i+(calls i).timeoutMs.toNat ≤ s.clock then s.setPhase i (.returned .timeout)
        else {s with sleeping:=i::s.sleeping}
    else s
  | .arrive alloc message pick=>
    let replies:=onHandleRepl alloc s.replies message
    if replies.length=s.replies.length then s
    else {s with
      replies:=replies
      sleeping:=(s.signalled pick).elim s.sleeping s.sleeping.erase}
  | .wake i=>{s with sleeping:=s.sleeping.erase i}
  | .expire i=>
    if i∈s.sleeping ∧ s.start i+(calls i).timeoutMs.toNat ≤ s.clock then
      {s.setPhase i .timedOut with sleeping:=s.sleeping.erase i}
    else s
  | .giveUp i=>if s.phase i = .timedOut then s.setPhase i (.returned .timeout) else s

def Blocked (i : ℕ) : Prop:=i∈s.sleeping ∨ s.phase i = .timedOut

/-- A reply with both identifiers of the call is in the buffer. -/
def Answered (i : ℕ) : Prop:=∃ r∈s.replies, r.Answers (calls i).msgId (calls i).requestId

/-- No call sleeps or has timed out beside its reply. -/
def Served : Prop:=∀ i, s.Blocked i→¬s.Answered calls i

/-- Where calls return: one that looks with its reply in the buffer takes it, and one that gives
up has none there. -/
def Responds : WaitersEvent→Prop
  | .look i payloadAlloc=>s.phase i = .looking→i∉s.sleeping→s.Answered calls i→
      (s.step calls (.look i payloadAlloc)).phase i = .returned .ok
  | .giveUp i=>s.phase i = .timedOut→¬s.Answered calls i
  | _=>True

def Timely : Prop:=
  ∀ i, s.phase i = .timedOut ∨ s.phase i = .returned .timeout→s.start i+(calls i).timeoutMs.toNat ≤ s.clock

/-- A signal reaches the call that its reply answers, and the reply that a call looks for is not
behind one with the same request identifier and another message identifier. -/
def Reaches : WaitersEvent→Prop
  | .arrive alloc message pick=>Buffers alloc s.replies message→∀ i, s.Blocked i→
      message.Answers (calls i).msgId (calls i).requestId→s.signalled pick=some i ∧ s.phase i ≠ .timedOut
  | .look i payloadAlloc=>s.phase i = .looking→i∉s.sleeping→s.Answered calls i→
      FirstAnswers (calls i).msgId (calls i).requestId s.replies ∧ payloadAlloc=true
  | _=>True

def Sleeps : Prop:=s.sleeping.Nodup ∧ ∀ i∈s.sleeping, s.phase i = .looking

end

variable {calls} {s t : ReplyWaiters} {i j : ℕ}

lemma Sleeps.setPhase (h : s.Sleeps) (hi : i∉s.sleeping) (phase : CallPhase) :
    (s.setPhase i phase).Sleeps:=by
  refine ⟨h.1,fun j hj=>?_⟩
  have hne : j≠i:=fun heq=>hi (heq ▸ hj)
  exact (update_of_ne hne _ _).trans (h.2 j hj)

lemma Sleeps.erase (h : s.Sleeps) (i : ℕ) : Sleeps {s with sleeping:=s.sleeping.erase i}:=
  ⟨h.1.erase i,fun j hj=>h.2 j (mem_of_mem_erase hj)⟩

lemma Sleeps.step (h : s.Sleeps) (event : WaitersEvent) : (s.step calls event).Sleeps:=by
  cases event <;> dsimp only [ReplyWaiters.step]
  case advance ms=>exact h
  case enter i=>
    split
    next hidle=>
      have hnot : i∉s.sleeping:=fun hi=>by simp [h.2 i hi] at hidle
      exact h.setPhase hnot .looking
    · exact h
  case look i payloadAlloc=>
    split
    next hlooks=>
      split
      · split
        · exact h.setPhase hlooks.2 (.returned .ok)
        · exact h.setPhase hlooks.2 _
      · split
        · exact h.setPhase hlooks.2 _
        · exact ⟨List.nodup_cons.2 ⟨hlooks.2,h.1⟩,forall_mem_cons.2 ⟨hlooks.1,h.2⟩⟩
    · exact h
  case arrive alloc message pick=>
    split
    · exact h
    · cases s.signalled pick with
      | none=>exact h
      | some i=>exact h.erase i
  case wake i=>exact h.erase i
  case expire i=>
    split
    · exact (h.erase i).setPhase (fun hi=>(h.1.mem_erase_iff.1 hi).1 rfl) .timedOut
    · exact h
  case giveUp i=>
    split
    next htimed=>exact h.setPhase (fun hi=>by simp [h.2 i hi] at htimed) _
    · exact h

lemma blocked_setPhase (phase : CallPhase) (hphase : phase ≠ .timedOut)
    (h : (s.setPhase i phase).Blocked j) : s.Blocked j:=by
  refine h.imp_right fun hj=>?_
  by_cases hne : j=i
  · subst hne
    exact absurd ((update_self ..).symm.trans hj) hphase
  · exact (update_of_ne hne _ _).symm.trans hj

lemma Served.of_blocked (h : s.Served calls) (hreplies : t.replies ⊆ s.replies)
    (hblocked : ∀ j, t.Blocked j→s.Blocked j) : t.Served calls:=by
  rintro j hj ⟨r,hr,hanswers⟩
  exact h j (hblocked j hj) ⟨r,hreplies hr,hanswers⟩

lemma found_isSome_iff :
    (found calls i s.replies).isSome ↔ FirstAnswers (calls i).msgId (calls i).requestId s.replies:=by
  rw [Option.isSome_iff_exists]
  exact exists_congr fun _=>findReplyMessage_eq_some_iff

lemma answered_of_firstAnswers (h : FirstAnswers (calls i).msgId (calls i).requestId s.replies) :
    s.Answered calls i:=by
  obtain ⟨r,hr,hid⟩:=h
  exact ⟨r,mem_of_find?_eq_some hr,hid,by simpa using find?_some hr⟩

lemma served_look_iff (h : s.Served calls) (i : ℕ) (payloadAlloc : Bool) :
    s.Responds calls (.look i payloadAlloc) ∧ (s.step calls (.look i payloadAlloc)).Served calls ↔
      s.Reaches calls (.look i payloadAlloc):=by
  dsimp only [Responds,Reaches,step]
  by_cases hlooks : s.phase i = .looking ∧ i∉s.sleeping
  · rw [if_pos hlooks,forall_prop_of_true hlooks.1,forall_prop_of_true hlooks.2,
      forall_prop_of_true hlooks.1,forall_prop_of_true hlooks.2]
    have hfirst : (found calls i s.replies).isSome ↔ _:=found_isSome_iff
    cases hfound : found calls i s.replies with
    | none=>
      rw [hfound] at hfirst
      dsimp only
      by_cases hanswered : s.Answered calls i
      · refine iff_of_false (fun hserved=>?_) fun hreaches=>?_
        · have hphase:=hserved.1 hanswered
          split at hphase
          · simp [setPhase] at hphase
          · simp [hlooks.1] at hphase
        · cases hfirst.2 (hreaches hanswered).1
      · refine iff_of_true ⟨(absurd · hanswered),?_⟩ (absurd · hanswered)
        split
        · exact h.of_blocked (Subset.refl _) fun j=>blocked_setPhase _ nofun
        · rintro j (hj | hj)
          · rcases mem_cons.1 hj with rfl | hj
            · exact hanswered
            · exact h j (.inl hj)
          · exact h j (.inr hj)
    | some reply=>
      have hfirst:=hfirst.1 (by rw [hfound]; rfl)
      have hanswered:=answered_of_firstAnswers hfirst
      cases payloadAlloc with
      | false=>
        refine iff_of_false (fun hserved=>?_) fun hreaches=>(by cases (hreaches hanswered).2)
        simpa [setPhase] using hserved.1 hanswered
      | true=>
        refine iff_of_true ⟨fun _=>update_self ..,?_⟩ fun _=>⟨hfirst,rfl⟩
        exact h.of_blocked eraseP_subset fun j hj=>blocked_setPhase (i:=i) (.returned .ok) nofun hj
  · rw [if_neg hlooks]
    exact iff_of_true ⟨fun hphase hnot=>absurd ⟨hphase,hnot⟩ hlooks,h⟩ fun hphase hnot=>absurd ⟨hphase,hnot⟩ hlooks

lemma served_arrive_iff (hsleep : s.Sleeps) (h : s.Served calls) (alloc : ℕ→Bool) (message : Message) (pick : ℕ) :
    (s.step calls (.arrive alloc message pick)).Served calls ↔ s.Reaches calls (.arrive alloc message pick):=by
  dsimp only [step,Reaches]
  rcases onHandleRepl_cases alloc s.replies message with
    ⟨hbuffers,reply,heq,hheader,-⟩ | ⟨hbuffers,heq⟩
  · rw [heq,if_neg (by simp),forall_prop_of_true hbuffers]
    have hnew : ∀ i, reply.Answers (calls i).msgId (calls i).requestId ↔
        message.Answers (calls i).msgId (calls i).requestId:=by
      intro i
      rw [Message.Answers,← hheader]
      rfl
    constructor
    · intro hserved i hblocked hanswers
      by_contra hmissed
      refine hserved i (hblocked.imp_left fun hi=>?_) ⟨reply,mem_append_right _ mem_cons_self,(hnew i).2 hanswers⟩
      cases hwoken : s.signalled pick with
      | none=>exact hi
      | some k=>
        refine (mem_erase_of_ne fun hik=>hmissed ?_).2 hi
        rw [hwoken,hik,hsleep.2 k (hik ▸ hi)]
        exact ⟨rfl,nofun⟩
    · rintro hreaches i hblocked ⟨r,hr,hanswers⟩
      have hbefore : s.Blocked i:=by
        refine hblocked.imp_left fun hi=>?_
        cases hwoken : s.signalled pick with
        | none=>simpa [hwoken] using hi
        | some k=>exact mem_of_mem_erase (by simpa [hwoken] using hi)
      rcases mem_append.1 hr with hr | hr
      · exact h i hbefore ⟨r,hr,hanswers⟩
      · rw [mem_singleton.1 hr,hnew] at hanswers
        obtain ⟨hwoken,hphase⟩:=hreaches i hbefore hanswers
        rcases hblocked with hi | hi
        · rw [hwoken] at hi
          exact (hsleep.1.mem_erase_iff.1 hi).1 rfl
        · exact hphase hi
  · rw [heq,if_pos rfl]
    exact iff_of_true h fun hb=>absurd hb hbuffers

lemma served_step_iff (hsleep : s.Sleeps) (h : s.Served calls) (event : WaitersEvent) :
    s.Responds calls event ∧ (s.step calls event).Served calls ↔ s.Reaches calls event:=by
  cases event with
  | advance ms=>exact iff_of_true ⟨trivial,h⟩ trivial
  | enter i=>
    refine iff_of_true ⟨trivial,?_⟩ trivial
    dsimp only [step]
    split
    · exact h.of_blocked (Subset.refl _) fun j hj=>blocked_setPhase .looking nofun hj
    · exact h
  | look i payloadAlloc=>exact served_look_iff h i payloadAlloc
  | arrive alloc message pick=>
    exact (and_iff_right trivial).trans (served_arrive_iff hsleep h alloc message pick)
  | wake i=>
    exact iff_of_true ⟨trivial,h.of_blocked (Subset.refl _) fun j hj=>hj.imp_left mem_of_mem_erase⟩ trivial
  | expire i=>
    refine iff_of_true ⟨trivial,?_⟩ trivial
    dsimp only [step]
    split
    next hexpires=>
      refine h.of_blocked (Subset.refl _) fun j hj=>?_
      by_cases hne : j=i
      · exact .inl (hne ▸ hexpires.1)
      · exact hj.imp mem_of_mem_erase (update_of_ne hne _ _).symm.trans
    · exact h
  | giveUp i=>
    refine iff_of_true ⟨fun htimed=>h i (.inr htimed),?_⟩ trivial
    dsimp only [step]
    split
    · exact h.of_blocked (Subset.refl _) fun j=>blocked_setPhase _ nofun
    · exact h

lemma Timely.setPhase (h : s.Timely calls) (phase : CallPhase)
    (hphase : phase = .timedOut ∨ phase = .returned .timeout→
      s.start i+(calls i).timeoutMs.toNat ≤ s.clock) : (s.setPhase i phase).Timely calls:=by
  intro j hj
  by_cases hne : j=i
  · subst hne
    exact hphase (by simpa [ReplyWaiters.setPhase] using hj)
  · exact h j (by simpa [ReplyWaiters.setPhase,hne] using hj)

lemma Timely.step (h : s.Timely calls) (event : WaitersEvent) : (s.step calls event).Timely calls:=by
  cases event <;> dsimp only [ReplyWaiters.step]
  case advance ms=>exact fun i hi=>(h i hi).trans (Nat.le_add_right _ _)
  case enter i=>
    split
    · intro j hj
      by_cases hne : j=i
      · simp [ReplyWaiters.setPhase,hne] at hj
      · simpa [ReplyWaiters.setPhase,hne] using h j (by simpa [ReplyWaiters.setPhase,hne] using hj)
    · exact h
  case look i payloadAlloc=>
    split
    · split
      · split
        · exact h.setPhase (.returned .ok) (by simp)
        · exact h.setPhase _ (by simp)
      · split
        next hlate=>exact h.setPhase _ fun _=>hlate
        · exact h
    · exact h
  case arrive alloc message pick=>split <;> exact h
  case wake i=>exact h
  case expire i=>
    split
    next hlate=>exact h.setPhase .timedOut fun _=>hlate.2
    · exact h
  case giveUp i=>
    split
    next htimed=>exact h.setPhase _ fun _=>h i (.inl htimed)
    · exact h

/-- No call sleeps or times out beside its reply, and TIMEOUT is returned only in time, exactly
when every signal reaches the call that its reply answers and no reply hides another. -/
theorem waiters_served_iff (calls : ℕ→ReplyCall) (events : List WaitersEvent) :
    Along (step calls) (fun s e=>(s.Responds calls e ∧ (s.step calls e).Served calls) ∧
        (s.step calls e).Timely calls) initial events ↔
      Along (step calls) (fun s e=>s.Reaches calls e) initial events:=by
  refine along_iff_of_invariant (fun s=>s.Sleeps ∧ s.Served calls ∧ s.Timely calls) ?_ ?_ ?_
    events
  · rintro s e ⟨hsleeps,hserved,htimely⟩ hreaches
    exact ⟨hsleeps.step e,((served_step_iff hsleeps hserved e).2 hreaches).2,htimely.step e⟩
  · rintro s e ⟨hsleeps,hserved,htimely⟩
    rw [← served_step_iff hsleeps hserved]
    exact and_iff_left (htimely.step e)
  · refine ⟨⟨nodup_nil,forall_mem_nil _⟩,?_,?_⟩
    · rintro i (hi | hi) <;> cases hi
    · rintro i (hi | hi) <;> cases hi

/-- Two calls sleep, and the signal for the reply of the first wakes the second. -/
theorem signal_reaches_other_call :
    let calls (i : ℕ) : ReplyCall:=⟨1,if i=0 then 7 else 8,100⟩
    ¬Along (step calls) (fun s e=>(s.Responds calls e ∧ (s.step calls e).Served calls) ∧
        (s.step calls e).Timely calls)
      initial [.enter 0,.look 0 true,.enter 1,.look 1 true, .arrive (fun _=>true) (sampleReply 1 10) 0]:=by
  rintro calls ⟨-,-,-,-,⟨⟨-,hserved⟩,-⟩,-⟩
  exact hserved 0 (.inl (by decide +kernel)) (by unfold Answered Reply.Answers; decide +kernel)

end ReplyWaiters
end SoftMessageBus
