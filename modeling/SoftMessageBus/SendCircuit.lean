import SoftMessageBus.MessageHeader

/-!
# The circuit breaker of the transport manager

Five failures in a row open the circuit of a transport for a cooldown.
-/
namespace SoftMessageBus
open List

def transportSendFailOpenThreshold : UInt32:=5
def transportSendOpenCooldownSec : ℕ:=2

def transportSendFailureShouldTripCircuit (err : ErrorType) : Bool:=
  match err with
  | .queueFull | .timeout | .busy | .again | .outOfMemory | .allocationFailed | .poolExhausted
  | .serviceUnavailable | .serviceNotFound | .shmBufferFull=>false
  | _=>true

/-- `ZOO_SMB_TRANSPORT_INDEX_ENTRY_STRUCT`. -/
structure TransportIndexEntry where
  consecutiveSendFailures : UInt32
  inFlightSends : UInt32
  sendHighWatermark : UInt32
  circuitOpenUntil : ℕ
  deriving DecidableEq

/-- A transport with its entry in the index of the manager, if it got one. -/
structure SendChannel where
  clock : ℕ
  managerHighWatermark : UInt32
  entry : Option TransportIndexEntry
  entering : List ℕ
  sending : List ℕ
  failures : ℕ
  deriving DecidableEq

structure SendAttempt where
  senderMissing : Bool
  encryptionMissing : Bool
  transportStarted : Bool

/-- Time passes, calls begin and come back, watermarks and metrics are set. -/
inductive SendEvent where
  | tick (clock : ℕ)
  | enter (attempt : SendAttempt)
  | check (index : ℕ) (managerRoom : Bool)
  | complete (index : ℕ) (result : ErrorType)
  | setWatermark (high : UInt32)
  | resetMetrics

namespace TransportIndexEntry
variable (e : TransportIndexEntry) (now : ℕ) (result : ErrorType)

/-- What the result of a send does to the circuit; `now` is the second in which it began. -/
def settle : TransportIndexEntry:=
  if result = .ok then {e with consecutiveSendFailures:=0, circuitOpenUntil:=0}
  else if transportSendFailureShouldTripCircuit result then
    let e:={e with consecutiveSendFailures:=e.consecutiveSendFailures+1}
    if transportSendFailOpenThreshold≤e.consecutiveSendFailures then
      {e with circuitOpenUntil:=now+transportSendOpenCooldownSec}
    else e
  else {e with consecutiveSendFailures:=0}

/-- A send comes back from the transport. -/
def complete : TransportIndexEntry:=settle {e with inFlightSends:=e.inFlightSends-1} now result

end TransportIndexEntry
namespace SendChannel

/-- A transport that the manager has created, with an entry in its index or without one. -/
def create (managerHighWatermark : UInt32) (indexed : Bool) : SendChannel where
  clock:=0
  managerHighWatermark:=managerHighWatermark
  entry:=if indexed then some ⟨0,0,managerHighWatermark,0⟩ else none
  entering:=[]
  sending:=[]
  failures:=0

/-- The checks of `zoo_smb_transport_manager_send_message` before it reads the clock. -/
def attemptResult (attempt : SendAttempt) : ErrorType:=
  if attempt.senderMissing then .authRequired
  else if attempt.encryptionMissing then .encryptFailed
  else if !attempt.transportStarted then .notInitialized
  else .ok

/-- The checks between reading the clock and calling the transport, with `now` as the second
that was read. -/
def checkResult (s : SendChannel) (now : ℕ) (managerRoom : Bool) : ErrorType:=
  match s.entry with
  | none=>if managerRoom then .ok else .queueFull
  | some e=>
    if now<e.circuitOpenUntil then .timeout
    else if (if 0<e.sendHighWatermark then e.sendHighWatermark else s.managerHighWatermark)<
        e.inFlightSends+1 then .queueFull
    else if managerRoom then .ok
    else .queueFull

/-- One event; a second has `ticks` ticks of the clock. -/
def step (ticks : ℕ) (s : SendChannel) : SendEvent→SendChannel
  | .tick clock=>{s with clock:=max s.clock clock}
  | .enter attempt=>
    if attemptResult attempt = .ok then {s with entering:=s.entering++[s.clock]} else s
  | .check index managerRoom=>
    match s.entering[index]? with
    | none=>s
    | some start=>
      if s.checkResult (start/ticks) managerRoom = .ok then
        {s with
          entry:=s.entry.map fun e=>{e with inFlightSends:=e.inFlightSends+1}
          entering:=s.entering.eraseIdx index
          sending:=s.sending++[start]}
      else {s with entering:=s.entering.eraseIdx index}
  | .complete index result=>
    match s.sending[index]? with
    | none=>s
    | some start=>
      {s with
        entry:=s.entry.map fun e=>e.complete (start/ticks) result
        sending:=s.sending.eraseIdx index
        failures:=if result ≠ .ok ∧ transportSendFailureShouldTripCircuit result then
          s.failures+1 else 0}
  | .setWatermark high=>
    if high=0 then s
    else {s with entry:=s.entry.map fun e=>{e with sendHighWatermark:=high} }
  | .resetMetrics=>
    {s with
      entry:=s.entry.map fun e=>{e with consecutiveSendFailures:=0, inFlightSends:=0, circuitOpenUntil:=0}
      failures:=0}

def run (ticks : ℕ) (s : SendChannel) (events : List SendEvent) : SendChannel:=events.foldl (step ticks) s

def LeavesCircuit : SendEvent→Prop
  | .complete _ result=>result ≠ .ok
  | .resetMetrics=>False
  | _=>True

/-- Every send that begins within the cooldown is rejected, until a success or a reset. -/
def CooldownHonoured (ticks : ℕ) (s : SendChannel) : Prop:=
  ∀ events : List SendEvent, (∀ event∈events, LeavesCircuit event)→
    ∀ start∈(s.run ticks events).entering, s.clock ≤ start→
      start<s.clock+transportSendOpenCooldownSec*ticks→
      ∀ managerRoom, (s.run ticks events).checkResult (start/ticks) managerRoom ≠ .ok

def SuccessCloses (ticks : ℕ) (s : SendChannel) : Prop:=
  ∀ index<s.sending.length, ∀ e, (s.step ticks (.complete index .ok)).entry=some e→
    e.circuitOpenUntil=0 ∧ e.consecutiveSendFailures=0

structure Timed (indexed : Bool) (s : SendChannel) : Prop where
  entering_le : ∀ start∈s.entering, start ≤ s.clock
  sending_le : ∀ start∈s.sending, start ≤ s.clock
  isSome_entry : s.entry.isSome=indexed
  count : ∀ e∈s.entry, e.consecutiveSendFailures=UInt32.ofNat s.failures

lemma timed_create (managerHighWatermark : UInt32) (indexed : Bool) :
    (create managerHighWatermark indexed).Timed indexed where
  entering_le _ h:=absurd h not_mem_nil
  sending_le _ h:=absurd h not_mem_nil
  isSome_entry:=by cases indexed <;> rfl
  count e he:=by
    cases indexed with
    | true=>
      cases he
      rfl
    | false=>cases he

lemma count_complete (e : TransportIndexEntry) (now : ℕ) (result : ErrorType) :
    (e.complete now result).consecutiveSendFailures=
      if result ≠ .ok ∧ transportSendFailureShouldTripCircuit result then
        e.consecutiveSendFailures+1 else 0:=by
  unfold TransportIndexEntry.complete TransportIndexEntry.settle
  split
  next hok=>simp [hok]
  next hne=>
    dsimp only
    split
    next htrips=>
      have hcounts : result ≠ .ok ∧ transportSendFailureShouldTripCircuit result=true:=⟨hne,htrips⟩
      rw [if_pos hcounts]
      split <;> rfl
    next htrips=>rw [if_neg fun h=>htrips h.2]

namespace Timed
variable {ticks : ℕ} {indexed : Bool} {s : SendChannel}

lemma check (h : s.Timed indexed) (index : ℕ) (managerRoom : Bool) :
    (s.step ticks (.check index managerRoom)).Timed indexed:=by
  rw [SendChannel.step]
  cases hget : s.entering[index]? with
  | none=>exact h
  | some start=>
    dsimp only
    have hstart:=h.entering_le start (mem_of_getElem? hget)
    have hent : ∀ other∈s.entering.eraseIdx index, other ≤ s.clock:=fun other ho=>
      h.entering_le other (mem_of_mem_eraseIdx ho)
    split
    · refine ⟨hent,fun other ho=>?_,?_,fun e he=>?_⟩
      · rcases mem_append.1 ho with ho | ho
        · exact h.sending_le other ho
        · exact mem_singleton.1 ho ▸ hstart
      · exact Option.isSome_map.trans h.isSome_entry
      · obtain ⟨e',he',rfl⟩:=Option.map_eq_some_iff.1 he
        exact h.count e' he'
    · exact ⟨hent,h.sending_le,h.isSome_entry,h.count⟩

lemma complete (h : s.Timed indexed) (index : ℕ) (result : ErrorType) :
    (s.step ticks (.complete index result)).Timed indexed:=by
  rw [SendChannel.step]
  cases hget : s.sending[index]? with
  | none=>exact h
  | some start=>
    refine ⟨h.entering_le,fun other ho=>h.sending_le other (mem_of_mem_eraseIdx ho),
      Option.isSome_map.trans h.isSome_entry,fun e he=>?_⟩
    obtain ⟨e',he',rfl⟩:=Option.map_eq_some_iff.1 he
    dsimp only
    rw [count_complete,h.count e' he']
    split
    · exact (UInt32.ofNat_add s.failures 1).symm
    · rfl

lemma step (h : s.Timed indexed) (event : SendEvent) : (s.step ticks event).Timed indexed:=by
  cases event with
  | tick clock=>
    exact ⟨fun start hs=>(h.entering_le start hs).trans (le_max_left _ _),
      fun start hs=>(h.sending_le start hs).trans (le_max_left _ _),h.isSome_entry,h.count⟩
  | enter attempt=>
    rw [SendChannel.step]
    split
    · refine ⟨fun start hs=>?_,h.sending_le,h.isSome_entry,h.count⟩
      rcases mem_append.1 hs with hs | hs
      · exact h.entering_le start hs
      · exact (mem_singleton.1 hs).le
    · exact h
  | check index managerRoom=>exact h.check index managerRoom
  | complete index result=>exact h.complete index result
  | setWatermark high=>
    rw [SendChannel.step]
    split
    · exact h
    · refine ⟨h.entering_le,h.sending_le,Option.isSome_map.trans h.isSome_entry,fun e he=>?_⟩
      obtain ⟨e',he',rfl⟩:=Option.map_eq_some_iff.1 he
      exact h.count e' he'
  | resetMetrics=>
    refine ⟨h.entering_le,h.sending_le,Option.isSome_map.trans h.isSome_entry,fun e he=>?_⟩
    obtain ⟨e',he',rfl⟩:=Option.map_eq_some_iff.1 he
    rfl

lemma run (h : s.Timed indexed) (events : List SendEvent) : (s.run ticks events).Timed indexed:=by
  induction events generalizing s with
  | nil=>exact h
  | cons event events ih=>exact ih (h.step event)

end Timed

structure OpenThrough (ticks second : ℕ) (s : SendChannel) : Prop where
  entry : ∃ e, s.entry=some e ∧ second<e.circuitOpenUntil
  sending : ∀ start∈s.sending, second<start/ticks+transportSendOpenCooldownSec

lemma lt_circuitOpenUntil_complete {e : TransportIndexEntry} {second now : ℕ}
    {result : ErrorType} (hopen : second<e.circuitOpenUntil)
    (hnow : second<now+transportSendOpenCooldownSec) (hne : result ≠ .ok) :
    second<(e.complete now result).circuitOpenUntil:=by
  unfold TransportIndexEntry.complete TransportIndexEntry.settle
  rw [if_neg hne]
  dsimp only
  split
  · split
    · exact hnow
    · exact hopen
  · exact hopen

namespace OpenThrough
variable {ticks second : ℕ} {s : SendChannel}

section
variable (h : s.OpenThrough ticks second)
include h

lemma checkResult_ne_ok {now : ℕ} (hnow : now ≤ second) (managerRoom : Bool) :
    s.checkResult now managerRoom ≠ .ok:=by
  obtain ⟨e,he,hopen⟩:=h.entry
  rw [checkResult,he]
  dsimp only
  rw [if_pos (hnow.trans_lt hopen)]
  exact ErrorType.noConfusion

lemma lt_of_checkResult {now : ℕ} {managerRoom : Bool} (hok : s.checkResult now managerRoom = .ok) :
    second<now:=
  Nat.lt_of_not_le fun hle=>h.checkResult_ne_ok hle managerRoom hok

lemma step {event : SendEvent} (hevent : LeavesCircuit event) :
    (s.step ticks event).OpenThrough ticks second:=by
  obtain ⟨e,he,hopen⟩:=h.entry
  cases event with
  | tick clock=>exact ⟨h.entry,h.sending⟩
  | enter attempt=>
    rw [SendChannel.step]
    split
    · exact ⟨h.entry,h.sending⟩
    · exact h
  | check index managerRoom=>
    rw [SendChannel.step]
    split
    · exact h
    · split
      next start hget hok=>
        refine ⟨⟨_,congrArg (Option.map _) he,hopen⟩,fun other ho=>?_⟩
        rcases mem_append.1 ho with ho | ho
        · exact h.sending other ho
        · rw [mem_singleton.1 ho]
          exact (h.lt_of_checkResult hok).trans_le (Nat.le_add_right _ _)
      · exact ⟨h.entry,h.sending⟩
  | complete index result=>
    rw [SendChannel.step]
    split
    · exact h
    next start hget=>
      refine ⟨⟨_,congrArg (Option.map _) he,?_⟩,fun other ho=>h.sending other (mem_of_mem_eraseIdx ho)⟩
      exact lt_circuitOpenUntil_complete hopen (h.sending start (mem_of_getElem? hget)) hevent
  | setWatermark high=>
    rw [SendChannel.step]
    split
    · exact h
    · exact ⟨⟨_,congrArg (Option.map _) he,hopen⟩,h.sending⟩
  | resetMetrics=>exact hevent.elim

lemma run {events : List SendEvent} (hev : ∀ event∈events, LeavesCircuit event) :
    (s.run ticks events).OpenThrough ticks second:=by
  induction events generalizing s with
  | nil=>exact h
  | cons event events ih=>
    obtain ⟨hevent,hrest⟩:=forall_mem_cons.1 hev
    exact ih (h.step hevent) hrest

end
end OpenThrough

lemma run_append (ticks : ℕ) (s : SendChannel) (before after : List SendEvent) :
    s.run ticks (before++after)=(s.run ticks before).run ticks after:=
  foldl_append

def readyAttempt : SendAttempt:=⟨false,false,true⟩
def probe (clock : ℕ) : List SendEvent:=[.tick clock,.setWatermark 0xFFFFFFFF,.enter readyAttempt]

lemma leavesCircuit_probe (clock : ℕ) : ∀ event∈probe clock, LeavesCircuit event:=by
  simp [probe,LeavesCircuit]

variable {clock : ℕ}

lemma mem_entering_probe (ticks : ℕ) {s : SendChannel} (h : s.clock≤clock) :
    clock∈(s.run ticks (probe clock)).entering:=by
  have hclock : max s.clock clock=clock:=max_eq_right h
  refine mem_append_right s.entering ?_
  exact mem_singleton.2 hclock.symm

lemma entry_probe (ticks : ℕ) (s : SendChannel) (clock : ℕ) :
    (s.run ticks (probe clock)).entry=s.entry.map fun e=>{e with sendHighWatermark:=0xFFFFFFFF}:=
  rfl

lemma checkResult_probe {ticks : ℕ} {s : SendChannel} {now : ℕ} (h : ∀ e, s.entry=some e→e.circuitOpenUntil≤now) :
    (s.run ticks (probe clock)).checkResult now true = .ok:=by
  rw [checkResult,entry_probe]
  cases hentry : s.entry with
  | none=>rfl
  | some e=>
    have hroom (other : UInt32) : ¬(if 0<(0xFFFFFFFF : UInt32) then 0xFFFFFFFF else other)<
        e.inFlightSends+1:=by
      rw [if_pos (by decide),UInt32.lt_iff_toNat_lt]
      exact Nat.not_lt.2 (Nat.le_of_lt_succ (e.inFlightSends+1).toNat_lt)
    simp only [Option.map_some]
    rw [if_neg (Nat.not_lt.2 (h e hentry)),if_neg (hroom _),if_pos trivial]

lemma CooldownHonoured.lt_circuitOpenUntil {ticks : ℕ} {s : SendChannel} (hticks : 0<ticks)
    (h : s.CooldownHonoured ticks) (events : List SendEvent) (hev : ∀ event∈events, LeavesCircuit event)
    (hclock : (s.run ticks events).clock=s.clock) :
    ∃ e, (s.run ticks events).entry=some e ∧ (s.clock+2*ticks-1)/ticks<e.circuitOpenUntil:=by
  by_contra hclosed
  have hprobe : ∀ event∈events++probe (s.clock+2*ticks-1), LeavesCircuit event:=by
    intro event he
    rcases mem_append.1 he with he | he
    · exact hev event he
    · exact leavesCircuit_probe _ event he
  refine h _ hprobe (s.clock+2*ticks-1) ?_ (by omega) ?_ true ?_
  · rw [run_append]
    exact mem_entering_probe ticks (by omega)
  · rw [transportSendOpenCooldownSec]
    omega
  · rw [run_append]
    refine checkResult_probe fun e he=>?_
    by_contra hlt
    exact hclosed ⟨e,he,Nat.lt_of_not_le hlt⟩

lemma eq_of_cooldown_lt {ticks start : ℕ} (hticks : 0<ticks) (hle : start≤clock)
    (h : (clock+2*ticks-1)/ticks<start/ticks+2) : ticks ∣ clock ∧ start=clock:=by
  have hlt:=(Nat.div_lt_iff_lt_mul hticks).1 h
  have hmul:=Nat.div_mul_le_self start ticks
  rw [Nat.add_mul] at hlt
  have heq : clock=start/ticks*ticks:=by omega
  exact ⟨⟨start/ticks,heq.trans (Nat.mul_comm _ _)⟩,by omega⟩

lemma cooldown_lt_of_dvd {ticks : ℕ} (hticks : 0<ticks) (h : ticks ∣ clock) :
    (clock+2*ticks-1)/ticks<clock/ticks+2:=by
  rw [Nat.div_lt_iff_lt_mul hticks,Nat.add_mul,Nat.div_mul_cancel h]
  omega

lemma circuitOpenUntil_complete {e : TransportIndexEntry} {error : ErrorType} (now : ℕ)
    (hcount : transportSendFailOpenThreshold≤e.consecutiveSendFailures+1)
    (hne : error ≠ .ok) (htrips : transportSendFailureShouldTripCircuit error=true) :
    (e.complete now error).circuitOpenUntil=now+2:=by
  rw [TransportIndexEntry.complete,TransportIndexEntry.settle,if_neg hne]
  dsimp only
  rw [if_pos htrips,if_pos hcount]
  rfl

lemma successCloses (ticks : ℕ) (s : SendChannel) : s.SuccessCloses ticks:=by
  intro index hindex e he
  rw [step,getElem?_eq_getElem hindex] at he
  obtain ⟨e',-,rfl⟩:=Option.map_eq_some_iff.1 he
  exact ⟨rfl,rfl⟩

section
variable {ticks : ℕ} {indexed : Bool} {s : SendChannel} {index start : ℕ} {error : ErrorType}

def afterFailure (s : SendChannel) (ticks index start : ℕ) (error : ErrorType) : SendChannel:=
  {s with
    entry:=s.entry.map fun e=>e.complete (start/ticks) error
    sending:=s.sending.eraseIdx index
    failures:=s.failures+1}

lemma step_complete (ticks : ℕ) (hsending : s.sending[index]?=some start) (hne : error ≠ .ok)
    (htrips : transportSendFailureShouldTripCircuit error=true) :
    s.step ticks (.complete index error)=s.afterFailure ticks index start error:=by
  rw [step,hsending]
  dsimp only
  rw [if_pos ⟨hne,htrips⟩]
  rfl

lemma cooldownHonoured_of_dvd (hticks : 0<ticks) (h : s.Timed true)
    (hsending : s.sending[index]?=some start) (hfifth : s.failures=4) (hne : error ≠ .ok)
    (htrips : transportSendFailureShouldTripCircuit error=true) (hdvd : ticks ∣ s.clock)
    (hall : ∀ other∈s.sending, other=s.clock) :
    (s.step ticks (.complete index error)).CooldownHonoured ticks:=by
  have hlimit:=cooldown_lt_of_dvd hticks hdvd
  obtain ⟨e,he⟩:=Option.isSome_iff_exists.1 h.isSome_entry
  have hcount : e.consecutiveSendFailures=4:=by
    rw [h.count e he,hfifth]
    rfl
  have hopen : (s.step ticks (.complete index error)).OpenThrough ticks
      ((s.clock+2*ticks-1)/ticks):=by
    rw [step_complete ticks hsending hne htrips]
    refine ⟨⟨_,congrArg (Option.map _) he,?_⟩,fun other ho=>?_⟩
    · rw [circuitOpenUntil_complete _ (by rw [hcount]; decide) hne htrips,hall start (mem_of_getElem? hsending)]
      exact hlimit
    · rw [hall other (mem_of_mem_eraseIdx ho)]
      exact hlimit
  intro events hev other hother hfrom hto managerRoom
  refine (hopen.run hev).checkResult_ne_ok (Nat.div_le_div_right ?_) managerRoom
  rw [step_complete ticks hsending hne htrips,transportSendOpenCooldownSec] at hto
  exact Nat.le_sub_one_of_lt hto

lemma CooldownHonoured.dvd (hticks : 0<ticks) (h : s.Timed indexed)
    (hsending : s.sending[index]?=some start) (hfifth : s.failures=4) (hne : error ≠ .ok)
    (htrips : transportSendFailureShouldTripCircuit error=true)
    (hhon : (s.step ticks (.complete index error)).CooldownHonoured ticks) :
    indexed=true ∧ ticks ∣ s.clock ∧ ∀ other∈s.sending, other=s.clock:=by
  have hstep:=step_complete ticks hsending hne htrips
  rw [hstep] at hhon
  -- the circuit as the failure leaves it
  obtain ⟨e',he',hopen⟩:=hhon.lt_circuitOpenUntil hticks [] (fun _ he=>absurd he not_mem_nil) rfl
  obtain ⟨e,he,rfl⟩:=Option.map_eq_some_iff.1 he'
  have hcount : e.consecutiveSendFailures=4:=by
    rw [h.count e he,hfifth]
    rfl
  rw [circuitOpenUntil_complete _ (by rw [hcount]; decide) hne htrips] at hopen
  obtain ⟨hdvd,hstart⟩:=eq_of_cooldown_lt hticks (h.sending_le start (mem_of_getElem? hsending)) hopen
  refine ⟨?_,hdvd,fun other hother=>?_⟩
  · rw [← h.isSome_entry,he,Option.isSome_some]
  -- another send fails in turn
  have hperm : (start::s.sending.eraseIdx index).Perm s.sending:=by
    obtain ⟨hlt,hget⟩:=List.getElem?_eq_some_iff.1 hsending
    exact hget ▸ getElem_cons_eraseIdx_perm hlt
  rcases mem_cons.1 (hperm.symm.subset hother) with rfl | hmem
  · exact hstart
  · obtain ⟨next,hnext⟩:=mem_iff_getElem?.1 hmem
    have hrun : (s.afterFailure ticks index start error).run ticks [.complete next error]=
        (s.afterFailure ticks index start error).afterFailure ticks next other error:=
      step_complete ticks hnext hne htrips
    obtain ⟨e',he',hopen⟩:=hhon.lt_circuitOpenUntil hticks [.complete next error]
      (fun event hevent=>mem_singleton.1 hevent ▸ hne) (by rw [hrun]; rfl)
    rw [hrun,afterFailure,afterFailure,he,Option.map_some,Option.map_some, Option.some.injEq] at he'
    subst he'
    rw [circuitOpenUntil_complete _ ?_ hne htrips] at hopen
    · exact (eq_of_cooldown_lt hticks (h.sending_le other hother) hopen).2
    · rw [count_complete,if_pos ⟨hne,htrips⟩,hcount]
      decide

end

/-- The fifth failure opens the circuit for the cooldown exactly if it comes at a whole second and
all sends began at that tick. -/
theorem run_cooldown_iff (ticks : ℕ) (hticks : 0<ticks) (managerHighWatermark : UInt32)
    (indexed : Bool) (events : List SendEvent) (index start : ℕ) (error : ErrorType)
    (hsending : ((create managerHighWatermark indexed).run ticks events).sending[index]?=
      some start) (hfifth : ((create managerHighWatermark indexed).run ticks events).failures=4)
    (hne : error ≠ .ok) (htrips : transportSendFailureShouldTripCircuit error=true) :
    let s:=(create managerHighWatermark indexed).run ticks events
    (s.step ticks (.complete index error)).CooldownHonoured ticks ∧ s.SuccessCloses ticks ↔
      indexed=true ∧ ticks ∣ s.clock ∧ ∀ other∈s.sending, other=s.clock:=by
  intro s
  have h : s.Timed indexed:=(timed_create managerHighWatermark indexed).run events
  constructor
  · rintro ⟨hhonoured,-⟩
    exact hhonoured.dvd hticks h hsending hfifth hne htrips
  · rintro ⟨rfl,hdvd,hall⟩
    exact ⟨cooldownHonoured_of_dvd hticks h hsending hfifth hne htrips hdvd hall,s.successCloses ticks⟩

def fourFailures : List SendEvent:=
  (replicate 4 [SendEvent.enter readyAttempt,.check 0 true,.complete 0 .sendFailed]).flatten++
    [.enter readyAttempt,.check 0 true]

/-- If the fifth send fails at once as well, at a whole second, the cooldown is honoured. -/
theorem run_cooldown_at_once :
    let s:=(create 8 true).run 1000 fourFailures
    (s.step 1000 (.complete 0 .sendFailed)).CooldownHonoured 1000 ∧ s.SuccessCloses 1000:=
  (run_cooldown_iff 1000 (by decide) 8 true fourFailures 0 0 .sendFailed (by decide) (by decide)
    (by decide) (by decide)).2 ⟨rfl,by decide,by decide⟩

/-- A slow fifth failure does not open the circuit, and one at 0.9 s opens it for 1.1 s only. -/
theorem cooldown_not_honoured :
    (let s:=(create 8 true).run 1 (fourFailures++[.tick 3,.complete 0 .sendFailed])
     s.failures=5 ∧ s.clock=3 ∧ (s.run 1 [.enter readyAttempt]).entering=[3] ∧
      (s.run 1 [.enter readyAttempt]).checkResult 3 true = .ok) ∧
    (let s:=(create 8 true).run 1000 ([.tick 900]++fourFailures++[.complete 0 .sendFailed])
     s.failures=5 ∧ s.clock=900 ∧
      (s.run 1000 [.tick 2000,.enter readyAttempt]).entering=[2000] ∧
      (s.run 1000 [.tick 2000,.enter readyAttempt]).checkResult (2000/1000) true = .ok):=by decide

end SendChannel
end SoftMessageBus
