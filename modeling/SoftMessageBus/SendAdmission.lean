import SoftMessageBus.SendCircuit
import SoftMessageBus.SlotCounts
import SoftMessageBus.StepRuns

/-!
# Send admission of the transport manager

Each transport counts the sends that are on their way, and so does the manager.
-/
namespace SoftMessageBus
open StepRuns

/-- How far a call of `zoo_smb_transport_manager_send_message` has come. -/
inductive SendPhase where
  | reserved
  | overrun
  | turnedAway
  | sending
  | returned (result : ErrorType)
  | settling (result : ErrorType)
  | finished (result : ErrorType)
  deriving DecidableEq

def SendPhase.holdsPlace : SendPhase→Bool
  | .settling _ | .finished _=>false
  | _=>true

def SendPhase.givesBack : SendPhase→Bool
  | .turnedAway | .returned _=>true
  | _=>false

/-- A call over a transport; `now` is the second in which it began. -/
structure ManagedSend (κ : Type*) where
  transport : κ
  now : ℕ
  phase : SendPhase
  deriving DecidableEq

def ManagedSend.share {κ : Type*} [DecidableEq κ] (c : ManagedSend κ) (t : κ) (phase : SendPhase) : ℕ:=
  if c.transport=t ∧ phase.holdsPlace then 1 else 0

structure SendManager (κ : Type*) where
  sendHighWatermark : UInt32
  inFlightSends : UInt32
  entries : κ→Option TransportIndexEntry
  calls : List (ManagedSend κ)

/-- A call asks for a place or takes its next step; watermarks and metrics are set. -/
inductive SendManagerEvent (κ : Type*) where
  | admission (transport : κ) (attempt : SendAttempt) (now : ℕ)
  | advance (index : ℕ) (result : ErrorType)
  | setTransportWatermarks (transport : κ) (high : UInt32)
  | resetMetrics

lemma TransportIndexEntry.inFlightSends_settle (e : TransportIndexEntry) (now : ℕ) (result : ErrorType) :
    (e.settle now result).inFlightSends=e.inFlightSends:=by
  unfold settle
  split
  · rfl
  · split
    · dsimp only
      split <;> rfl
    · rfl

namespace SendManager
variable {κ : Type*} [DecidableEq κ]

/-- The watermark with which `zoo_smb_transport_manager_create` starts. -/
def initialHighWatermark (sendHighWatermark maxThreadQueueSize : UInt32) : UInt32:=
  if sendHighWatermark=0 then if 0 < maxThreadQueueSize then maxThreadQueueSize else 128
  else sendHighWatermark

/-- A manager with its transports, of which some are in the index. -/
def create (sendHighWatermark maxThreadQueueSize : UInt32) (indexed : κ→Bool) :
    SendManager κ where
  sendHighWatermark:=initialHighWatermark sendHighWatermark maxThreadQueueSize
  inFlightSends:=0
  entries t:=
    if indexed t then some ⟨0,0,initialHighWatermark sendHighWatermark maxThreadQueueSize,0⟩
    else none
  calls:=[]

section
variable (m : SendManager κ)

/-- A transport is asked for a place, up to the first `UNLOCK_MANAGER`. -/
def admissionResult (t : κ) (attempt : SendAttempt) (now : ℕ) : ErrorType:=
  if SendChannel.attemptResult attempt ≠ .ok then SendChannel.attemptResult attempt
  else
    match m.entries t with
    | none=>.ok
    | some e=>
      if now<e.circuitOpenUntil then .timeout
      else if (if 0<e.sendHighWatermark then e.sendHighWatermark else m.sendHighWatermark)<
          e.inFlightSends+1 then .queueFull
      else .ok

def modifyEntry (t : κ) (f : TransportIndexEntry→TransportIndexEntry) : SendManager κ:=
  {m with entries:=Function.update m.entries t ((m.entries t).map f)}

def moveTo (index : ℕ) (c : ManagedSend κ) (phase : SendPhase) : SendManager κ:=
  {m with calls:=m.calls.set index {c with phase:=phase} }

def full : Bool:=m.sendHighWatermark < m.inFlightSends+1

def advance (index : ℕ) (c : ManagedSend κ) (result : ErrorType) : SendManager κ:=
  match c.phase with
  | .reserved=>
    {m with inFlightSends:=m.inFlightSends+1}.moveTo index c (if m.full then .overrun else .sending)
  | .overrun=>{m with inFlightSends:=m.inFlightSends-1}.moveTo index c .turnedAway
  | .turnedAway=>
    (m.modifyEntry c.transport fun e=>{e with inFlightSends:=e.inFlightSends-1}).moveTo index c (.finished .queueFull)
  | .sending=>
    {m with inFlightSends:=m.inFlightSends-1}.moveTo index c (.returned result)
  | .returned result=>
    (m.modifyEntry c.transport fun e=>{e with inFlightSends:=e.inFlightSends-1}).moveTo index c (.settling result)
  | .settling result=>
    (m.modifyEntry c.transport fun e=>e.settle c.now result).moveTo index c (.finished result)
  | .finished _=>m

def step : SendManagerEvent κ→SendManager κ
  | .admission t attempt now=>
    if m.admissionResult t attempt now = .ok then
      {m.modifyEntry t fun e=>{e with inFlightSends:=e.inFlightSends+1} with
        calls:=m.calls++[⟨t,now,.reserved⟩]}
    else {m with calls:=m.calls++[⟨t,now,.finished (m.admissionResult t attempt now)⟩]}
  | .advance index result=>
    match m.calls[index]? with
    | none=>m
    | some c=>m.advance index c result
  | .setTransportWatermarks t high=>
    if high=0 then m else m.modifyEntry t fun e=>{e with sendHighWatermark:=high}
  | .resetMetrics=>
    {m with
      entries:=fun t=>(m.entries t).map fun e=>{e with consecutiveSendFailures:=0, inFlightSends:=0, circuitOpenUntil:=0} }

def outstanding (t : κ) : ℕ:=m.calls.countP fun c=>c.transport=t ∧ c.phase.holdsPlace
def Balanced : Prop:=∀ t e, m.entries t=some e→e.inFlightSends.toNat=m.outstanding t

def WrapsBelowZero : SendManagerEvent κ→Prop
  | .advance index _=>∃ c e, m.calls[index]?=some c ∧ c.phase.givesBack ∧
      m.entries c.transport=some e ∧ e.inFlightSends=0
  | _=>False

def RefusesIdle : SendManagerEvent κ→Prop
  | .admission t attempt now=>m.outstanding t=0 ∧ m.admissionResult t attempt now = .queueFull
  | .advance index _=>∃ c, m.calls[index]?=some c ∧ c.phase = .reserved ∧
      m.outstanding c.transport=1 ∧ m.full
  | _=>False

def Accounted (event : SendManagerEvent κ) : Prop:=¬m.WrapsBelowZero event ∧ (m.step event).Balanced ∧ ¬m.RefusesIdle event

/-- Metrics are reset without outstanding sends, no count overflows, and the manager has a place. -/
def Undisturbed : SendManagerEvent κ→Prop
  | .admission t attempt now=>m.admissionResult t attempt now = .ok→(m.entries t).isSome→
      m.outstanding t+1<2^32
  | .advance index _=>∀ c, m.calls[index]?=some c→c.phase = .reserved→
      m.outstanding c.transport=1→¬m.full
  | .setTransportWatermarks _ _=>True
  | .resetMetrics=>∀ t, (m.entries t).isSome→m.outstanding t=0

end

variable {m : SendManager κ} {index : ℕ} {c : ManagedSend κ}

lemma outstanding_append (m : SendManager κ) (c : ManagedSend κ) (t : κ) :
    {m with calls:=m.calls++[c]}.outstanding t=m.outstanding t+c.share t c.phase:=by
  simp only [outstanding,List.countP_append,List.countP_singleton,ManagedSend.share,decide_eq_true_eq]

lemma outstanding_moveTo (hget : m.calls[index]?=some c) (phase : SendPhase) (t : κ) :
    (m.moveTo index c phase).outstanding t+c.share t c.phase=m.outstanding t+c.share t phase:=by
  have hset:=SlotCounts.countP_set_add
    (p:=fun c : ManagedSend κ=>c.transport=t ∧ c.phase.holdsPlace) hget {c with phase:=phase}
  simp only [decide_eq_true_eq] at hset
  exact hset

variable {t : κ}

lemma entries_modifyEntry_self {f : TransportIndexEntry→TransportIndexEntry} :
    (m.modifyEntry t f).entries t=(m.entries t).map f:=
  Function.update_self ..

lemma entries_modifyEntry_of_ne {u : κ} {f : TransportIndexEntry→TransportIndexEntry}
    (h : u≠t) : (m.modifyEntry t f).entries u=m.entries u:=
  Function.update_of_ne h ..

namespace Balanced

section
variable (h : m.Balanced)
include h

lemma modifyEntry (t : κ) {f : TransportIndexEntry→TransportIndexEntry}
    (hf : ∀ e, (f e).inFlightSends=e.inFlightSends) : (m.modifyEntry t f).Balanced:=by
  intro u e' he'
  by_cases hu : u=t
  · subst hu
    rw [entries_modifyEntry_self] at he'
    obtain ⟨e,he,rfl⟩:=Option.map_eq_some_iff.1 he'
    rw [hf]
    exact h u e he
  · rw [entries_modifyEntry_of_ne hu] at he'
    exact h u e' he'

lemma moveTo (hget : m.calls[index]?=some c) {phase : SendPhase}
    (hplace : phase.holdsPlace=c.phase.holdsPlace) : (m.moveTo index c phase).Balanced:=by
  intro t e he
  have hshare : c.share t phase=c.share t c.phase:=by rw [ManagedSend.share,ManagedSend.share,hplace]
  have hmove:=outstanding_moveTo hget phase t
  have hcount : e.inFlightSends.toNat=m.outstanding t:=h t e he
  omega

lemma release (hget : m.calls[index]?=some c) {phase : SendPhase}
    (hheld : c.phase.holdsPlace=true) (hleft : phase.holdsPlace=false) :
    ((m.modifyEntry c.transport fun e=>{e with inFlightSends:=e.inFlightSends-1}).moveTo index c phase).Balanced:=by
  intro t e' he'
  have hmove:=outstanding_moveTo (m:=m.modifyEntry c.transport fun e=>
    {e with inFlightSends:=e.inFlightSends-1}) hget phase t
  have hafter : c.share t phase=0:=if_neg fun hc=>by simp [hleft] at hc
  by_cases ht : t=c.transport
  · subst ht
    have hbefore : c.share c.transport c.phase=1:=if_pos ⟨rfl,hheld⟩
    change (m.modifyEntry c.transport _).entries c.transport=some e' at he'
    rw [entries_modifyEntry_self] at he'
    obtain ⟨e,he,rfl⟩:=Option.map_eq_some_iff.1 he'
    have hcount : e.inFlightSends.toNat=(m.modifyEntry c.transport fun e=>
        {e with inFlightSends:=e.inFlightSends-1}).outstanding c.transport:=h _ e he
    have hone : (1 : UInt32)≤e.inFlightSends:=by
      rw [UInt32.le_iff_toNat_le,UInt32.toNat_one]
      omega
    have hsub : (e.inFlightSends-1).toNat=e.inFlightSends.toNat-1:=UInt32.toNat_sub_of_le _ _ hone
    change (e.inFlightSends-1).toNat=_
    omega
  · have hbefore : c.share t c.phase=0:=if_neg fun hc=>ht hc.1.symm
    change (m.modifyEntry c.transport _).entries t=some e' at he'
    rw [entries_modifyEntry_of_ne ht] at he'
    have hcount : e'.inFlightSends.toNat=(m.modifyEntry c.transport fun e=>
        {e with inFlightSends:=e.inFlightSends-1}).outstanding t:=h t e' he'
    omega

lemma advance (hget : m.calls[index]?=some c) (result : ErrorType) : (m.advance index c result).Balanced:=by
  have hcounts (count : UInt32) : {m with inFlightSends:=count}.Balanced:=h
  unfold SendManager.advance
  split
  next hphase=>
    refine (hcounts _).moveTo hget ?_
    rw [hphase]
    split <;> rfl
  next hphase=>exact (hcounts _).moveTo hget (by rw [hphase]; rfl)
  next hphase=>exact h.release hget (by rw [hphase]; rfl) rfl
  next hphase=>exact (hcounts _).moveTo hget (by rw [hphase]; rfl)
  next hphase=>exact h.release hget (by rw [hphase]; rfl) rfl
  next hphase=>
    exact (h.modifyEntry c.transport fun e=>e.inFlightSends_settle _ _).moveTo hget (by rw [hphase]; rfl)
  · exact h

lemma advance_step (index : ℕ) (result : ErrorType) : (m.step (.advance index result)).Balanced:=by
  rw [step]
  cases hget : m.calls[index]? with
  | none=>exact h
  | some c=>exact h.advance hget result

lemma not_wrapsBelowZero (event : SendManagerEvent κ) : ¬m.WrapsBelowZero event:=by
  cases event with
  | advance index result=>
    rintro ⟨c,e,hget,hgives,he,hzero⟩
    have hheld : c.phase.holdsPlace=true:=by
      cases hphase : c.phase <;> rw [hphase] at hgives <;> first | rfl | cases hgives
    have hpos : 0 < m.outstanding c.transport:=
      List.countP_pos_iff.2 ⟨c,List.mem_of_getElem? hget,decide_eq_true ⟨rfl,hheld⟩⟩
    have hcount:=h c.transport e he
    rw [hzero,UInt32.toNat_zero] at hcount
    omega
  | admission | setTransportWatermarks | resetMetrics=>exact id

lemma admitted_iff (t : κ) (now : ℕ) :
    ({m.modifyEntry t fun e=>{e with inFlightSends:=e.inFlightSends+1} with
        calls:=m.calls++[⟨t,now,.reserved⟩]} : SendManager κ).Balanced ↔
      ((m.entries t).isSome→m.outstanding t+1<2^32):=by
  constructor
  · intro hafter hind
    obtain ⟨e,he⟩:=Option.isSome_iff_exists.1 hind
    have hcount:=hafter t {e with inFlightSends:=e.inFlightSends+1} <| by
      change (m.modifyEntry t _).entries t=_
      rw [entries_modifyEntry_self,he]
      rfl
    have happ:=outstanding_append m ⟨t,now,.reserved⟩ t
    have hshare : (⟨t,now,.reserved⟩ : ManagedSend κ).share t .reserved=1:=if_pos ⟨rfl,rfl⟩
    have hlt:=(e.inFlightSends+1).toNat_lt
    change (e.inFlightSends+1).toNat = {m with calls:=_}.outstanding t at hcount
    rw [hcount,happ,hshare] at hlt
    exact hlt
  · intro hrange u e' he'
    change (m.modifyEntry t _).entries u=some e' at he'
    change e'.inFlightSends.toNat = {m with calls:=_}.outstanding u
    rw [outstanding_append]
    by_cases hu : u=t
    · subst hu
      have hshare : (⟨u,now,.reserved⟩ : ManagedSend κ).share u .reserved=1:=if_pos ⟨rfl,rfl⟩
      rw [entries_modifyEntry_self] at he'
      obtain ⟨e,he,rfl⟩:=Option.map_eq_some_iff.1 he'
      have hlt:=hrange (Option.isSome_iff_exists.2 ⟨e,he⟩)
      have hcount:=h u e he
      change (e.inFlightSends+1).toNat=_
      rw [UInt32.toNat_add,UInt32.toNat_one,hcount,Nat.mod_eq_of_lt hlt]
      exact congrArg (_ + ·) hshare.symm
    · have hshare : (⟨t,now,.reserved⟩ : ManagedSend κ).share u .reserved=0:=if_neg fun hc=>hu hc.1.symm
      rw [entries_modifyEntry_of_ne hu] at he'
      rw [h u e' he']
      exact (Nat.add_eq_left.2 hshare).symm

lemma admit_iff (t : κ) (attempt : SendAttempt) (now : ℕ) :
    (m.step (.admission t attempt now)).Balanced ↔ m.Undisturbed (.admission t attempt now):=by
  rw [step,Undisturbed]
  split
  next hok=>
    rw [h.admitted_iff t now]
    exact ⟨fun hrange _=>hrange,fun hrange=>hrange hok⟩
  next href=>
    refine ⟨fun _ hok=>absurd hok href,fun _ u e he=>?_⟩
    rw [outstanding_append]
    have hshare : (⟨t,now,.finished (m.admissionResult t attempt now)⟩ : ManagedSend κ).share u
        (.finished (m.admissionResult t attempt now))=0:=if_neg fun hc=>nomatch hc.2
    rw [hshare]
    exact h u e he

end

lemma reset_iff (m : SendManager κ) : (m.step .resetMetrics).Balanced ↔ m.Undisturbed .resetMetrics:=by
  rw [Undisturbed]
  constructor
  · intro hafter t hind
    obtain ⟨e,he⟩:=Option.isSome_iff_exists.1 hind
    exact (hafter t _ (congrArg (Option.map _) he)).symm
  · intro hidle t e' he'
    obtain ⟨e,he,rfl⟩:=Option.map_eq_some_iff.1 he'
    exact (hidle t (Option.isSome_iff_exists.2 ⟨e,he⟩)).symm

end Balanced

lemma attemptResult_ne_queueFull (attempt : SendAttempt) :
    SendChannel.attemptResult attempt ≠ .queueFull:=by
  unfold SendChannel.attemptResult
  split
  · exact ErrorType.noConfusion
  · split
    · exact ErrorType.noConfusion
    · split <;> exact ErrorType.noConfusion

lemma admissionResult_ne_queueFull (h : m.Balanced) (hhigh : 0 < m.sendHighWatermark)
    (hidle : m.outstanding t=0) (attempt : SendAttempt) (now : ℕ) :
    m.admissionResult t attempt now ≠ .queueFull:=by
  unfold admissionResult
  split
  · exact attemptResult_ne_queueFull attempt
  · split
    · exact ErrorType.noConfusion
    next e he=>
      have hzero : e.inFlightSends=0:=UInt32.toNat_inj.1 ((h t e he).trans hidle)
      have hroom : 0 < if 0<e.sendHighWatermark then e.sendHighWatermark
          else m.sendHighWatermark:=by
        split
        · assumption
        · exact hhigh
      split
      · exact ErrorType.noConfusion
      · rw [hzero,if_neg]
        · exact ErrorType.noConfusion
        · rw [UInt32.lt_iff_toNat_lt] at hroom ⊢
          exact Nat.not_lt.2 hroom

lemma sendHighWatermark_step (m : SendManager κ) (event : SendManagerEvent κ) :
    (m.step event).sendHighWatermark=m.sendHighWatermark:=by
  cases event with
  | admission | setTransportWatermarks=>
    rw [step]
    split <;> rfl
  | advance index result=>
    rw [step]
    split
    · rfl
    · unfold SendManager.advance
      split <;> rfl
  | resetMetrics=>rfl

lemma accounted_iff (h : m.Balanced) (hhigh : 0 < m.sendHighWatermark)
    (event : SendManagerEvent κ) : m.Accounted event ↔ m.Undisturbed event:=by
  have hwraps:=h.not_wrapsBelowZero event
  cases event with
  | admission t attempt now=>
    rw [← h.admit_iff t attempt now]
    constructor
    · exact fun hacc=>hacc.2.1
    · refine fun hbal=>⟨hwraps,hbal,?_⟩
      rintro ⟨hidle,href⟩
      exact admissionResult_ne_queueFull h hhigh hidle attempt now href
  | advance index result=>
    constructor
    · rintro ⟨-,-,hidle⟩ c hget hphase hsole hfull
      exact hidle ⟨c,hget,hphase,hsole,hfull⟩
    · refine fun hroom=>⟨hwraps,h.advance_step index result,?_⟩
      rintro ⟨c,hget,hphase,hsole,hfull⟩
      exact hroom c hget hphase hsole hfull
  | setTransportWatermarks t high=>
    refine ⟨fun _=>trivial,fun _=>⟨hwraps,?_,id⟩⟩
    rw [step]
    split
    · exact h
    · exact h.modifyEntry t fun _=>rfl
  | resetMetrics=>
    rw [← Balanced.reset_iff]
    exact ⟨fun hacc=>hacc.2.1,fun hbal=>⟨hwraps,hbal,id⟩⟩

lemma initialHighWatermark_pos (sendHighWatermark maxThreadQueueSize : UInt32) :
    0 < initialHighWatermark sendHighWatermark maxThreadQueueSize:=by
  unfold initialHighWatermark
  split
  · split
    · assumption
    · decide
  next hne=>exact UInt32.pos_iff_ne_zero.2 hne

/-- Sends are counted exactly and none is refused alone if and only if nothing disturbs the run. -/
theorem run_accounted_iff (sendHighWatermark maxThreadQueueSize : UInt32) (indexed : κ→Bool)
    (events : List (SendManagerEvent κ)) :
    Along step Accounted (create sendHighWatermark maxThreadQueueSize indexed) events ↔
      Along step Undisturbed (create sendHighWatermark maxThreadQueueSize indexed) events:=by
  refine along_iff_of_invariant (fun m=>m.Balanced ∧ 0 < m.sendHighWatermark) ?_
    (fun m event h=>accounted_iff h.1 h.2 event) ⟨?_,initialHighWatermark_pos _ _⟩ events
  · rintro m event ⟨h,hhigh⟩ hundisturbed
    refine ⟨((accounted_iff h hhigh event).2 hundisturbed).2.1,?_⟩
    rw [sendHighWatermark_step]
    exact hhigh
  · intro t e he
    rw [create] at he
    dsimp only at he
    split at he
    · cases he
      rfl
    · cases he

def resetDuringSends : List (SendManagerEvent Unit):=
  [.admission () SendChannel.readyAttempt 0,.admission () SendChannel.readyAttempt 0,
    .advance 0 .ok,.advance 1 .ok,.resetMetrics,
    .advance 0 .ok,.advance 0 .ok,.advance 0 .ok,
    .advance 1 .ok,.advance 1 .ok,.advance 1 .ok]

/-- After that no send is outstanding, the count is 2³² - 2, and the transport refuses the next
send. -/
theorem reset_during_sends : (let m:=resetDuringSends.foldl step (create 8 0 fun _=>true)
     m.outstanding ()=0 ∧ (m.entries ()).map (·.inFlightSends)=some 0xFFFFFFFE ∧
      m.admissionResult () SendChannel.readyAttempt 0 = .queueFull) ∧
    ¬Along step Accounted (create 8 0 fun _=>true) resetDuringSends:=by
  refine ⟨by decide,fun h=>?_⟩
  obtain ⟨-,-,-,-,⟨-,hbalanced,-⟩,-⟩:=h
  exact absurd (hbalanced () ⟨0,0,8,0⟩ rfl) (by decide)

end SendManager
end SoftMessageBus
