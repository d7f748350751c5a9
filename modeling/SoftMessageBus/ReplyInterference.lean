import SoftMessageBus.QosHistory
import Mathlib.Data.UInt
import Mathlib.Dynamics.PeriodicPts.Lemmas

/-!
# Replies to two clients

Every client process draws its identifiers from the same sequence.
-/
namespace SoftMessageBus
open StepRuns List

/-- The static variables of `zoo_generate_uuid64`. -/
structure UuidGenerator where
  seed : UInt32
  timestampCounter : UInt32

namespace UuidGenerator

def start : UuidGenerator:=⟨1,0⟩
def advance (seed : UInt32) : UInt32:=seed*1103515245+12345
def step (g : UuidGenerator) : UuidGenerator:=⟨advance (advance g.seed),g.timestampCounter+1⟩

/-- What a call of `zoo_generate_uuid64` returns. -/
def generateUuid64 (g : UuidGenerator) : UInt64:=
  let upper:=((g.timestampCounter+1) <<< 16) ||| (advance g.seed &&& 0xFFFF)
  (upper.toUInt64 <<< 32) ||| (advance (advance g.seed)).toUInt64

end UuidGenerator

/-- The identifier that the call with the given number returns in any process. -/
def uuid64 (n : ℕ) : UInt64:=(UuidGenerator.step^[n] .start).generateUuid64

/-- The records of a reliable server; a request has a client and the number of its identifier. -/
structure ReplyServer where
  ctx : QosCtx
  replied : List (Bool × ℕ)
  outstanding : List (Bool × ℕ)

/-- `zoo_smb_server_send_reply` and `server_on_handle_REPLACK_msg_cb`. -/
inductive TwoClientEvent where
  | reply (client : Bool) (request : ℕ) (call : QosCall) (msg : Message)
  | acknowledge (client : Bool) (request : ℕ) (call : QosCall)

namespace ReplyServer

section
variable (s : ReplyServer)

def step : TwoClientEvent→ReplyServer
  | .reply client request call msg=>
    ⟨s.ctx.perform call (.setState (uuid64 request) .created (some msg)),
      (client,request)::s.replied,(client,request)::s.outstanding⟩
  | .acknowledge client request call=>
    {s with
      ctx:=s.ctx.perform call (.setMsgStatus (uuid64 request) .acked)
      outstanding:=s.outstanding.erase (client,request)}

/-- The outstanding requests of the two clients have different records. -/
def Separate : Prop:=∀ request∈s.outstanding, ∀ other∈s.outstanding, request.1≠other.1→uuid64 request.2≠uuid64 other.2

/-- An acknowledgement leaves the status of the replies to the other client as it was. -/
def Untouched : TwoClientEvent→Prop
  | .reply _ _ _ _=>True
  | .acknowledge client request call=>∀ other∈s.replied, other.1≠client→
    ((s.step (.acknowledge client request call)).ctx.findState (uuid64 other.2)).map
        QosState.status=
      ((s.ctx.pruneExpired call.pruneNow).findState (uuid64 other.2)).map QosState.status

/-- No reply uses the identifier of an outstanding request of the other client, and no
acknowledgement that of an unacknowledged reply to it. -/
def OwnIds : TwoClientEvent→Prop
  | .reply client request _ _=>∀ other∈s.outstanding, other.1≠client→
    uuid64 other.2≠uuid64 request
  | .acknowledge client request call=>∀ other∈s.replied, other.1≠client→
    uuid64 other.2=uuid64 request→∀ state,
      (s.ctx.pruneExpired call.pruneNow).findState (uuid64 request)=some state→state.status = .acked

end

variable {s : ReplyServer}

lemma untouched_acknowledge_iff (h : s.ctx.Consistent) (client : Bool) (request : ℕ) (call : QosCall) :
    s.Untouched (.acknowledge client request call) ↔ s.OwnIds (.acknowledge client request call):=by
  refine forall_congr' fun other=>forall_congr' fun _=>forall_congr' fun _=>?_
  rw [step,h.findState_perform]
  simp only [QosOp.requestId,Option.some.injEq]
  by_cases hid : uuid64 request=uuid64 other.2
  · rw [if_pos hid,← hid]
    cases hfind : (s.ctx.pruneExpired call.pruneNow).findState (uuid64 request) with
    | none=>simp [QosOp.record]
    | some state=>simp [QosOp.record,eq_comm]
  · rw [if_neg hid]
    exact iff_of_true rfl fun heq=>absurd heq.symm hid

lemma separate_reply_iff (h : s.Separate) (client : Bool) (request : ℕ) (call : QosCall) (msg : Message) :
    (s.step (.reply client request call msg)).Separate ↔ s.OwnIds (.reply client request call msg):=by
  constructor
  · intro hsep other hother hclient
    exact hsep other (mem_cons_of_mem _ hother) (client,request) mem_cons_self hclient
  · intro hown a ha b hb hne
    rcases mem_cons.1 ha with rfl | ha
    · rcases mem_cons.1 hb with rfl | hb
      · exact absurd rfl hne
      · exact (hown b hb hne.symm).symm
    · rcases mem_cons.1 hb with rfl | hb
      · exact hown a ha hne
      · exact h a ha b hb hne

lemma separate_acknowledge (h : s.Separate) (client : Bool) (request : ℕ) (call : QosCall) :
    (s.step (.acknowledge client request call)).Separate:=
  fun a ha b hb=>h a (mem_of_mem_erase ha) b (mem_of_mem_erase hb)

lemma consistent_step (h : s.ctx.Consistent) (event : TwoClientEvent) : (s.step event).ctx.Consistent:=by
  cases event with
  | reply client request call msg=>
    exact h.perform call (.setState (uuid64 request) .created (some msg))
  | acknowledge client request call=>
    exact h.perform call (.setMsgStatus (uuid64 request) .acked)

lemma unaffected_iff (hctx : s.ctx.Consistent) (h : s.Separate) (event : TwoClientEvent) :
    (s.Untouched event ∧ (s.step event).Separate) ↔ s.OwnIds event:=by
  cases event with
  | reply client request call msg=>
    exact (and_iff_right trivial).trans (separate_reply_iff h client request call msg)
  | acknowledge client request call=>
    rw [and_iff_left (separate_acknowledge h client request call)]
    exact untouched_acknowledge_iff hctx client request call

/-- The clients do not interfere exactly if they use no identifier in common while it matters. -/
theorem clients_separate_iff (policy : QosPolicy) (events : List TwoClientEvent) :
    Along step (fun s event=>s.Untouched event ∧ (s.step event).Separate)
        ⟨.create policy,[],[]⟩ events ↔
      Along step OwnIds ⟨.create policy,[],[]⟩ events:=
  along_iff_of_invariant (fun s=>s.ctx.Consistent ∧ s.Separate)
    (fun _ event h hown=>⟨consistent_step h.1 event,((unaffected_iff h.1 h.2 event).2 hown).2⟩)
    (fun _ event h=>unaffected_iff h.1 h.2 event)
    ⟨QosCtx.consistent_create policy,fun _ h=>absurd h not_mem_nil⟩ events

/-- The first requests of two processes share their identifier and so their record. -/
theorem first_requests_share_record :
    ¬Along step (fun s event=>s.Untouched event ∧ (s.step event).Separate)
      ⟨.create defaultQosPolicy,[],[]⟩
      [.reply true 0 ⟨0,0,true⟩ samplePublication, .reply false 0 ⟨0,0,true⟩ samplePublication]:=by
  rintro ⟨-,⟨-,hseparate⟩,-⟩
  exact hseparate (false,0) mem_cons_self (true,0) (mem_cons_of_mem _ mem_cons_self) Bool.false_ne_true rfl

end ReplyServer

/-! ## The period of the identifiers -/

open Function

open scoped UInt32.CommRing

section
variable {R : Type*} [CommRing R]

variable (p : R × R)

def affine (x : R) : R:=p.1*x+p.2

/-- The coefficients of two steps. -/
def affineTwice : R × R:=(p.1*p.1,p.1*p.2+p.2)

lemma affine_iterate_two : (affine p)^[2]=affine (affineTwice p):=by
  funext x
  simp only [iterate_succ,iterate_zero,comp_apply,id,affine,affineTwice]
  ring

lemma affine_iterate_two_pow (k : ℕ) : (affine p)^[2^k]=affine (affineTwice^[k] p):=by
  induction k generalizing p with
  | zero=>rfl
  | succ k ih=>rw [pow_succ',iterate_mul,affine_iterate_two,ih,iterate_succ_apply]

end
namespace UuidGenerator

lemma advance_eq_affine : advance=affine (1103515245,12345):=by
  funext seed
  rw [advance,affine,mul_comm]

lemma minimalPeriod_advance (seed : UInt32) : minimalPeriod advance seed=2^32:=by
  have : Fact (Nat.Prime 2):=⟨Nat.prime_two⟩
  have hhalf : affineTwice^[31] ((1103515245,12345) : UInt32 × UInt32)=(1,2147483648):=by decide +kernel
  rw [advance_eq_affine]
  refine minimalPeriod_eq_prime_pow (k := 31) (fun h=>?_) ?_
  · rw [IsPeriodicPt,IsFixedPt,affine_iterate_two_pow,hhalf,affine,one_mul] at h
    simp at h
  · rw [IsPeriodicPt,IsFixedPt,affine_iterate_two_pow,iterate_succ_apply',hhalf]
    simp [affine,affineTwice]

lemma seed_step_iterate (n : ℕ) : (step^[n] start).seed=advance^[2*n] 1:=by
  induction n with
  | zero=>rfl
  | succ n ih=>
    rw [iterate_succ_apply',step,ih,Nat.mul_succ,iterate_succ_apply',iterate_succ_apply']

lemma toUInt32_generateUuid64 (g : UuidGenerator) : g.generateUuid64.toUInt32=advance (advance g.seed):=by
  rw [← UInt32.toBitVec_inj]
  ext i hi
  simp [generateUuid64]

lemma advance_advance_odd {seed : UInt32} (h : seed.toNat % 2=1) : (advance (advance seed)).toNat % 2=1:=by
  simp only [advance,UInt32.toNat_add,UInt32.toNat_mul,UInt32.reduceToNat]
  omega

end UuidGenerator

open UuidGenerator

lemma toUInt32_uuid64 (n : ℕ) : (uuid64 n).toUInt32=advance^[2*n] (advance (advance 1)):=by
  rw [uuid64,toUInt32_generateUuid64,seed_step_iterate,← iterate_succ_apply' advance,
    ← iterate_succ_apply' advance,iterate_succ_apply,iterate_succ_apply]

theorem uuid64_distinct_and_ne_zero :
    Injective (fun n : Fin (2^31)=>uuid64 n) ∧ ∀ n : Fin (2^31), uuid64 n≠0:=by
  constructor
  · intro i j h
    have hlow:=congrArg UInt64.toUInt32 h
    simp only [toUInt32_uuid64] at hlow
    rw [iterate_eq_iterate_iff_of_lt_minimalPeriod (by rw [minimalPeriod_advance]; omega)
      (by rw [minimalPeriod_advance]; omega)] at hlow
    exact Fin.ext (by omega)
  · intro n h
    have hodd : ∀ m : ℕ, (advance^[2*m] (advance (advance 1))).toNat % 2=1:=by
      intro m
      induction m with
      | zero=>decide
      | succ m ih=>
        rw [Nat.mul_succ,iterate_succ_apply',iterate_succ_apply']
        exact advance_advance_odd ih
    have hlow:=hodd n
    rw [← toUInt32_uuid64,h] at hlow
    exact absurd hlow (by decide)

end SoftMessageBus
