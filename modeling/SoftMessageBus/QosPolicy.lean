import SoftMessageBus.MessageHeader

/-!
# QoS policies

Policies match when the offer is as strong as the request everywhere.
-/
namespace SoftMessageBus
open ByteEncoding MemoryBlocks

def reliabilityBestEffort : UInt32:=1
def historyKeepLast : UInt32:=1
def durabilityVolatile : UInt32:=1
def livelinessAutomatic : UInt32:=1

structure ReliabilityPolicy where
  kind : UInt32
  maxBlockingTimeMs : UInt64
  attempts : UInt32
  retryIntervalMs : UInt64
  deriving DecidableEq

structure HistoryPolicy where
  kind : UInt32
  depth : UInt32
  deriving DecidableEq

structure DeadlinePolicy where
  deadlineTimeMs : UInt64
  deadlineDurationMs : UInt64
  deriving DecidableEq

structure LivelinessPolicy where
  kind : UInt32
  leaseDurationMs : UInt64
  deriving DecidableEq

structure OwnershipPolicy where
  kind : UInt32
  strength : UInt32
  deriving DecidableEq

structure ResourceLimitsPolicy where
  maxSamples : UInt32
  maxInstances : UInt32
  maxSamplesPerInstance : UInt32
  deriving DecidableEq

/-- `ZOO_SMB_QOS_POLICY_STRUCT`. -/
structure QosPolicy where
  priorityEnabled : Bool
  priorityKind : UInt32
  reliabilityEnabled : Bool
  reliability : ReliabilityPolicy
  historyEnabled : Bool
  history : HistoryPolicy
  durabilityEnabled : Bool
  durabilityKind : UInt32
  deadlineEnabled : Bool
  deadline : DeadlinePolicy
  livelinessEnabled : Bool
  liveliness : LivelinessPolicy
  ownershipEnabled : Bool
  ownership : OwnershipPolicy
  destinationOrderEnabled : Bool
  destinationOrderKind : UInt32
  lifespanEnabled : Bool
  lifespanDurationMs : UInt64
  latencyBudgetEnabled : Bool
  latencyBudgetDurationMs : UInt64
  resourceLimitsEnabled : Bool
  resourceLimits : ResourceLimitsPolicy
  padding : List.Vector UInt8 57
  deriving DecidableEq

/-- `ZOO_SMB_QOS_POLICY_STRUCT_INITIALIZER`, on cleared memory. -/
def defaultQosPolicy : QosPolicy where
  priorityEnabled:=true
  priorityKind:=3
  reliabilityEnabled:=true
  reliability:=⟨reliabilityBestEffort,5000,3,1000⟩
  historyEnabled:=false
  history:=⟨historyKeepLast,0⟩
  durabilityEnabled:=false
  durabilityKind:=durabilityVolatile
  deadlineEnabled:=true
  deadline:=⟨0,5000⟩
  livelinessEnabled:=false
  liveliness:=⟨livelinessAutomatic,30000⟩
  ownershipEnabled:=false
  ownership:=⟨1,0⟩
  destinationOrderEnabled:=false
  destinationOrderKind:=1
  lifespanEnabled:=false
  lifespanDurationMs:=0
  latencyBudgetEnabled:=false
  latencyBudgetDurationMs:=0
  resourceLimitsEnabled:=false
  resourceLimits:=⟨1024,1,1024⟩
  padding:=.replicate 57 0

/-- `sizeof(ZOO_SMB_QOS_POLICY_STRUCT)` on a 64-bit host. -/
def qosPolicySize : ℕ:=176

namespace QosPolicy

def loadFlag (mem : Bytes) (offset : ℕ) : Bool:=decide (slice mem offset 1≠[0])

def gaps (mem : Bytes) : Bytes:=
  slice mem 1 3++slice mem 9 7++slice mem 20 4++slice mem 36 4++slice mem 49 3++
  slice mem 61 3++slice mem 69 3++slice mem 89 7++slice mem 100 4++slice mem 113 3++
  slice mem 125 3++slice mem 133 3++slice mem 145 7++slice mem 161 3

/-- The policy that a block of memory holds; the offsets are those of a 64-bit host. -/
def ofMemory (e : Endian) (mem : Bytes) : QosPolicy where
  priorityEnabled:=loadFlag mem 0
  priorityKind:=load e (slice mem 4 4)
  reliabilityEnabled:=loadFlag mem 8
  reliability:=⟨load e (slice mem 16 4),load e (slice mem 24 8),load e (slice mem 32 4),load e (slice mem 40 8)⟩
  historyEnabled:=loadFlag mem 48
  history:=⟨load e (slice mem 52 4),load e (slice mem 56 4)⟩
  durabilityEnabled:=loadFlag mem 60
  durabilityKind:=load e (slice mem 64 4)
  deadlineEnabled:=loadFlag mem 68
  deadline:=⟨load e (slice mem 72 8),load e (slice mem 80 8)⟩
  livelinessEnabled:=loadFlag mem 88
  liveliness:=⟨load e (slice mem 96 4),load e (slice mem 104 8)⟩
  ownershipEnabled:=loadFlag mem 112
  ownership:=⟨load e (slice mem 116 4),load e (slice mem 120 4)⟩
  destinationOrderEnabled:=loadFlag mem 124
  destinationOrderKind:=load e (slice mem 128 4)
  lifespanEnabled:=loadFlag mem 132
  lifespanDurationMs:=load e (slice mem 136 8)
  latencyBudgetEnabled:=loadFlag mem 144
  latencyBudgetDurationMs:=load e (slice mem 152 8)
  resourceLimitsEnabled:=loadFlag mem 160
  resourceLimits:=⟨load e (slice mem 164 4),load e (slice mem 168 4),load e (slice mem 172 4)⟩
  padding:=charArray (gaps mem) 0 57

variable (offered requested : QosPolicy)

def isReliabilityCompatible : Bool:=
  let offeredKind:=
    if offered.reliabilityEnabled then offered.reliability.kind else reliabilityBestEffort
  let requestedKind:=
    if requested.reliabilityEnabled then requested.reliability.kind else reliabilityBestEffort
  decide (requestedKind≤offeredKind)

def isDurabilityCompatible : Bool:=
  let offeredKind:=if offered.durabilityEnabled then offered.durabilityKind else durabilityVolatile
  let requestedKind:=
    if requested.durabilityEnabled then requested.durabilityKind else durabilityVolatile
  decide (requestedKind≤offeredKind)

def isDeadlineCompatible : Bool:=
  if !requested.deadlineEnabled then true
  else if !offered.deadlineEnabled then false
  else decide (offered.deadline.deadlineDurationMs≤requested.deadline.deadlineDurationMs)

def isLivelinessCompatible : Bool:=
  let offeredKind:=if offered.livelinessEnabled then offered.liveliness.kind else livelinessAutomatic
  let requestedKind:=
    if requested.livelinessEnabled then requested.liveliness.kind else livelinessAutomatic
  if offeredKind < requestedKind then false
  else if !requested.livelinessEnabled then true
  else decide (offered.liveliness.leaseDurationMs≤requested.liveliness.leaseDurationMs)

def isHistoryCompatible : Bool:=
  if !requested.historyEnabled then true
  else if !offered.historyEnabled then false
  else if offered.history.kind < requested.history.kind then false
  else if requested.history.kind=historyKeepLast then
    decide (requested.history.depth≤offered.history.depth)
  else true

/-- The ownership test of `zoo_smb_qos_policy_match`. -/
def isOwnershipCompatible : Bool:=
  !requested.ownershipEnabled || offered.ownershipEnabled && offered.ownership.kind == requested.ownership.kind

/-- The destination order test of `zoo_smb_qos_policy_match`. -/
def isDestinationOrderCompatible : Bool:=
  !requested.destinationOrderEnabled ||
    offered.destinationOrderEnabled && !decide (offered.destinationOrderKind < requested.destinationOrderKind)

/-- The resource limits test of `zoo_smb_qos_policy_match`. -/
def isResourceLimitsCompatible : Bool:=
  !requested.resourceLimitsEnabled ||
    offered.resourceLimitsEnabled &&
      !(decide (offered.resourceLimits.maxSamples < requested.resourceLimits.maxSamples) ||
        decide (offered.resourceLimits.maxInstances < requested.resourceLimits.maxInstances) ||
        decide (offered.resourceLimits.maxSamplesPerInstance < requested.resourceLimits.maxSamplesPerInstance))

/-- The latency budget test of `zoo_smb_qos_policy_match`. -/
def isLatencyBudgetCompatible : Bool:=
  !requested.latencyBudgetEnabled ||
    offered.latencyBudgetEnabled && !decide (requested.latencyBudgetDurationMs<offered.latencyBudgetDurationMs)

/-- The lifespan test of `zoo_smb_qos_policy_match`. -/
def isLifespanCompatible : Bool:=
  !requested.lifespanEnabled ||
    offered.lifespanEnabled && !decide (offered.lifespanDurationMs < requested.lifespanDurationMs)

end QosPolicy

/-- `ZOO_SMB_QOS_MATCH_RESULT_STRUCT`. -/
structure QosMatchResult where
  compatible : Bool
  incompatibleMask : UInt32
  deriving DecidableEq

/-- The tests of a match and the bits of `ZOO_SMB_QOS_INCOMPATIBILITY_MASK_ENUM` that they
report. -/
def qosMatchTests : List ((QosPolicy→QosPolicy→Bool) × UInt32):=
  [(QosPolicy.isReliabilityCompatible,1),(QosPolicy.isDurabilityCompatible,2),
   (QosPolicy.isDeadlineCompatible,4),(QosPolicy.isLivelinessCompatible,8),
   (QosPolicy.isHistoryCompatible,16),(QosPolicy.isOwnershipCompatible,32),
   (QosPolicy.isDestinationOrderCompatible,64),(QosPolicy.isResourceLimitsCompatible,128),
   (QosPolicy.isLatencyBudgetCompatible,256),(QosPolicy.isLifespanCompatible,512)]

/-- `zoo_smb_qos_policy_match` on two policies. -/
def qosPolicyMatch (offered requested : QosPolicy) : QosMatchResult:=
  let incompatibleMask:=qosMatchTests.foldl
    (fun mask test=>if test.1 offered requested then mask else mask ||| test.2) 0
  ⟨incompatibleMask == 0,incompatibleMask⟩

/-! ## Matching policies -/

open List

namespace QosPolicy

/-- `zoo_smb_qos_policy_is_valid` on a policy. -/
def isValid (p : QosPolicy) : Bool:=
  (!p.priorityEnabled || decide (p.priorityKind≤5)) &&
  (!p.reliabilityEnabled || decide (p.reliability.kind≤3)) &&
  (!p.historyEnabled || decide (p.history.kind≤3)) &&
  (!p.durabilityEnabled || decide (p.durabilityKind≤4)) &&
  (!p.deadlineEnabled || p.deadline.deadlineDurationMs != 0) &&
  (!p.livelinessEnabled || decide (0<p.liveliness.kind) && decide (p.liveliness.kind<3) &&
    p.liveliness.leaseDurationMs != 0) &&
  (!p.ownershipEnabled || decide (0<p.ownership.kind) && decide (p.ownership.kind<3)) &&
  (!p.destinationOrderEnabled || decide (0<p.destinationOrderKind) && decide (p.destinationOrderKind<3)) &&
  !(p.lifespanEnabled && p.lifespanDurationMs == 0) &&
  !(p.latencyBudgetEnabled && p.latencyBudgetDurationMs == 0) &&
  (!p.resourceLimitsEnabled ||
    p.resourceLimits.maxSamples != 0 && p.resourceLimits.maxInstances != 0 &&
    p.resourceLimits.maxSamplesPerInstance != 0 &&
    !(p.historyEnabled && p.history.kind == historyKeepLast &&
      decide (p.resourceLimits.maxSamplesPerInstance<p.history.depth)))

def demand {α : Type*} (enabled : Bool) (value : α) : WithBot α:=if enabled then value else ⊥

abbrev Rank : Type:=ℕ × ℕ × WithBot ℕᵒᵈ × WithBot ℕ × WithBot (ℕ × ℕ × ℕ) × WithBot ℕᵒᵈ × WithBot ℕ

def rank (p : QosPolicy) : Rank:=
  ((if p.reliabilityEnabled then p.reliability.kind else reliabilityBestEffort).toNat,
    (if p.durabilityEnabled then p.durabilityKind else durabilityVolatile).toNat,
    demand p.deadlineEnabled (OrderDual.toDual p.deadline.deadlineDurationMs.toNat),
    demand p.destinationOrderEnabled p.destinationOrderKind.toNat,
    demand p.resourceLimitsEnabled (p.resourceLimits.maxSamples.toNat,
      p.resourceLimits.maxInstances.toNat, p.resourceLimits.maxSamplesPerInstance.toNat),
    demand p.latencyBudgetEnabled (OrderDual.toDual p.latencyBudgetDurationMs.toNat),
    demand p.lifespanEnabled p.lifespanDurationMs.toNat)

def livelinessLevel (p : QosPolicy) : UInt32:=if p.livelinessEnabled then p.liveliness.kind else livelinessAutomatic

lemma demand_le_demand {α : Type*} [Preorder α] {requested offered : Bool} {a b : α} :
    demand requested a≤demand offered b ↔ (requested=true → offered=true ∧ a≤b):=by
  cases requested <;> cases offered <;> simp [demand]

section
variable {offered requested : QosPolicy}

lemma isReliabilityCompatible_iff :
    isReliabilityCompatible offered requested=true ↔ requested.rank.1≤offered.rank.1:=by
  simp only [isReliabilityCompatible,rank,decide_eq_true_eq,UInt32.le_iff_toNat_le]

lemma isDurabilityCompatible_iff :
    isDurabilityCompatible offered requested=true ↔ requested.rank.2.1≤offered.rank.2.1:=by
  simp only [isDurabilityCompatible,rank,decide_eq_true_eq,UInt32.le_iff_toNat_le]

lemma isDeadlineCompatible_iff :
    isDeadlineCompatible offered requested=true ↔ requested.rank.2.2.1≤offered.rank.2.2.1:=by
  simp only [isDeadlineCompatible,rank,demand_le_demand,OrderDual.toDual_le_toDual]
  cases requested.deadlineEnabled <;> cases offered.deadlineEnabled <;> simp [UInt64.le_iff_toNat_le]

lemma isDestinationOrderCompatible_iff :
    isDestinationOrderCompatible offered requested=true ↔ requested.rank.2.2.2.1≤offered.rank.2.2.2.1:=by
  simp only [isDestinationOrderCompatible,rank,demand_le_demand]
  cases requested.destinationOrderEnabled <;> cases offered.destinationOrderEnabled <;> simp [UInt32.le_iff_toNat_le]

lemma isResourceLimitsCompatible_iff :
    isResourceLimitsCompatible offered requested=true ↔ requested.rank.2.2.2.2.1≤offered.rank.2.2.2.2.1:=by
  simp only [isResourceLimitsCompatible,rank,demand_le_demand,Prod.mk_le_mk]
  cases requested.resourceLimitsEnabled <;> cases offered.resourceLimitsEnabled <;> simp [UInt32.le_iff_toNat_le,and_assoc]

lemma isLatencyBudgetCompatible_iff :
    isLatencyBudgetCompatible offered requested=true ↔ requested.rank.2.2.2.2.2.1≤offered.rank.2.2.2.2.2.1:=by
  simp only [isLatencyBudgetCompatible,rank,demand_le_demand,OrderDual.toDual_le_toDual]
  cases requested.latencyBudgetEnabled <;> cases offered.latencyBudgetEnabled <;> simp [UInt64.le_iff_toNat_le]

lemma isLifespanCompatible_iff :
    isLifespanCompatible offered requested=true ↔ requested.rank.2.2.2.2.2.2≤offered.rank.2.2.2.2.2.2:=by
  simp only [isLifespanCompatible,rank,demand_le_demand]
  cases requested.lifespanEnabled <;> cases offered.lifespanEnabled <;> simp [UInt64.le_iff_toNat_le]

lemma isOwnershipCompatible_iff :
    isOwnershipCompatible offered requested=true ↔ (requested.ownershipEnabled=true→
      offered.ownershipEnabled=true ∧ offered.ownership.kind=requested.ownership.kind):=by
  unfold isOwnershipCompatible
  cases requested.ownershipEnabled <;> cases offered.ownershipEnabled <;> simp

lemma isLivelinessCompatible_iff :
    isLivelinessCompatible offered requested=true ↔
      requested.livelinessLevel≤offered.livelinessLevel ∧ (requested.livelinessEnabled=true→
        offered.liveliness.leaseDurationMs≤requested.liveliness.leaseDurationMs):=by
  change (if offered.livelinessLevel < requested.livelinessLevel then false else
    if !requested.livelinessEnabled then true else
      decide (offered.liveliness.leaseDurationMs≤requested.liveliness.leaseDurationMs))=true ↔ _
  rw [← UInt32.not_lt]
  by_cases hlevel : offered.livelinessLevel < requested.livelinessLevel
  · simp [hlevel]
  · cases requested.livelinessEnabled <;> simp [hlevel]

lemma isHistoryCompatible_iff :
    isHistoryCompatible offered requested=true ↔ (requested.historyEnabled=true→
      offered.historyEnabled=true ∧ requested.history.kind≤offered.history.kind ∧
        (requested.history.kind=historyKeepLast → requested.history.depth≤offered.history.depth)):=by
  unfold isHistoryCompatible
  rw [← UInt32.not_lt (a:=offered.history.kind)]
  cases requested.historyEnabled <;> cases offered.historyEnabled <;>
    by_cases hkind : offered.history.kind < requested.history.kind <;>
    by_cases hlast : requested.history.kind=historyKeepLast <;> simp [hkind,hlast]

end

def Matches (offered requested : QosPolicy) : Prop:=
  (qosPolicyMatch offered requested).compatible=true
  deriving Decidable

lemma foldl_mask_eq_zero_iff (offered requested : QosPolicy)
    (tests : List ((QosPolicy→QosPolicy→Bool) × UInt32)) (hbits : ∀ test∈tests, test.2≠0) (mask : UInt32) :
    tests.foldl (fun mask test=>if test.1 offered requested then mask else mask ||| test.2)
        mask=0 ↔
      mask=0 ∧ ∀ test∈tests, test.1 offered requested=true:=by
  induction tests generalizing mask with
  | nil=>simp
  | cons test tests ih=>
    obtain ⟨hbit,hbits⟩:=forall_mem_cons.1 hbits
    rw [foldl_cons,ih hbits,forall_mem_cons]
    cases htest : test.1 offered requested with
    | true=>simp
    | false=>simp [UInt32.or_eq_zero_iff,hbit]

lemma qosMatchTests_bits : ∀ test∈qosMatchTests, test.2≠0:=by simp [qosMatchTests]

lemma matches_iff {offered requested : QosPolicy} :
    Matches offered requested ↔ requested.rank≤offered.rank ∧
      isOwnershipCompatible offered requested=true ∧
      isLivelinessCompatible offered requested=true ∧
      isHistoryCompatible offered requested=true:=by
  rw [Matches,qosPolicyMatch,beq_iff_eq,foldl_mask_eq_zero_iff offered requested qosMatchTests qosMatchTests_bits]
  simp only [qosMatchTests,forall_mem_cons,not_mem_nil,false_implies,implies_true,
    true_and,and_true,isReliabilityCompatible_iff,isDurabilityCompatible_iff,
    isDeadlineCompatible_iff,isDestinationOrderCompatible_iff,isResourceLimitsCompatible_iff,
    isLatencyBudgetCompatible_iff,isLifespanCompatible_iff,Prod.le_def]
  tauto

lemma matches_refl (p : QosPolicy) : Matches p p:=by
  refine matches_iff.2 ⟨le_rfl,?_,?_,?_⟩
  · exact isOwnershipCompatible_iff.2 fun hen=>⟨hen,rfl⟩
  · exact isLivelinessCompatible_iff.2 ⟨UInt32.le_refl _,fun _=>UInt64.le_refl _⟩
  · exact isHistoryCompatible_iff.2 fun hen=>⟨hen,UInt32.le_refl _,fun _=>UInt32.le_refl _⟩

/-- Over a policy without liveliness the lease of the first is short enough for the last. -/
def LeaseCarries (first second third : QosPolicy) : Prop:=
  third.livelinessEnabled=true→second.livelinessEnabled=false→
    first.liveliness.leaseDurationMs≤third.liveliness.leaseDurationMs

/-- Over a policy that keeps more than the last samples the depth is enough. -/
def DepthCarries (first second third : QosPolicy) : Prop:=
  third.historyEnabled=true→third.history.kind=historyKeepLast→
    second.history.kind≠historyKeepLast→third.history.depth≤first.history.depth

section
variable {first second third : QosPolicy}

lemma isOwnershipCompatible_trans (h₁ : isOwnershipCompatible first second=true)
    (h₂ : isOwnershipCompatible second third=true) : isOwnershipCompatible first third=true:=by
  rw [isOwnershipCompatible_iff] at h₁ h₂ ⊢
  intro hen
  obtain ⟨hsec,hkind₂⟩:=h₂ hen
  obtain ⟨hfirst,hkind₁⟩:=h₁ hsec
  exact ⟨hfirst,hkind₁.trans hkind₂⟩

lemma isLivelinessCompatible_trans_iff (h₁ : isLivelinessCompatible first second=true)
    (h₂ : isLivelinessCompatible second third=true) :
    isLivelinessCompatible first third=true ↔ LeaseCarries first second third:=by
  rw [isLivelinessCompatible_iff] at h₁ h₂ ⊢
  constructor
  · exact fun h hen _=>h.2 hen
  · intro hlease
    refine ⟨UInt32.le_trans h₂.1 h₁.1,fun hen=>?_⟩
    cases hsec : second.livelinessEnabled with
    | true=>exact UInt64.le_trans (h₁.2 hsec) (h₂.2 hen)
    | false=>exact hlease hen hsec

lemma isHistoryCompatible_trans_iff (h₁ : isHistoryCompatible first second=true)
    (h₂ : isHistoryCompatible second third=true) :
    isHistoryCompatible first third=true ↔ DepthCarries first second third:=by
  rw [isHistoryCompatible_iff] at h₁ h₂ ⊢
  constructor
  · exact fun h hen hlast _=>(h hen).2.2 hlast
  · intro hdepth hen
    obtain ⟨hsec,hkind₂,hdepth₂⟩:=h₂ hen
    obtain ⟨hfirst,hkind₁,hdepth₁⟩:=h₁ hsec
    refine ⟨hfirst,UInt32.le_trans hkind₂ hkind₁,fun hlast=>?_⟩
    by_cases hbetween : second.history.kind=historyKeepLast
    · exact UInt32.le_trans (hdepth₂ hlast) (hdepth₁ hbetween)
    · exact hdepth hen hlast hbetween

lemma matches_trans_iff (h₁ : Matches first second) (h₂ : Matches second third) :
    Matches first third ↔ LeaseCarries first second third ∧ DepthCarries first second third:=by
  rw [matches_iff] at h₁ h₂ ⊢
  obtain ⟨hrank₁,hown₁,hlive₁,hhist₁⟩:=h₁
  obtain ⟨hrank₂,hown₂,hlive₂,hhist₂⟩:=h₂
  rw [isLivelinessCompatible_trans_iff hlive₁ hlive₂,isHistoryCompatible_trans_iff hhist₁ hhist₂]
  constructor
  · exact fun h=>⟨h.2.2.1,h.2.2.2⟩
  · exact fun h=>⟨hrank₂.trans hrank₁,isOwnershipCompatible_trans hown₁ hown₂,h.1,h.2⟩

end
end QosPolicy

/-- `zoo_smb_qos_policy_match`. -/
def qosPolicyMatchHandles (offered requested : Option QosPolicy) : Bool × QosMatchResult:=
  match offered, requested with
  | some offered, some requested=>
    ((qosPolicyMatch offered requested).incompatibleMask == 0,qosPolicyMatch offered requested)
  | _, _=>(false,⟨false,0xFFFFFFFF⟩)

lemma qosPolicyMatchHandles_agree (offered requested : Option QosPolicy) :
    ((qosPolicyMatchHandles offered requested).2.compatible=true ↔
        (qosPolicyMatchHandles offered requested).2.incompatibleMask=0) ∧
      ((qosPolicyMatchHandles offered requested).2.compatible=true ↔ (qosPolicyMatchHandles offered requested).1=true):=by
  cases offered with
  | none=>exact ⟨by simp [qosPolicyMatchHandles],Iff.rfl⟩
  | some offered=>
    cases requested with
    | none=>exact ⟨by simp [qosPolicyMatchHandles],Iff.rfl⟩
    | some requested=>exact ⟨beq_iff_eq,Iff.rfl⟩

namespace QosPolicy

/-- Valid policies match themselves, and matches compose exactly when leases and depths carry. -/
theorem match_preorder_iff (first second third : QosPolicy) (offered requested : Option QosPolicy) :
    (first.isValid=true→Matches first first) ∧
    (first.isValid=true→second.isValid=true→third.isValid=true→
      ((Matches first second→Matches second third→Matches first third) ↔
        (Matches first second→Matches second third→ LeaseCarries first second third ∧ DepthCarries first second third))) ∧
    let result:=qosPolicyMatchHandles offered requested
    (result.2.compatible=true ↔ result.2.incompatibleMask=0) ∧ (result.2.compatible=true ↔ result.1=true):=by
  refine ⟨fun _=>matches_refl first,fun _ _ _=>?_, qosPolicyMatchHandles_agree offered requested⟩
  constructor
  · exact fun h h₁ h₂=>(matches_trans_iff h₁ h₂).1 (h h₁ h₂)
  · exact fun h h₁ h₂=>(matches_trans_iff h₁ h₂).2 (h h₁ h₂)

def sampleLease (enabled : Bool) (leaseDurationMs : UInt64) : QosPolicy:=
  {defaultQosPolicy with
    livelinessEnabled:=enabled
    liveliness:=⟨livelinessAutomatic,leaseDurationMs⟩}

def sampleHistory (kind depth : UInt32) : QosPolicy:=
  {defaultQosPolicy with
    historyEnabled:=true
    history:=⟨kind,depth⟩}

/-- A long lease passes over no liveliness for a short one, and so does a depth of zero. -/
theorem match_not_transitive :
    ((sampleLease true 30000).isValid=true ∧ (sampleLease false 0).isValid=true ∧
      (sampleLease true 1000).isValid=true ∧
      Matches (sampleLease true 30000) (sampleLease false 0) ∧
      Matches (sampleLease false 0) (sampleLease true 1000) ∧
      ¬Matches (sampleLease true 30000) (sampleLease true 1000)) ∧
    ((sampleHistory 2 0).isValid=true ∧ (sampleHistory 2 10).isValid=true ∧
      (sampleHistory historyKeepLast 5).isValid=true ∧
      Matches (sampleHistory 2 0) (sampleHistory 2 10) ∧
      Matches (sampleHistory 2 10) (sampleHistory historyKeepLast 5) ∧
      ¬Matches (sampleHistory 2 0) (sampleHistory historyKeepLast 5)):=by decide +kernel

end QosPolicy

end SoftMessageBus
