import SoftMessageBus.Node
import SoftMessageBus.BucketIndex
import SoftMessageBus.StepRuns
import Mathlib.Data.List.Find

/-!
# Routing rules

A rule ties a transport to the observers of the node for which it was made.
-/
namespace SoftMessageBus
open BucketIndex

/-- `ZOO_SMB_TRANSPORT_TYPE_TO_STRING`. -/
def TransportType.toCString : TransportType→CString
  | .udp=>⟨[85,68,80],by decide⟩
  | .udpBroadcast=>⟨[85,68,80,95,66,82,79,65,68,67,65,83,84],by decide⟩
  | .tcp=>⟨[84,67,80],by decide⟩
  | .shm=>⟨[83,72,77],by decide⟩

/-- `zoo_smb_make_name_3`. -/
def makeName3 (part1 part2 : CString) (transportType : TransportType) : CString:=
  let underscore : CString:=⟨[95],by decide⟩
  ((((part1.append underscore).append part2).append underscore).append transportType.toCString).truncate 255

/-- `ZOO_SMB_RULE_STRUCT`. -/
structure RoutingRule where
  addr : ℕ
  name : CString
  transport : ℕ
  incomingDataObservers : ℕ
  deriving DecidableEq

def maxRuleListSize : ℕ:=256

/-- The size of the lists that `zoo_smb_create_rule_manager` creates for its buckets. -/
def ruleBucketCapacity : ℕ:=8

/-- `ZOO_SMB_RULE_MANAGER_STRUCT`. -/
structure RuleManager where
  rules : List RoutingRule
  ruleList : List ℕ
  ruleIndexBuckets : Index CString 257
  nextAddr : ℕ

def ruleIndexHash (key : CString) : Fin 257:=nameIndexHash key

namespace RuleManager

def create : RuleManager:=⟨[],[],fun _=>[],0⟩

variable (m : RuleManager)

def ruleAt (addr : ℕ) : Option RoutingRule:=m.rules.find? fun rule=>rule.addr=addr

/-- `rule_index_upsert_locked`, whose callers ignore a failure. -/
def indexUpsert (alloc : Bool) (ruleName : CString) (addr : ℕ) : RuleManager:=
  {m with
    ruleIndexBuckets:=(upsert ruleIndexHash ruleBucketCapacity alloc m.ruleIndexBuckets ruleName
      addr).getD m.ruleIndexBuckets}

/-- `find_rule_by_name`. -/
def findRuleByName (alloc : Bool) (ruleName : CString) : Option ℕ × RuleManager:=
  match find ruleIndexHash m.ruleIndexBuckets ruleName with
  | some addr=>(some addr,m)
  | none=>
    match m.ruleList.find? fun addr=>(m.ruleAt addr).any fun rule=>rule.name=ruleName with
    | some addr=>(some addr,m.indexUpsert alloc ruleName addr)
    | none=>(none,m)

/-- The rule that `zoo_smb_rule_manager_make_rule` creates for an unknown name. -/
def addRule (indexAlloc : Bool) (ruleName : CString) (transport observers : ℕ) : RuleManager:=
  let rule : RoutingRule:=⟨m.nextAddr,ruleName.truncate 63,transport,observers⟩
  let ruleList:=
    if m.ruleList.length < maxRuleListSize then m.ruleList++[rule.addr] else m.ruleList
  {m with rules:=m.rules++[rule], ruleList, nextAddr:=m.nextAddr+1}.indexUpsert indexAlloc rule.name rule.addr

/-- `zoo_smb_rule_manager_make_rule` for a node whose observer list is `observers`. -/
def makeRule (ruleAlloc indexAlloc : Bool) (node : Node) (transport : Option ℕ) (observers : ℕ) : Option ℕ × RuleManager:=
  match transport with
  | none=>(none,m)
  | some transport=>
    let ruleName:=makeName3 node.target node.topic node.transportType
    match m.findRuleByName indexAlloc ruleName with
    | (some addr,m)=>(some addr,m)
    | (none,m)=>
      if ruleAlloc then (some m.nextAddr,m.addRule indexAlloc ruleName transport observers)
      else (none,m)

lemma rules_findRuleByName (alloc : Bool) (ruleName : CString) :
    (m.findRuleByName alloc ruleName).2.rules=m.rules:=by
  unfold findRuleByName
  split
  · rfl
  · split <;> rfl

/-- Rules stay where they are. -/
lemma ruleAt_makeRule {m : RuleManager} {ruleAlloc indexAlloc : Bool} {node : Node} {transport : Option ℕ}
    {observers addr : ℕ} {rule : RoutingRule} (h : m.ruleAt addr=some rule) :
    (m.makeRule ruleAlloc indexAlloc node transport observers).2.ruleAt addr=some rule:=by
  unfold makeRule
  split
  · exact h
  · have hrules:=m.rules_findRuleByName indexAlloc (makeName3 node.target node.topic node.transportType)
    dsimp only
    split
    next heq=>
      rw [heq] at hrules
      rw [ruleAt,hrules]
      exact h
    next heq=>
      rw [heq] at hrules
      split
      · rw [ruleAt,addRule,indexUpsert,List.find?_append,hrules,← ruleAt,h]
        rfl
      · rw [ruleAt,hrules]
        exact h

end RuleManager

/-! ## Looking rules up -/

open StepRuns List

/-- The operations on a rule manager, with the outcomes of their allocations. -/
inductive RuleCall where
  | make (ruleAlloc indexAlloc : Bool) (node : Node) (transport : Option ℕ) (observers : ℕ)
  | create (name : CString) (transport observers : ℕ)
  | add (indexAlloc : Bool) (rule : ℕ)
  | get (indexAlloc : Bool) (ruleName : CString)
  | remove (rule : ℕ)

namespace RuleManager

section
variable (m : RuleManager)

/-- `zoo_smb_create_routing_rule`. -/
def createRoutingRule (name : CString) (transport observers : ℕ) : RuleManager:=
  {m with
    rules:=m.rules++[⟨m.nextAddr,name.truncate 63,transport,observers⟩]
    nextAddr:=m.nextAddr+1}

def enlist (indexAlloc : Bool) (ruleName : CString) (rule : ℕ) : RuleManager:=
  {m with ruleList:=m.ruleList++[rule]}.indexUpsert indexAlloc ruleName rule

def addGivenRule (indexAlloc : Bool) (rule : ℕ) : ErrorType × RuleManager:=
  match m.ruleAt rule with
  | none=>(.invalidParam,m)
  | some given=>
    match m.findRuleByName indexAlloc given.name with
    | (some _,m)=>(.ok,m)
    | (none,m)=>
      if m.ruleList.length < maxRuleListSize then (.ok,m.enlist indexAlloc given.name rule)
      else (.operationFailed,m)

def getRule (indexAlloc : Bool) (ruleName : CString) : Option ℕ × RuleManager:=m.findRuleByName indexAlloc ruleName

/-- `zoo_smb_rule_manager_remove_rule`. -/
def removeRule (rule : ℕ) : ErrorType × RuleManager:=
  match m.ruleAt rule with
  | none=>(.invalidParam,m)
  | some given=>
    if rule∈m.ruleList then
      (.ok, {m with
        rules:=m.rules.eraseP fun r=>r.addr=rule
        ruleList:=m.ruleList.erase rule
        ruleIndexBuckets:=remove ruleIndexHash m.ruleIndexBuckets given.name})
    else (.notFound,m)

/-- The manager after an operation. -/
def step : RuleCall→RuleManager
  | .make ruleAlloc indexAlloc node transport observers=>
    (m.makeRule ruleAlloc indexAlloc node transport observers).2
  | .create name transport observers=>m.createRoutingRule name transport observers
  | .add indexAlloc rule=>(m.addGivenRule indexAlloc rule).2
  | .get indexAlloc ruleName=>(m.getRule indexAlloc ruleName).2
  | .remove rule=>(m.removeRule rule).2

def nameAt (addr : ℕ) : Option CString:=(m.ruleAt addr).map RoutingRule.name

def known (ruleName : CString) : Option ℕ:=
  (find ruleIndexHash m.ruleIndexBuckets ruleName).or (m.ruleList.find? fun addr=>m.nameAt addr=some ruleName)

lemma addRule_eq (indexAlloc : Bool) (ruleName : CString) (transport observers : ℕ) :
    m.addRule indexAlloc ruleName transport observers=
      if m.ruleList.length < maxRuleListSize then
        (m.createRoutingRule ruleName transport observers).enlist indexAlloc (ruleName.truncate 63) m.nextAddr
      else
        (m.createRoutingRule ruleName transport observers).indexUpsert indexAlloc (ruleName.truncate 63) m.nextAddr:=by
  unfold addRule
  split <;> rfl

end

variable {addr : ℕ}

lemma nameAt_addr_lt {m : RuleManager} (hlt : ∀ rule∈m.rules, rule.addr < m.nextAddr)
    {name : CString} (h : m.nameAt addr=some name) : addr < m.nextAddr:=by
  rw [nameAt,Option.map_eq_some_iff] at h
  obtain ⟨rule,hrule,-⟩:=h
  obtain rfl : rule.addr=addr:=by simpa using find?_some hrule
  exact hlt rule (mem_of_find?_eq_some hrule)

lemma nameAt_createRoutingRule {m : RuleManager} (hne : addr≠m.nextAddr) (name : CString)
    (transport observers : ℕ) : (m.createRoutingRule name transport observers).nameAt addr=m.nameAt addr:=by
  change ((m.rules++[_]).find? _).map _=_
  rw [find?_append,find?_cons_of_neg (by simpa using hne.symm),find?_nil,Option.or_none]
  rfl

section
variable {m : RuleManager} (hlt : ∀ rule∈m.rules, rule.addr < m.nextAddr) (name : CString) (transport observers : ℕ)
include hlt

lemma ruleAt_createRoutingRule_self :
    (m.createRoutingRule name transport observers).ruleAt m.nextAddr=
      some ⟨m.nextAddr,name.truncate 63,transport,observers⟩:=by
  have hnone : m.rules.find? (fun rule=>rule.addr=m.nextAddr)=none:=by
    rw [find?_eq_none]
    intro rule hrule haddr
    exact (hlt rule hrule).ne (of_decide_eq_true haddr)
  change (m.rules++[_]).find? _=_
  rw [find?_append,hnone,Option.none_or,find?_cons_of_pos (by simp)]

lemma nameAt_createRoutingRule_self :
    (m.createRoutingRule name transport observers).nameAt m.nextAddr=some (name.truncate 63):=by
  rw [nameAt,ruleAt_createRoutingRule_self hlt,Option.map_some]

end

lemma indexUpsert_cases (m : RuleManager) (alloc : Bool) (ruleName : CString) (addr : ℕ) :
    (find ruleIndexHash m.ruleIndexBuckets ruleName=none ∧ m.indexUpsert alloc ruleName addr=m) ∨
    ∃ index, upsert ruleIndexHash ruleBucketCapacity alloc m.ruleIndexBuckets ruleName addr=
      some index ∧ m.indexUpsert alloc ruleName addr = {m with ruleIndexBuckets:=index}:=by
  unfold indexUpsert
  cases hups : upsert ruleIndexHash ruleBucketCapacity alloc m.ruleIndexBuckets ruleName addr with
  | none=>exact Or.inl ⟨(upsert_eq_none_iff.1 hups).1,rfl⟩
  | some index=>exact Or.inr ⟨index,rfl,rfl⟩

lemma known_indexUpsert_of_ne {m : RuleManager} {ruleName name : CString}
    (hne : name≠ruleName) (alloc : Bool) (addr : ℕ) :
    (m.indexUpsert alloc ruleName addr).known name=m.known name:=by
  rcases m.indexUpsert_cases alloc ruleName addr with ⟨-,heq⟩ | ⟨index,hups,heq⟩
  · rw [heq]
  · rw [heq,known,known]
    exact congrArg (Option.or · _) (find_upsert_of_ne hne hups)

lemma known_indexUpsert_self {m : RuleManager} {ruleName : CString} (h : m.known ruleName=some addr) (alloc : Bool) :
    (m.indexUpsert alloc ruleName addr).known ruleName=some addr:=by
  rcases m.indexUpsert_cases alloc ruleName addr with ⟨-,heq⟩ | ⟨index,hups,heq⟩
  · rw [heq,h]
  · rw [heq,known]
    exact congrArg (Option.or · _) (find_upsert_self hups)

lemma findRuleByName_cases (m : RuleManager) (alloc : Bool) (ruleName : CString) :
    m.findRuleByName alloc ruleName=(m.known ruleName,m) ∨
    ∃ addr, m.known ruleName=some addr ∧ addr∈m.ruleList ∧ m.nameAt addr=some ruleName ∧
      m.findRuleByName alloc ruleName=(some addr,m.indexUpsert alloc ruleName addr):=by
  have hscan : (m.ruleList.find? fun addr=>(m.ruleAt addr).any fun rule=>rule.name=ruleName)=
      m.ruleList.find? fun addr=>m.nameAt addr=some ruleName:=by
    congr 1
    funext addr
    unfold nameAt
    cases m.ruleAt addr with
    | none=>rfl
    | some rule=>simp
  unfold findRuleByName
  rw [hscan]
  cases hfind : find ruleIndexHash m.ruleIndexBuckets ruleName with
  | some addr=>exact Or.inl (by rw [known,hfind,Option.some_or])
  | none=>
    cases hlist : m.ruleList.find? fun addr=>m.nameAt addr=some ruleName with
    | none=>exact Or.inl (by rw [known,hfind,hlist,Option.none_or])
    | some addr=>
      refine Or.inr ⟨addr,?_,mem_of_find?_eq_some hlist,?_,rfl⟩
      · rw [known,hfind,hlist,Option.none_or]
      · simpa using find?_some hlist

@[simp] lemma findRuleByName_fst (m : RuleManager) (alloc : Bool) (ruleName : CString) :
    (m.findRuleByName alloc ruleName).1=m.known ruleName:=by
  rcases m.findRuleByName_cases alloc ruleName with heq | ⟨addr,hknown,-,-,heq⟩
  · rw [heq]
  · rw [heq,hknown]

structure Sound (m : RuleManager) : Prop where
  addr_lt : ∀ rule∈m.rules, rule.addr < m.nextAddr
  listed : ∀ addr∈m.ruleList, ∃ name, m.nameAt addr=some name
  indexed : ∀ name addr, find ruleIndexHash m.ruleIndexBuckets name=some addr→m.nameAt addr=some name

namespace Sound
variable {m : RuleManager}

lemma create : Sound RuleManager.create where
  addr_lt:=forall_mem_nil _
  listed:=forall_mem_nil _
  indexed _ _ h:=by cases h

variable {addr : ℕ}

section
variable (h : Sound m)
include h

lemma nameAt_of_known {name : CString} (hknown : m.known name=some addr) : m.nameAt addr=some name:=by
  rcases Option.or_eq_some_iff.1 hknown with hfind | ⟨-,hscan⟩
  · exact h.indexed name addr hfind
  · simpa using find?_some hscan

lemma nameAt_createRoutingRule_of_listed (haddr : addr∈m.ruleList) (name : CString)
    (transport observers : ℕ) : (m.createRoutingRule name transport observers).nameAt addr=m.nameAt addr:=by
  obtain ⟨other,hother⟩:=h.listed addr haddr
  exact nameAt_createRoutingRule (nameAt_addr_lt h.addr_lt hother).ne name transport observers

lemma indexUpsert {name : CString} (hname : m.nameAt addr=some name) (alloc : Bool) :
    Sound (m.indexUpsert alloc name addr):=by
  rcases m.indexUpsert_cases alloc name addr with ⟨-,heq⟩ | ⟨index,hups,heq⟩
  · rw [heq]
    exact h
  · rw [heq]
    refine ⟨h.addr_lt,h.listed,?_⟩
    intro other addr' hfind
    by_cases hother : other=name
    · subst hother
      rw [find_upsert_self hups] at hfind
      cases hfind
      exact hname
    · rw [find_upsert_of_ne hother hups] at hfind
      exact h.indexed other addr' hfind

lemma findRuleByName (alloc : Bool) (name : CString) : Sound (m.findRuleByName alloc name).2:=by
  rcases m.findRuleByName_cases alloc name with heq | ⟨addr,-,-,hname,heq⟩
  · rw [heq]
    exact h
  · rw [heq]
    exact h.indexUpsert hname alloc

lemma createRoutingRule (name : CString) (transport observers : ℕ) :
    Sound (m.createRoutingRule name transport observers):=by
  constructor
  · intro rule hrule
    rcases mem_append.1 hrule with hold | hnew
    · exact (h.addr_lt rule hold).trans (Nat.lt_succ_self _)
    · rw [mem_singleton.1 hnew]
      exact Nat.lt_succ_self _
  · intro addr haddr
    rw [h.nameAt_createRoutingRule_of_listed haddr]
    exact h.listed addr haddr
  · intro other addr hfind
    have hname:=h.indexed other addr hfind
    rw [nameAt_createRoutingRule (nameAt_addr_lt h.addr_lt hname).ne,hname]

lemma append {name : CString} (hname : m.nameAt addr=some name) :
    Sound {m with ruleList:=m.ruleList++[addr]}:=by
  refine ⟨h.addr_lt,?_,h.indexed⟩
  intro a ha
  rcases mem_append.1 ha with hold | hself
  · exact h.listed a hold
  · rw [mem_singleton.1 hself]
    exact ⟨name,hname⟩

lemma known_createRoutingRule (ruleName name : CString) (transport observers : ℕ) :
    (m.createRoutingRule ruleName transport observers).known name=m.known name:=by
  refine congrArg (Option.or _) (find?_congr fun addr haddr=>?_)
  rw [h.nameAt_createRoutingRule_of_listed haddr]

end
end Sound

lemma known_append (m : RuleManager) (addr : ℕ) (name : CString) :
    known {m with ruleList:=m.ruleList++[addr]} name=
      (m.known name).or (if m.nameAt addr=some name then some addr else none):=by
  change (find ruleIndexHash m.ruleIndexBuckets name).or ((m.ruleList++[addr]).find? _)=_
  rw [find?_append,known,Option.or_assoc,find?_singleton]
  simp only [decide_eq_true_eq]
  rfl

structure Complete (m : RuleManager) : Prop extends Sound m where
  names_nodup : (m.ruleList.map m.nameAt).Nodup
  hashed : Hashed ruleIndexHash m.ruleIndexBuckets
  indexed_listed : ∀ name addr, find ruleIndexHash m.ruleIndexBuckets name=some addr→addr∈m.ruleList

namespace Complete
variable {m : RuleManager}

lemma create : Complete RuleManager.create where
  toSound:=Sound.create
  names_nodup:=nodup_nil
  hashed:=Hashed.empty
  indexed_listed _ _ h:=by cases h

lemma eq_of_nameAt_eq (h : Complete m) {a b : ℕ} (ha : a∈m.ruleList) (hb : b∈m.ruleList)
    (heq : m.nameAt a=m.nameAt b) : a=b:=
  inj_on_of_nodup_map h.names_nodup ha hb heq

variable {addr : ℕ}

section
variable (h : Complete m)
include h

lemma known_eq_some_iff {name : CString} :
    m.known name=some addr ↔ addr∈m.ruleList ∧ m.nameAt addr=some name:=by
  have hmem {a : ℕ} (hknown : m.known name=some a) : a∈m.ruleList:=by
    rcases Option.or_eq_some_iff.1 hknown with hfind | ⟨-,hscan⟩
    · exact h.indexed_listed name a hfind
    · exact mem_of_find?_eq_some hscan
  refine ⟨fun hknown=>⟨hmem hknown,h.nameAt_of_known hknown⟩,?_⟩
  rintro ⟨haddr,hname⟩
  cases hknown : m.known name with
  | some other=>
    rw [h.eq_of_nameAt_eq (hmem hknown) haddr ((h.nameAt_of_known hknown).trans hname.symm)]
  | none=>
    rw [known,Option.or_eq_none_iff,find?_eq_none] at hknown
    exact absurd (decide_eq_true hname) (hknown.2 addr haddr)

lemma indexUpsert {name : CString} (hmem : addr∈m.ruleList) (hname : m.nameAt addr=some name)
    (alloc : Bool) : Complete (m.indexUpsert alloc name addr):=by
  refine ⟨h.toSound.indexUpsert hname alloc,h.names_nodup,?_,?_⟩
  all_goals
    rcases m.indexUpsert_cases alloc name addr with ⟨-,heq⟩ | ⟨index,hups,heq⟩
    all_goals rw [heq]
  · exact h.hashed
  · exact h.hashed.upsert hups
  · exact h.indexed_listed
  · intro other addr' hfind
    by_cases hother : other=name
    · subst hother
      rw [find_upsert_self hups] at hfind
      cases hfind
      exact hmem
    · rw [find_upsert_of_ne hother hups] at hfind
      exact h.indexed_listed other addr' hfind

lemma findRuleByName (alloc : Bool) (name : CString) : Complete (m.findRuleByName alloc name).2:=by
  rcases m.findRuleByName_cases alloc name with heq | ⟨addr,-,hmem,hname,heq⟩
  · rw [heq]
    exact h
  · rw [heq]
    exact h.indexUpsert hmem hname alloc

lemma createRoutingRule (name : CString) (transport observers : ℕ) :
    Complete (m.createRoutingRule name transport observers):=by
  refine ⟨h.toSound.createRoutingRule name transport observers,?_,h.hashed,h.indexed_listed⟩
  change (m.ruleList.map _).Nodup
  rw [map_congr_left fun addr haddr=>h.nameAt_createRoutingRule_of_listed haddr ..]
  exact h.names_nodup

lemma enlist {name : CString} (hname : m.nameAt addr=some name) (hnew : m.known name=none)
    (alloc : Bool) : Complete (m.enlist alloc name addr):=by
  have happ : Complete {m with ruleList:=m.ruleList++[addr]}:=by
    refine ⟨h.toSound.append hname,?_,h.hashed,?_⟩
    · change ((m.ruleList++[addr]).map m.nameAt).Nodup
      rw [map_append,map_singleton]
      refine h.names_nodup.append (nodup_singleton _) ?_
      rw [disjoint_singleton]
      intro hmem
      obtain ⟨a,ha,heq⟩:=List.mem_map.1 hmem
      rw [h.known_eq_some_iff.2 ⟨ha,heq.trans hname⟩] at hnew
      cases hnew
    · exact fun other a hfind=>mem_append_left _ (h.indexed_listed other a hfind)
  exact happ.indexUpsert (mem_append_right _ (mem_singleton_self addr)) hname alloc

lemma addGivenRule (alloc : Bool) (rule : ℕ) : Complete (m.addGivenRule alloc rule).2:=by
  unfold RuleManager.addGivenRule
  cases hrule : m.ruleAt rule with
  | none=>exact h
  | some given=>
    have hname : m.nameAt rule=some given.name:=by rw [nameAt,hrule,Option.map_some]
    rcases m.findRuleByName_cases alloc given.name with heq | ⟨addr,-,hmem,hgiven,heq⟩
    · cases hknown : m.known given.name with
      | some addr=>
        rw [hknown] at heq
        simp only [heq]
        exact h
      | none=>
        rw [hknown] at heq
        simp only [heq]
        split
        · exact h.enlist hname hknown alloc
        · exact h
    · simp only [heq]
      exact h.indexUpsert hmem hgiven alloc

lemma removeRule (rule : ℕ) : Complete (m.removeRule rule).2:=by
  unfold RuleManager.removeRule
  cases hrule : m.ruleAt rule with
  | none=>exact h
  | some given=>
    have hname : m.nameAt rule=some given.name:=by rw [nameAt,hrule,Option.map_some]
    by_cases hmem : rule∈m.ruleList
    · simp only [if_pos hmem]
      set m' : RuleManager:={m with
        rules:=m.rules.eraseP fun r=>r.addr=rule
        ruleList:=m.ruleList.erase rule
        ruleIndexBuckets:=remove ruleIndexHash m.ruleIndexBuckets given.name}
      have hnodup : m.ruleList.Nodup:=h.names_nodup.of_map
      have hlist (addr : ℕ) : addr∈m'.ruleList ↔ addr≠rule ∧ addr∈m.ruleList:=hnodup.mem_erase_iff
      have hkeep {addr : ℕ} (hne : addr≠rule) : m'.nameAt addr=m.nameAt addr:=
        congrArg (Option.map _) (KeyedList.find?_eraseP_of_ne hne)
      -- the entry of the removed name is gone, so every rule that is found is another one
      have hother {other : CString} {addr : ℕ}
          (hfind : find ruleIndexHash m'.ruleIndexBuckets other=some addr) :
          find ruleIndexHash m.ruleIndexBuckets other=some addr ∧ addr≠rule:=by
        have hne : other≠given.name:=by
          rintro rfl
          rw [h.hashed.find_remove_self] at hfind
          cases hfind
        rw [find_remove_of_ne hne] at hfind
        refine ⟨hfind,?_⟩
        rintro rfl
        exact hne (Option.some.inj ((h.indexed other addr hfind).symm.trans hname))
      refine ⟨⟨?_,?_,?_⟩,?_,h.hashed.remove given.name,?_⟩
      · exact fun r hr=>h.addr_lt r (mem_of_mem_eraseP hr)
      · intro addr haddr
        obtain ⟨hne,hold⟩:=(hlist addr).1 haddr
        rw [hkeep hne]
        exact h.listed addr hold
      · intro other addr hfind
        obtain ⟨hold,hne⟩:=hother hfind
        exact (hkeep hne).trans (h.indexed other addr hold)
      · rw [map_congr_left fun addr haddr=>hkeep ((hlist addr).1 haddr).1]
        exact h.names_nodup.sublist (erase_sublist.map _)
      · intro other addr hfind
        obtain ⟨hold,hne⟩:=hother hfind
        exact (hlist addr).2 ⟨hne,h.indexed_listed other addr hold⟩
    · simp only [if_neg hmem]
      exact h

lemma makeRule {node : Node} (hlen : (makeName3 node.target node.topic node.transportType).bytes.length<64)
    (hroom : m.known (makeName3 node.target node.topic node.transportType)=none→ m.ruleList.length < maxRuleListSize)
    (ruleAlloc indexAlloc : Bool) (transport : Option ℕ) (observers : ℕ) :
    Complete (m.makeRule ruleAlloc indexAlloc node transport observers).2:=by
  unfold RuleManager.makeRule
  cases transport with
  | none=>exact h
  | some transport=>
    generalize makeName3 node.target node.topic node.transportType=name at hlen hroom ⊢
    rcases m.findRuleByName_cases indexAlloc name with heq | ⟨addr,-,hmem,haddr,heq⟩
    · cases hknown : m.known name with
      | some addr=>
        rw [hknown] at heq
        simp only [heq]
        exact h
      | none=>
        rw [hknown] at heq
        simp only [heq]
        split
        · have hcut : name.truncate 63=name:=CString.truncate_eq_self (Nat.le_of_lt_succ hlen)
          have hnew:=nameAt_createRoutingRule_self h.addr_lt name transport observers
          rw [hcut] at hnew
          have hcreate:=h.createRoutingRule name transport observers
          have hunknown:=(h.known_createRoutingRule name name transport observers).trans hknown
          rw [addRule_eq,if_pos (hroom hknown),hcut]
          exact hcreate.enlist hnew hunknown indexAlloc
        · exact h
    · simp only [heq]
      exact h.indexUpsert hmem haddr indexAlloc

end
end Complete

/-- The name has less than 64 characters, and a new rule is one of at most 256. -/
def Fits (m : RuleManager) : RuleCall→Prop
  | .make _ _ node _ _=>
    (makeName3 node.target node.topic node.transportType).bytes.length<64 ∧
      (m.known (makeName3 node.target node.topic node.transportType)=none→ m.ruleList.length < maxRuleListSize)
  | _=>True

lemma Complete.step {m : RuleManager} (h : Complete m) (call : RuleCall) (hfits : m.Fits call) :
    Complete (m.step call):=by
  cases call with
  | make ruleAlloc indexAlloc node transport observers=>
    exact h.makeRule hfits.1 hfits.2 ruleAlloc indexAlloc transport observers
  | create name transport observers=>exact h.createRoutingRule name transport observers
  | add indexAlloc rule=>exact h.addGivenRule indexAlloc rule
  | get indexAlloc ruleName=>exact h.findRuleByName indexAlloc ruleName
  | remove rule=>exact h.removeRule rule

/-- A rule is made, another one added and the first removed. -/
def sampleRuleCalls : List RuleCall:=
  let node : Node:=
    ⟨CString.ofMemory [110],CString.ofMemory [97],CString.ofMemory [116],.client,.tcp⟩
  [.make true true node (some 5) 0,.create (CString.ofMemory [114]) 6 0,.add true 1,.remove 0]

end RuleManager

end SoftMessageBus
