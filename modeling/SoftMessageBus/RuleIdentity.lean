import SoftMessageBus.RuleManager

/-!
# The identity of rules

A rule stands for the target, the topic and the transport type of the nodes that share it.
-/
namespace SoftMessageBus
open BucketIndex StepRuns List

def Node.ruleName (node : Node) : CString:=makeName3 node.target node.topic node.transportType
def Node.storedRuleName (node : Node) : CString:=node.ruleName.truncate 63

def Node.SameRoute (a b : Node) : Prop:=
  a.target=b.target ∧ a.topic=b.topic ∧ a.transportType=b.transportType
  deriving Decidable

lemma Node.SameRoute.ruleName_eq {a b : Node} (h : a.SameRoute b) : a.ruleName=b.ruleName:=by
  rw [ruleName,ruleName,h.1,h.2.1,h.2.2]

/-- A call of `zoo_smb_rule_manager_make_rule`, with the outcome of its allocations. -/
structure RuleRequest where
  ruleAlloc : Bool
  indexAlloc : Bool
  node : Node
  transport : Option ℕ
  observers : ℕ

structure RuleHistory where
  manager : RuleManager
  made : List (Node × ℕ)

namespace RuleHistory

def start : RuleHistory:=⟨RuleManager.create,[]⟩

variable (s : RuleHistory)

variable (r : RuleRequest)

def result : Option ℕ:=(s.manager.makeRule r.ruleAlloc r.indexAlloc r.node r.transport r.observers).1

def step : RuleHistory where
  manager:=(s.manager.makeRule r.ruleAlloc r.indexAlloc r.node r.transport r.observers).2
  made:=s.made++(s.result r).toList.map fun rule=>(r.node,rule)

def FoundAgain : Prop:=
  ∀ entry∈s.made, ∃ name, s.manager.nameAt entry.2=some name ∧
    ∀ indexAlloc, (s.manager.getRule indexAlloc name).1=some entry.2

/-- Calls return one rule exactly for one target, topic and type, and rules are found again. -/
def Faithful : Prop:=
  (∀ rule, s.result r=some rule→∀ entry∈s.made, entry.2=rule ↔ entry.1.SameRoute r.node) ∧
  (s.step r).FoundAgain

/-- A known name is that of the same target, topic and transport type. -/
def Distinguished : Prop:=
  r.transport.isSome→match s.manager.known r.node.ruleName with
    | some _=>
      ∀ entry∈s.made, entry.1.storedRuleName=r.node.ruleName→entry.1.SameRoute r.node
    | none=>r.ruleAlloc=true→
      (∀ entry∈s.made, entry.1.storedRuleName≠r.node.storedRuleName) ∧
      (r.indexAlloc=true ∧
          (s.manager.ruleIndexBuckets (ruleIndexHash r.node.storedRuleName)).length < ruleBucketCapacity ∨
        s.manager.ruleList.length < maxRuleListSize)

end RuleHistory
namespace RuleManager
variable {m : RuleManager}

lemma nameAt_findRuleByName (m : RuleManager) (alloc : Bool) (ruleName : CString) (addr : ℕ) :
    (m.findRuleByName alloc ruleName).2.nameAt addr=m.nameAt addr:=by
  rw [nameAt,ruleAt,rules_findRuleByName]
  rfl

lemma known_findRuleByName (m : RuleManager) (alloc : Bool) (ruleName name : CString) :
    (m.findRuleByName alloc ruleName).2.known name=m.known name:=by
  rcases m.findRuleByName_cases alloc ruleName with heq | ⟨addr,hknown,-,-,heq⟩
  · rw [heq]
  · rw [heq]
    by_cases hname : name=ruleName
    · subst hname
      rw [known_indexUpsert_self hknown,hknown]
    · exact known_indexUpsert_of_ne hname alloc addr

lemma makeRule_cases (m : RuleManager) (r : RuleRequest) :
    (m.makeRule r.ruleAlloc r.indexAlloc r.node r.transport r.observers=(none,m) ∧
      (r.transport=none ∨ m.known r.node.ruleName=none ∧ r.ruleAlloc=false)) ∨
    (∃ addr, m.known r.node.ruleName=some addr ∧ r.transport.isSome ∧
      m.makeRule r.ruleAlloc r.indexAlloc r.node r.transport r.observers=
        (some addr,(m.findRuleByName r.indexAlloc r.node.ruleName).2)) ∨
    ∃ transport, m.known r.node.ruleName=none ∧ r.transport=some transport ∧
      r.ruleAlloc=true ∧
      m.makeRule r.ruleAlloc r.indexAlloc r.node r.transport r.observers=
        (some m.nextAddr,m.addRule r.indexAlloc r.node.ruleName transport r.observers):=by
  obtain ⟨ruleAlloc,indexAlloc,node,transport,observers⟩:=r
  cases transport with
  | none=>exact Or.inl ⟨rfl,Or.inl rfl⟩
  | some transport=>
    cases hknown : m.known node.ruleName with
    | some addr=>
      have hfind : m.findRuleByName indexAlloc (makeName3 node.target node.topic
          node.transportType)=(some addr,(m.findRuleByName indexAlloc node.ruleName).2):=
        Prod.ext ((m.findRuleByName_fst indexAlloc node.ruleName).trans hknown) rfl
      exact Or.inr (Or.inl ⟨addr,rfl,rfl,by simp only [makeRule,hfind]⟩)
    | none=>
      have hfind : m.findRuleByName indexAlloc (makeName3 node.target node.topic
          node.transportType)=(none,m):=by
        rcases m.findRuleByName_cases indexAlloc node.ruleName with heq | ⟨addr,hsome,-,-,-⟩
        · rw [hknown] at heq
          exact heq
        · rw [hknown] at hsome
          cases hsome
      cases ruleAlloc with
      | false=>
        exact Or.inl ⟨by simp only [makeRule,hfind,Bool.false_eq_true,if_false], Or.inr ⟨rfl,rfl⟩⟩
      | true=>
        exact Or.inr (Or.inr ⟨transport,rfl,rfl,rfl,by simp only [makeRule,hfind,if_true,Node.ruleName]⟩)

lemma known_indexUpsert_eq (m : RuleManager) (alloc : Bool) (name : CString) (addr : ℕ) :
    (m.indexUpsert alloc name addr).known name=
      if (find ruleIndexHash m.ruleIndexBuckets name).isSome ∨ alloc=true ∧
          (m.ruleIndexBuckets (ruleIndexHash name)).length < ruleBucketCapacity then some addr
      else m.known name:=by
  rw [indexUpsert]
  cases hups : upsert ruleIndexHash ruleBucketCapacity alloc m.ruleIndexBuckets name addr with
  | none=>
    obtain ⟨hfind,hfull⟩:=upsert_eq_none_iff.1 hups
    rw [if_neg (not_or.2 ⟨by simp [hfind],hfull⟩)]
    rfl
  | some index=>
    have htakes : (find ruleIndexHash m.ruleIndexBuckets name).isSome ∨ alloc=true ∧
        (m.ruleIndexBuckets (ruleIndexHash name)).length < ruleBucketCapacity:=by
      by_contra hnot
      rw [not_or,Option.not_isSome_iff_eq_none,← upsert_eq_none_iff,hups] at hnot
      cases hnot
    rw [if_pos htakes]
    exact congrArg (Option.or · _) (find_upsert_self hups)

lemma known_indexUpsert_iff {name : CString} {addr : ℕ} (hnone : m.known name=none)
    (alloc : Bool) : (m.indexUpsert alloc name addr).known name=some addr ↔
      alloc=true ∧ (m.ruleIndexBuckets (ruleIndexHash name)).length < ruleBucketCapacity:=by
  have hfind:=(Option.or_eq_none_iff.1 hnone).1
  rw [known_indexUpsert_eq,hnone,hfind]
  simp

lemma Sound.known_addRule_self_iff (h : Sound m) {ruleName : CString}
    (hnone : m.known (ruleName.truncate 63)=none) (indexAlloc : Bool) (transport observers : ℕ) :
    (m.addRule indexAlloc ruleName transport observers).known (ruleName.truncate 63)=
        some m.nextAddr ↔
      indexAlloc=true ∧
          (m.ruleIndexBuckets (ruleIndexHash (ruleName.truncate 63))).length < ruleBucketCapacity ∨
        m.ruleList.length < maxRuleListSize:=by
  have hcreate:=(h.known_createRoutingRule ruleName _ transport observers).trans hnone
  rw [addRule_eq]
  split
  next hroom=>
    refine ⟨fun _=>Or.inr hroom,fun _=>known_indexUpsert_self ?_ indexAlloc⟩
    rw [known_append,hcreate,Option.none_or,if_pos (nameAt_createRoutingRule_self h.addr_lt ruleName transport observers)]
  next hroom=>
    rw [known_indexUpsert_iff hcreate,or_iff_left hroom]
    rfl

lemma Sound.known_addRule_of_ne (h : Sound m) {ruleName name : CString}
    (hne : name≠ruleName.truncate 63) (indexAlloc : Bool) (transport observers : ℕ) :
    (m.addRule indexAlloc ruleName transport observers).known name=m.known name:=by
  have hcreate:=h.known_createRoutingRule ruleName name transport observers
  have hname:=nameAt_createRoutingRule_self h.addr_lt ruleName transport observers
  rw [addRule_eq]
  split
  · rw [enlist,known_indexUpsert_of_ne hne,known_append,hname,hcreate,
      if_neg fun heq=>hne (Option.some.inj heq).symm,Option.or_none]
  · rw [known_indexUpsert_of_ne hne,hcreate]

lemma nameAt_addRule (m : RuleManager) (indexAlloc : Bool) (ruleName : CString) (transport observers addr : ℕ) :
    (m.addRule indexAlloc ruleName transport observers).nameAt addr=
      (m.createRoutingRule ruleName transport observers).nameAt addr:=by
  rw [addRule_eq]
  split <;> rfl

lemma Sound.addRule (h : Sound m) (indexAlloc : Bool) (ruleName : CString)
    (transport observers : ℕ) : Sound (m.addRule indexAlloc ruleName transport observers):=by
  have hname:=nameAt_createRoutingRule_self h.addr_lt ruleName transport observers
  have hcreate:=h.createRoutingRule ruleName transport observers
  rw [addRule_eq]
  split
  · exact (hcreate.append hname).indexUpsert hname indexAlloc
  · exact hcreate.indexUpsert hname indexAlloc

end RuleManager
namespace RuleHistory
variable {s : RuleHistory} {r : RuleRequest}

structure Recorded (s : RuleHistory) : Prop extends s.manager.Sound where
  logged : ∀ addr name, s.manager.nameAt addr=some name→∃ entry∈s.made, entry.2=addr
  named : ∀ entry∈s.made, s.manager.nameAt entry.2=some entry.1.storedRuleName

lemma Recorded.start : Recorded start where
  toSound:=RuleManager.Sound.create
  logged _ _ h:=by cases h
  named:=forall_mem_nil _

namespace Recorded

lemma addr_lt_of_mem (h : Recorded s) {entry : Node × ℕ} (hentry : entry∈s.made) :
    entry.2<s.manager.nextAddr:=
  RuleManager.nameAt_addr_lt h.addr_lt (h.named entry hentry)

lemma exists_of_known (h : Recorded s) {name : CString} {addr : ℕ}
    (hknown : s.manager.known name=some addr) : ∃ entry∈s.made, entry.2=addr ∧ entry.1.storedRuleName=name:=by
  have hname:=h.nameAt_of_known hknown
  obtain ⟨entry,hentry,rfl⟩:=h.logged addr name hname
  exact ⟨entry,hentry,rfl,Option.some.inj ((h.named entry hentry).symm.trans hname)⟩

lemma storedRuleName_of_known (h : Recorded s) {node : Node} {addr : ℕ}
    (hknown : s.manager.known node.ruleName=some addr) : node.storedRuleName=node.ruleName:=by
  obtain ⟨entry,-,-,hstored⟩:=h.exists_of_known hknown
  apply CString.truncate_eq_self
  rw [← hstored]
  exact CString.length_truncate_le 63 _

lemma foundAgain_iff (h : Recorded s) : s.FoundAgain ↔
    ∀ entry∈s.made, s.manager.known entry.1.storedRuleName=some entry.2:=by
  constructor
  · intro hfound entry hentry
    obtain ⟨name,hname,hget⟩:=hfound entry hentry
    obtain rfl:=Option.some.inj ((h.named entry hentry).symm.trans hname)
    rw [← hget true,RuleManager.getRule,RuleManager.findRuleByName_fst]
  · intro hknown entry hentry
    refine ⟨entry.1.storedRuleName,h.named entry hentry,fun indexAlloc=>?_⟩
    rw [RuleManager.getRule,RuleManager.findRuleByName_fst]
    exact hknown entry hentry

lemma step (h : Recorded s) (r : RuleRequest) : Recorded (s.step r):=by
  rcases s.manager.makeRule_cases r with ⟨heq,-⟩ | ⟨addr,hknown,-,heq⟩ |
    ⟨transport,-,-,-,heq⟩
  · have hstep : s.step r=s:=by simp only [RuleHistory.step,result,heq,Option.toList_none,map_nil,append_nil]
    rw [hstep]
    exact h
  · have hstep : s.step r=⟨(s.manager.findRuleByName r.indexAlloc r.node.ruleName).2,
        s.made++[(r.node,addr)]⟩:=by
      simp only [RuleHistory.step,result,heq,Option.toList_some,map_singleton]
    rw [hstep]
    refine ⟨h.findRuleByName r.indexAlloc r.node.ruleName,?_,?_⟩
    · intro a name hname
      rw [RuleManager.nameAt_findRuleByName] at hname
      obtain ⟨entry,hentry,haddr⟩:=h.logged a name hname
      exact ⟨entry,mem_append_left _ hentry,haddr⟩
    · intro entry hentry
      rw [RuleManager.nameAt_findRuleByName]
      rcases mem_append.1 hentry with hold | hnew
      · exact h.named entry hold
      · rw [mem_singleton.1 hnew,h.storedRuleName_of_known hknown]
        exact h.nameAt_of_known hknown
  · have hstep : s.step r=⟨s.manager.addRule r.indexAlloc r.node.ruleName transport r.observers,
        s.made++[(r.node,s.manager.nextAddr)]⟩:=by
      simp only [RuleHistory.step,result,heq,Option.toList_some,map_singleton]
    rw [hstep]
    refine ⟨h.addRule r.indexAlloc r.node.ruleName transport r.observers,?_,?_⟩
    · intro a name hname
      by_cases ha : a=s.manager.nextAddr
      · exact ⟨_,mem_append_right _ (mem_singleton_self _),ha.symm⟩
      · rw [RuleManager.nameAt_addRule,RuleManager.nameAt_createRoutingRule ha] at hname
        obtain ⟨entry,hentry,haddr⟩:=h.logged a name hname
        exact ⟨entry,mem_append_left _ hentry,haddr⟩
    · intro entry hentry
      rw [RuleManager.nameAt_addRule]
      rcases mem_append.1 hentry with hold | hnew
      · rw [RuleManager.nameAt_createRoutingRule (h.addr_lt_of_mem hold).ne]
        exact h.named entry hold
      · rw [mem_singleton.1 hnew]
        exact RuleManager.nameAt_createRoutingRule_self h.addr_lt r.node.ruleName transport r.observers

end Recorded

structure Kept (s : RuleHistory) : Prop extends Recorded s where
  found : ∀ entry∈s.made, s.manager.known entry.1.storedRuleName=some entry.2

namespace Kept

lemma faithful_iff_of_known (h : Kept s) {addr : ℕ} (hknown : s.manager.known r.node.ruleName=some addr)
    (heq : s.manager.makeRule r.ruleAlloc r.indexAlloc r.node r.transport r.observers=
      (some addr,(s.manager.findRuleByName r.indexAlloc r.node.ruleName).2)) :
    s.Faithful r ↔ ∀ entry∈s.made, entry.1.storedRuleName=r.node.ruleName→entry.1.SameRoute r.node:=by
  have hstored:=h.storedRuleName_of_known hknown
  have hres : s.result r=some addr:=congrArg Prod.fst heq
  constructor
  · rintro ⟨hsame,-⟩ entry hentry hname
    have hfound:=h.found entry hentry
    rw [hname,hknown] at hfound
    exact (hsame addr hres entry hentry).1 (Option.some.inj hfound).symm
  · intro hroute
    refine ⟨?_,(h.toRecorded.step r).foundAgain_iff.2 ?_⟩
    · intro rule hrule entry hentry
      obtain rfl:=Option.some.inj (hres.symm.trans hrule)
      constructor
      · rintro rfl
        have hname:=(h.named entry hentry).symm.trans (h.nameAt_of_known hknown)
        exact hroute entry hentry (Option.some.inj hname)
      · intro hsame
        have hfound:=h.found entry hentry
        rw [Node.storedRuleName,hsame.ruleName_eq,← Node.storedRuleName,hstored, hknown] at hfound
        exact (Option.some.inj hfound).symm
    · have hstep : s.step r=⟨(s.manager.findRuleByName r.indexAlloc r.node.ruleName).2,
          s.made++[(r.node,addr)]⟩:=by
        simp only [RuleHistory.step,result,heq,Option.toList_some,map_singleton]
      rw [hstep]
      intro entry hentry
      rw [RuleManager.known_findRuleByName]
      rcases mem_append.1 hentry with hold | hnew
      · exact h.found entry hold
      · rw [mem_singleton.1 hnew,hstored]
        exact hknown

lemma faithful_iff_of_made (h : Kept s) {transport : ℕ}
    (heq : s.manager.makeRule r.ruleAlloc r.indexAlloc r.node r.transport r.observers=
      (some s.manager.nextAddr, s.manager.addRule r.indexAlloc r.node.ruleName transport r.observers)) :
    s.Faithful r ↔ (∀ entry∈s.made, entry.1.storedRuleName≠r.node.storedRuleName) ∧
      (r.indexAlloc=true ∧
          (s.manager.ruleIndexBuckets (ruleIndexHash r.node.storedRuleName)).length < ruleBucketCapacity ∨
        s.manager.ruleList.length < maxRuleListSize):=by
  have hres : s.result r=some s.manager.nextAddr:=congrArg Prod.fst heq
  have hstep : s.step r=⟨s.manager.addRule r.indexAlloc r.node.ruleName transport r.observers,
      s.made++[(r.node,s.manager.nextAddr)]⟩:=by
    simp only [RuleHistory.step,result,heq,Option.toList_some,map_singleton]
  have hself : (r.node,s.manager.nextAddr)∈s.made++[(r.node,s.manager.nextAddr)]:=mem_append_right _ (mem_singleton_self _)
  have hnone (hnew : ∀ entry∈s.made, entry.1.storedRuleName≠r.node.storedRuleName) :
      s.manager.known r.node.storedRuleName=none:=by
    rw [Option.eq_none_iff_forall_ne_some]
    intro addr hknown
    obtain ⟨entry,hentry,-,hname⟩:=h.exists_of_known hknown
    exact hnew entry hentry hname
  rw [Faithful,(h.toRecorded.step r).foundAgain_iff,hstep]
  constructor
  · rintro ⟨-,hfound⟩
    have hlast:=hfound _ hself
    have hnew : ∀ entry∈s.made, entry.1.storedRuleName≠r.node.storedRuleName:=by
      intro entry hentry hname
      have hfirst:=hfound entry (mem_append_left _ hentry)
      rw [hname] at hfirst
      exact (h.addr_lt_of_mem hentry).ne (Option.some.inj (hfirst.symm.trans hlast))
    exact ⟨hnew,(h.known_addRule_self_iff (hnone hnew) _ _ _).1 hlast⟩
  · rintro ⟨hnew,htaken⟩
    refine ⟨?_,?_⟩
    · intro rule hrule entry hentry
      obtain rfl:=Option.some.inj (hres.symm.trans hrule)
      constructor
      · exact fun haddr=>absurd haddr (h.addr_lt_of_mem hentry).ne
      · exact fun hsame=>absurd (congrArg (CString.truncate 63) hsame.ruleName_eq) (hnew entry hentry)
    · intro entry hentry
      rcases mem_append.1 hentry with hold | hlast
      · exact (h.known_addRule_of_ne (hnew entry hold) _ _ _).trans (h.found entry hold)
      · rw [mem_singleton.1 hlast]
        exact (h.known_addRule_self_iff (hnone hnew) _ _ _).2 htaken

lemma faithful_iff (h : Kept s) (r : RuleRequest) : s.Faithful r ↔ s.Distinguished r:=by
  rcases s.manager.makeRule_cases r with ⟨heq,hfail⟩ | ⟨addr,hknown,htransport,heq⟩ |
    ⟨transport,hknown,htransport,halloc,heq⟩
  · have hstep : s.step r=s:=by simp only [RuleHistory.step,result,heq,Option.toList_none,map_nil,append_nil]
    have hres : s.result r=none:=congrArg Prod.fst heq
    have hfaithful : s.Faithful r:=by
      refine ⟨fun rule hrule=>?_,?_⟩
      · rw [hres] at hrule
        cases hrule
      · rw [hstep]
        exact h.foundAgain_iff.2 h.found
    refine iff_of_true hfaithful fun htransport=>?_
    rcases hfail with hnone | ⟨hknown,halloc⟩
    · rw [hnone] at htransport
      cases htransport
    · rw [hknown]
      exact fun htrue=>absurd (halloc.symm.trans htrue) Bool.false_ne_true
  · rw [h.faithful_iff_of_known hknown heq,Distinguished,hknown]
    exact ⟨fun hroute _=>hroute,fun hroute=>hroute htransport⟩
  · rw [h.faithful_iff_of_made heq,Distinguished,hknown,htransport]
    exact ⟨fun hnew _ _=>hnew,fun hnew=>hnew rfl halloc⟩

lemma step (h : Kept s) (hr : s.Distinguished r) : Kept (s.step r):=
  ⟨h.toRecorded.step r,(h.toRecorded.step r).foundAgain_iff.1 ((h.faithful_iff r).2 hr).2⟩

end Kept

/-- Rules are faithful along a sequence of calls if and only if every call is distinguished. -/
theorem rules_faithful_iff (requests : List RuleRequest) :
    Along step Faithful start requests ↔ Along step Distinguished start requests:=
  along_iff_of_invariant Kept (fun _ _ h hr=>h.step hr) (fun _ r h=>h.faithful_iff r)
    ⟨Recorded.start,forall_mem_nil _⟩ requests

def clientRequest (target topic : CString) : RuleRequest:=
  ⟨true,true,createNode (CString.ofMemory [110]) target topic .client .tcp,some 1,0⟩

/-- The rule for target "a_b" and topic "c" is handed out for target "a" and topic "b_c". -/
theorem underscore_mixes_rules :
    let earlier:=clientRequest (CString.ofMemory [97,95,98]) (CString.ofMemory [99])
    let later:=clientRequest (CString.ofMemory [97]) (CString.ofMemory [98,95,99])
    start.result earlier=some 0 ∧ (start.step earlier).result later=some 0 ∧
      ¬earlier.node.SameRoute later.node ∧ ¬(start.step earlier).Faithful later:=by
  intro earlier later
  have hlater : (start.step earlier).result later=some 0:=by decide +kernel
  have hroute : ¬earlier.node.SameRoute later.node:=by decide +kernel
  refine ⟨by decide +kernel,hlater,hroute,?_⟩
  rintro ⟨hsame,-⟩
  exact hroute ((hsame 0 hlater (earlier.node,0) (by decide +kernel)).1 rfl)

/-- A target of 60 characters makes a name that is cut, and its second call a second rule. -/
example :
    let request:=clientRequest (CString.ofMemory (replicate 60 97)) (CString.ofMemory [99])
    start.result request=some 0 ∧ (start.step request).result request=some 1:=by decide +kernel

end RuleHistory
end SoftMessageBus
