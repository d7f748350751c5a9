import SoftMessageBus.SlotCounts
import SoftMessageBus.SocketSelect

/-!
# What the two back ends report

Both back ends wait for the first state that wakes them.
-/
namespace SoftMessageBus

namespace SelectReturn

def marked (r : SelectReturn) (cond : SelectCondition) (index : ℕ) : Bool:=
  ((r.sets cond).map fun set=>set.ready cond index).getD false

def applyMarks (r : SelectReturn) (marks : List (SelectCondition × ℕ)) : SelectReturn:=
  marks.foldl (fun r entry=>r.mark entry.1 entry.2) r

variable (r : SelectReturn)

lemma sets_mark_self (cond : SelectCondition) (index : ℕ) :
    (r.mark cond index).sets cond=(r.sets cond).map fun set=>set.mark cond index:=
  Function.update_self _ _ _

lemma sets_mark_of_ne {cond other : SelectCondition} (h : other≠cond) (index : ℕ) :
    (r.mark cond index).sets other=r.sets other:=
  Function.update_of_ne h _ _

lemma isSome_mark (cond other : SelectCondition) (index : ℕ) :
    ((r.mark cond index).sets other).isSome=(r.sets other).isSome:=by
  by_cases h : other=cond
  · subst h
    rw [sets_mark_self,Option.isSome_map]
  · rw [sets_mark_of_ne r h]

lemma marked_mark (cond other : SelectCondition) (index i : ℕ) :
    (r.mark cond index).marked other i=
      (r.marked other i || ((r.sets other).isSome && decide ((other,i)=(cond,index)))):=by
  unfold marked
  by_cases h : other=cond
  · subst h
    rw [sets_mark_self]
    cases r.sets other with
    | none=>rfl
    | some set=>
      simp only [Option.map_some,Option.getD_some,SocketSet.mark,Function.update_self,
        Option.isSome_some,Bool.true_and,Prod.mk.injEq,true_and]
      by_cases hi : i=index
      · subst hi
        rw [Function.update_self,decide_eq_true rfl,Bool.or_true]
      · rw [Function.update_of_ne hi,decide_eq_false hi,Bool.or_false]
  · have hne : ¬(other,i)=(cond,index):=fun heq=>h (Prod.mk.inj heq).1
    rw [sets_mark_of_ne r h,decide_eq_false hne,Bool.and_false,Bool.or_false]

variable (marks : List (SelectCondition × ℕ))

/-- Marks keep what a set has besides them. -/
lemma map_applyMarks {β : Type*} {f : SocketSet→β} (hf : ∀ set cond index, f (set.mark cond index)=f set)
    (other : SelectCondition) : ((r.applyMarks marks).sets other).map f=(r.sets other).map f:=by
  induction marks generalizing r with
  | nil=>rfl
  | cons entry marks ih=>
    refine (ih (r.mark entry.1 entry.2)).trans ?_
    by_cases h : other=entry.1
    · rw [h,sets_mark_self,Option.map_map]
      exact congrArg (Option.map · _) (funext fun set=>hf set _ _)
    · rw [sets_mark_of_ne r h]

lemma members_applyMarks : (r.applyMarks marks).sets.members=r.sets.members:=by
  funext other
  rw [SelectSets.members,map_applyMarks r marks fun _ _ _=>rfl]
  rfl

lemma marked_applyMarks (cond : SelectCondition) (index : ℕ) :
    (r.applyMarks marks).marked cond index=
      (r.marked cond index || ((r.sets cond).isSome && marks.contains (cond,index))):=by
  unfold applyMarks
  induction marks generalizing r with
  | nil=>rw [List.contains_nil,Bool.and_false,Bool.or_false,List.foldl_nil]
  | cons entry marks ih=>
    rw [List.foldl_cons,ih,marked_mark,isSome_mark,List.contains_cons,Bool.and_or_distrib_left,Bool.or_assoc,beq_eq_decide]

lemma counts_applyMarks (cond : SelectCondition) :
    (r.applyMarks marks).counts cond=r.counts cond+marks.countP fun entry=>entry.1=cond:=by
  unfold applyMarks
  induction marks generalizing r with
  | nil=>rfl
  | cons entry marks ih=>
    rw [List.foldl_cons,ih,List.countP_cons]
    change Function.update r.counts entry.1 (r.counts entry.1+1) cond+_=_
    by_cases h : entry.1=cond
    · rw [← h,Function.update_self,if_pos (decide_eq_true rfl)]
      omega
    · rw [Function.update_of_ne (Ne.symm h),if_neg (by simpa using h),Nat.add_zero]

lemma readyCount_applyMarks : (r.applyMarks marks).readyCount=r.readyCount+marks.length:=by
  unfold applyMarks
  induction marks generalizing r with
  | nil=>rfl
  | cons entry marks ih=>
    rw [List.foldl_cons,ih,List.length_cons]
    change r.readyCount+1+marks.length=_
    omega

lemma code_applyMarks :
    (r.applyMarks marks).code=r.code ∧ (r.applyMarks marks).timeoutOccurred=r.timeoutOccurred:=by
  unfold applyMarks
  induction marks generalizing r with
  | nil=>exact ⟨rfl,rfl⟩
  | cons entry marks ih=>exact ih (r.mark entry.1 entry.2)

lemma foldl_eq_applyMarks {β : Type} {turn : SelectReturn → β→SelectReturn}
    (marksOf : (SelectCondition→List SocketInfo) → β→List (SelectCondition × ℕ))
    (hturn : ∀ r x, turn r x=r.applyMarks (marksOf r.sets.members x)) (xs : List β) :
    xs.foldl turn r=r.applyMarks (xs.flatMap (marksOf r.sets.members)):=by
  induction xs generalizing r with
  | nil=>rfl
  | cons x xs ih=>
    rw [List.foldl_cons,ih,hturn,members_applyMarks,List.flatMap_cons,applyMarks,applyMarks,applyMarks,List.foldl_append]

def eventMarks (event : SocketInfo × PollFlags) (members : SelectCondition→List SocketInfo)
    (cond : SelectCondition) : List (SelectCondition × ℕ):=
  if event.2.epollReports cond then
    (((members cond).findIdx? fun other=>other=event.1).map fun index=>(cond,index)).toList
  else []

lemma checkEvent_eq (event : SocketInfo × PollFlags) (r : SelectReturn) (cond : SelectCondition) :
    checkEvent event r cond=r.applyMarks (eventMarks event r.sets.members cond):=by
  unfold checkEvent eventMarks SelectSets.members SocketSet.findSocketIndex
  cases r.sets cond with
  | none=>
    dsimp only [Option.map_none,Option.getD_none,List.findIdx?_nil,Option.toList_none]
    rw [ite_self]
    rfl
  | some set=>
    dsimp only [Option.map_some,Option.getD_some]
    split
    · cases set.sockets.findIdx? fun other=>other=event.1 with
      | none=>rfl
      | some index=>rfl
    · rfl

def epollMarks (members : SelectCondition→List SocketInfo)
    (events : List (SocketInfo × PollFlags)) : List (SelectCondition × ℕ):=
  events.flatMap fun event=>[SelectCondition.read,.write,.error].flatMap (eventMarks event members)

lemma foldl_processEvent (r : SelectReturn) (events : List (SocketInfo × PollFlags)) :
    events.foldl processEvent r=r.applyMarks (epollMarks r.sets.members events):=by
  apply foldl_eq_applyMarks r fun members event=>[SelectCondition.read,.write,.error].flatMap (eventMarks event members)
  intro r event
  exact foldl_eq_applyMarks r (eventMarks event) (checkEvent_eq event) _

variable (fds : SelectCondition→List ℤ)

/-- The marks of the loops after `select`. -/
def descriptorMarks (members : SelectCondition→List SocketInfo)
    (cond : SelectCondition) : List (SelectCondition × ℕ):=
  (members cond).zipIdx.flatMap fun entry=>
    if 0≤entry.1.fd ∧ entry.1.fd∈fds cond then [(cond,entry.2)] else []

lemma checkDescriptors_eq (r : SelectReturn) (cond : SelectCondition) :
    checkDescriptors fds r cond=r.applyMarks (descriptorMarks fds r.sets.members cond):=by
  have hturn : ∀ (r : SelectReturn) (entry : SocketInfo × ℕ),
      checkDescriptor (fds cond) cond r entry=r.applyMarks
        (if 0≤entry.1.fd ∧ entry.1.fd∈fds cond then [(cond,entry.2)] else []):=by
    intro r entry
    unfold checkDescriptor
    split
    · rfl
    · rfl
  have hloop:=foldl_eq_applyMarks r (fun _ (entry : SocketInfo × ℕ)=>
    if 0≤entry.1.fd ∧ entry.1.fd∈fds cond then [(cond,entry.2)] else []) hturn
  unfold checkDescriptors descriptorMarks SelectSets.members
  cases r.sets cond with
  | none=>rfl
  | some set=>exact hloop set.sockets.zipIdx

end SelectReturn

@[ext]
structure SelectReport where
  code : ErrorType
  marked : SelectCondition→ℕ→Bool
  counts : SelectCondition→ℕ
  readyCount : ℕ
  timeoutOccurred : Bool

def SelectReturn.report (r : SelectReturn) : SelectReport where
  code:=r.code
  marked:=r.marked
  counts:=r.counts
  readyCount:=r.readyCount
  timeoutOccurred:=r.timeoutOccurred

structure SelectView where
  wakes : KernelState→Bool
  marks : KernelState→SelectCondition→SocketInfo→Bool

def SelectReport.quiet (code : ErrorType) (timeoutOccurred : Bool) : SelectReport where
  code:=code
  marked _ _:=false
  counts _:=0
  readyCount:=0
  timeoutOccurred:=timeoutOccurred

def SelectSets.snapshot (sets : SelectSets) (ready : SelectCondition→SocketInfo→Bool) :
    SelectReport where
  code:=.ok
  marked cond index:=(sets.members cond)[index]?.any (ready cond)
  counts cond:=(sets.members cond).countP (ready cond)
  readyCount:=(sets.members .read).countP (ready .read)+
    (sets.members .write).countP (ready .write)+(sets.members .error).countP (ready .error)
  timeoutOccurred:=false

def WaitEnding.report : WaitEnding→Option SelectReport
  | .expired=>some (.quiet .timeout true)
  | .failed errno=>some (.quiet (platformToZooError errno) false)
  | .blocked=>none

def SelectView.report (view : SelectView) (sets : SelectSets) (env : SelectEnvironment) :
    Option SelectReport:=
  match sets.primary with
  | none=>some (.quiet .invalidParam false)
  | some _=>
    match env.states.find? view.wakes with
    | some kernel=>some (sets.snapshot (view.marks kernel))
    | none=>env.ending.report

/-- The view of epoll: every event of a registered socket wakes it. -/
def epollView (registered : List SocketInfo) (env : SelectEnvironment) : SelectView where
  wakes kernel:=registered.any fun socket=>(kernel socket.fd).wakesEpoll
  marks kernel cond socket:=(kernel socket.fd).epollReports cond &&
    (epollReported registered env kernel).contains socket

/-- The view of `select`. -/
def selectView (sets : SelectSets) : SelectView where
  wakes kernel:=[SelectCondition.read,.write,.error].any fun cond=>
    (sets.descriptors cond).any fun fd=>(kernel fd).selectReports cond
  marks kernel cond socket:=decide (0 ≤ socket.fd) && (kernel socket.fd).selectReports cond

/-- The view of a call: of the instance on which it waits, or of `select`, if there is none. -/
def SelectSets.view (sets : SelectSets) (env : SelectEnvironment) : SelectView:=
  match sets.start.sets.primary with
  | none=>epollView [] env
  | some (cond,set)=>
    match sets.start.sets.prepareEpoll env cond set with
    | none=>selectView sets
    | some set=>epollView (set.registered.getD []) env

lemma length_eq_countP (marks : List (SelectCondition × ℕ)) :
    marks.length=marks.countP (fun entry=>entry.1 = .read)+
      marks.countP (fun entry=>entry.1 = .write)+
      marks.countP (fun entry=>entry.1 = .error):=by
  induction marks with
  | nil=>rfl
  | cons entry marks ih=>
    obtain ⟨cond,index⟩:=entry
    rw [List.length_cons,ih,List.countP_cons,List.countP_cons,List.countP_cons]
    cases cond <;> simp <;> omega

structure SelectReturn.Fresh (r : SelectReturn) (sets : SelectSets) : Prop where
  members : r.sets.members=sets.members
  isSome : ∀ cond, (r.sets cond).isSome=(sets cond).isSome
  report : r.report = .quiet .ok false

lemma SelectSets.isSome_of_mem {sets : SelectSets} {cond : SelectCondition}
    {socket : SocketInfo} (h : socket∈sets.members cond) : (sets cond).isSome:=by
  unfold SelectSets.members at h
  cases hset : sets cond with
  | none=>
    rw [hset] at h
    cases h
  | some set=>rfl

lemma SelectReturn.Fresh.report_applyMarks {r : SelectReturn} {sets : SelectSets}
    (h : r.Fresh sets) {marks : List (SelectCondition × ℕ)} {ready : SelectCondition→SocketInfo→Bool}
    (hmarks : ∀ cond index, (cond,index)∈marks ↔
      ∃ socket, (sets.members cond)[index]?=some socket ∧ ready cond socket=true)
    (hcounts : ∀ cond, marks.countP (fun entry=>entry.1=cond)=
      (sets.members cond).countP (ready cond)) : (r.applyMarks marks).report=sets.snapshot ready:=by
  ext1
  · exact (r.code_applyMarks marks).1.trans (congrArg SelectReport.code h.report)
  · funext cond index
    have hnone : r.marked cond index=false:=
      congrFun (congrFun (congrArg SelectReport.marked h.report) cond) index
    change (r.applyMarks marks).marked cond index=_
    rw [marked_applyMarks,hnone,Bool.false_or,h.isSome,Bool.eq_iff_iff,Bool.and_eq_true,
      List.contains_iff_mem,hmarks,SelectSets.snapshot,Option.any_eq_true]
    constructor
    · rintro ⟨-,hready⟩
      exact hready
    · rintro ⟨socket,hsocket,hready⟩
      exact ⟨SelectSets.isSome_of_mem (List.mem_of_getElem? hsocket),socket,hsocket,hready⟩
  · funext cond
    have hzero : r.counts cond=0:=congrFun (congrArg SelectReport.counts h.report) cond
    change (r.applyMarks marks).counts cond=_
    rw [counts_applyMarks,hzero,Nat.zero_add,hcounts]
    rfl
  · have hzero : r.readyCount=0:=congrArg SelectReport.readyCount h.report
    change (r.applyMarks marks).readyCount=_
    rw [readyCount_applyMarks,hzero,Nat.zero_add,length_eq_countP,hcounts,hcounts,hcounts]
    rfl
  · exact (r.code_applyMarks marks).2.trans (congrArg SelectReport.timeoutOccurred h.report)

lemma countP_eventMarks (event : SocketInfo × PollFlags)
    (members : SelectCondition→List SocketInfo) (cond : SelectCondition) :
    ([SelectCondition.read,.write,.error].flatMap
        (SelectReturn.eventMarks event members)).countP (fun entry=>entry.1=cond)=
      if (event.2.epollReports cond && (members cond).contains event.1)=true
      then 1 else 0:=by
  have hone : ∀ other, (SelectReturn.eventMarks event members other).countP
      (fun entry=>entry.1=cond)=
        if other=cond ∧
          (event.2.epollReports cond && (members cond).contains event.1)=true
        then 1 else 0:=by
    intro other
    have hfound : ((members other).findIdx? fun x=>x=event.1).isSome=
        (members other).any fun x=>x=event.1:=List.findIdx?_isSome
    have hcontains : ((members other).any fun x=>x=event.1)=
        (members other).contains event.1:=by
      rw [Bool.eq_iff_iff]
      simp
    rw [hcontains] at hfound
    unfold SelectReturn.eventMarks
    by_cases hother : other=cond
    · subst hother
      cases hrep : event.2.epollReports other with
      | false=>simp
      | true=>
        rw [← hfound]
        cases (members other).findIdx? fun x=>x=event.1 <;> simp
    · rw [if_neg (c:=other=cond ∧ _) fun h=>hother h.1]
      split
      · cases (members other).findIdx? fun x=>x=event.1 <;> simp [hother]
      · rfl
  rw [List.flatMap_cons,List.flatMap_cons,List.flatMap_cons,List.flatMap_nil,
    List.countP_append,List.countP_append,List.countP_append,hone,hone,hone,List.countP_nil]
  cases cond <;> simp

section
variable {members : SelectCondition→List SocketInfo} (hnodup : ∀ cond, (members cond).Nodup)
  (kernel : KernelState) {reported : List SocketInfo}

include hnodup

lemma mem_epollMarks (cond : SelectCondition) (index : ℕ) :
    (cond,index)∈SelectReturn.epollMarks members
        (reported.map fun socket=>(socket,kernel socket.fd)) ↔
      ∃ socket, (members cond)[index]?=some socket ∧
        ((kernel socket.fd).epollReports cond && reported.contains socket)=true:=by
  unfold SelectReturn.epollMarks SelectReturn.eventMarks
  simp only [List.mem_flatMap,List.mem_map,Bool.and_eq_true,List.contains_iff_mem]
  constructor
  · rintro ⟨_,⟨socket,hsocket,rfl⟩,other,-,hmem⟩
    split at hmem
    next hrep=>
      obtain ⟨found,hfound,heq⟩:=Option.map_eq_some_iff.1 (Option.mem_toList.1 hmem)
      cases heq
      exact ⟨socket,(SlotCounts.findIdx?_eq_some_iff_of_nodup (hnodup _)).1 hfound,hrep, hsocket⟩
    · cases hmem
  · rintro ⟨socket,hindex,hrep,hsocket⟩
    refine ⟨_,⟨socket,hsocket,rfl⟩,cond,?_,?_⟩
    · cases cond <;> decide
    · rw [if_pos hrep,(SlotCounts.findIdx?_eq_some_iff_of_nodup (hnodup _)).2 hindex]
      exact List.mem_singleton_self _

lemma countP_epollMarks (hreported : reported.Nodup) (cond : SelectCondition) :
    (SelectReturn.epollMarks members (reported.map fun socket=>(socket,kernel socket.fd))).countP
        (fun entry=>entry.1=cond)=
      (members cond).countP fun socket=>(kernel socket.fd).epollReports cond && reported.contains socket:=by
  rw [← SlotCounts.countP_contains_comm hreported (hnodup cond)]
  clear hreported
  unfold SelectReturn.epollMarks
  induction reported with
  | nil=>rfl
  | cons socket reported ih=>
    rw [List.map_cons,List.flatMap_cons,List.countP_append,ih,List.countP_cons,Nat.add_comm]
    congr 1
    exact countP_eventMarks (socket,kernel socket.fd) members cond

end

section
variable (sets : SelectSets) (kernel : KernelState)

lemma SelectSets.mem_descriptors {sets : SelectSets} {cond : SelectCondition}
    {socket : SocketInfo} (h : socket∈sets.members cond) (hfd : 0 ≤ socket.fd) :
    socket.fd∈sets.descriptors cond:=
  List.mem_filter.2 ⟨List.mem_map_of_mem h,decide_eq_true hfd⟩

/-- The marks of all loops after `select` has returned in a state of the kernel. -/
def SelectSets.selectMarks : List (SelectCondition × ℕ):=
  [SelectCondition.read,.write,.error].flatMap (SelectReturn.descriptorMarks
    (fun cond=>(sets.descriptors cond).filter fun fd=>(kernel fd).selectReports cond) sets.members)

lemma mem_selectMarks (cond : SelectCondition) (index : ℕ) :
    (cond,index)∈sets.selectMarks kernel ↔
      ∃ socket, (sets.members cond)[index]?=some socket ∧ (selectView sets).marks kernel cond socket=true:=by
  unfold SelectSets.selectMarks SelectReturn.descriptorMarks
  simp only [List.mem_flatMap]
  constructor
  · rintro ⟨other,-,⟨socket,found⟩,hfound,hmem⟩
    split at hmem
    next hready=>
      cases List.mem_singleton.1 hmem
      refine ⟨socket,List.mem_zipIdx_iff_getElem?.1 hfound,?_⟩
      rw [selectView,Bool.and_eq_true,decide_eq_true_iff]
      exact ⟨hready.1,(List.mem_filter.1 hready.2).2⟩
    · cases hmem
  · rintro ⟨socket,hindex,hready⟩
    rw [selectView,Bool.and_eq_true,decide_eq_true_iff] at hready
    refine ⟨cond,?_,(socket,index),List.mem_zipIdx_iff_getElem?.2 hindex,?_⟩
    · cases cond <;> decide
    · have hfd:=SelectSets.mem_descriptors (List.mem_of_getElem? hindex) hready.1
      rw [if_pos ⟨hready.1,List.mem_filter.2 ⟨hfd,hready.2⟩⟩]
      exact List.mem_singleton_self _

lemma countP_descriptorMarks (fds : SelectCondition→List ℤ)
    (members : SelectCondition→List SocketInfo) (cond other : SelectCondition) :
    (SelectReturn.descriptorMarks fds members other).countP (fun entry=>entry.1=cond)=
      if other=cond then
        (members cond).countP fun socket=>0 ≤ socket.fd ∧ socket.fd∈fds cond
      else 0:=by
  split
  next hother=>
    subst hother
    have hall : (SelectReturn.descriptorMarks fds members other).countP
        (fun entry=>entry.1=other)=(SelectReturn.descriptorMarks fds members other).length:=by
      rw [List.countP_eq_length]
      intro entry hentry
      obtain ⟨found,-,hmem⟩:=List.mem_flatMap.1 hentry
      split at hmem
      · rw [List.mem_singleton.1 hmem]
        exact decide_eq_true rfl
      · cases hmem
    rw [hall,SelectReturn.descriptorMarks,SlotCounts.length_flatMap_ite]
    nth_rewrite 2 [← List.zipIdx_map_fst 0 (members other)]
    rw [List.countP_map]
    rfl
  next hother=>
    rw [List.countP_eq_zero]
    intro entry hentry heq
    obtain ⟨found,-,hmem⟩:=List.mem_flatMap.1 hentry
    split at hmem
    · rw [List.mem_singleton.1 hmem] at heq
      exact hother (of_decide_eq_true heq)
    · cases hmem

lemma countP_selectMarks (cond : SelectCondition) :
    (sets.selectMarks kernel).countP (fun entry=>entry.1=cond)=
      (sets.members cond).countP ((selectView sets).marks kernel cond):=by
  have hready : (sets.members cond).countP (fun socket=>0 ≤ socket.fd ∧
      socket.fd∈(sets.descriptors cond).filter fun fd=>(kernel fd).selectReports cond)=
      (sets.members cond).countP ((selectView sets).marks kernel cond):=by
    apply List.countP_congr
    intro socket hsocket
    rw [decide_eq_true_iff,selectView,Bool.and_eq_true,decide_eq_true_iff,List.mem_filter]
    constructor
    · rintro ⟨hfd,-,hrep⟩
      exact ⟨hfd,hrep⟩
    · rintro ⟨hfd,hrep⟩
      exact ⟨hfd,SelectSets.mem_descriptors hsocket hfd,hrep⟩
  rw [← hready,SelectSets.selectMarks,List.flatMap_cons,List.flatMap_cons,List.flatMap_cons,
    List.flatMap_nil,List.countP_append,List.countP_append,List.countP_append,
    countP_descriptorMarks,countP_descriptorMarks,countP_descriptorMarks,List.countP_nil]
  cases cond <;> simp

end

namespace SelectSets
variable {sets : SelectSets} {env : SelectEnvironment}

lemma members_start : sets.start.sets.members=sets.members:=by
  funext cond
  unfold members start
  dsimp only
  rw [Option.map_map]
  rfl

lemma fresh_start (sets : SelectSets) : sets.start.Fresh sets where
  members:=members_start
  isSome cond:=Option.isSome_map
  report:=by
    ext1
    · rfl
    · funext cond index
      change ((sets.start.sets cond).map fun set=>set.ready cond index).getD false=false
      unfold start
      dsimp only
      cases sets cond with
      | none=>rfl
      | some set=>
        have hcleared : (set.clear cond).ready cond=fun _=>false:=Function.update_self _ _ _
        rw [Option.map_some,Option.map_some,Option.getD_some,hcleared]
    · rfl
    · rfl
    · rfl

lemma primary_start :
    sets.start.sets.primary=sets.primary.map fun entry=>(entry.1,entry.2.clear entry.1):=by
  unfold primary start
  dsimp only
  cases sets .read with
  | some set=>rfl
  | none=>
    cases sets .write with
    | some set=>rfl
    | none=>
      cases sets .error with
      | some set=>rfl
      | none=>rfl

lemma primary_eq {cond : SelectCondition} {set : SocketSet}
    (h : sets.primary=some (cond,set)) : sets cond=some set:=by
  unfold primary at h
  split at h
  next hset=>
    cases h
    exact hset
  next hset=>
    cases h
    exact hset
  next hset=>
    cases h
    exact hset
  · cases h

lemma report_of_fresh {r : SelectReturn} (h : r.Fresh sets) (code : ErrorType) (timeoutOccurred : Bool) :
    ({r with code:=code, timeoutOccurred:=timeoutOccurred} : SelectReturn).report= .quiet code timeoutOccurred:=by
  have hmarked : r.marked=_:=congrArg SelectReport.marked h.report
  have hcounts : r.counts=_:=congrArg SelectReport.counts h.report
  have hready : r.readyCount=_:=congrArg SelectReport.readyCount h.report
  ext1
  · rfl
  · exact hmarked
  · exact hcounts
  · exact hready
  · rfl

lemma report_afterWait {r : SelectReturn} (h : r.Fresh sets) (ending : WaitEnding) :
    (r.afterWait ending).map SelectReturn.report=ending.report:=by
  cases ending with
  | expired=>exact congrArg some (report_of_fresh h .timeout true)
  | failed errno=>
    have htim : r.timeoutOccurred=false:=congrArg SelectReport.timeoutOccurred h.report
    have hreport:=report_of_fresh h (platformToZooError errno) false
    rw [← htim] at hreport
    refine congrArg some (hreport.trans ?_)
    rw [htim]
  | blocked=>rfl

lemma useSelect_report {entry : SelectCondition × SocketSet} (hprimary : sets.primary=some entry) :
    (sets.useSelect env).map SelectReturn.report=(selectView sets).report sets env:=by
  have hwait : selectWait sets.descriptors env=
      match env.states.find? (selectView sets).wakes with
      | some kernel=>.ready fun cond=>(sets.descriptors cond).filter fun fd=>
          (kernel fd).selectReports cond
      | none=>.ended env.ending:=rfl
  unfold useSelect SelectView.report
  rw [hprimary,hwait]
  cases env.states.find? (selectView sets).wakes with
  | none=>exact report_afterWait sets.fresh_start env.ending
  | some kernel=>
    refine congrArg some ?_
    rw [SelectReturn.foldl_eq_applyMarks _ _ (SelectReturn.checkDescriptors_eq _),members_start]
    exact sets.fresh_start.report_applyMarks (mem_selectMarks sets kernel) (countP_selectMarks sets kernel)

lemma selectMultipleSelect_report :
    (sets.selectMultipleSelect env).map SelectReturn.report=(selectView sets).report sets env:=by
  unfold selectMultipleSelect
  rw [primary_start]
  cases hprimary : sets.primary with
  | none=>
    unfold SelectView.report
    rw [hprimary]
    exact congrArg some (report_of_fresh sets.fresh_start .invalidParam false)
  | some entry=>exact useSelect_report hprimary

lemma nodup_epollReported {registered : List SocketInfo} (h : registered.Nodup)
    (kernel : KernelState) : (epollReported registered env kernel).Nodup:=by
  have hready : (registered.filter fun socket=>(kernel socket.fd).wakesEpoll).Nodup:=h.filter _
  have hord:=(env.order_perm _).nodup_iff.2 hready
  exact hord.sublist (List.take_sublist _ _)

lemma fresh_update {cond : SelectCondition} {set prepared : SocketSet}
    (hset : sets.start.sets cond=some set) (hsockets : prepared.sockets=set.sockets)
    (hready : prepared.ready=set.ready) :
    ({sets.start with sets:=Function.update sets.start.sets cond (some prepared)} : SelectReturn).Fresh sets:=by
  have hmap : ∀ {α : Type} (f : SocketSet → α), f prepared=f set→∀ other,
      (Function.update sets.start.sets cond (some prepared) other).map f=(sets.start.sets other).map f:=by
    intro α f hf other
    by_cases h : other=cond
    · subst h
      rw [Function.update_self,hset,Option.map_some,Option.map_some,hf]
    · rw [Function.update_of_ne h]
  refine ⟨?_,fun other=>?_,?_⟩
  · refine Eq.trans ?_ members_start
    funext other
    exact congrArg (Option.getD · []) (hmap SocketSet.sockets hsockets other)
  · have hunit:=congrArg Option.isSome (hmap (fun _=>()) rfl other)
    rw [Option.isSome_map,Option.isSome_map] at hunit
    exact hunit.trans (sets.fresh_start.isSome other)
  · refine Eq.trans ?_ sets.fresh_start.report
    ext1
    · rfl
    · funext other index
      have hkept : prepared.ready other index=set.ready other index:=by rw [hready]
      exact congrArg (Option.getD · false) (hmap (fun set=>set.ready other index) hkept other)
    · rfl
    · rfl
    · rfl

lemma selectMultiple_report (env : SelectEnvironment) (hsound : ∀ cond, ∀ set∈sets cond, set.Sound) :
    (sets.selectMultiple env).map SelectReturn.report=(sets.view env).report sets env:=by
  have hnodup : ∀ cond, (sets.members cond).Nodup:=by
    intro cond
    unfold members
    cases hset : sets cond with
    | none=>exact List.nodup_nil
    | some set=>exact (hsound cond set hset).nodup
  unfold selectMultiple view
  rw [primary_start]
  cases hprimary : sets.primary with
  | none=>
    unfold SelectView.report
    rw [hprimary]
    exact congrArg some (report_of_fresh sets.fresh_start .invalidParam false)
  | some entry=>
    obtain ⟨cond,set⟩:=entry
    dsimp only [Option.map_some]
    have hset:=primary_eq hprimary
    have hstart : sets.start.sets cond=some (set.clear cond):=by
      unfold start
      dsimp only
      rw [hset,Option.map_some]
    have hdistinct : (set.clear cond).Distinct:=by
      have h:=hsound cond set hset
      change ((set.registered.getD []).map SocketInfo.fd).Nodup
      rw [h.registered]
      exact h.fds
    cases hprepares : sets.start.sets.prepareEpoll env cond (set.clear cond) with
    | none=>exact useSelect_report hprimary
    | some prepared=>
      obtain ⟨hprepared,hsockets,hready⟩:=prepareEpoll_spec hdistinct hprepares
      have hfresh:=fresh_update hstart hsockets hready
      have hreported : ∀ kernel, (epollReported (prepared.registered.getD []) env kernel).Nodup:=
        nodup_epollReported (hprepared.of_map _)
      have hwait : epollWait (prepared.registered.getD []) env=
          match env.states.find? (epollView (prepared.registered.getD []) env).wakes with
          | some kernel=>
            .ready ((epollReported (prepared.registered.getD []) env kernel).map fun socket=>(socket,kernel socket.fd))
          | none=>.ended env.ending:=rfl
      unfold SelectView.report
      dsimp only
      rw [hprimary,hwait]
      cases env.states.find? (epollView (prepared.registered.getD []) env).wakes with
      | none=>exact report_afterWait hfresh env.ending
      | some kernel=>
        refine congrArg some ?_
        rw [SelectReturn.foldl_processEvent,hfresh.members]
        exact hfresh.report_applyMarks (mem_epollMarks hnodup kernel) (countP_epollMarks hnodup kernel (hreported kernel))

end SelectSets
end SoftMessageBus
