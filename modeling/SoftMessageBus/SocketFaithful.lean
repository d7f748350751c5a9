import SoftMessageBus.SocketReadiness

/-!
# Faithful readiness

A call should return for ready sockets and mark just those.
-/
namespace SoftMessageBus
open List

namespace SelectSets
variable {sets : SelectSets} {env : SelectEnvironment}

lemma members_eq_nil (h : sets.primary=none) (cond : SelectCondition) : sets.members cond=[]:=by
  have hnone : sets cond=none:=by
    unfold primary at h
    split at h
    · cases h
    · cases h
    · cases h
    · cases cond with
      | read=>assumption
      | write=>assumption
      | error=>assumption
  rw [members,hnone]
  rfl

lemma snapshot_inj {ready ready' : SelectCondition→SocketInfo→Bool} :
    sets.snapshot ready=sets.snapshot ready' ↔ ∀ cond, ∀ socket∈sets.members cond,
      ready cond socket=ready' cond socket:=by
  constructor
  · intro h cond socket hsocket
    obtain ⟨index,hindex⟩:=mem_iff_getElem?.1 hsocket
    have hmarked:=congrFun (congrFun (congrArg SelectReport.marked h) cond) index
    simp only [snapshot,hindex,Option.any_some] at hmarked
    exact hmarked
  · intro h
    have hcounts : ∀ cond, (sets.members cond).countP (ready cond)=
        (sets.members cond).countP (ready' cond):=by
      intro cond
      apply countP_congr
      intro socket hsocket
      rw [h cond socket hsocket]
    ext1
    · rfl
    · funext cond index
      simp only [snapshot]
      cases hindex : (sets.members cond)[index]? with
      | none=>rfl
      | some socket=>exact h cond socket (mem_of_getElem? hindex)
    · funext cond
      exact hcounts cond
    · simp only [snapshot,hcounts]
    · rfl

end SelectSets
namespace SelectView
variable {view other : SelectView} {sets : SelectSets} {env : SelectEnvironment}

def Idle (view : SelectView) (sets : SelectSets) : Prop:=sets.primary=none→∀ kernel, view.wakes kernel=false

lemma Idle.find? (h : view.Idle sets) (hprimary : sets.primary=none) : env.states.find? view.wakes=none:=by
  rw [find?_eq_none]
  intro kernel _
  rw [h hprimary kernel]
  exact Bool.false_ne_true

lemma report_of_primary {entry : SelectCondition × SocketSet}
    (hprimary : sets.primary=some entry) :
    view.report sets env=match env.states.find? view.wakes with
      | some kernel=>some (sets.snapshot (view.marks kernel))
      | none=>env.ending.report:=by
  cases hfind : env.states.find? view.wakes with
  | none | some=>simp [report,hprimary,hfind]

lemma code_ne_ok_of_ending {report : SelectReport} (h : env.ending.report=some report) :
    report.code ≠ .ok:=by
  unfold WaitEnding.report at h
  split at h
  · cases h
    nofun
  · cases h
    exact platformToZooError_ne_ok _
  · cases h

lemma report_ok_iff (hidle : view.Idle sets) :
    (∃ report, view.report sets env=some report ∧ report.code = .ok) ↔ ∃ kernel∈env.states, view.wakes kernel=true:=by
  have hwakes : (env.states.find? view.wakes).isSome ↔ ∃ kernel∈env.states, view.wakes kernel=true:=find?_isSome
  rw [← hwakes]
  cases hprimary : sets.primary with
  | none=>
    rw [hidle.find? hprimary,report,hprimary]
    refine iff_of_false ?_ Bool.false_ne_true
    rintro ⟨report,hreport,hcode⟩
    cases hreport
    cases hcode
  | some entry=>
    rw [report_of_primary hprimary]
    cases env.states.find? view.wakes with
    | none=>
      refine iff_of_false ?_ Bool.false_ne_true
      rintro ⟨report,hreport,hcode⟩
      exact code_ne_ok_of_ending hreport hcode
    | some kernel=>exact iff_of_true ⟨_,rfl,rfl⟩ rfl

lemma report_eq_iff (hidle : view.Idle sets) (hidle' : other.Idle sets) :
    view.report sets env=other.report sets env ↔
      match env.states.find? view.wakes, env.states.find? other.wakes with
      | none, none=>True
      | some kernel, some kernel'=>∀ cond, ∀ socket∈sets.members cond,
          view.marks kernel cond socket=other.marks kernel' cond socket
      | _, _=>False:=by
  cases hprimary : sets.primary with
  | none=>
    rw [hidle.find? hprimary,hidle'.find? hprimary,report,report,hprimary]
    exact iff_true_intro rfl
  | some entry=>
    rw [report_of_primary hprimary,report_of_primary hprimary]
    cases env.states.find? view.wakes with
    | none=>
      cases env.states.find? other.wakes with
      | none=>exact iff_true_intro rfl
      | some kernel'=>
        refine iff_false_intro fun h=>?_
        exact code_ne_ok_of_ending h rfl
    | some kernel=>
      cases env.states.find? other.wakes with
      | none=>
        refine iff_false_intro fun h=>?_
        exact code_ne_ok_of_ending h.symm rfl
      | some kernel'=>
        dsimp only
        rw [Option.some_inj]
        exact SelectSets.snapshot_inj

end SelectView
namespace SelectSets
variable {sets : SelectSets} {env : SelectEnvironment}

lemma idle_view : (sets.view env).Idle sets:=by
  intro hprimary kernel
  unfold view
  rw [primary_start,hprimary]
  rfl

lemma idle_selectView : (selectView sets).Idle sets:=by
  intro hprimary kernel
  unfold selectView descriptors
  simp [members_eq_nil hprimary]

lemma view_eq_of_sockets {cond : SelectCondition} {set : SocketSet} (h : set.Sound)
    (hprimary : sets.primary=some (cond,set)) (hne : set.sockets≠[]) :
    sets.view env=epollView set.sockets env:=by
  have hreg : set.registered=some set.sockets:=by
    have hgetD:=h.registered
    cases hsome : set.registered with
    | none=>
      rw [hsome] at hgetD
      exact absurd hgetD.symm hne
    | some registered=>
      rw [hsome] at hgetD
      exact congrArg some hgetD
  unfold view prepareEpoll
  rw [primary_start,hprimary]
  simp only [Option.map_some,SocketSet.clear,hreg,Option.getD_some]

def Ready (sets : SelectSets) (kernel : KernelState) : Prop:=
  ∃ cond, ∃ socket∈sets.members cond, (kernel socket.fd).epollReports cond=true

def returnState (sets : SelectSets) (env : SelectEnvironment) : Option KernelState:=env.states.find? (sets.view env).wakes

lemma exists_code_ok_iff {returned : Option SelectReturn} :
    (∃ r, returned=some r ∧ r.code = .ok) ↔ ∃ report, returned.map SelectReturn.report=some report ∧ report.code = .ok:=by
  constructor
  · rintro ⟨r,rfl,hcode⟩
    exact ⟨r.report,rfl,hcode⟩
  · rintro ⟨report,hreport,hcode⟩
    obtain ⟨r,hr,rfl⟩:=Option.map_eq_some_iff.1 hreport
    exact ⟨r,hr,hcode⟩

lemma marked_of_returnState (hsound : ∀ cond, ∀ set∈sets cond, set.Sound)
    {kernel : KernelState} (hret : sets.returnState env=some kernel) :
    ∃ r, sets.selectMultiple env=some r ∧ ∀ cond index, r.marked cond index=
      (sets.members cond)[index]?.any ((sets.view env).marks kernel cond):=by
  have hreport:=selectMultiple_report env hsound
  cases hprimary : sets.primary with
  | none=>
    rw [returnState,idle_view.find? hprimary] at hret
    cases hret
  | some entry=>
    rw [returnState] at hret
    rw [SelectView.report_of_primary hprimary,hret] at hreport
    obtain ⟨r,hr,hsnapshot⟩:=Option.map_eq_some_iff.1 hreport
    exact ⟨r,hr,fun cond index=>congrFun (congrFun (congrArg SelectReport.marked hsnapshot) cond) index⟩

/-- A call returns OK for a ready socket, marks those ready, and agrees with `select`. -/
structure Faithful (sets : SelectSets) (env : SelectEnvironment) : Prop where
  returns : (∃ r, sets.selectMultiple env=some r ∧ r.code = .ok) ↔ ∃ kernel∈env.states, sets.Ready kernel
  marks : ∀ kernel r, sets.returnState env=some kernel→sets.selectMultiple env=some r→
    ∀ cond index, r.marked cond index=true ↔
      ∃ socket, (sets.members cond)[index]?=some socket ∧ (kernel socket.fd).epollReports cond=true
  selects : (∀ cond, ∀ socket∈sets.members cond, socket.fd<fdSetSize)→
    (sets.selectMultiple env).map SelectReturn.report=(sets.selectMultipleSelect env).map SelectReturn.report

/-- The call is woken as `select` is, and all sockets that are ready then are reported. -/
structure Undisturbed (sets : SelectSets) (env : SelectEnvironment) : Prop where
  wakes : (∃ kernel∈env.states, (sets.view env).wakes kernel=true) ↔ ∃ kernel∈env.states, sets.Ready kernel
  reported : ∀ kernel, sets.returnState env=some kernel→
    ∀ cond, ∀ socket∈sets.members cond,
      (sets.view env).marks kernel cond socket=(kernel socket.fd).epollReports cond
  agrees : (∀ cond, ∀ socket∈sets.members cond, socket.fd<fdSetSize)→
    match sets.returnState env, env.states.find? (selectView sets).wakes with
    | none, none=>True
    | some kernel, some kernel'=>∀ cond, ∀ socket∈sets.members cond,
        (kernel socket.fd).epollReports cond=(kernel' socket.fd).selectReports cond
    | _, _=>False

section
variable (hsound : ∀ cond, ∀ set∈sets cond, set.Sound)

include hsound

lemma reported_of_marks
    (hmarks : ∀ kernel r, sets.returnState env=some kernel→sets.selectMultiple env=some r→
      ∀ cond index, r.marked cond index=true ↔
        ∃ socket, (sets.members cond)[index]?=some socket ∧ (kernel socket.fd).epollReports cond=true) :
    ∀ kernel, sets.returnState env=some kernel→
      ∀ cond, ∀ socket∈sets.members cond,
        (sets.view env).marks kernel cond socket=(kernel socket.fd).epollReports cond:=by
  intro kernel hret cond socket hsocket
  obtain ⟨r,hr,hmark⟩:=marked_of_returnState hsound hret
  obtain ⟨index,hindex⟩:=mem_iff_getElem?.1 hsocket
  have hiff:=hmarks kernel r hret hr cond index
  rw [hmark,hindex,Option.any_some] at hiff
  rw [Bool.eq_iff_iff,hiff]
  constructor
  · rintro ⟨found,hfound,hrep⟩
    cases hfound
    exact hrep
  · intro hrep
    exact ⟨socket,rfl,hrep⟩

section

variable
  (hreported : ∀ kernel, sets.returnState env=some kernel→∀ cond, ∀ socket∈sets.members
    cond, (sets.view env).marks kernel cond socket=(kernel socket.fd).epollReports
    cond)
include hreported

lemma marks_of_reported :
    ∀ kernel r, sets.returnState env=some kernel→sets.selectMultiple env=some r→
      ∀ cond index, r.marked cond index=true ↔
        ∃ socket, (sets.members cond)[index]?=some socket ∧ (kernel socket.fd).epollReports cond=true:=by
  intro kernel r hret hr cond index
  obtain ⟨r',hr',hmarked⟩:=marked_of_returnState hsound hret
  cases hr.symm.trans hr'
  rw [hmarked,Option.any_eq_true]
  constructor
  · rintro ⟨socket,hindex,hmarks⟩
    refine ⟨socket,hindex,?_⟩
    rw [← hreported kernel hret cond socket (mem_of_getElem? hindex)]
    exact hmarks
  · rintro ⟨socket,hindex,hrep⟩
    refine ⟨socket,hindex,?_⟩
    rw [hreported kernel hret cond socket (mem_of_getElem? hindex)]
    exact hrep

lemma selects_iff :
    (sets.selectMultiple env).map SelectReturn.report=
        (sets.selectMultipleSelect env).map SelectReturn.report ↔
      match sets.returnState env, env.states.find? (selectView sets).wakes with
      | none, none=>True
      | some kernel, some kernel'=>∀ cond, ∀ socket∈sets.members cond,
          (kernel socket.fd).epollReports cond=(kernel' socket.fd).selectReports cond
      | _, _=>False:=by
  have hnonneg : ∀ cond, ∀ socket∈sets.members cond, 0 ≤ socket.fd:=by
    intro cond socket hsocket
    unfold members at hsocket
    cases hset : sets cond with
    | none=>
      rw [hset] at hsocket
      cases hsocket
    | some set=>
      rw [hset] at hsocket
      exact (hsound cond set hset).nonneg socket hsocket
  rw [selectMultiple_report env hsound,selectMultipleSelect_report,SelectView.report_eq_iff idle_view idle_selectView]
  unfold returnState at hreported ⊢
  cases hret : env.states.find? (sets.view env).wakes with
  | none=>
    cases env.states.find? (selectView sets).wakes with
    | none | some=>exact Iff.rfl
  | some kernel=>
    cases env.states.find? (selectView sets).wakes with
    | none=>exact Iff.rfl
    | some kernel'=>
      refine forall_congr' fun cond=>forall₂_congr fun socket hsocket=>?_
      have hsel : (selectView sets).marks kernel' cond socket=
          (kernel' socket.fd).selectReports cond:=by
        unfold selectView
        dsimp only
        rw [decide_eq_true (hnonneg cond socket hsocket),Bool.true_and]
      rw [hreported kernel hret cond socket hsocket,hsel]

end
end

/-- A call waits on the first set given, and is faithful exactly if nothing disturbs it. -/
theorem selectMultiple_faithful_iff (sets : SelectSets) (env : SelectEnvironment)
    (hbuilt : ∀ cond, ∀ set∈sets cond, ∃ adds, set=SocketSet.build adds) :
    (∀ cond set, sets.primary=some (cond,set)→set.sockets≠[]→
        sets.view env=epollView set.sockets env) ∧
      (sets.Faithful env ↔ sets.Undisturbed env):=by
  have hsound : ∀ cond, ∀ set∈sets cond, set.Sound:=by
    intro cond set hset
    obtain ⟨adds,rfl⟩:=hbuilt cond set hset
    exact SocketSet.sound_build adds
  have hreport:=selectMultiple_report env hsound
  have hreturns : (∃ r, sets.selectMultiple env=some r ∧ r.code = .ok) ↔
      ∃ kernel∈env.states, (sets.view env).wakes kernel=true:=by
    rw [exists_code_ok_iff,hreport]
    exact SelectView.report_ok_iff idle_view
  refine ⟨fun cond set hprimary hne=>?_,fun h=>?_,fun h=>?_⟩
  · exact view_eq_of_sockets (hsound cond set (primary_eq hprimary)) hprimary hne
  · have hreported:=reported_of_marks hsound h.marks
    exact ⟨hreturns.symm.trans h.returns,hreported,fun hbelow=>(selects_iff hsound hreported).1 (h.selects hbelow)⟩
  · exact ⟨hreturns.trans h.wakes,marks_of_reported hsound h.reported,
      fun hbelow=>(selects_iff hsound h.reported).2 (h.agrees hbelow)⟩

/-- A read set and a write set, to which sockets were added that the kernel accepted. -/
def sampleSets (reading : List ℕ) (writing : Option (List ℕ)) : SelectSets
  | .read=>some (SocketSet.build (reading.map fun fd=>(⟨fd,fd⟩,none,none)))
  | .write=>writing.map fun fds=>
      SocketSet.build (fds.map fun fd=>(⟨fd,fd⟩,none,none))
  | .error=>none

/-- The kernel has some flags for one descriptor, and none for the others, until the timeout. -/
def sampleKernel (fd : ℤ) (flags : PollFlags) : SelectEnvironment where
  create:=none
  ctl _ _:=none
  states:=[fun other=>if other=fd then flags else ⟨false,false,false,false,false⟩]
  ending:=.expired
  order sockets:=sockets
  order_perm sockets:=.refl sockets

/-- A call for reading from one socket, which has input, is faithful. -/
theorem selectMultiple_faithful_input :
    (sampleSets [3] none).Faithful (sampleKernel 3 ⟨true,false,false,false,false⟩):=by
  have hbuilt : ∀ cond, ∀ set∈sampleSets [3] none cond,
      ∃ adds, set=SocketSet.build adds:=by
    intro cond set hset
    cases cond with
    | read=>
      cases hset
      exact ⟨_,rfl⟩
    | write=>cases hset
    | error=>cases hset
  have hmembers : ∀ cond, ∀ socket∈(sampleSets [3] none).members cond,
      cond = .read ∧ socket=⟨3,3⟩:=by
    intro cond socket hsocket
    cases cond with
    | read=>exact ⟨rfl,mem_singleton.1 hsocket⟩
    | write | error=>cases hsocket
  refine (selectMultiple_faithful_iff (sampleSets [3] none)
    (sampleKernel 3 ⟨true,false,false,false,false⟩) hbuilt).2.2 ⟨?_,?_,fun _=>?_⟩
  · exact iff_of_true ⟨_,mem_singleton_self _,rfl⟩ ⟨_,mem_singleton_self _,.read,⟨3,3⟩,mem_singleton_self _,rfl⟩
  · intro kernel hreturn cond socket hsocket
    obtain ⟨rfl,rfl⟩:=hmembers cond socket hsocket
    cases hreturn
    rfl
  · intro cond socket hsocket
    obtain ⟨rfl,rfl⟩:=hmembers cond socket hsocket
    rfl

/-- With several sets a call reports sockets of the first only, unlike `select`. -/
theorem selectMultiple_unfaithful :
    ((((sampleSets [3] none).selectMultiple
          (sampleKernel 3 ⟨false,true,false,false,false⟩)).map fun r=>
        (r.code,r.marked .read 0))=some (.ok,false) ∧
      ((sampleSets [3] none).selectMultipleSelect
          (sampleKernel 3 ⟨false,true,false,false,false⟩)).map SelectReturn.code=
        some .timeout) ∧
    (((sampleSets [3] (some [4])).selectMultiple
          (sampleKernel 4 ⟨false,true,false,false,false⟩)).map SelectReturn.code=
        some .timeout ∧
      (((sampleSets [3] (some [4])).selectMultipleSelect
          (sampleKernel 4 ⟨false,true,false,false,false⟩)).map fun r=>
        (r.code,r.marked .write 0))=some (.ok,true)):=by decide

end SelectSets

/-! ## Waiting for the events of one socket -/

open Function

/-- The answers of the kernel while the sets are filled, and then during the wait. -/
structure WaitEnvironment where
  create : SelectCondition→Option Errno
  ctl : SelectCondition→Option Errno
  select : SelectEnvironment

/-- What a call leaves behind; the sets go out of scope with it. -/
structure WaitReturn where
  code : ErrorType
  readyEvents : SelectCondition→Bool
  sets : SelectSets

/-- The sets of `zoo_socket_wait_for_events` before it waits. -/
def eventSets (socket : SocketInfo) (events : SelectCondition→Bool) (env : WaitEnvironment) :
    SelectSets:=fun cond=>
  if events cond then
    some (SocketSet.init.add socket (env.create cond) (env.ctl cond)).2
  else none

/-- `zoo_socket_wait_for_events`, where a call that waits forever has no result. -/
def waitForEvents (socket : Option SocketInfo) (events : SelectCondition→Bool)
    (env : WaitEnvironment) : Option WaitReturn:=
  match socket with
  | none=>some ⟨.invalidParam,fun _=>false,fun _=>none⟩
  | some socket=>((eventSets socket events env).selectMultiple env.select).map fun r=>
    ⟨r.code,fun cond=>r.code=.ok && (r.sets cond).any fun set=>
      (set.findSocketIndex socket).any (set.ready cond),r.sets⟩

/-- The sockets that are registered with the epoll instances of the sets. -/
def SelectSets.instances (sets : SelectSets) (cond : SelectCondition) :
    Option (Option (List SocketInfo)):=
  (sets cond).map SocketSet.registered

def SelectSets.HasInstance (sets : SelectSets) (cond : SelectCondition) : Prop:=(sets.instances cond).any Option.isSome

/-- The numbers that the kernel gives to new instances: none of them is open before. -/
structure InstanceNumbers (before : Set ℤ) where
  number : SelectCondition→ℤ
  fresh : ∀ cond, number cond∉before

/-- The open descriptors after a call: nothing in it closes an instance. -/
def openAfter {before : Set ℤ} (numbers : InstanceNumbers before) (sets : SelectSets) : Set ℤ:=
  {fd | fd∈before ∨ ∃ cond, sets.HasInstance cond ∧ numbers.number cond=fd}

lemma openAfter_eq_iff {before : Set ℤ} (numbers : InstanceNumbers before) (sets : SelectSets) :
    openAfter numbers sets=before ↔ ∀ cond, ¬sets.HasInstance cond:=by
  constructor
  · intro h cond hinstances
    have hopen : numbers.number cond∈openAfter numbers sets:=.inr ⟨cond,hinstances,rfl⟩
    rw [h] at hopen
    exact numbers.fresh cond hopen
  · intro h
    ext fd
    exact or_iff_left fun ⟨cond,hinstances,_⟩=>h cond hinstances

lemma SocketSet.isSome_registered_addSocketToEpoll (set : SocketSet) (socket : SocketInfo) (create ctl : Option Errno) :
    (set.addSocketToEpoll socket create ctl).2.registered.isSome ↔ set.registered.isSome ∨ create=none:=by
  unfold addSocketToEpoll initEpoll
  cases hreg : set.registered with
  | some sockets=>
    dsimp only
    split <;> simp [hreg]
  | none=>
    cases create with
    | some errno=>cases errno <;> simp [hreg,platformToZooError]
    | none=>
      dsimp only
      split <;> simp

lemma SocketSet.isSome_registered_add_init (socket : SocketInfo) (create ctl : Option Errno) :
    (init.add socket create ctl).2.registered.isSome ↔ create=none:=by
  have hadd:=isSome_registered_addSocketToEpoll
    {init with sockets:=[socket], ready:=fun _=>update (fun _=>false) 0 false} socket create ctl
  rw [or_iff_right (by simp [init])] at hadd
  rw [← hadd,add,if_neg (by decide),if_neg (by simp [init,findSocketIndex])]
  dsimp only
  split <;> simp_all [init]
lemma SelectReturn.instances_applyMarks (r : SelectReturn) (marks : List (SelectCondition × ℕ)) :
    (r.applyMarks marks).sets.instances=r.sets.instances:=
  funext (r.map_applyMarks marks fun _ _ _=>rfl)

lemma SelectReturn.sets_of_afterWait {r r' : SelectReturn} {ending : WaitEnding} (h : r.afterWait ending=some r') : r'.sets=r.sets:=by
  cases ending <;> cases h <;> rfl
namespace SelectSets
variable {sets : SelectSets} {env : SelectEnvironment} {r : SelectReturn} {cond : SelectCondition} {set : SocketSet}

lemma instances_start (sets : SelectSets) : sets.start.sets.instances=sets.instances:=by
  funext cond
  rw [instances,start,Option.map_map]
  rfl

lemma instances_useSelect (h : sets.useSelect env=some r) : r.sets.instances=sets.instances:=by
  unfold useSelect at h
  split at h
  · cases h
    rw [SelectReturn.foldl_eq_applyMarks _ _ (SelectReturn.checkDescriptors_eq _),
      SelectReturn.instances_applyMarks,instances_start]
  · rw [SelectReturn.sets_of_afterWait h,instances_start]

lemma prepareEpoll_cases (sets : SelectSets) (env : SelectEnvironment) (cond : SelectCondition) (set : SocketSet) :
    sets.prepareEpoll env cond set=none ∧ env.create≠none ∨
      ∃ set', sets.prepareEpoll env cond set=some set' ∧ set'.registered.isSome ∧
        (set.registered.isSome ∨ env.create=none):=by
  unfold prepareEpoll
  cases hreg : set.registered with
  | some sockets=>exact .inr ⟨set,rfl,hreg ▸ rfl,.inl rfl⟩
  | none=>
    cases hcreate : env.create with
    | some errno=>cases errno <;> simp [hreg,SocketSet.initEpoll,platformToZooError]
    | none=>
      simp only [hreg,SocketSet.initEpoll]
      refine .inr ⟨_,rfl,?_,.inr trivial⟩
      refine List.foldlRecOn (motive:=fun set : SocketSet=>set.registered.isSome) _ _ rfl fun set hset other _=>?_
      exact List.foldlRecOn (motive:=fun set : SocketSet=>set.registered.isSome) _ _ hset
        fun set hset socket _=>(set.isSome_registered_addSocketToEpoll _ _ _).2 (.inl hset)

/-- A call keeps the instances and opens one for the primary set. -/
lemma hasInstance_selectMultiple (h : sets.selectMultiple env=some r) (cond : SelectCondition) :
    r.sets.HasInstance cond ↔ sets.HasInstance cond ∨ env.create=none ∧ ∃ set, sets.start.sets.primary=some (cond,set):=by
  unfold HasInstance
  unfold selectMultiple at h
  cases hprimary : sets.start.sets.primary with
  | none=>
    rw [hprimary] at h
    cases h
    simp [instances_start]
  | some entry=>
    obtain ⟨first,set⟩:=entry
    simp only [hprimary] at h
    rcases prepareEpoll_cases sets.start.sets env first set with
      ⟨hprepared,hcreate⟩ | ⟨prepared,hprepared,hsome,hold⟩
    · rw [hprepared] at h
      simp [instances_useSelect h,hcreate]
    · rw [hprepared] at h
      have hsets : r.sets.instances=
          SelectSets.instances (update sets.start.sets first (some prepared)):=by
        dsimp only at h
        split at h
        · cases h
          rw [SelectReturn.foldl_processEvent,SelectReturn.instances_applyMarks]
        · rw [SelectReturn.sets_of_afterWait h]
      rw [hsets,← instances_start sets]
      by_cases hcond : cond=first
      · subst hcond
        rw [instances,instances,update_self,primary_eq hprimary]
        exact iff_of_true hsome (hold.imp_right fun hc=>⟨hc,set,rfl⟩)
      · simp [instances,update_of_ne hcond,Ne.symm hcond]

end SelectSets

lemma hasInstance_eventSets (socket : SocketInfo) (events : SelectCondition→Bool)
    (env : WaitEnvironment) (cond : SelectCondition) :
    (eventSets socket events env).HasInstance cond ↔ events cond ∧ env.create cond=none:=by
  rw [← SocketSet.isSome_registered_add_init socket _ (env.ctl cond)]
  by_cases hev : events cond <;> simp [SelectSets.HasInstance,SelectSets.instances,eventSets,hev]

/-- A set is given exactly for the requested events. -/
lemma exists_primary_eventSets (socket : SocketInfo) (events : SelectCondition→Bool) (env : WaitEnvironment) :
    (∃ entry, (eventSets socket events env).start.sets.primary=some entry) ↔ ∃ cond, events cond:=by
  have hset : ∀ cond, ((eventSets socket events env).start.sets cond).isSome=events cond:=by
    intro cond
    by_cases hev : events cond <;> simp [SelectSets.start,eventSets,hev]
  constructor
  · rintro ⟨entry,h⟩
    exact ⟨entry.1,by rw [← hset,SelectSets.primary_eq h]; rfl⟩
  · rintro ⟨cond,hev⟩
    rw [← hset] at hev
    unfold SelectSets.primary
    split
    case h_4 hr hw he=>cases cond <;> simp_all
    all_goals exact ⟨_,rfl⟩

/-- The call leaks nothing exactly when no epoll instance is opened for it. -/
theorem waitForEvents_leaks_nothing_iff (socket : Option SocketInfo) (events : SelectCondition→Bool)
    (env : WaitEnvironment) {before : Set ℤ} (numbers : InstanceNumbers before) :
    (∀ r, waitForEvents socket events env=some r → openAfter numbers r.sets=before) ↔
    socket=none ∨ waitForEvents socket events env=none ∨
      ∀ cond, events cond→env.create cond≠none ∧ env.select.create≠none:=by
  cases socket with
  | none=>
    refine iff_of_true (fun r hr=>?_) (.inl rfl)
    cases hr
    exact (openAfter_eq_iff numbers _).2 fun cond h=>by cases h
  | some socket=>
    cases hwait : (eventSets socket events env).selectMultiple env.select with
    | none=>simp [waitForEvents,hwait]
    | some r=>
      have hinstances:=SelectSets.hasInstance_selectMultiple hwait
      have hprimary:=exists_primary_eventSets socket events env
      simp only [waitForEvents,hwait,Option.map_some,Option.some.injEq,forall_eq',
        openAfter_eq_iff,reduceCtorEq,false_or,hinstances,hasInstance_eventSets]
      grind

/-- A call for one event whose wait ends at once leaves a descriptor open. -/
theorem waitForEvents_leaks : ∃ r, waitForEvents (some ⟨0,3⟩) (· == .read)
    ⟨fun _=>none,fun _=>none,⟨none,fun _ _=>none,[],.expired,id,fun _=>.rfl⟩⟩=some r ∧
    openAfter (⟨fun _=>4,by simp⟩ : InstanceNumbers {3}) r.sets≠{3}:=by
  refine ⟨_,rfl,fun h=>?_⟩
  exact (openAfter_eq_iff _ _).1 h .read rfl

end SoftMessageBus
