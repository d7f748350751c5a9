import Mathlib.Data.List.Nodup

/-!
# Data observers of a transport

Observers are callbacks with a pointer to their own data.
-/
namespace SoftMessageBus
open List

variable {Handler UserData : Type*}

/-- `TRANSPORT_DATA_OBSERVER_STRUCT`. -/
structure DataObserver (Handler UserData : Type*) where
  handler : Handler
  userData : UserData

def maxTransportDataObserverSize : ℕ:=128

/-- The observers registered with a transport: a bounded list without two observers of
the same callback. -/
structure DataObservers (Handler UserData : Type*) where
  items : List (DataObserver Handler UserData)
  length_le : items.length ≤ maxTransportDataObserverSize
  nodup : (items.map DataObserver.handler).Nodup

namespace DataObservers

def empty : DataObservers Handler UserData:=⟨[],Nat.zero_le _,nodup_nil⟩

def add [DecidableEq Handler] (os : DataObservers Handler UserData)
    (o : DataObserver Handler UserData) : DataObservers Handler UserData:=
  if hmem : o.handler∈os.items.map DataObserver.handler then os
  else if hlen : os.items.length < maxTransportDataObserverSize then
    ⟨os.items++[o],by rw [length_append]; exact hlen,by
      rw [map_append,map_singleton]
      exact os.nodup.append (nodup_singleton _) (disjoint_singleton.2 hmem)⟩
  else os

lemma mem_add [DecidableEq Handler] {os : DataObservers Handler UserData}
    {o : DataObserver Handler UserData} (ho : o∈os.items) (new : DataObserver Handler UserData) :
    o∈(os.add new).items:=by
  unfold add
  split
  · exact ho
  · split
    · exact mem_append_left _ ho
    · exact ho

def notify {Msg : Type*} (os : DataObservers Handler UserData) (msg : Msg) :
    List (DataObserver Handler UserData × Msg):=
  os.items.map fun o=>(o,msg)

end DataObservers

def received {Msg : Type*} [DecidableEq Handler] (handler : Handler)
    (calls : List (DataObserver Handler UserData × Msg)) : List Msg:=
  (calls.filter fun call=>call.1.handler=handler).map Prod.snd

section
variable {Msg : Type*} [DecidableEq Handler]

@[simp] lemma received_nil (handler : Handler) :
    received handler ([] : List (DataObserver Handler UserData × Msg))=[]:=rfl

@[simp] lemma received_append (handler : Handler) (calls₁ calls₂ : List (DataObserver Handler UserData × Msg)) :
    received handler (calls₁++calls₂)=received handler calls₁++received handler calls₂:=by
  simp [received]

lemma received_map_of_notMem {handler : Handler} {items : List (DataObserver Handler UserData)}
    (h : handler∉items.map DataObserver.handler) (msg : Msg) :
    received handler (items.map fun o=>(o,msg))=[]:=by
  rw [received,filter_eq_nil_iff.2,map_nil]
  simp only [List.mem_map,not_exists,not_and,forall_exists_index,and_imp] at h ⊢
  rintro call o ho rfl
  simpa using h o ho

lemma received_notify {os : DataObservers Handler UserData}
    {o : DataObserver Handler UserData} (ho : o∈os.items) (msg : Msg) :
    received o.handler (os.notify msg)=[msg]:=by
  obtain ⟨before,after,hitems⟩:=append_of_mem ho
  have hnodup:=os.nodup
  rw [hitems,map_append,map_cons,nodup_middle,List.nodup_cons,mem_append,not_or] at hnodup
  rw [DataObservers.notify,hitems,map_append,map_cons,received_append,received_map_of_notMem hnodup.1.1,
    nil_append,received,filter_cons_of_pos (by simp),map_cons]
  exact congrArg (msg :: ·) (received_map_of_notMem hnodup.1.2 msg)

end
end SoftMessageBus
