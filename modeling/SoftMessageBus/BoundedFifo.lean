import Mathlib.Algebra.Ring.Nat
import Mathlib.Algebra.BigOperators.Group.List.Basic

/-!
# Bounded first-in first-out queues

Items have a weight and a queue never holds more than its capacity.
-/
namespace SoftMessageBus.BoundedFifo
variable {α : Type*}

/-- A queue, oldest item first. -/
structure Queue (weight : α→ℕ) (capacity : ℕ) where
  items : List α
  load_le : (items.map weight).sum≤capacity

namespace Queue
variable {weight : α→ℕ} {capacity : ℕ}

def load (q : Queue weight capacity) : ℕ:=(q.items.map weight).sum
def empty : Queue weight capacity:=⟨[],Nat.zero_le _⟩

def push (q : Queue weight capacity) (x : α) : Option (Queue weight capacity):=
  if h : q.load+weight x≤capacity then
    some ⟨q.items++[x],by simpa [load] using h⟩
  else none

def pop : Queue weight capacity→Option (α × Queue weight capacity)
  | ⟨[],_⟩=>none
  | ⟨x::xs,h⟩=>some (x, ⟨xs,by
      simp only [List.map_cons,List.sum_cons] at h
      omega⟩)

end Queue

inductive Observation (α : Type*) where
  | push (x : α)
  | pop (x : α)
  | idle

inductive Step : List α→Observation α→List α→Prop where
  | push (xs : List α) (x : α) : Step xs (.push x) (xs++[x])
  | pop (x : α) (xs : List α) : Step (x::xs) (.pop x) xs
  | idle (xs : List α) : Step xs .idle xs

inductive Trace : List α→List (Observation α)→List α→Prop where
  | nil (xs : List α) : Trace xs [] xs
  | cons {xs ys zs : List α} {o : Observation α} {os : List (Observation α)}
      (step : Step xs o ys) (rest : Trace ys os zs) : Trace xs (o::os) zs

/-- The items pushed along a trace. -/
def pushed : List (Observation α)→List α
  | []=>[]
  | .push x::os=>x::pushed os
  | .pop _::os=>pushed os
  | .idle::os=>pushed os

/-- The items popped along a trace. -/
def popped : List (Observation α)→List α
  | []=>[]
  | .push _::os=>popped os
  | .pop x::os=>x::popped os
  | .idle::os=>popped os

lemma Trace.balance {xs zs : List α} {os : List (Observation α)} (h : Trace xs os zs) :
    xs++pushed os=popped os++zs:=by
  induction h with
  | nil xs=>simp [pushed,popped]
  | cons step rest ih=>
    cases step with
    | push | pop | idle=>simpa [pushed,popped] using ih

lemma Trace.popped_prefix {zs : List α} {os : List (Observation α)} (h : Trace [] os zs) :
    popped os <+: pushed os:=
  ⟨zs,by simpa using h.balance.symm⟩

inductive MixedTrace : List α→List (Observation α)→List α→Prop where
  | nil (xs : List α) : MixedTrace xs [] xs
  | step {xs ys zs : List α} {o : Observation α} {os : List (Observation α)}
      (step : Step xs o ys) (rest : MixedTrace ys os zs) : MixedTrace xs (o::os) zs
  | reorder {xs ys zs : List α} {os : List (Observation α)} (perm : xs.Perm ys)
      (rest : MixedTrace ys os zs) : MixedTrace xs (.idle::os) zs

lemma MixedTrace.balance {xs zs : List α} {os : List (Observation α)}
    (h : MixedTrace xs os zs) : (xs++pushed os).Perm (popped os++zs):=by
  induction h with
  | nil xs=>simp [pushed,popped]
  | step step rest ih=>
    cases step with
    | push | pop | idle=>simpa [pushed,popped] using ih
  | reorder perm rest ih=>exact (perm.append_right _).trans ih

end SoftMessageBus.BoundedFifo
