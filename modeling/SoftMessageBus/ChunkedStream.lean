import Mathlib.Algebra.Ring.Nat
import Mathlib.Algebra.BigOperators.Group.List.Basic

/-!
# Streams that arrive in chunks

A reader sees a stream of items through a queue that chunks are appended to as they
arrive.
-/
namespace SoftMessageBus.ChunkedStream
open List

variable {α : Type*}

/-- Items that arrive together, after `delay` bounded waits have expired. -/
structure Arrival (α : Type*) where
  delay : ℕ
  items : List α
  items_ne_nil : items≠[]

structure Stream (α : Type*) where
  queue : List α
  pending : List (Arrival α)

namespace Stream

def contents (s : Stream α) : List α:=s.queue++s.pending.flatMap Arrival.items

/-- Take up to `size` items from the queue, unless it is empty. -/
def recv : Stream α→ℕ→Option (List α) × Stream α
  | ⟨[],pending⟩, _=>(none,⟨[],pending⟩)
  | ⟨x::xs,pending⟩, size=>(some ((x::xs).take size),⟨(x::xs).drop size,pending⟩)

def wait : Stream α→Stream α
  | ⟨[],a::pending⟩=>
    if a.delay=0 then ⟨a.items,pending⟩
    else ⟨[],{a with delay:=a.delay-1} :: pending⟩
  | s=>s

def await : Stream α→Stream α
  | ⟨[],a::pending⟩=>⟨a.items,pending⟩
  | s=>s

/-- The stream after `n` items have been read. -/
def skip : ℕ→List α→List (Arrival α)→Stream α
  | n, queue, []=>⟨queue.drop n,[]⟩
  | n, queue, a::pending=>
    if n≤queue.length then ⟨queue.drop n,a::pending⟩
    else skip (n-queue.length) a.items pending

@[simp] lemma contents_mk (queue : List α) (pending : List (Arrival α)) :
    contents ⟨queue,pending⟩=queue++pending.flatMap Arrival.items:=rfl

lemma contents_wait (s : Stream α) : s.wait.contents=s.contents:=by
  obtain ⟨queue,pending⟩:=s
  cases queue with
  | cons x xs=>rfl
  | nil=>
    cases pending with
    | nil=>rfl
    | cons a pending=>
      rw [wait]
      split <;> simp

lemma contents_await (s : Stream α) : s.await.contents=s.contents:=by
  obtain ⟨queue,pending⟩:=s
  cases queue with
  | cons x xs=>rfl
  | nil=>
    cases pending with
    | nil=>rfl
    | cons a pending=>simp [await]

lemma queue_await {s : Stream α} (h : s.contents≠[]) : s.await.queue≠[]:=by
  obtain ⟨queue,pending⟩:=s
  cases queue with
  | cons x xs=>simp [await]
  | nil=>
    cases pending with
    | nil=>simp at h
    | cons a pending=>exact a.items_ne_nil

lemma contents_eq_nil {s : Stream α} (h : s.contents=[]) : s=⟨[],[]⟩:=by
  obtain ⟨queue,pending⟩:=s
  rw [contents_mk,append_eq_nil_iff] at h
  obtain ⟨rfl,hpending⟩:=h
  cases pending with
  | nil=>rfl
  | cons a pending=>
    rw [flatMap_cons,append_eq_nil_iff] at hpending
    exact absurd hpending.1 a.items_ne_nil

lemma contents_skip (n : ℕ) (queue : List α) (pending : List (Arrival α)) :
    (skip n queue pending).contents=(contents ⟨queue,pending⟩).drop n:=by
  induction pending generalizing n queue with
  | nil=>simp [skip]
  | cons a pending ih=>
    rw [skip]
    split
    next hle=>rw [contents_mk,contents_mk,drop_append_of_le_length hle]
    next hlt=>
      have hdrop (xs : List α) : (queue++xs).drop n=xs.drop (n-queue.length):=by
        rw [drop_append,drop_eq_nil_of_le (Nat.le_of_not_le hlt),nil_append]
      rw [ih,contents_mk,contents_mk,flatMap_cons,hdrop]

variable {n : ℕ}

variable {queue : List α}

lemma skip_of_le_length (h : n≤queue.length) (pending : List (Arrival α)) :
    skip n queue pending=⟨queue.drop n,pending⟩:=by
  cases pending with
  | nil=>rfl
  | cons a pending=>rw [skip,if_pos h]

lemma skip_zero (queue : List α) (pending : List (Arrival α)) : skip 0 queue pending=⟨queue,pending⟩:=
  skip_of_le_length (Nat.zero_le _) pending

lemma skip_cons_of_length_lt (h : queue.length<n) (a : Arrival α)
    (pending : List (Arrival α)) : skip n queue (a::pending)=skip (n-queue.length) a.items pending:=by
  rw [skip,if_neg (Nat.not_le_of_lt h)]

lemma skip_of_length_lt (h : queue.length<n) (pending : List (Arrival α)) :
    skip n queue pending=skip (n-queue.length) [] pending:=by
  cases pending with
  | nil=>
    rw [skip,skip,drop_eq_nil_of_le (Nat.le_of_lt h),drop_nil]
  | cons a pending=>
    have hpos : ([] : List α).length<n-queue.length:=by
      rw [length_nil]
      omega
    rw [skip_cons_of_length_lt h,skip_cons_of_length_lt hpos,length_nil,Nat.sub_zero]

end Stream

/-- None of the chunks that bring the next `missing` items is late by `limit` waits. -/
def Prompt (limit : ℕ) : ℕ→List (Arrival α)→Prop
  | missing, []=>missing=0
  | missing, a::pending=>
    missing=0 ∨ a.delay<limit ∧ Prompt limit (missing-a.items.length) pending

lemma prompt_zero (limit : ℕ) (pending : List (Arrival α)) : Prompt limit 0 pending:=by
  cases pending with
  | nil=>rfl
  | cons a pending=>exact .inl rfl

lemma Prompt.le_length {limit missing : ℕ} {pending : List (Arrival α)}
    (h : Prompt limit missing pending) : missing≤(pending.flatMap Arrival.items).length:=by
  induction pending generalizing missing with
  | nil=>exact Nat.le_of_eq h
  | cons a pending ih=>
    rw [flatMap_cons,length_append]
    rcases h with hzero | ⟨-,hrest⟩
    · omega
    · have:=ih hrest
      omega

lemma Stream.skip_add (m n : ℕ) (queue : List α) (pending : List (Arrival α)) :
    skip (m+n) queue pending=skip n (skip m queue pending).queue (skip m queue pending).pending:=by
  induction pending generalizing m queue with
  | nil=>simp [skip,drop_drop]
  | cons a pending ih=>
    rcases Nat.lt_or_ge queue.length m with hlt | hge
    · have hsub : m+n-queue.length=m-queue.length+n:=by omega
      rw [skip_cons_of_length_lt (by omega),hsub,ih,skip_cons_of_length_lt hlt]
    · rw [skip_of_le_length hge]
      rcases Nat.lt_or_ge queue.length (m+n) with hlt | hge'
      · have hsub : m+n-queue.length=n-(queue.drop m).length:=by
          rw [length_drop]
          omega
        rw [skip_cons_of_length_lt hlt,hsub,skip_cons_of_length_lt (by rw [length_drop]; omega)]
      · rw [skip_of_le_length hge',skip_of_le_length (by rw [length_drop]; omega),drop_drop]

lemma prompt_add {limit : ℕ} (m n : ℕ) (queue : List α) (pending : List (Arrival α)) :
    Prompt limit (m+n-queue.length) pending ↔
      Prompt limit (m-queue.length) pending ∧
        Prompt limit (n-(Stream.skip m queue pending).queue.length) (Stream.skip m queue pending).pending:=by
  induction pending generalizing m queue with
  | nil=>
    simp only [Prompt,Stream.skip,length_drop]
    omega
  | cons a pending ih=>
    rcases Nat.lt_or_ge queue.length m with hlt | hge
    · have hsub : m+n-queue.length=m-queue.length+n:=by omega
      have hmissing : m-queue.length+n≠0:=by omega
      have hmissing' : m-queue.length≠0:=by omega
      rw [hsub,Prompt,Prompt,Stream.skip_cons_of_length_lt hlt,ih]
      simp only [hmissing,hmissing',false_or,and_assoc]
    · have hzero : m-queue.length=0:=by omega
      have hsub : m+n-queue.length=n-(queue.drop m).length:=by
        rw [length_drop]
        omega
      rw [Stream.skip_of_le_length hge,hzero,hsub]
      exact ⟨fun h=>⟨prompt_zero _ _,h⟩,And.right⟩

/-- A chunk that does not start at a boundary is not late by `limit` waits. -/
def Timely (limit : ℕ) (boundary : ℕ→Prop) : ℕ→List (Arrival α)→Prop
  | _, []=>True
  | offset, a::pending=>
    (boundary offset ∨ a.delay<limit) ∧ Timely limit boundary (offset+a.items.length) pending

def IsBoundary (sizes : List ℕ) (n : ℕ) : Prop:=∃ k, n=(sizes.take k).sum

lemma isBoundary_zero (sizes : List ℕ) : IsBoundary sizes 0:=⟨0,rfl⟩

lemma isBoundary_cons {size : ℕ} {sizes : List ℕ} {n : ℕ} :
    IsBoundary (size::sizes) n ↔ n=0 ∨ size≤n ∧ IsBoundary sizes (n-size):=by
  constructor
  · rintro ⟨k,hk⟩
    cases k with
    | zero=>exact .inl hk
    | succ k=>
      rw [take_succ_cons,sum_cons] at hk
      exact .inr ⟨by omega,k,by omega⟩
  · rintro (rfl | ⟨hle,k,hk⟩)
    · exact isBoundary_zero _
    · refine ⟨k+1,?_⟩
      rw [take_succ_cons,sum_cons]
      omega

lemma isBoundary_append {sizes₁ sizes₂ : List ℕ} {n : ℕ} :
    IsBoundary (sizes₁++sizes₂) (sizes₁.sum+n) ↔ IsBoundary sizes₂ n:=by
  induction sizes₁ with
  | nil=>rw [nil_append,sum_nil,Nat.zero_add]
  | cons size sizes₁ ih=>
    rw [cons_append,isBoundary_cons,sum_cons,Nat.add_assoc,Nat.add_sub_cancel_left,ih]
    constructor
    · rintro (hzero | h)
      · obtain rfl : n=0:=by omega
        exact isBoundary_zero _
      · exact h.2
    · exact fun h=>.inr ⟨Nat.le_add_right _ _,h⟩

section
variable {limit size : ℕ} {sizes : List ℕ}

lemma timely_cons_of_le {offset : ℕ} (hpos : 0<size) (hle : size≤offset) (pending : List (Arrival α)) :
    Timely limit (IsBoundary (size::sizes)) offset pending ↔ Timely limit (IsBoundary sizes) (offset-size) pending:=by
  induction pending generalizing offset with
  | nil=>exact Iff.rfl
  | cons a pending ih=>
    have hboundary : IsBoundary (size::sizes) offset ↔ IsBoundary sizes (offset-size):=by
      rw [isBoundary_cons]
      constructor
      · rintro (h | h)
        · omega
        · exact h.2
      · exact fun h=>.inr ⟨hle,h⟩
    rw [Timely,Timely,hboundary,ih (by omega),Nat.sub_add_comm hle]

lemma timely_cons_iff {before rest : ℕ} {queue : List α} {pending : List (Arrival α)}
    (hpos : 0<before+queue.length) (hsize : before+rest=size)
    (hen : rest≤(Stream.contents ⟨queue,pending⟩).length) (hrest : 0<size) :
    Timely limit (IsBoundary (size::sizes)) (before+queue.length) pending ↔
      Prompt limit (rest-queue.length) pending ∧
        Timely limit (IsBoundary sizes) (Stream.skip rest queue pending).queue.length
          (Stream.skip rest queue pending).pending:=by
  induction pending generalizing before rest queue with
  | nil=>
    have hle : rest-queue.length=0:=by
      simp only [Stream.contents_mk,flatMap_nil,append_nil] at hen
      omega
    exact ⟨fun _=>⟨hle,trivial⟩,fun _=>trivial⟩
  | cons a pending ih=>
    rcases Nat.lt_or_ge queue.length rest with hlt | hge
    · have hnot : ¬IsBoundary (size::sizes) (before+queue.length):=by
        rw [isBoundary_cons]
        omega
      have hmissing : rest-queue.length≠0:=by omega
      rw [Timely,Prompt,Stream.skip_cons_of_length_lt hlt]
      simp only [hnot,hmissing,false_or]
      simp only [Stream.contents_mk,flatMap_cons,length_append] at hen
      have hen' : rest-queue.length≤(Stream.contents ⟨a.items,pending⟩).length:=by
        rw [Stream.contents_mk,length_append]
        omega
      have hsize' : before+queue.length+(rest-queue.length)=size:=by omega
      rw [ih (by omega) hsize' hen',and_assoc]
    · have hmissing : rest-queue.length=0:=by omega
      rw [timely_cons_of_le hrest (by omega),Stream.skip_of_le_length hge,Prompt,length_drop]
      have hoffset : before+queue.length-size=queue.length-rest:=by omega
      simp only [hmissing,hoffset,true_or,true_and]

lemma timely_frame_iff {queue : List α} {pending : List (Arrival α)} (hqueue : queue≠[])
    (hsize : 0<size) (hen : size≤(Stream.contents ⟨queue,pending⟩).length) :
    Timely limit (IsBoundary (size::sizes)) queue.length pending ↔
      Prompt limit (size-queue.length) pending ∧
        Timely limit (IsBoundary sizes) (Stream.skip size queue pending).queue.length
          (Stream.skip size queue pending).pending:=by
  have hpos : 0<0+queue.length:=by
    rw [Nat.zero_add]
    exact length_pos_iff.2 hqueue
  rw [← timely_cons_iff hpos (Nat.zero_add size) hen hsize,Nat.zero_add]

lemma timely_await (s : Stream α) (boundary : ℕ→Prop) (hzero : boundary 0) :
    Timely limit boundary s.queue.length s.pending ↔ Timely limit boundary s.await.queue.length s.await.pending:=by
  obtain ⟨queue,pending⟩:=s
  cases queue with
  | cons x xs=>exact Iff.rfl
  | nil=>
    cases pending with
    | nil=>exact Iff.rfl
    | cons a pending=>
      simp only [Timely,Stream.await,length_nil,hzero,true_or,true_and,Nat.zero_add]

end

def Stream.SameShape (s t : Stream α) : Prop:=
  s.queue.length=t.queue.length ∧ Forall₂ (fun a b=>a.delay=b.delay ∧ a.items.length=b.items.length) s.pending t.pending

section
variable {pending₁ pending₂ : List (Arrival α)}
  (hpending : Forall₂ (fun a b=>a.delay=b.delay ∧ a.items.length=b.items.length) pending₁ pending₂)

include hpending

lemma prompt_iff_of_sameShape (limit missing : ℕ) :
    Prompt limit missing pending₁ ↔ Prompt limit missing pending₂:=by
  induction hpending generalizing missing with
  | nil=>exact Iff.rfl
  | cons hab _ ih=>rw [Prompt,Prompt,hab.1,hab.2,ih]

lemma Stream.SameShape.skip {queue₁ queue₂ : List α} (hqueue : queue₁.length=queue₂.length)
    (n : ℕ) : (Stream.skip n queue₁ pending₁).SameShape (Stream.skip n queue₂ pending₂):=by
  induction hpending generalizing n queue₁ queue₂ with
  | nil=>
    refine ⟨?_,Forall₂.nil⟩
    rw [Stream.skip,Stream.skip,length_drop,length_drop,hqueue]
  | cons hab htail ih=>
    rcases Nat.lt_or_ge queue₁.length n with hlt | hge
    · rw [Stream.skip_cons_of_length_lt hlt,Stream.skip_cons_of_length_lt (hqueue ▸ hlt),hqueue]
      exact ih hab.2 (n-queue₂.length)
    · rw [Stream.skip_of_le_length hge,Stream.skip_of_le_length (hqueue ▸ hge)]
      refine ⟨?_,Forall₂.cons hab htail⟩
      rw [length_drop,length_drop,hqueue]

end
end SoftMessageBus.ChunkedStream
