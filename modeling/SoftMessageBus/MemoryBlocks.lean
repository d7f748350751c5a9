import Mathlib.Data.Nat.Basic
import Mathlib.Data.List.Basic
import Mathlib.Data.List.TakeDrop

/-!
# Blocks of memory and circular access to them

A block of memory is a list of cells.
-/
namespace SoftMessageBus.MemoryBlocks
open List Nat

variable {α : Type*}

/-- The `size` cells of a block from `offset` on. -/
def slice (mem : List α) (offset size : ℕ) : List α:=(mem.drop offset).take size

lemma length_slice {mem : List α} {offset size : ℕ} (h : offset+size ≤ mem.length) :
    (slice mem offset size).length=size:=by
  simp only [slice,length_take,length_drop]
  omega

lemma getElem?_slice (mem : List α) (offset size i : ℕ) :
    (slice mem offset size)[i]?=if i<size then mem[offset+i]? else none:=by
  simp [slice,getElem?_take]

lemma slice_append_slice (mem : List α) (offset m n : ℕ) :
    slice mem offset m++slice mem (offset+m) n=slice mem offset (m+n):=by
  rw [slice,slice,slice,← drop_drop,take_add]

lemma slice_append_left {xs ys : List α} {size : ℕ} (h : xs.length=size) : slice (xs++ys) 0 size=xs:=by
  subst h
  simp [slice]

lemma slice_append_right {xs ys : List α} {offset size : ℕ} (h : xs.length≤offset) :
    slice (xs++ys) offset size=slice ys (offset-xs.length) size:=by
  simp [slice,drop_append,drop_eq_nil_of_le h]

/-- Copy `xs` over the cells from `pos` on. -/
def overwrite (mem : List α) (pos : ℕ) (xs : List α) : List α:=mem.take pos++xs++mem.drop (pos+xs.length)

section
variable {mem : List α} {pos : ℕ} {xs : List α} (h : pos+xs.length ≤ mem.length)
include h

lemma length_overwrite : (overwrite mem pos xs).length=mem.length:=by
  simp only [overwrite,length_append,length_take,length_drop]
  omega

lemma getElem?_overwrite (j : ℕ) :
    (overwrite mem pos xs)[j]?=if pos≤j ∧ j<pos+xs.length then xs[j-pos]? else mem[j]?:=by
  have hpos : (mem.take pos).length=pos:=by
    rw [length_take]
    omega
  rw [overwrite,append_assoc,getElem?_append,hpos]
  split
  next hj=>rw [getElem?_take,if_pos hj,if_neg (by omega)]
  next hj=>
    rw [getElem?_append]
    split
    · rw [if_pos (by omega)]
    · rw [if_neg (by omega),getElem?_drop]
      congr 1
      omega

end

/-- The cells from `pos` on, taken circularly, are `xs`. -/
def HoldsAt (mem : List α) (pos : ℕ) (xs : List α) : Prop:=∀ i<xs.length, mem[(pos+i) % mem.length]?=xs[i]?

@[simp] lemma holdsAt_nil (mem : List α) (pos : ℕ) : HoldsAt mem pos []:=by simp [HoldsAt]

section
variable {mem : List α}

lemma holdsAt_append {pos : ℕ} {xs ys : List α} :
    HoldsAt mem pos (xs++ys) ↔ HoldsAt mem pos xs ∧ HoldsAt mem ((pos+xs.length) % mem.length) ys:=by
  constructor
  · intro h
    refine ⟨fun i hi=>?_,fun i hi=>?_⟩
    · have:=h i (by rw [length_append]; omega)
      rwa [getElem?_append_left hi] at this
    · have:=h (xs.length+i) (by rw [length_append]; omega)
      rw [getElem?_append_right (by omega),Nat.add_sub_cancel_left] at this
      rw [mod_add_mod,Nat.add_assoc,this]
  · rintro ⟨hx,hy⟩ i hi
    by_cases hlt : i<xs.length
    · rw [getElem?_append_left hlt]
      exact hx i hlt
    · have:=hy (i-xs.length) (by rw [length_append] at hi; omega)
      rw [mod_add_mod,Nat.add_assoc,Nat.add_sub_cancel' (by omega)] at this
      rw [getElem?_append_right (by omega),this]

/-- Read `n` cells one by one, wrapping after each; a position outside the block
makes the read fail. -/
def circularRead (mem : List α) : ℕ→ℕ→Option (List α)
  | _, 0=>some []
  | pos, n+1=>
    match mem[pos]? with
    | none=>none
    | some x=>(circularRead mem ((pos+1) % mem.length) n).map (x :: ·)

lemma circularRead_eq_some {pos : ℕ} {xs : List α} (hpos : pos < mem.length)
    (h : HoldsAt mem pos xs) : circularRead mem pos xs.length=some xs:=by
  induction xs generalizing pos with
  | nil=>rfl
  | cons x xs ih=>
    have hx : mem[pos]?=some x:=by
      have h0:=h 0 (by simp)
      rwa [Nat.add_zero,mod_eq_of_lt hpos,getElem?_cons_zero] at h0
    have htail : HoldsAt mem ((pos+1) % mem.length) xs:=(holdsAt_append.1 (show HoldsAt mem pos ([x]++xs) from h)).2
    have hnext : (pos+1) % mem.length < mem.length:=mod_lt _ (by omega)
    rw [length_cons,circularRead,hx]
    simp [ih hnext htail]

/-- Copy `n` cells out of a block with at most two plain copies. -/
def circularSlice (mem : List α) (pos n : ℕ) : List α:=
  if pos+n ≤ mem.length then slice mem pos n
  else slice mem pos (mem.length-pos)++slice mem 0 (n-(mem.length-pos))

lemma length_circularSlice {pos n : ℕ} (hpos : pos < mem.length)
    (hn : n ≤ mem.length) : (circularSlice mem pos n).length=n:=by
  rw [circularSlice]
  split
  · exact length_slice ‹_›
  · rw [length_append,length_slice (by omega),length_slice (by omega)]
    omega

lemma getElem?_circularSlice {pos n i : ℕ} (hpos : pos < mem.length)
    (hn : n ≤ mem.length) (hi : i<n) : (circularSlice mem pos n)[i]?=mem[(pos+i) % mem.length]?:=by
  rw [circularSlice]
  split
  · rw [getElem?_slice,if_pos hi,mod_eq_of_lt (by omega)]
  · have hlen : (slice mem pos (mem.length-pos)).length=mem.length-pos:=length_slice (by omega)
    rw [getElem?_append,hlen]
    split
    · rw [getElem?_slice,if_pos ‹_›,mod_eq_of_lt (by omega)]
    · have hwrap : (pos+i) % mem.length=i-(mem.length-pos):=by
        rw [mod_eq_sub_mod (by omega),mod_eq_of_lt (by omega)]
        omega
      rw [getElem?_slice,if_pos (by omega),hwrap,Nat.zero_add]

lemma circularSlice_eq {pos : ℕ} {xs : List α} (hpos : pos < mem.length)
    (hlen : xs.length ≤ mem.length) (h : HoldsAt mem pos xs) : circularSlice mem pos xs.length=xs:=by
  apply ext_getElem?
  intro i
  by_cases hi : i<xs.length
  · rw [getElem?_circularSlice hpos hlen hi,h i hi]
  · rw [getElem?_eq_none (by rw [length_circularSlice hpos hlen]; omega),getElem?_eq_none (by omega)]

end

/-- Copy `xs` into a block from `pos` on with at most two plain copies. -/
def circularWrite (mem : List α) (pos : ℕ) (xs : List α) : List α:=
  if pos+xs.length ≤ mem.length then overwrite mem pos xs
  else overwrite (overwrite mem pos (xs.take (mem.length-pos))) 0 (xs.drop (mem.length-pos))

section
variable {mem : List α} {pos : ℕ} {xs : List α}

section
variable (hpos : pos < mem.length) (hlen : xs.length ≤ mem.length)
include hpos hlen

lemma length_circularWrite : (circularWrite mem pos xs).length=mem.length:=by
  rw [circularWrite]
  split
  · exact length_overwrite ‹_›
  · have hfirst : (overwrite mem pos (xs.take (mem.length-pos))).length=mem.length:=
      length_overwrite (by rw [length_take]; omega)
    rw [length_overwrite (by rw [length_drop,hfirst]; omega),hfirst]

lemma getElem?_circularWrite {i : ℕ} (hi : i < mem.length) :
    (circularWrite mem pos xs)[(pos+i) % mem.length]?= if i<xs.length then xs[i]? else mem[(pos+i) % mem.length]?:=by
  have hmod : (pos+i) % mem.length=
      if pos+i < mem.length then pos+i else pos+i-mem.length:=by
    split
    · exact mod_eq_of_lt ‹_›
    · rw [mod_eq_sub_mod (by omega),mod_eq_of_lt (by omega)]
  rw [hmod,circularWrite]
  split
  · rw [getElem?_overwrite ‹_›]
    -- The copy does not wrap: the cell is inside it exactly when its offset is.
    split
    · by_cases hx : i<xs.length
      · rw [if_pos (by omega),if_pos hx]
        congr 1
        omega
      · rw [if_neg (by omega),if_neg hx]
    · rw [if_neg (by omega),if_neg (by omega)]
  · have hlen₁ : (xs.take (mem.length-pos)).length=mem.length-pos:=by
      rw [length_take]
      omega
    have hfit : pos+(xs.take (mem.length-pos)).length ≤ mem.length:=by omega
    have hlen₂ : (overwrite mem pos (xs.take (mem.length-pos))).length=mem.length:=length_overwrite hfit
    rw [getElem?_overwrite (by rw [length_drop,hlen₂]; omega),getElem?_overwrite hfit,
      hlen₁,length_drop,getElem?_drop,getElem?_take]
    split
    · rw [if_neg (by omega),if_pos (by omega),if_pos (by omega),if_pos (by omega)]
      congr 1
      omega
    · by_cases hx : i<xs.length
      · rw [if_pos (by omega),if_pos hx]
        congr 1
        omega
      · rw [if_neg (by omega),if_neg (by omega),if_neg hx]

lemma holdsAt_circularWrite : HoldsAt (circularWrite mem pos xs) pos xs:=by
  intro i hi
  rw [length_circularWrite hpos hlen,getElem?_circularWrite hpos hlen (by omega),if_pos hi]

end
section
variable {ys : List α} {start : ℕ} (h : HoldsAt mem start ys)
  (hpos : (start+ys.length) % mem.length=pos) (hmem : 0 < mem.length)
  (hlen : ys.length+xs.length ≤ mem.length)
include h hpos hmem hlen

lemma HoldsAt.circularWrite : HoldsAt (circularWrite mem pos xs) start ys:=by
  have hlt : pos < mem.length:=hpos ▸ mod_lt _ hmem
  intro i hi
  -- Seen from `pos`, the cell at offset `i` of the run is `mem.length - ys.length + i` ahead.
  have hoff : (pos+(mem.length-ys.length+i)) % mem.length=(start+i) % mem.length:=by
    rw [← hpos,mod_add_mod]
    have harith : start+ys.length+(mem.length-ys.length+i)=start+i+mem.length:=by omega
    rw [harith,add_mod_right]
  rw [length_circularWrite hlt (by omega),← hoff,getElem?_circularWrite hlt (by omega) (by omega),if_neg (by omega),hoff]
  exact h i hi

lemma HoldsAt.circularWrite_append : HoldsAt (MemoryBlocks.circularWrite mem pos xs) start (ys++xs):=by
  have hlt : pos < mem.length:=hpos ▸ mod_lt _ hmem
  have hsize : (MemoryBlocks.circularWrite mem pos xs).length=mem.length:=length_circularWrite hlt (by omega)
  refine holdsAt_append.2 ⟨h.circularWrite hpos hmem hlen,?_⟩
  rw [hsize,hpos]
  exact holdsAt_circularWrite hlt (by omega)

end
end
end SoftMessageBus.MemoryBlocks
