import SoftMessageBus.MemoryPool
import SoftMessageBus.RingBuffer

/-!
# The layout of a ring in memory

The control structure and the data area share the memory of a ring.
-/
namespace SoftMessageBus
open List

/-- `sizeof(ZOO_SMB_RING_BUFFER_CONTROL)`, a multiple of its alignment. -/
def sizeofRingControl : ℕ:=192
def ringBufferAlignment : ℕ:=64
def ringAlign (size : ℕ) : ℕ:=smbAlignPtr size ringBufferAlignment

def ringGetRequiredSize (dataSize : ℕ) : ℕ:=
  let atLeast:=if dataSize < ringBufferMinSize then ringBufferMinSize else dataSize
  let clamped:=if ringBufferMaxSize<atLeast then ringBufferMaxSize else atLeast
  ringAlign sizeofRingControl+ringAlign clamped

/-- `zoo_smb_ring_buffer_create_in_memory` as it divides the memory: `data_size` has 32 bits. -/
def ringCreateInMemory (memory : Bytes) (allowOverwrite : Bool) : Option RingBuffer:=
  if memory.length<sizeofRingControl+ringBufferMinSize then none
  else
    let dataSize:=(memory.length-ringAlign sizeofRingControl) % 2^32
    some ⟨ringBufferMagic,ringBufferVersion,0,0,0,0,true,false,⟨0,0,0,0,0,0⟩,allowOverwrite,
      (memory.drop (ringAlign sizeofRingControl)).take dataSize⟩

lemma ringAlign_sizeofRingControl : ringAlign sizeofRingControl=192:=by decide

/-- The rounding keeps a size within the largest one. -/
lemma ringAlign_bounds {n : ℕ} (h : n≤ringBufferMaxSize) : n≤ringAlign n ∧ ringAlign n≤ringBufferMaxSize:=by
  have hmax : ringBufferMaxSize=67108864:=rfl
  have heq : ringAlign n=n+alignmentGap n 64:=smbAlignPtr_eq (k := 6) (by omega)
  rw [heq,alignmentGap]
  omega

section
variable {memory : Bytes} {allowOverwrite : Bool} {r : RingBuffer}

/-- The memory is divided into the control structure, the data area and a rest. -/
lemma ringCreateInMemory_eq_some (h : ringCreateInMemory memory allowOverwrite=some r) :
    r.data.length=(memory.length-192) % 2^32 ∧
      (r.isValid ↔ ringBufferMinSize≤r.data.length ∧ r.data.length≤ringBufferMaxSize) ∧
      ∃ control rest, control.length=192 ∧ memory=control++r.data++rest:=by
  rw [ringCreateInMemory,ringAlign_sizeofRingControl] at h
  split at h
  · cases h
  next hsize=>
    rw [Nat.not_lt] at hsize
    have hmin : ringBufferMinSize=1024:=rfl
    have hcontrol : sizeofRingControl=192:=rfl
    cases h
    refine ⟨?_,?_,memory.take 192,(memory.drop 192).drop ((memory.length-192) % 2^32),?_,?_⟩
    · rw [length_take,length_drop,Nat.min_eq_left (Nat.mod_le _ _)]
    · simp only [RingBuffer.isValid]
      grind
    · rw [length_take]
      omega
    · rw [append_assoc,take_append_drop,take_append_drop]

end

lemma ringGetRequiredSize_eq {dataSize : ℕ} (hlow : ringBufferMinSize≤dataSize)
    (hhigh : dataSize≤ringBufferMaxSize) : ringGetRequiredSize dataSize=192+ringAlign dataSize:=by
  rw [ringGetRequiredSize,if_neg (Nat.not_lt.2 hlow),if_neg (Nat.not_lt.2 hhigh),ringAlign_sizeofRingControl]

/-- A ring in memory of the required size. -/
lemma ringCreateInMemory_required {dataSize : ℕ} (hlow : ringBufferMinSize≤dataSize)
    (hhigh : dataSize≤ringBufferMaxSize) {region : Bytes}
    (hregion : region.length=ringGetRequiredSize dataSize) (allowOverwrite : Bool) :
    ∃ r, ringCreateInMemory region allowOverwrite=some r ∧ r.isValid ∧ dataSize≤r.data.length:=by
  have hmin : ringBufferMinSize=1024:=rfl
  have hmax : ringBufferMaxSize=67108864:=rfl
  have hcontrol : sizeofRingControl=192:=rfl
  have hbounds:=ringAlign_bounds hhigh
  rw [ringGetRequiredSize_eq hlow hhigh] at hregion
  have hlarge : ¬region.length<sizeofRingControl+ringBufferMinSize:=by omega
  obtain ⟨r,hr⟩ : ∃ r, ringCreateInMemory region allowOverwrite=some r:=⟨_,if_neg hlarge⟩
  obtain ⟨hlen,hvalid,-⟩:=ringCreateInMemory_eq_some hr
  refine ⟨r,hr,hvalid.2 ?_,?_⟩ <;> omega

/-- The first part is the agreement of the sizes, the second is about the given memory. -/
theorem ring_layout_iff (memory : Bytes) (allowOverwrite : Bool) :
    ((∀ dataSize, ringBufferMinSize≤dataSize→dataSize≤ringBufferMaxSize→∀ region : Bytes,
        region.length=ringGetRequiredSize dataSize→∃ r,
        ringCreateInMemory region allowOverwrite=some r ∧ r.isValid ∧ dataSize≤r.data.length) ∧
      ∀ r, ringCreateInMemory memory allowOverwrite=some r → r.isValid ∧
        ∃ control rest, control.length=ringAlign sizeofRingControl ∧ memory=control++r.data++rest) ↔
    memory.length<sizeofRingControl+ringBufferMinSize ∨
      ringBufferMinSize≤(memory.length-192) % 2^32 ∧ (memory.length-192) % 2^32≤ringBufferMaxSize:=by
  rw [and_iff_right fun dataSize hlow hhigh region hregion=>ringCreateInMemory_required hlow hhigh hregion allowOverwrite]
  by_cases hsmall : memory.length<sizeofRingControl+ringBufferMinSize
  · refine iff_of_true (fun r hr=>?_) (.inl hsmall)
    rw [ringCreateInMemory,if_pos hsmall] at hr
    cases hr
  · rw [or_iff_right hsmall]
    constructor
    · intro h
      obtain ⟨r,hr⟩ : ∃ r, ringCreateInMemory memory allowOverwrite=some r:=⟨_,if_neg hsmall⟩
      obtain ⟨hlen,hvalid,-⟩:=ringCreateInMemory_eq_some hr
      exact hlen ▸ hvalid.1 (h r hr).1
    · intro hrange r hr
      obtain ⟨hlen,hvalid,hparts⟩:=ringCreateInMemory_eq_some hr
      rw [ringAlign_sizeofRingControl,hvalid,hlen]
      exact ⟨hrange,hparts⟩

/-- In one byte more than the largest ring needs, the handle is not valid. -/
theorem ring_too_large : ∃ r,
    ringCreateInMemory (replicate 67109057 0) false=some r ∧ ¬r.isValid:=by
  obtain ⟨r,hr⟩ : ∃ r, ringCreateInMemory (replicate 67109057 0) false=some r:=
    ⟨_,if_neg (by rw [length_replicate]; decide)⟩
  obtain ⟨hlen,hvalid,-⟩:=ringCreateInMemory_eq_some hr
  rw [length_replicate] at hlen
  refine ⟨r,hr,fun h=>?_⟩
  have hmax:=(hvalid.1 h).2
  rw [hlen] at hmax
  exact absurd hmax (by decide)

end SoftMessageBus
