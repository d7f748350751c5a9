import Mathlib.Tactic.Ring
import Mathlib.Tactic.NormNum

/-!
# Byte representations of fixed-width machine words

Words are stored in the byte order of the host.
-/
namespace SoftMessageBus

abbrev Bytes:=List UInt8

namespace ByteEncoding

/-- Byte order of a host or of a wire format. -/
inductive Endian where
  | little
  | big
  deriving DecidableEq

/-- The `w` low-order bytes of `n`, least significant first. -/
def littleBytes : ℕ→ℕ→Bytes
  | 0, _=>[]
  | w+1, n=>UInt8.ofNat (n % 256)::littleBytes w (n/256)

def littleValue : Bytes→ℕ
  | []=>0
  | b::bs=>b.toNat+256*littleValue bs

@[simp] lemma length_littleBytes (w n : ℕ) : (littleBytes w n).length=w:=by
  induction w generalizing n with
  | zero=>rfl
  | succ w ih=>simp only [littleBytes,List.length_cons,ih]

lemma littleValue_littleBytes (w n : ℕ) (h : n<256^w) : littleValue (littleBytes w n)=n:=by
  induction w generalizing n with
  | zero=>
    have hn : n=0:=by simpa using h
    simp [littleBytes,littleValue,hn]
  | succ w ih=>
    have hd : n/256<256^w:=by
      rw [pow_succ] at h
      exact Nat.div_lt_of_lt_mul (by rwa [Nat.mul_comm])
    have hb : (UInt8.ofNat (n % 256)).toNat=n % 256:=by
      rw [UInt8.toNat_ofNat']
      omega
    rw [littleBytes,littleValue,ih _ hd,hb]
    omega

lemma littleValue_lt (bs : Bytes) : littleValue bs<256^bs.length:=by
  induction bs with
  | nil=>simp [littleValue]
  | cons b bs ih=>
    have hb : b.toNat<256:=b.toNat_lt
    rw [littleValue,List.length_cons,pow_succ]
    omega

lemma littleBytes_littleValue (bs : Bytes) : littleBytes bs.length (littleValue bs)=bs:=by
  induction bs with
  | nil=>rfl
  | cons b bs ih=>
    have hb : b.toNat<256:=b.toNat_lt
    have hmod : (b.toNat+256*littleValue bs) % 256=b.toNat:=by omega
    have hdiv : (b.toNat+256*littleValue bs)/256=littleValue bs:=by omega
    rw [List.length_cons,littleValue,littleBytes,hmod,hdiv,ih,UInt8.ofNat_toNat]

namespace Endian

/-- The `w` bytes of `n` as they lie in memory. -/
def bytes : Endian→ℕ→ℕ→Bytes
  | .little, w, n=>littleBytes w n
  | .big, w, n=>(littleBytes w n).reverse

def value : Endian→Bytes→ℕ
  | .little, bs=>littleValue bs
  | .big, bs=>littleValue bs.reverse

variable (e : Endian)

@[simp] lemma length_bytes (w n : ℕ) : (e.bytes w n).length=w:=by cases e <;> simp [bytes]

lemma value_bytes {w n : ℕ} (h : n<256^w) : e.value (e.bytes w n)=n:=by
  cases e <;> simp [bytes,value,littleValue_littleBytes w n h]

lemma value_lt (bs : Bytes) : e.value bs<256^bs.length:=by
  cases e with
  | little=>exact littleValue_lt bs
  | big=>simpa [value] using littleValue_lt bs.reverse

lemma bytes_value {w : ℕ} {bs : Bytes} (h : bs.length=w) : e.bytes w (e.value bs)=bs:=by
  subst h
  cases e with
  | little=>exact littleBytes_littleValue bs
  | big=>
    have hr:=littleBytes_littleValue bs.reverse
    rw [List.length_reverse] at hr
    rw [bytes,value,hr,List.reverse_reverse]

end Endian

/-- An unsigned machine integer that occupies `width` bytes. -/
class MachineWord (α : Type) where
  width : ℕ
  toNat : α→ℕ
  ofNat : ℕ → α
  toNat_lt : ∀ x, toNat x<256^width
  ofNat_toNat : ∀ x, ofNat (toNat x)=x
  toNat_ofNat : ∀ n, n<256^width→toNat (ofNat n)=n

instance : MachineWord UInt16 where
  width:=2
  toNat:=UInt16.toNat
  ofNat:=UInt16.ofNat
  toNat_lt x:=x.toNat_lt
  ofNat_toNat _:=UInt16.ofNat_toNat
  toNat_ofNat _ h:=UInt16.toNat_ofNat_of_lt h

instance : MachineWord UInt32 where
  width:=4
  toNat:=UInt32.toNat
  ofNat:=UInt32.ofNat
  toNat_lt x:=x.toNat_lt
  ofNat_toNat _:=UInt32.ofNat_toNat
  toNat_ofNat _ h:=UInt32.toNat_ofNat_of_lt h

instance : MachineWord UInt64 where
  width:=8
  toNat:=UInt64.toNat
  ofNat:=UInt64.ofNat
  toNat_lt x:=x.toNat_lt
  ofNat_toNat _:=UInt64.ofNat_toNat
  toNat_ofNat _ h:=UInt64.toNat_ofNat_of_lt h

@[simp] lemma width_uint16 : MachineWord.width UInt16=2:=rfl
@[simp] lemma width_uint32 : MachineWord.width UInt32=4:=rfl
@[simp] lemma width_uint64 : MachineWord.width UInt64=8:=rfl

section
variable {α : Type} [MachineWord α]

variable (e : Endian)

def store (x : α) : Bytes:=e.bytes (MachineWord.width α) (MachineWord.toNat x)
def load (bs : Bytes) : α:=MachineWord.ofNat (e.value bs)

@[simp] lemma length_store (x : α) : (store e x).length=MachineWord.width α:=by simp [store]

@[simp] lemma load_store (x : α) : load e (store e x)=x:=by
  rw [load,store,e.value_bytes (MachineWord.toNat_lt x),MachineWord.ofNat_toNat]

lemma store_load {bs : Bytes} (h : bs.length=MachineWord.width α) : store e (load e bs : α)=bs:=by
  have hlt : e.value bs<256^MachineWord.width α:=h ▸ e.value_lt bs
  rw [store,load,MachineWord.toNat_ofNat _ hlt,e.bytes_value h]

def byteSwap (x : α) : α:=load .little (store .big x)

def htobe (x : α) : α:=
  match e with
  | .little=>byteSwap x
  | .big=>x

lemma store_htobe (x : α) : store e (htobe e x)=store .big x:=by
  cases e with
  | little=>exact store_load .little (length_store .big x)
  | big=>rfl

lemma htobe_load {bs : Bytes} (h : bs.length=MachineWord.width α) :
    htobe e (load e bs : α)=load .big bs:=by
  cases e with
  | big=>rfl
  | little=>
    have hs : store .big (load .little bs : α)=bs.reverse:=by
      have hl:=store_load (α:=α) .little h
      have hr : store .big (load .little bs : α)=(store .little (load .little bs : α)).reverse:=rfl
      rw [hr,hl]
    rw [htobe,byteSwap,hs,load,load,Endian.value,Endian.value]

end
end ByteEncoding
end SoftMessageBus
