import Mathlib.Data.Vector.Basic

/-!
# NUL-terminated strings

A string is the sequence of characters in front of the terminator.
-/
namespace SoftMessageBus
open List

/-- The characters of a NUL-terminated string, without the terminator. -/
@[ext] structure CString where
  bytes : List UInt8
  nul_notMem : 0∉bytes
  deriving DecidableEq

namespace CString

def empty : CString:=⟨[],not_mem_nil⟩

lemma isEmpty_bytes_iff {s : CString} : s.bytes.isEmpty=true ↔ s=empty:=by
  rw [List.isEmpty_iff,CString.ext_iff]
  rfl

def ofMemory (mem : List UInt8) : CString where
  bytes:=mem.takeWhile fun b=>decide (b≠0)
  nul_notMem h:=by simpa using List.all_eq_true.1 all_takeWhile 0 h

def append (s t : CString) : CString:=⟨s.bytes++t.bytes,by simp [s.nul_notMem,t.nul_notMem]⟩

/-- The first `n` characters. -/
def truncate (n : ℕ) (s : CString) : CString:=⟨s.bytes.take n,fun h=>s.nul_notMem (mem_of_mem_take h)⟩

lemma truncate_eq_self {n : ℕ} {s : CString} (h : s.bytes.length≤n) : s.truncate n=s:=CString.ext (take_of_length_le h)

lemma length_truncate_le (n : ℕ) (s : CString) : (s.truncate n).bytes.length≤n:=length_take_le n s.bytes

lemma ofMemory_append_nul (s : CString) (rest : List UInt8) : ofMemory (s.bytes++0::rest)=s:=by
  apply CString.ext
  have hall : ∀ b∈s.bytes, decide (b≠0)=true:=by
    intro b hb
    exact decide_eq_true fun h=>s.nul_notMem (h ▸ hb)
  change (s.bytes++0::rest).takeWhile _=s.bytes
  rw [takeWhile_append_of_pos hall,takeWhile_cons_of_neg (by simp),append_nil]

lemma length_ofMemory_lt {mem : List UInt8} (h : 0∈mem) : (ofMemory mem).bytes.length < mem.length:=by
  refine (takeWhile_sublist _).length_le.lt_of_ne fun hall=>?_
  rw [← (takeWhile_sublist _).eq_of_length hall] at h
  exact (ofMemory mem).nul_notMem h

lemma ofMemory_append_of_mem {mem : List UInt8} (h : 0∈mem) (rest : List UInt8) : ofMemory (mem++rest)=ofMemory mem:=
  CString.ext ((takeWhile_append ..).trans (if_neg (length_ofMemory_lt h).ne))

def ofArray {size : ℕ} (array : List.Vector UInt8 size) : CString:=ofMemory array.toList

def copyTo {size : ℕ} (dest : List.Vector UInt8 (size+1)) (s : CString) :
    List.Vector UInt8 (size+1) where
  val:=(s.truncate size).bytes++0::dest.toList.drop ((s.truncate size).bytes.length+1)
  property:=by
    have hle:=length_truncate_le size s
    rw [length_append,length_cons,length_drop,List.Vector.toList_length]
    omega

@[simp] lemma ofArray_copyTo {size : ℕ} (dest : List.Vector UInt8 (size+1)) (s : CString) :
    ofArray (copyTo dest s)=s.truncate size:=
  ofMemory_append_nul _ _

end CString
end SoftMessageBus
