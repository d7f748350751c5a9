import Mathlib.Data.List.TakeWhile
import Mathlib.Data.Nat.Digits.Lemmas

/-!
# Numbers as decimal text

What `printf` writes for a number, and what `strtoul`, `atoi` and `scanf` read.
-/
namespace SoftMessageBus
open List Nat

/-- The decimal digits that `%u` prints. -/
def decimal (n : ℕ) : List UInt8:=if n=0 then [48] else (Nat.digits 10 n).reverse.map fun d=>UInt8.ofNat (48+d)
def ofDecimal (bytes : List UInt8) : ℕ:=ofDigits 10 (bytes.reverse.map fun b=>b.toNat-48)

lemma ofDecimal_decimal (n : ℕ) : ofDecimal (decimal n)=n:=by
  unfold decimal
  split
  next h=>
    rw [h]
    decide
  · have hdig : (Nat.digits 10 n).map (fun d=>(UInt8.ofNat (48+d)).toNat-48)=
        Nat.digits 10 n:=by
      conv_rhs=>rw [← List.map_id (Nat.digits 10 n)]
      apply map_congr_left
      intro d hd
      have hlt : d<10:=digits_lt_base (by decide) hd
      rw [UInt8.toNat_ofNat',mod_eq_of_lt (by omega),Nat.add_sub_cancel_left,id]
    rw [ofDecimal,← map_reverse,reverse_reverse,List.map_map]
    exact (congrArg (ofDigits 10) hdig).trans (ofDigits_digits 10 n)

variable {n : ℕ} {b : UInt8}

lemma mem_decimal (h : b∈decimal n) : 48≤b.toNat ∧ b.toNat≤57:=by
  unfold decimal at h
  split at h
  · rw [mem_singleton.1 h]
    decide
  · obtain ⟨d,hd,rfl⟩:=List.mem_map.1 h
    have hlt : d<10:=digits_lt_base (by decide) (mem_reverse.1 hd)
    rw [UInt8.toNat_ofNat',mod_eq_of_lt (by omega)]
    omega

lemma notMem_decimal (h : b.toNat<48 ∨ 57<b.toNat) : b∉decimal n:=by
  intro hmem
  have hdigit:=mem_decimal hmem
  omega

lemma length_decimal_le (port : UInt16) : (decimal port.toNat).length≤5:=by
  have hlt:=port.toNat_lt
  unfold decimal
  split
  · decide
  · rw [length_map,length_reverse]
    exact (digits_length_le_iff (by decide) port.toNat).2 (by omega)

lemma decimal_ne_nil (n : ℕ) : decimal n≠[]:=by
  unfold decimal
  split
  · exact cons_ne_nil _ _
  next h=>simpa using digits_ne_nil_iff_ne_zero.2 h

/-- `isspace` in the "C" locale. -/
def isSpaceByte (b : UInt8) : Bool:=b=32 || (9≤b && b≤13)
def isDigitByte (b : UInt8) : Bool:=48≤b && b≤57

def scanSign : List UInt8→Bool × List UInt8
  | []=>(false,[])
  | b::bs=>if b=45 then (true,bs) else if b=43 then (false,bs) else (false,b::bs)

section
variable (text : List UInt8)

def scanNumeral : Option (Bool × ℕ):=
  let (negative,text):=scanSign (text.dropWhile isSpaceByte)
  let digits:=text.takeWhile isDigitByte
  if digits.isEmpty then none else some (negative,ofDecimal digits)

/-- `strtoul` of a number in base 10, which is `0` without a number. -/
def strtoul : UInt64:=
  match scanNumeral text with
  | none=>0
  | some (negative,n)=>
    if UInt64.size≤n then UInt64.ofNat (UInt64.size-1)
    else if negative then -UInt64.ofNat n else UInt64.ofNat n

/-- The bits of `strtol` of a number in base 10, which is `0` without a number. -/
def strtol : UInt64:=
  match scanNumeral text with
  | none=>0
  | some (negative,n)=>
    if negative then -UInt64.ofNat (min n 0x8000000000000000)
    else UInt64.ofNat (min n 0x7FFFFFFFFFFFFFFF)

/-- The bits of `atoi`. -/
def atoi : UInt32:=(strtol text).toUInt32

/-- A conversion `%hu` of `scanf`. -/
def scanUnsignedShort : Option UInt16:=(scanNumeral text).map fun _=>(strtoul text).toUInt16

end

lemma isDigitByte_of_mem_decimal (h : b∈decimal n) : isDigitByte b=true:=by
  obtain ⟨hlow,hhigh⟩:=mem_decimal h
  simp only [isDigitByte,Bool.and_eq_true,decide_eq_true_eq,UInt8.le_iff_toNat_le]
  exact ⟨hlow,hhigh⟩

lemma of_isDigitByte (h : isDigitByte b=true) : isSpaceByte b=false ∧ b≠45 ∧ b≠43:=by
  simp only [isDigitByte,Bool.and_eq_true,decide_eq_true_eq,UInt8.le_iff_toNat_le] at h
  simp only [isSpaceByte,Bool.or_eq_false_iff,Bool.and_eq_false_iff,decide_eq_false_iff_not,
    UInt8.le_iff_toNat_le,ne_eq,← UInt8.toNat_inj]
  simp only [UInt8.reduceToNat] at h ⊢
  omega

lemma scanNumeral_decimal (n : ℕ) : scanNumeral (decimal n)=some (false,n):=by
  have hdig : (decimal n).takeWhile isDigitByte=decimal n:=takeWhile_eq_self_iff.2 fun b=>isDigitByte_of_mem_decimal
  obtain ⟨b,bs,hb⟩:=exists_cons_of_ne_nil (decimal_ne_nil n)
  have hdigit : isDigitByte b=true:=isDigitByte_of_mem_decimal (hb ▸ mem_cons_self)
  obtain ⟨hspace,hminus,hplus⟩:=of_isDigitByte hdigit
  have hstart : (decimal n).dropWhile isSpaceByte=decimal n:=by
    rw [hb,dropWhile_cons_of_neg (by simp [hspace])]
  have hsign : scanSign (decimal n)=(false,decimal n):=by rw [hb,scanSign,if_neg hminus,if_neg hplus]
  simp [scanNumeral,hstart,hsign,hdig,decimal_ne_nil,ofDecimal_decimal]

lemma strtoul_decimal (h : n<UInt64.size) : strtoul (decimal n)=UInt64.ofNat n:=by
  rw [strtoul,scanNumeral_decimal]
  exact if_neg (Nat.not_le.2 h)

lemma toUInt32_strtoul_decimal (x : UInt32) : (strtoul (decimal x.toNat)).toUInt32=x:=by
  rw [strtoul_decimal (Nat.lt_trans x.toNat_lt (by decide)),UInt64.toUInt32_ofNat']
  exact UInt32.ofNat_toNat

lemma atoi_decimal (x : UInt8) : atoi (decimal x.toNat)=x.toUInt32:=by
  have hlt:=x.toNat_lt
  have hmin : min x.toNat 0x7FFFFFFFFFFFFFFF=x.toNat:=Nat.min_eq_left (by omega)
  simp only [atoi,strtol,scanNumeral_decimal,Bool.false_eq_true,if_false,hmin]
  rw [UInt64.toUInt32_ofNat']
  exact UInt32.toNat_inj.1 (by simp)

lemma scanUnsignedShort_decimal (x : UInt16) : scanUnsignedShort (decimal x.toNat)=some x:=by
  rw [scanUnsignedShort,scanNumeral_decimal,Option.map_some,
    strtoul_decimal (Nat.lt_trans x.toNat_lt (by decide)),UInt64.toUInt16_ofNat']
  exact congrArg some UInt16.ofNat_toNat

end SoftMessageBus
