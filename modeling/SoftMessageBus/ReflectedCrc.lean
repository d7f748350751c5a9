import Mathlib.Data.Nat.Bitwise
import Mathlib.Data.Nat.Digits.Lemmas

/-!
# Reflected cyclic checksums

A register takes a message bit by bit, the lowest bit of a byte first.
-/
namespace SoftMessageBus.ReflectedCrc
open List

variable {poly w : ℕ}

def shift (poly x : ℕ) : ℕ:=x/2 ^^^ if x % 2=1 then poly else 0

lemma shift_xor (x y : ℕ) : shift poly (x ^^^ y)=shift poly x ^^^ shift poly y:=by
  unfold shift
  rw [Nat.xor_div_two,Nat.xor_mod_two_eq]
  rcases Nat.mod_two_eq_zero_or_one x with hx | hx <;>
    rcases Nat.mod_two_eq_zero_or_one y with hy | hy
  · rw [if_neg (by omega),if_neg (by omega),if_neg (by omega),Nat.xor_zero,Nat.xor_zero,Nat.xor_zero]
  · rw [if_pos (by omega),if_neg (by omega),if_pos hy,Nat.xor_zero,Nat.xor_assoc]
  · rw [if_pos (by omega),if_pos hx,if_neg (by omega),Nat.xor_zero,Nat.xor_assoc,Nat.xor_assoc,Nat.xor_comm poly]
  · rw [if_neg (by omega),if_pos hx,if_pos hy,Nat.xor_zero,Nat.xor_assoc,Nat.xor_left_comm poly,Nat.xor_self,Nat.xor_zero]

lemma iterate_shift_xor (poly n x y : ℕ) :
    (shift poly)^[n] (x ^^^ y)=(shift poly)^[n] x ^^^ (shift poly)^[n] y:=by
  induction n generalizing x y with
  | zero=>rfl
  | succ n ih=>rw [Function.iterate_succ_apply,shift_xor,ih]; rfl

lemma iterate_shift_mul (n x : ℕ) : (shift poly)^[n] (x*2^n)=x:=by
  induction n with
  | zero=>exact Nat.mul_one x
  | succ n ih=>
    have hshift : shift poly (x*2^(n+1))=x*2^n:=by
      rw [Nat.pow_succ,← Nat.mul_assoc,shift,Nat.mul_div_cancel _ (by decide),if_neg (by omega),Nat.xor_zero]
    rw [Function.iterate_succ_apply,hshift,ih]

section
variable (hpoly : poly<2^w) (hhigh : 2^w≤2*poly)

include hpoly hhigh

lemma shift_pos {x : ℕ} (hpos : 0<x) (hlt : x<2^w) : 0<shift poly x ∧ shift poly x<2^w:=by
  unfold shift
  by_cases hodd : x % 2=1
  · rw [if_pos hodd]
    refine ⟨Nat.pos_of_ne_zero fun hzero=>?_,Nat.xor_lt_two_pow (by omega) hpoly⟩
    have heq:=Nat.xor_eq_zero_iff.1 hzero
    omega
  · rw [if_neg hodd,Nat.xor_zero]
    omega

lemma iterate_shift_pos (n : ℕ) {x : ℕ} (hpos : 0<x) (hlt : x<2^w) : 0<(shift poly)^[n] x:=by
  induction n generalizing x with
  | zero=>exact hpos
  | succ n ih=>
    obtain ⟨hpos',hlt'⟩:=shift_pos hpoly hhigh hpos hlt
    exact ih hpos' hlt'

end

lemma add_eq_xor {n x : ℕ} (h : x<2^n) (y : ℕ) : x+y*2^n=x ^^^ y*2^n:=by
  have hdiv : (x ^^^ y*2^n)/2^n=y:=by
    rw [Nat.xor_div_two_pow,Nat.div_eq_of_lt h,Nat.mul_div_cancel y (Nat.two_pow_pos n),Nat.zero_xor]
  have hmod : (x ^^^ y*2^n) % 2^n=x:=by
    rw [Nat.xor_mod_two_pow,Nat.mod_eq_of_lt h,Nat.mul_mod_left,Nat.xor_zero]
  have hsum:=Nat.div_add_mod (x ^^^ y*2^n) (2^n)
  rw [hdiv,hmod,Nat.mul_comm,Nat.add_comm] at hsum
  exact hsum

lemma xor_mul_two_pow (x y n : ℕ) : (x ^^^ y)*2^n=x*2^n ^^^ y*2^n:=by
  rw [← Nat.shiftLeft_eq,← Nat.shiftLeft_eq,← Nat.shiftLeft_eq,Nat.shiftLeft_xor_distrib]

def step (poly register byte : ℕ) : ℕ:=(shift poly)^[8] (register ^^^ byte)

lemma iterate_shift_eight (x : ℕ) : (shift poly)^[8] x=x/2^8 ^^^ (shift poly)^[8] (x % 2^8):=by
  have hsplit : x % 2^8 ^^^ x/2^8*2^8=x:=by
    rw [← add_eq_xor (Nat.mod_lt x (by decide)),Nat.mul_comm,Nat.mod_add_div]
  have hshifted:=iterate_shift_xor poly 8 (x % 2^8) (x/2^8*2^8)
  rw [hsplit,iterate_shift_mul,Nat.xor_comm] at hshifted
  exact hshifted

lemma ofDigits_cons_eq_xor {k digit : ℕ} (hdigit : digit<2^k) (digits : List ℕ) :
    Nat.ofDigits (2^k) (digit::digits)=digit ^^^ Nat.ofDigits (2^k) digits*2^k:=by
  rw [← add_eq_xor hdigit,Nat.ofDigits_cons,Nat.mul_comm]

lemma foldl_digits (poly k register : ℕ) {digits : List ℕ} (hdig : ∀ digit∈digits, digit<2^k) :
    digits.foldl (fun register digit=>(shift poly)^[k] (register ^^^ digit)) register=
      (shift poly)^[k*digits.length] (register ^^^ Nat.ofDigits (2^k) digits):=by
  induction digits generalizing register with
  | nil=>exact (Nat.xor_zero register).symm
  | cons digit digits ih=>
    obtain ⟨hdigit,hdig⟩:=forall_mem_cons.1 hdig
    have htaken : (shift poly)^[k] (register ^^^ Nat.ofDigits (2^k) (digit::digits))=
        (shift poly)^[k] (register ^^^ digit) ^^^ Nat.ofDigits (2^k) digits:=by
      rw [ofDigits_cons_eq_xor hdigit,← Nat.xor_assoc,iterate_shift_xor,iterate_shift_mul]
    rw [foldl_cons,ih _ hdig,length_cons,Nat.mul_succ,Function.iterate_add_apply,htaken]

lemma foldl_step (register : ℕ) {bytes : List ℕ} (hbytes : ∀ byte∈bytes, byte<256) :
    bytes.foldl (step poly) register=(shift poly)^[8*bytes.length] (register ^^^ Nat.ofDigits 256 bytes):=by
  have hbase : (2 : ℕ)^8=256:=by decide
  have htaken:=foldl_digits poly 8 register (hbase ▸ hbytes)
  rw [hbase] at htaken
  exact htaken

/-- Messages of one length that differ within `w` consecutive bits. -/
def Burst (w : ℕ) (sent received : List ℕ) : Prop:=
  received.length=sent.length ∧ ∃ pattern offset, 0<pattern ∧ pattern<2^w ∧
    Nat.ofDigits 256 received=Nat.ofDigits 256 sent ^^^ pattern*2^offset

lemma ofDigits_lt_two_pow {bytes : List ℕ} (hbytes : ∀ byte∈bytes, byte<256) :
    Nat.ofDigits 256 bytes<2^(8*bytes.length):=by
  have hlt:=Nat.ofDigits_lt_base_pow_length (by decide) hbytes
  rw [Nat.pow_mul]
  exact hlt

lemma ofDigits_append_eq_xor {front : List ℕ} (hfront : ∀ byte∈front, byte<256)
    (bytes : List ℕ) : Nat.ofDigits 256 (front++bytes)=
      Nat.ofDigits 256 front ^^^ Nat.ofDigits 256 bytes*2^(8*front.length):=by
  rw [← add_eq_xor (ofDigits_lt_two_pow hfront),Nat.ofDigits_append,Nat.pow_mul,Nat.mul_comm]

variable {sent received : List ℕ}

lemma Burst.append (h : Burst w sent received) {front : List ℕ}
    (hfront : ∀ byte∈front, byte<256) : Burst w (front++sent) (front++received):=by
  obtain ⟨hlen,pattern,offset,hpos,hlt,hvalue⟩:=h
  refine ⟨?_,pattern,offset+8*front.length,hpos,hlt,?_⟩
  · rw [length_append,length_append,hlen]
  · rw [ofDigits_append_eq_xor hfront,ofDigits_append_eq_xor hfront,hvalue,xor_mul_two_pow,
      Nat.mul_assoc,← Nat.pow_add,Nat.xor_assoc]

lemma Burst.append_right (h : Burst w sent received) (hsent : ∀ byte∈sent, byte<256)
    (hrec : ∀ byte∈received, byte<256) (back : List ℕ) : Burst w (sent++back) (received++back):=by
  obtain ⟨hlen,pattern,offset,hpos,hlt,hvalue⟩:=h
  refine ⟨?_,pattern,offset,hpos,hlt,?_⟩
  · rw [length_append,length_append,hlen]
  · rw [ofDigits_append_eq_xor hsent,ofDigits_append_eq_xor hrec,hvalue,hlen,
      Nat.xor_assoc,Nat.xor_assoc,Nat.xor_comm (pattern*2^offset)]

lemma burst_of_ne (hlength : received.length=sent.length) (hw : 8*sent.length≤w)
    (hsent : ∀ byte∈sent, byte<256) (hrec : ∀ byte∈received, byte<256) (hne : received≠sent) : Burst w sent received:=by
  have hlt : ∀ bytes : List ℕ, bytes.length=sent.length→(∀ byte∈bytes, byte<256)→
      Nat.ofDigits 256 bytes<2^w:=by
    intro bytes hlen hbytes
    have hvalue:=ofDigits_lt_two_pow hbytes
    rw [hlen] at hvalue
    exact hvalue.trans_le (Nat.pow_le_pow_right (by decide) hw)
  refine ⟨hlength,Nat.ofDigits 256 sent ^^^ Nat.ofDigits 256 received,0,?_,?_,?_⟩
  · refine Nat.pos_of_ne_zero fun hzero=>hne ?_
    exact Nat.ofDigits_inj_of_len_eq (by decide) hlength hrec hsent (Nat.xor_eq_zero_iff.1 hzero).symm
  · exact Nat.xor_lt_two_pow (hlt sent rfl hsent) (hlt received hlength hrec)
  · rw [Nat.pow_zero,Nat.mul_one,Nat.xor_xor_cancel_left]

lemma Burst.foldl_step_ne (hpoly : poly<2^w) (hhigh : 2^w≤2*poly)
    {sent received : List ℕ} (h : Burst w sent received) (hsent : ∀ byte∈sent, byte<256)
    (hrec : ∀ byte∈received, byte<256) (register : ℕ) :
    received.foldl (step poly) register≠sent.foldl (step poly) register:=by
  obtain ⟨hlen,pattern,offset,hpos,hlt,hvalue⟩:=h
  intro heq
  rw [foldl_step _ hrec,foldl_step _ hsent,hlen,hvalue,← Nat.xor_assoc, iterate_shift_xor] at heq
  have hcleared : (shift poly)^[8*sent.length] (pattern*2^offset)=0:=Nat.xor_right_inj.1 (heq.trans (Nat.xor_zero _).symm)
  -- the burst lies within the message, so that it has been taken up before the end
  have hins : 2^offset<2^(8*sent.length):=by
    have hxor:=Nat.xor_lt_two_pow (ofDigits_lt_two_pow hsent) (hlen ▸ ofDigits_lt_two_pow hrec)
    rw [hvalue,Nat.xor_xor_cancel_left] at hxor
    exact lt_of_le_of_lt (Nat.le_mul_of_pos_left _ hpos) hxor
  have hoffset : offset≤8*sent.length:=(Nat.pow_lt_pow_iff_right (by decide)).1 hins |>.le
  rw [← Nat.sub_add_cancel hoffset,Function.iterate_add_apply,iterate_shift_mul] at hcleared
  have hkept:=iterate_shift_pos hpoly hhigh (8*sent.length-offset) hpos hlt
  omega

end SoftMessageBus.ReflectedCrc
