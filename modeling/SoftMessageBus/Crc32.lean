import Mathlib.Data.UInt
import SoftMessageBus.ReflectedCrc

/-!
# The table-driven checksum of payloads
-/
namespace SoftMessageBus

def crc32Table : List UInt32:=[
    0x00000000,0x77073096,0xEE0E612C,0x990951BA,0x076DC419,0x706AF48F,0xE963A535,0x9E6495A3,
    0x0EDB8832,0x79DCB8A4,0xE0D5E91E,0x97D2D988,0x09B64C2B,0x7EB17CBD,0xE7B82D07,0x90BF1D91,
    0x1DB71064,0x6AB020F2,0xF3B97148,0x84BE41DE,0x1ADAD47D,0x6DDDE4EB,0xF4D4B551,0x83D385C7,
    0x136C9856,0x646BA8C0,0xFD62F97A,0x8A65C9EC,0x14015C4F,0x63066CD9,0xFA0F3D63,0x8D080DF5,
    0x3B6E20C8,0x4C69105E,0xD56041E4,0xA2677172,0x3C03E4D1,0x4B04D447,0xD20D85FD,0xA50AB56B,
    0x35B5A8FA,0x42B2986C,0xDBBBC9D6,0xACBCF940,0x32D86CE3,0x45DF5C75,0xDCD60DCF,0xABD13D59,
    0x26D930AC,0x51DE003A,0xC8D75180,0xBFD06116,0x21B4F4B5,0x56B3C423,0xCFBA9599,0xB8BDA50F,
    0x2802B89E,0x5F058808,0xC60CD9B2,0xB10BE924,0x2F6F7C87,0x58684C11,0xC1611DAB,0xB6662D3D,
    0x76DC4190,0x01DB7106,0x98D220BC,0xEFD5102A,0x71B18589,0x06B6B51F,0x9FBFE4A5,0xE8B8D433,
    0x7807C9A2,0x0F00F934,0x9609A88E,0xE10E9818,0x7F6A0DBB,0x086D3D2D,0x91646C97,0xE6635C01,
    0x6B6B51F4,0x1C6C6162,0x856530D8,0xF262004E,0x6C0695ED,0x1B01A57B,0x8208F4C1,0xF50FC457,
    0x65B0D9C6,0x12B7E950,0x8BBEB8EA,0xFCB9887C,0x62DD1DDF,0x15DA2D49,0x8CD37CF3,0xFBD44C65,
    0x4DB26158,0x3AB551CE,0xA3BC0074,0xD4BB30E2,0x4ADFA541,0x3DD895D7,0xA4D1C46D,0xD3D6F4FB,
    0x4369E96A,0x346ED9FC,0xAD678846,0xDA60B8D0,0x44042D73,0x33031DE5,0xAA0A4C5F,0xDD0D7CC9,
    0x5005713C,0x270241AA,0xBE0B1010,0xC90C2086,0x5768B525,0x206F85B3,0xB966D409,0xCE61E49F,
    0x5EDEF90E,0x29D9C998,0xB0D09822,0xC7D7A8B4,0x59B33D17,0x2EB40D81,0xB7BD5C3B,0xC0BA6CAD,
    0xEDB88320,0x9ABFB3B6,0x03B6E20C,0x74B1D29A,0xEAD54739,0x9DD277AF,0x04DB2615,0x73DC1683,
    0xE3630B12,0x94643B84,0x0D6D6A3E,0x7A6A5AA8,0xE40ECF0B,0x9309FF9D,0x0A00AE27,0x7D079EB1,
    0xF00F9344,0x8708A3D2,0x1E01F268,0x6906C2FE,0xF762575D,0x806567CB,0x196C3671,0x6E6B06E7,
    0xFED41B76,0x89D32BE0,0x10DA7A5A,0x67DD4ACC,0xF9B9DF6F,0x8EBEEFF9,0x17B7BE43,0x60B08ED5,
    0xD6D6A3E8,0xA1D1937E,0x38D8C2C4,0x4FDFF252,0xD1BB67F1,0xA6BC5767,0x3FB506DD,0x48B2364B,
    0xD80D2BDA,0xAF0A1B4C,0x36034AF6,0x41047A60,0xDF60EFC3,0xA867DF55,0x316E8EEF,0x4669BE79,
    0xCB61B38C,0xBC66831A,0x256FD2A0,0x5268E236,0xCC0C7795,0xBB0B4703,0x220216B9,0x5505262F,
    0xC5BA3BBE,0xB2BD0B28,0x2BB45A92,0x5CB36A04,0xC2D7FFA7,0xB5D0CF31,0x2CD99E8B,0x5BDEAE1D,
    0x9B64C2B0,0xEC63F226,0x756AA39C,0x026D930A,0x9C0906A9,0xEB0E363F,0x72076785,0x05005713,
    0x95BF4A82,0xE2B87A14,0x7BB12BAE,0x0CB61B38,0x92D28E9B,0xE5D5BE0D,0x7CDCEFB7,0x0BDBDF21,
    0x86D3D2D4,0xF1D4E242,0x68DDB3F8,0x1FDA836E,0x81BE16CD,0xF6B9265B,0x6FB077E1,0x18B74777,
    0x88085AE6,0xFF0F6A70,0x66063BCA,0x11010B5C,0x8F659EFF,0xF862AE69,0x616BFFD3,0x166CCF45,
    0xA00AE278,0xD70DD2EE,0x4E048354,0x3903B3C2,0xA7672661,0xD06016F7,0x4969474D,0x3E6E77DB,
    0xAED16A4A,0xD9D65ADC,0x40DF0B66,0x37D83BF0,0xA9BCAE53,0xDEBB9EC5,0x47B2CF7F,0x30B5FFE9,
    0xBDBDF21C,0xCABAC28A,0x53B39330,0x24B4A3A6,0xBAD03605,0xCDD70693,0x54DE5729,0x23D967BF,
    0xB3667A2E,0xC4614AB8,0x5D681B02,0x2A6F2B94,0xB40BBE37,0xC30C8EA1,0x5A05DF1B,0x2D02EF8D]

def crc32Step (crc : UInt32) (byte : UInt8) : UInt32:=
  (crc >>> 8) ^^^ crc32Table.getD ((crc ^^^ byte.toUInt32) &&& 0xFF).toNat 0

def calcCrc32 (data : List UInt8) : UInt32:=
  if data.length=0 then 0
  else data.foldl crc32Step 0xFFFFFFFF ^^^ 0xFFFFFFFF

/-! ## The checksum as a register of bits -/

open List

def crc32Polynomial : ℕ:=0xEDB88320

lemma crc32Table_eq : ∀ index<2^8,
    (crc32Table.getD index 0).toNat=(ReflectedCrc.shift crc32Polynomial)^[8] index:=by
  decide +kernel

section
variable (crc : UInt32)

lemma crc32Step_eq (byte : UInt8) :
    (crc32Step crc byte).toNat=ReflectedCrc.step crc32Polynomial crc.toNat byte.toNat:=by
  have hbyte : byte.toNat<2^8:=byte.toNat_lt
  have hindex : ((crc ^^^ byte.toUInt32) &&& 0xFF).toNat=(crc.toNat ^^^ byte.toNat) % 2^8:=by
    rw [UInt32.toNat_and,UInt32.toNat_xor,UInt8.toNat_toUInt32]
    exact Nat.and_two_pow_sub_one_eq_mod _ 8
  have hhigh : (crc >>> 8).toNat=(crc.toNat ^^^ byte.toNat)/2^8:=by
    rw [UInt32.toNat_shiftRight,Nat.xor_div_two_pow,Nat.div_eq_of_lt hbyte,Nat.xor_zero]
    exact Nat.shiftRight_eq_div_pow _ 8
  rw [crc32Step,UInt32.toNat_xor,hindex,hhigh,crc32Table_eq _ (Nat.mod_lt _ (by decide)),
    ReflectedCrc.step,ReflectedCrc.iterate_shift_eight (crc.toNat ^^^ byte.toNat)]

lemma foldl_crc32Step (data : List UInt8) :
    (data.foldl crc32Step crc).toNat=(data.map UInt8.toNat).foldl (ReflectedCrc.step crc32Polynomial) crc.toNat:=by
  induction data generalizing crc with
  | nil=>rfl
  | cons byte data ih=>rw [foldl_cons,ih,crc32Step_eq]; rfl

def crc32Bit (bit : Bool) : UInt32:=
  let mixed:=crc ^^^ (if bit then 1 else 0)
  if mixed &&& 1=1 then (mixed >>> 1) ^^^ 0xEDB88320 else mixed >>> 1

def byteBits (byte : UInt8) : List Bool:=(range 8).map byte.toNat.testBit
def crc32Bitwise (data : List UInt8) : UInt32:=(data.flatMap byteBits).foldl crc32Bit 0xFFFFFFFF ^^^ 0xFFFFFFFF

lemma toNat_crc32Bit (bit : Bool) :
    (crc32Bit crc bit).toNat=ReflectedCrc.shift crc32Polynomial (crc.toNat ^^^ bit.toNat):=by
  have hmixed : (crc ^^^ (if bit then 1 else 0)).toNat=crc.toNat ^^^ bit.toNat:=by
    cases bit with
    | false=>exact UInt32.toNat_xor crc 0
    | true=>exact UInt32.toNat_xor crc 1
  rw [crc32Bit,ReflectedCrc.shift,← hmixed]
  generalize crc ^^^ (if bit then 1 else 0)=mixed
  have hhalf : (mixed >>> 1).toNat=mixed.toNat/2:=by
    rw [UInt32.toNat_shiftRight]
    exact Nat.shiftRight_eq_div_pow _ 1
  have hlow : mixed &&& 1=1 ↔ mixed.toNat % 2=1:=by
    rw [← UInt32.toNat_inj,UInt32.toNat_and]
    exact Eq.congr_left (Nat.and_one_is_mod _)
  by_cases hodd : mixed.toNat % 2=1
  · rw [if_pos hodd,if_pos (hlow.2 hodd),UInt32.toNat_xor,hhalf]
    rfl
  · rw [if_neg hodd,if_neg (fun h=>hodd (hlow.1 h)),hhalf,Nat.xor_zero]

lemma toNat_foldl_crc32Bit (bits : List Bool) :
    (bits.foldl crc32Bit crc).toNat=
      (bits.map Bool.toNat).foldl
        (fun register bit=>(ReflectedCrc.shift crc32Polynomial)^[1] (register ^^^ bit))
        crc.toNat:=by
  induction bits generalizing crc with
  | nil=>rfl
  | cons bit bits ih=>rw [foldl_cons,ih,toNat_crc32Bit]; rfl

lemma ofDigits_byteBits : ∀ byte<256,
    Nat.ofDigits (2^1) (((range 8).map (Nat.testBit byte)).map Bool.toNat)=byte:=by decide +kernel

lemma foldl_crc32Bit_byteBits (byte : UInt8) : (byteBits byte).foldl crc32Bit crc=crc32Step crc byte:=by
  have hbits : ∀ bit∈(byteBits byte).map Bool.toNat, bit<2^1:=by
    intro bit hbit
    obtain ⟨value,-,rfl⟩:=List.mem_map.1 hbit
    exact Bool.toNat_lt value
  have hvalue : Nat.ofDigits (2^1) ((byteBits byte).map Bool.toNat)=byte.toNat:=ofDigits_byteBits byte.toNat byte.toNat_lt
  have hlen : ((byteBits byte).map Bool.toNat).length=8:=rfl
  rw [← UInt32.toNat_inj,toNat_foldl_crc32Bit,ReflectedCrc.foldl_digits _ _ _ hbits,hvalue,hlen,crc32Step_eq]
  rfl

end

/-- The loop over the table computes the standard checksum of every message. -/
theorem calcCrc32_eq_bitwise (data : List UInt8) : calcCrc32 data=crc32Bitwise data:=by
  unfold calcCrc32 crc32Bitwise
  rw [foldl_flatMap]
  simp only [foldl_crc32Bit_byteBits]
  by_cases hempty : data.length=0
  · rw [if_pos hempty,eq_nil_of_length_eq_zero hempty]
    rfl
  · rw [if_neg hempty]

lemma forall_mem_map_toNat (data : List UInt8) : ∀ byte∈data.map UInt8.toNat, byte<256:=by
  intro byte hbyte
  obtain ⟨value,-,rfl⟩:=List.mem_map.1 hbyte
  exact value.toNat_lt

def Burst32 (sent received : List UInt8) : Prop:=ReflectedCrc.Burst 32 (sent.map UInt8.toNat) (received.map UInt8.toNat)

variable {sent received : List UInt8}

lemma Burst32.length_eq (h : Burst32 sent received) : received.length=sent.length:=by
  have hlen:=h.1
  rw [length_map,length_map] at hlen
  exact hlen

lemma Burst32.append (h : Burst32 sent received) (front : List UInt8) :
    Burst32 (front++sent) (front++received):=by
  rw [Burst32,map_append,map_append]
  exact ReflectedCrc.Burst.append h (forall_mem_map_toNat front)

lemma burst32_of_window (hlength : received.length=sent.length) (hne : received≠sent)
    {start : ℕ} (hwindow : ∀ i, i<start ∨ start+4 ≤ i → received[i]?=sent[i]?) : Burst32 sent received:=by
  have hsplit : ∀ bytes : List UInt8,
      bytes=bytes.take start++((bytes.drop start).take 4++bytes.drop (start+4)):=by
    intro bytes
    rw [← drop_drop,take_append_drop,take_append_drop]
  have hfront : received.take start=sent.take start:=by
    apply ext_getElem?
    intro i
    rw [getElem?_take,getElem?_take]
    split
    · exact hwindow i (.inl ‹_›)
    · rfl
  have hback : received.drop (start+4)=sent.drop (start+4):=by
    apply ext_getElem?
    intro i
    rw [getElem?_drop,getElem?_drop]
    exact hwindow _ (.inr (Nat.le_add_right _ _))
  have hmiddle : (received.drop start).take 4≠(sent.drop start).take 4:=by
    intro heq
    refine hne ?_
    rw [hsplit received,hfront,heq,hback]
    exact (hsplit sent).symm
  have hlen : ((received.drop start).take 4).length=((sent.drop start).take 4).length:=by
    rw [length_take,length_take,length_drop,length_drop,hlength]
  have hburst : Burst32 ((sent.drop start).take 4) ((received.drop start).take 4):=by
    refine ReflectedCrc.burst_of_ne ?_ ?_ (forall_mem_map_toNat _) (forall_mem_map_toNat _) ?_
    · rw [length_map,length_map,hlen]
    · rw [length_map,length_take]
      omega
    · exact fun heq=>hmiddle (map_injective_iff.2 (fun _ _=>UInt8.toNat_inj.1) heq)
  have hpadded : Burst32 ((sent.drop start).take 4++sent.drop (start+4))
      ((received.drop start).take 4++sent.drop (start+4)):=by
    rw [Burst32,map_append,map_append]
    exact ReflectedCrc.Burst.append_right hburst (forall_mem_map_toNat _) (forall_mem_map_toNat _) _
  rw [hsplit sent,hsplit received,hfront,hback]
  exact hpadded.append _

lemma Burst32.calcCrc32_ne (h : Burst32 sent received) (hne : sent≠[]) :
    calcCrc32 received≠calcCrc32 sent:=by
  have hpoly : crc32Polynomial<2^32:=by decide
  have hdet:=h.foldl_step_ne hpoly (by decide) (forall_mem_map_toNat sent)
    (forall_mem_map_toNat received) (0xFFFFFFFF : UInt32).toNat
  have hpos : sent.length≠0:=fun hzero=>hne (eq_nil_of_length_eq_zero hzero)
  intro heq
  rw [calcCrc32,calcCrc32,if_neg hpos,if_neg (h.length_eq ▸ hpos),UInt32.xor_left_inj] at heq
  rw [← foldl_crc32Step,← foldl_crc32Step,heq] at hdet
  exact hdet rfl

end SoftMessageBus
