import SoftMessageBus.CString
import SoftMessageBus.MemoryBlocks
import Mathlib.Data.List.TakeWhile

/-!
# Strings in memory and their words

A pointer is an index into a block of bytes, and a string runs from there to the next NUL.
-/
namespace SoftMessageBus.StringScan
open MemoryBlocks List

variable {mem pre rest text word : List UInt8} {delim : UInt8} {p n : ℕ}

/-- The string at `p`, when it ends inside the block. -/
def readString (mem : List UInt8) (p : ℕ) : Option (List UInt8):=
  let bytes:=(CString.ofMemory (mem.drop p)).bytes
  if p+bytes.length < mem.length then some bytes else none

lemma readString_append (h : 0∉word) : readString (pre++(word++0::rest)) pre.length=some word:=by
  have hword : (CString.ofMemory (word++0::rest)).bytes=word:=
    congrArg CString.bytes (CString.ofMemory_append_nul ⟨word,h⟩ rest)
  simp only [readString,drop_left,hword,length_append,length_cons]
  exact if_pos (by omega)

lemma readString_zero_append (h : 0∉word) : readString (word++0::rest) 0=some word:=@readString_append [] rest word h

lemma exists_terminated (mem : List UInt8) : ∃ rest, mem++[0]=(CString.ofMemory mem).bytes++0::rest:=by
  induction mem with
  | nil=>exact ⟨[],rfl⟩
  | cons b mem ih=>
    obtain ⟨rest,hrest⟩:=ih
    by_cases hb : b=0
    · subst hb
      exact ⟨mem++[0],rfl⟩
    · refine ⟨rest,?_⟩
      change b::mem++[0]=(b::mem).takeWhile (fun b=>decide (b≠0))++0::rest
      rw [takeWhile_cons_of_pos (by simpa using hb)]
      exact congrArg (b :: ·) hrest

lemma mem_of_readString (h : readString mem p=some word) : 0∈mem:=by
  simp only [readString,Option.ite_none_right_eq_some,Option.some.injEq] at h
  obtain ⟨hlt,-⟩:=h
  by_contra hnul
  have hall : (mem.drop p).takeWhile (fun b=>decide (b≠0))=mem.drop p:=by
    refine takeWhile_eq_self_iff.2 fun b hb=>decide_eq_true ?_
    rintro rfl
    exact hnul (mem_of_mem_drop hb)
  have hlen : p+(mem.drop p).length < mem.length:=hall ▸ hlt
  rw [length_drop] at hlen
  omega

/-- Copy `bytes` into a block, from `offset` on. -/
def store (block : List UInt8) (offset : ℕ) (bytes : List UInt8) : Option (List UInt8):=
  if offset+bytes.length≤block.length then some (overwrite block offset bytes) else none

variable {block : List UInt8}

lemma store_of_le {bytes : List UInt8} {offset : ℕ} (h : offset+bytes.length≤block.length) :
    store block offset bytes=some (overwrite block offset bytes):=
  if_pos h

/-- `strncpy` of a string with a terminator written at `n`. -/
def copyTerminated (block : List UInt8) (s : List UInt8) (n : ℕ) : Option (List UInt8):=do
  let block ← store block 0 (s.take n++replicate (n-s.length) 0)
  store block n [0]

/-- A block of `size` bytes with the string `s` at its start. -/
structure HoldsString (size : ℕ) (block s : List UInt8) : Prop where
  length : block.length=size
  read : readString block 0=some s

variable {size : ℕ} {s : List UInt8}

lemma HoldsString.ofMemory (h : HoldsString size block s) : (CString.ofMemory block).bytes=s:=by
  have hread:=h.read
  simp only [readString,Option.ite_none_right_eq_some,Option.some.injEq,drop_zero] at hread
  exact hread.2

lemma holdsString_replicate (h : 0<size) : HoldsString size (replicate size 0) []:=by
  obtain ⟨size,rfl⟩:=Nat.exists_eq_add_of_lt h
  refine ⟨length_replicate,?_⟩
  rw [replicate_succ]
  exact readString_zero_append (not_mem_nil)

lemma exists_store_string (hblock : block.length=size) (hsize : s.length<size) (hnul : 0∉s) :
    ∃ block', store block 0 (s++[0])=some block' ∧ HoldsString size block' s:=by
  have hle : 0+(s++[0]).length≤block.length:=by
    rw [length_append,length_singleton]
    omega
  refine ⟨_,store_of_le hle,(length_overwrite hle).trans hblock,?_⟩
  rw [overwrite,take_zero,nil_append,append_assoc]
  exact readString_zero_append hnul

lemma exists_copyTerminated (hblock : block.length=size) (hsize : n<size) (hnul : 0∉s) :
    ∃ block', copyTerminated block s n=some block' ∧ HoldsString size block' (s.take n):=by
  have hlen : (s.take n++replicate (n-s.length) 0).length=n:=by
    rw [length_append,length_take,length_replicate]
    omega
  have hfirst : 0+(s.take n++replicate (n-s.length) 0).length≤block.length:=by omega
  have hsec : n+[(0 : UInt8)].length≤
      (overwrite block 0 (s.take n++replicate (n-s.length) 0)).length:=by
    rw [length_overwrite hfirst,length_singleton]
    omega
  refine ⟨_,by rw [copyTerminated,store_of_le hfirst,Option.bind_eq_bind,Option.bind_some,
    store_of_le hsec],?_,?_⟩
  · rw [length_overwrite hsec,length_overwrite hfirst,hblock]
  · -- Behind the string stands the filling, if there is any, and then the terminator.
    have hnul' : 0∉s.take n:=fun h=>hnul (mem_of_mem_take h)
    rw [overwrite,overwrite,take_zero,nil_append,take_left' hlen]
    rcases Nat.eq_zero_or_pos (n-s.length) with hfill | hfill
    · rw [hfill,replicate_zero,append_nil,append_assoc]
      exact readString_zero_append hnul'
    · obtain ⟨m,hm⟩:=Nat.exists_eq_add_of_lt hfill
      rw [hm,replicate_succ,append_assoc,append_assoc,cons_append]
      exact readString_zero_append hnul'

/-- `strspn` with one delimiter. -/
def strspn (delim : UInt8) : List UInt8→Option ℕ
  | []=>none
  | b::bs=>if b=delim then (strspn delim bs).map (· + 1) else some 0

/-- `strcspn` with one delimiter. -/
def strcspn (delim : UInt8) : List UInt8→Option ℕ
  | []=>none
  | b::bs=>if b=delim ∨ b=0 then some 0 else (strcspn delim bs).map (· + 1)

variable {b : UInt8}

lemma strspn_replicate_append (h : b≠delim) : strspn delim (replicate n delim++b::rest)=some n:=by
  induction n with
  | zero=>exact if_neg h
  | succ n ih=>
    rw [replicate_succ,cons_append,strspn,if_pos rfl,ih]
    rfl

lemma strcspn_append (hdelim : delim∉word) (hnul : 0∉word) (hb : b=delim ∨ b=0) :
    strcspn delim (word++b::rest)=some word.length:=by
  induction word with
  | nil=>exact if_pos hb
  | cons c word ih=>
    have hc : ¬(c=delim ∨ c=0):=by
      rintro (rfl | rfl)
      · exact hdelim mem_cons_self
      · exact hnul mem_cons_self
    rw [cons_append,strcspn,if_neg hc,ih (not_mem_of_not_mem_cons hdelim) (not_mem_of_not_mem_cons hnul)]
    rfl

/-- What a call of `strtok` leaves behind. -/
structure Strtok where
  token : Option ℕ
  memory : List UInt8
  next : ℕ

/-- `strtok` with one delimiter, at the place where the last call has stopped. -/
def strtok (delim : UInt8) (mem : List UInt8) (pos : ℕ) : Option Strtok:=do
  let skipped ← strspn delim (mem.drop pos)
  let start:=pos+skipped
  let b ← mem[start]?
  if b=0 then some ⟨none,mem,start⟩
  else
    let size ← strcspn delim (mem.drop start)
    let stop:=start+size
    let c ← mem[stop]?
    if c=0 then some ⟨some start,mem,stop⟩
    else some ⟨some start,mem.set stop 0,stop+1⟩

/-- Calls of `strtok` until no word is left or `room` words have been kept. -/
def strtokLoop (delim : UInt8) : ℕ→List UInt8→ℕ→Option (List ℕ × List UInt8)
  | 0, mem, pos=>(strtok delim mem pos).map fun call=>([],call.memory)
  | room+1, mem, pos=>do
    let call ← strtok delim mem pos
    match call.token with
    | none=>some ([],call.memory)
    | some token=>do
      let (tokens,mem) ← strtokLoop delim room call.memory call.next
      some (token::tokens,mem)

def tokens (delim : UInt8) (text : List UInt8) : List (List UInt8):=(text.splitOn delim).filter fun word=>decide (word≠[])

lemma tokens_nil : tokens delim []=[]:=by
  rw [tokens,splitOn_nil]
  rfl

lemma tokens_append_cons (text rest : List UInt8) :
    tokens delim (text++delim::rest)=tokens delim text++tokens delim rest:=by
  rw [tokens,splitOn_append_cons_self,filter_append]
  rfl

lemma tokens_word (h : delim∉word) (hne : word≠[]) : tokens delim word=[word]:=by
  rw [tokens,splitOn_eq_singleton h]
  simp [hne]

lemma mem_of_mem_splitOn (hword : word∈text.splitOn delim) (hb : b∈word) : b∈text:=by
  induction text generalizing word with
  | nil=>
    rw [splitOn_nil,mem_singleton] at hword
    rwa [hword] at hb
  | cons c text ih=>
    rw [splitOn_cons_eq_if_modifyHead] at hword
    split at hword
    · rcases mem_cons.1 hword with rfl | hword
      · cases hb
      · exact mem_cons_of_mem _ (ih hword hb)
    · obtain ⟨part,parts,hparts⟩:=exists_cons_of_ne_nil (splitOn_ne_nil delim text)
      rw [hparts,modifyHead_cons] at hword
      rw [hparts] at ih
      rcases mem_cons.1 hword with rfl | hword
      · rcases mem_cons.1 hb with rfl | hb
        · exact mem_cons_self
        · exact mem_cons_of_mem _ (ih mem_cons_self hb)
      · exact mem_cons_of_mem _ (ih (mem_cons_of_mem _ hword) hb)

lemma mem_of_mem_tokens (hword : word∈tokens delim text) (hb : b∈word) : b∈text:=
  mem_of_mem_splitOn (mem_of_mem_filter hword) hb

lemma tokens_replicate_append (n : ℕ) (text : List UInt8) :
    tokens delim (replicate n delim++text)=tokens delim text:=by
  induction n with
  | zero=>rfl
  | succ n ih=>
    have hblank:=@tokens_append_cons delim [] (replicate n delim++text)
    rwa [tokens_nil,nil_append,nil_append,ih] at hblank

/-- What `strtok` can meet in front of a terminator. -/
inductive Ahead (delim : UInt8) : List UInt8→Prop where
  | blank (n : ℕ) : Ahead delim (replicate n delim)
  | last (n : ℕ) (word : List UInt8) (hne : word≠[]) (h : delim∉word) :
      Ahead delim (replicate n delim++word)
  | cut (n : ℕ) (word text : List UInt8) (hne : word≠[]) (h : delim∉word) :
      Ahead delim (replicate n delim++(word++delim::text))

lemma ahead (delim : UInt8) (text : List UInt8) : Ahead delim text:=by
  induction text with
  | nil=>exact .blank 0
  | cons b text ih=>
    by_cases hb : b=delim
    · subst hb
      cases ih with
      | blank n=>exact .blank (n+1)
      | last n word hne h=>exact .last (n+1) word hne h
      | cut n word text hne h=>exact .cut (n+1) word text hne h
    · have hword {word : List UInt8} (h : delim∉word) : delim∉b::word:=not_mem_cons_of_ne_of_not_mem (Ne.symm hb) h
      -- A text that starts with a delimiter ends the word at its first byte.
      cases ih with
      | blank n=>
        cases n with
        | zero=>exact .last 0 [b] (cons_ne_nil _ _) (hword not_mem_nil)
        | succ n=>
          exact .cut 0 [b] (replicate n delim) (cons_ne_nil _ _) (hword not_mem_nil)
      | last n word hne h=>
        cases n with
        | zero=>exact .last 0 (b::word) (cons_ne_nil _ _) (hword h)
        | succ n=>
          exact .cut 0 [b] (replicate n delim++word) (cons_ne_nil _ _) (hword not_mem_nil)
      | cut n word text hne h=>
        cases n with
        | zero=>exact .cut 0 (b::word) text (cons_ne_nil _ _) (hword h)
        | succ n=>
          exact .cut 0 [b] (replicate n delim++(word++delim::text)) (cons_ne_nil _ _) (hword not_mem_nil)

lemma strtok_blank (hdelim : delim≠0) :
    strtok delim (pre++(replicate n delim++0::rest)) pre.length=
      some ⟨none,pre++(replicate n delim++0::rest),pre.length+n⟩:=by
  simp [strtok,strspn_replicate_append hdelim.symm,getElem?_append_right]

lemma strtok_word {c : UInt8} (hne : word≠[]) (hword : delim∉word) (hnul : 0∉word) (hc : c=delim ∨ c=0) :
    strtok delim (pre++(replicate n delim++(word++c::rest))) pre.length=
      if c=0 then
        some ⟨some (pre.length+n),pre++(replicate n delim++(word++c::rest)), pre.length+n+word.length⟩
      else
        some ⟨some (pre.length+n),pre++(replicate n delim++(word++0::rest)), pre.length+n+word.length+1⟩:=by
  obtain ⟨b,tail,rfl⟩:=exists_cons_of_ne_nil hne
  have hb : b≠delim:=fun h=>hword (h ▸ mem_cons_self)
  have hb0 : b≠0:=fun h=>hnul (h ▸ mem_cons_self)
  generalize hmem : pre++(replicate n delim++(b::tail++c::rest))=mem
  have hspan : strspn delim (mem.drop pre.length)=some n:=by
    rw [← hmem,drop_left]
    exact strspn_replicate_append hb
  -- The blanks in front of the word, and the word with them.
  have hstart : mem.drop (pre.length+n)=b::tail++c::rest:=by rw [← hmem,← append_assoc,drop_left' (by simp)]
  have hstop : mem=(pre++(replicate n delim++b::tail))++c::rest:=by simp [← hmem]
  have hlen : (pre++(replicate n delim++b::tail)).length=
      pre.length+n+(b::tail).length:=by simp [Nat.add_assoc]
  have hfirst : mem[pre.length+n]?=some b:=by
    rw [← head?_drop,hstart]
    rfl
  have hc' : mem[pre.length+n+(b::tail).length]?=some c:=by
    rw [← hlen,← head?_drop,hstop,drop_left]
    rfl
  have hset : mem.set (pre.length+n+(b::tail).length) 0=
      pre++(replicate n delim++(b::tail++0::rest)):=by
    rw [← hlen,hstop,set_append_right _ _ (Nat.le_refl _),Nat.sub_self]
    simp
  simp only [strtok,hspan,Option.bind_eq_bind,Option.bind_some,hfirst,if_neg hb0,hstart,
    strcspn_append hword hnul hc,hc',hset]

lemma strtokLoop_blank (hdelim : delim≠0) (room : ℕ) :
    strtokLoop delim room (pre++(replicate n delim++0::rest)) pre.length=some ([],pre++(replicate n delim++0::rest)):=by
  cases room <;> simp [strtokLoop,strtok_blank hdelim]

lemma strtok_memory (hdelim : delim≠0) (hnul : 0∉text) :
    ∃ call tail, strtok delim (pre++(text++0::rest)) pre.length=some call ∧ call.memory=pre++tail:=by
  cases ahead delim text with
  | blank n=>exact ⟨_,_,strtok_blank hdelim,rfl⟩
  | last n word hne hword=>
    have hnul : 0∉word:=fun h=>hnul (mem_append_right _ h)
    rw [append_assoc]
    exact ⟨_,_,(strtok_word hne hword hnul (.inr rfl)).trans (if_pos rfl),rfl⟩
  | cut n word text hne hword=>
    have hnul : 0∉word:=fun h=>hnul (by simp [h])
    rw [append_assoc,append_assoc,cons_append]
    exact ⟨_,_,(strtok_word hne hword hnul (.inl rfl)).trans (if_neg hdelim),rfl⟩

lemma strtokLoop_spec (hdelim : delim≠0) (hnul : 0∉text) (room : ℕ) :
    ∃ pointers tail, strtokLoop delim room (pre++(text++0::rest)) pre.length=
        some (pointers,pre++tail) ∧
      pointers.mapM (readString (pre++tail))=some ((tokens delim text).take room):=by
  induction room generalizing pre text with
  | zero=>
    obtain ⟨call,tail,hcall,hmemory⟩:=@strtok_memory pre rest text delim hdelim hnul
    exact ⟨[],tail,by rw [strtokLoop,hcall,Option.map_some,hmemory],rfl⟩
  | succ room ih=>
    cases ahead delim text with
    | blank n=>
      have hblank:=@tokens_replicate_append delim n []
      rw [append_nil,tokens_nil] at hblank
      exact ⟨[],_,strtokLoop_blank hdelim _,by rw [hblank]; rfl⟩
    | last n word hne hword=>
      have hnul : 0∉word:=fun h=>hnul (mem_append_right _ h)
      have hcall:=(@strtok_word pre rest word delim n 0 hne hword hnul (.inr rfl)).trans (if_pos rfl)
      have hstop:=@strtokLoop_blank (pre++(replicate n delim++word)) rest delim 0 hdelim room
      have hread:=@readString_append (pre++replicate n delim) rest word hnul
      simp only [replicate_zero,nil_append,append_assoc,length_append,length_replicate,← Nat.add_assoc] at hstop hread
      refine ⟨[pre.length+n],replicate n delim++(word++0::rest),?_,?_⟩
      · rw [append_assoc,strtokLoop,hcall,Option.bind_eq_bind,Option.bind_some]
        simp only [hstop,Option.bind_eq_bind,Option.bind_some]
      · rw [tokens_replicate_append,tokens_word hword hne]
        simp [hread]
    | cut n word text hne hword=>
      have hnulword : 0∉word:=fun h=>hnul (by simp [h])
      have hnultext : 0∉text:=fun h=>hnul (by simp [h])
      have hcall:=(@strtok_word pre (text++0::rest) word delim n delim hne hword hnulword (.inl rfl)).trans (if_neg hdelim)
      obtain ⟨pointers,tail,hloop,hstrings⟩:=@ih (pre++(replicate n delim++(word++[0]))) text hnultext
      have hread:=@readString_append (pre++replicate n delim) tail word hnulword
      simp only [append_assoc,length_append,cons_append,nil_append,
        length_replicate,length_singleton,← Nat.add_assoc] at hloop hstrings hread
      refine ⟨(pre.length+n)::pointers,replicate n delim++(word++0::tail),?_,?_⟩
      · rw [append_assoc,append_assoc,cons_append,strtokLoop,hcall,Option.bind_eq_bind,Option.bind_some]
        simp only [hloop,Option.bind_eq_bind,Option.bind_some]
      · rw [tokens_replicate_append,tokens_append_cons,tokens_word hword hne]
        simp [hread,hstrings]

end SoftMessageBus.StringScan
