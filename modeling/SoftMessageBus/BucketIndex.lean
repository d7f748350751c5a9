import SoftMessageBus.KeyedList

/-!
# Hash indexes beside a list of records

Records live in a list and are addressed by pointers.
-/
namespace SoftMessageBus.BucketIndex
open List Function

abbrev Index (κ : Type*) (n : ℕ):=Fin n→List (κ × ℕ)

section
variable {κ : Type*} {n : ℕ} [DecidableEq κ] (hash : κ→Fin n)

def find (index : Index κ n) (k : κ) : Option ℕ:=((index (hash k)).find? fun entry=>entry.1=k).map Prod.snd

def push (capacity : ℕ) (index : Index κ n) (k : κ) (addr : ℕ) : Option (Index κ n):=
  if (index (hash k)).length<capacity then
    some (Function.update index (hash k) (index (hash k)++[(k,addr)]))
  else none

def remove (index : Index κ n) (k : κ) : Index κ n:=
  Function.update index (hash k) ((index (hash k)).eraseP fun entry=>entry.1=k)

def removeAddr (index : Index κ n) (k : κ) (addr : ℕ) : Index κ n:=
  Function.update index (hash k) ((index (hash k)).eraseP fun entry=>entry.2=addr)

def replace (index : Index κ n) (k : κ) (addr : ℕ) : Index κ n:=
  Function.update index (hash k) ((index (hash k)).map fun entry=>if entry.1=k then (k,addr) else entry)

def upsert (capacity : ℕ) (alloc : Bool) (index : Index κ n) (k : κ) (addr : ℕ) : Option (Index κ n):=
  match find hash index k with
  | some _=>some (replace hash index k addr)
  | none=>if alloc then push hash capacity index k addr else none

def lookup {ρ : Type*} (addr : ρ→ℕ) (index : Index κ n) (records : List ρ) (k : κ) : Option ρ:=
  (find hash index k).bind fun a=>records.find? fun r=>addr r=a

variable {hash} in
lemma remove_eq_self {index : Index κ n} {k : κ} (h : find hash index k=none) :
    remove hash index k=index:=by
  rw [find,Option.map_eq_none_iff,find?_eq_none] at h
  rw [remove,eraseP_of_forall_not h,update_eq_self]

variable {hash}

lemma find_remove_of_ne {index : Index κ n} {j k : κ} (hne : j≠k) :
    find hash (remove hash index k) j=find hash index j:=by
  by_cases hhash : hash j=hash k
  · rw [find,find,hhash,remove,update_self,KeyedList.find?_eraseP_of_ne hne]
  · rw [find,find,remove,update_of_ne hhash]

lemma find_replace_self {index : Index κ n} {k : κ} {a : ℕ} (h : find hash index k=some a)
    (addr : ℕ) : find hash (replace hash index k addr) k=some addr:=by
  rw [find,Option.map_eq_some_iff] at h
  obtain ⟨entry,hfind,-⟩:=h
  have hk : entry.1=k:=by simpa using find?_some hfind
  have hkey (entry : κ × ℕ) : (if entry.1=k then (k,addr) else entry).1=k ↔ entry.1=k:=by
    split
    next h=>exact ⟨fun _=>h,fun _=>rfl⟩
    · rfl
  rw [find,replace,update_self,find?_map]
  simp only [comp_def,hkey,hfind,Option.map_some,if_pos hk]

lemma find_replace_of_ne {index : Index κ n} {k j : κ} (hne : j≠k) (addr : ℕ) :
    find hash (replace hash index k addr) j=find hash index j:=by
  by_cases hhash : hash j=hash k
  · have hkey (entry : κ × ℕ) :
        (if entry.1=k then (k,addr) else entry).1=j ↔ entry.1=j:=by
      split
      next h=>exact ⟨fun hj=>absurd hj.symm hne,fun hj=>absurd (hj.symm.trans h) hne⟩
      · rfl
    rw [find,find,replace,hhash,update_self,find?_map]
    simp only [comp_def,hkey]
    cases hfind : (index (hash k)).find? fun entry=>entry.1=j with
    | none=>rfl
    | some entry=>
      have hj : entry.1=j:=by simpa using find?_some hfind
      rw [Option.map_some,if_neg fun h=>hne (hj.symm.trans h)]
  · rw [find,find,replace,update_of_ne hhash]

variable {index index' : Index κ n} {capacity : ℕ}

lemma find_push_self {k : κ} {addr : ℕ} (hnone : find hash index k=none)
    (h : push hash capacity index k addr=some index') : find hash index' k=some addr:=by
  unfold push at h
  split at h
  case isFalse=>cases h
  cases h
  rw [find,Option.map_eq_none_iff] at hnone
  rw [find,update_self,find?_append,hnone,Option.none_or,find?_cons_of_pos (by simp)]
  rfl

lemma find_push_of_ne {k j : κ} {addr : ℕ} (hne : j≠k) (h : push hash capacity index k addr=some index') :
    find hash index' j=find hash index j:=by
  unfold push at h
  split at h
  case isFalse=>cases h
  cases h
  by_cases hhash : hash j=hash k
  · rw [find,find,hhash,update_self,find?_append,find?_cons_of_neg (by simpa using hne.symm),find?_nil,Option.or_none]
  · rw [find,find,update_of_ne hhash]

lemma find_upsert_self {alloc : Bool} {k : κ} {addr : ℕ}
    (h : upsert hash capacity alloc index k addr=some index') : find hash index' k=some addr:=by
  unfold upsert at h
  split at h
  next hfind=>
    cases h
    exact find_replace_self hfind addr
  next hfind=>
    split at h
    · exact find_push_self hfind h
    · cases h

lemma find_upsert_of_ne {alloc : Bool} {k j : κ} {addr : ℕ} (hne : j≠k)
    (h : upsert hash capacity alloc index k addr=some index') : find hash index' j=find hash index j:=by
  unfold upsert at h
  split at h
  · cases h
    exact find_replace_of_ne hne addr
  · split at h
    · exact find_push_of_ne hne h
    · cases h

lemma upsert_eq_none_iff {index : Index κ n} {capacity : ℕ} {alloc : Bool} {k : κ} {addr : ℕ} :
    upsert hash capacity alloc index k addr=none ↔
      find hash index k=none ∧ ¬(alloc=true ∧ (index (hash k)).length<capacity):=by
  unfold upsert
  cases find hash index k with
  | some a=>simp only [reduceCtorEq,false_and]
  | none=>
    cases alloc with
    | false=>exact ⟨fun _=>⟨rfl,fun h=>Bool.noConfusion h.1⟩,fun _=>rfl⟩
    | true=>
      simp only [push,if_true,ite_eq_right_iff,reduceCtorEq,imp_false,true_and]

end

def modifyAt {ρ : Type*} (addr : ρ→ℕ) (records : List ρ) (a : ℕ) (f : ρ → ρ) : List ρ:=
  records.map fun r=>if addr r=a then f r else r

lemma lookup_modifyAt {κ ρ : Type*} {n : ℕ} [DecidableEq κ] (hash : κ→Fin n) {addr : ρ→ℕ}
    (index : Index κ n) (records : List ρ) (k : κ) (a : ℕ) {f : ρ → ρ} (haddr : ∀ r, addr (f r)=addr r) :
    lookup hash addr index (modifyAt addr records a f) k=
      (lookup hash addr index records k).map fun r=>if addr r=a then f r else r:=by
  have hsame (r : ρ) : addr (if addr r=a then f r else r)=addr r:=by
    split
    · exact haddr r
    · rfl
  unfold lookup modifyAt
  cases find hash index k with
  | none=>rfl
  | some b=>simp only [Option.bind_some,find?_map,comp_def,hsame]

structure Agrees {κ ρ : Type*} {n : ℕ} (hash : κ→Fin n) (key : ρ → κ) (addr : ρ→ℕ)
    (index : Index κ n) (records : List ρ) : Prop where
  keys_nodup : (records.map key).Nodup
  addrs_nodup : (records.map addr).Nodup
  entries_nodup : ∀ i, ((index i).map Prod.fst).Nodup
  mem_iff : ∀ i entry, entry∈index i ↔ hash entry.1=i ∧ entry∈records.map fun r=>(key r,addr r)

namespace Agrees
variable {κ ρ : Type*} {n : ℕ} {hash : κ→Fin n} {key : ρ → κ} {addr : ρ→ℕ} {index : Index κ n} {records : List ρ}

lemma empty : Agrees hash key addr (fun _=>[]) [] where
  keys_nodup:=nodup_nil
  addrs_nodup:=nodup_nil
  entries_nodup _:=nodup_nil
  mem_iff _ _:=by simp

section
variable (h : Agrees hash key addr index records)
include h

lemma eq_of_key_eq {r s : ρ} (hr : r∈records) (hs : s∈records) (hkey : key r=key s) : r=s:=
  inj_on_of_nodup_map h.keys_nodup hr hs hkey

lemma eq_of_addr_eq {r s : ρ} (hr : r∈records) (hs : s∈records) (haddr : addr r=addr s) : r=s:=
  inj_on_of_nodup_map h.addrs_nodup hr hs haddr

lemma entry_mem {r : ρ} (hr : r∈records) : (key r,addr r)∈index (hash (key r)):=
  (h.mem_iff _ _).2 ⟨rfl,List.mem_map_of_mem hr⟩

lemma map {f : ρ → ρ} (hkey : ∀ r, key (f r)=key r) (haddr : ∀ r, addr (f r)=addr r) :
    Agrees hash key addr index (records.map f) where
  keys_nodup:=by
    rw [List.map_map,show key ∘ f=key from funext hkey]
    exact h.keys_nodup
  addrs_nodup:=by
    rw [List.map_map,show addr ∘ f=addr from funext haddr]
    exact h.addrs_nodup
  entries_nodup:=h.entries_nodup
  mem_iff i entry:=by
    rw [h.mem_iff,List.map_map]
    simp only [comp_def,hkey,haddr]

lemma modifyAt (a : ℕ) {f : ρ → ρ} (hkey : ∀ r, key (f r)=key r) (haddr : ∀ r, addr (f r)=addr r) :
    Agrees hash key addr index (modifyAt addr records a f):=by
  apply h.map
  · intro r
    split
    · exact hkey r
    · rfl
  · intro r
    split
    · exact haddr r
    · rfl

section
variable {r : ρ} {capacity : ℕ} {index' : Index κ n} (hkey : ∀ s∈records, key s≠key r)
include hkey

lemma push (haddr : ∀ s∈records, addr s≠addr r) (hpush : push hash capacity index (key r) (addr r)=some index') :
    Agrees hash key addr index' (records++[r]):=by
  unfold BucketIndex.push at hpush
  split at hpush
  case isFalse=>cases hpush
  cases hpush
  have hnew : key r∉(index (hash (key r))).map Prod.fst:=by
    intro hmem
    obtain ⟨entry,hentry,heq⟩:=List.mem_map.1 hmem
    obtain ⟨s,hs,rfl⟩:=List.mem_map.1 ((h.mem_iff _ _).1 hentry).2
    exact hkey s hs heq
  constructor
  · rw [map_append,map_singleton,← concat_eq_append,nodup_concat]
    exact ⟨by simpa using hkey,h.keys_nodup⟩
  · rw [map_append,map_singleton,← concat_eq_append,nodup_concat]
    exact ⟨by simpa using haddr,h.addrs_nodup⟩
  · intro i
    by_cases hi : i=hash (key r)
    · subst hi
      rw [update_self,map_append,map_singleton,← concat_eq_append,nodup_concat]
      exact ⟨hnew,h.entries_nodup _⟩
    · rw [update_of_ne hi]
      exact h.entries_nodup i
  · intro i entry
    rw [map_append,map_singleton,mem_append,mem_singleton]
    by_cases hi : i=hash (key r)
    · subst hi
      rw [update_self,mem_append,mem_singleton,h.mem_iff,and_or_left]
      refine or_congr_right ⟨?_,And.right⟩
      rintro rfl
      exact ⟨rfl,rfl⟩
    · rw [update_of_ne hi,h.mem_iff]
      refine and_congr_right fun hhash=>⟨.inl,?_⟩
      rintro (hmem | rfl)
      · exact hmem
      · exact absurd hhash.symm hi

lemma push_next (hlt : ∀ s∈records, addr s<addr r)
    (hpush : BucketIndex.push hash capacity index (key r) (addr r)=some index') :
    Agrees hash key addr index' (records++[r]) ∧ ∀ s∈records++[r], addr s<addr r+1:=by
  refine ⟨h.push hkey (fun s hs=>Nat.ne_of_lt (hlt s hs)) hpush,?_⟩
  intro s hs
  rcases mem_append.1 hs with hold | hnew
  · exact Nat.lt_succ_of_lt (hlt s hold)
  · rw [mem_singleton.1 hnew]
    exact Nat.lt_succ_self _

end
end

variable [DecidableEq κ]

section
variable (h : Agrees hash key addr index records)
include h

lemma find_eq_some_iff {k : κ} {a : ℕ} : find hash index k=some a ↔ ∃ r∈records, key r=k ∧ addr r=a:=by
  rw [find,Option.map_eq_some_iff]
  constructor
  · rintro ⟨entry,hfind,rfl⟩
    have hk : entry.1=k:=by simpa using find?_some hfind
    obtain ⟨-,hentry⟩:=(h.mem_iff _ _).1 (mem_of_find?_eq_some hfind)
    obtain ⟨r,hr,rfl⟩:=List.mem_map.1 hentry
    exact ⟨r,hr,hk,rfl⟩
  · rintro ⟨r,hr,rfl,rfl⟩
    have hmem:=h.entry_mem hr
    obtain ⟨entry,hfind⟩ : ∃ entry,
        (index (hash (key r))).find? (fun entry=>entry.1=key r)=some entry:=
      Option.isSome_iff_exists.1 (find?_isSome.2 ⟨_,hmem,by simp⟩)
    have hk : entry.1=key r:=by simpa using find?_some hfind
    have hentry : entry=(key r,addr r):=inj_on_of_nodup_map (h.entries_nodup _) (mem_of_find?_eq_some hfind) hmem hk
    exact ⟨entry,hfind,by rw [hentry]⟩

lemma find_of_mem {r : ρ} (hr : r∈records) : find hash index (key r)=some (addr r):=h.find_eq_some_iff.2 ⟨r,hr,rfl,rfl⟩

lemma find_eq_none_iff {k : κ} : find hash index k=none ↔ ∀ r∈records, key r≠k:=by
  constructor
  · rintro hnone r hr rfl
    rw [h.find_of_mem hr] at hnone
    cases hnone
  · intro hkeys
    rw [Option.eq_none_iff_forall_ne_some]
    intro a hfind
    obtain ⟨r,hr,hkey,-⟩:=h.find_eq_some_iff.1 hfind
    exact hkeys r hr hkey

lemma lookup_eq_some_iff {k : κ} {r : ρ} : lookup hash addr index records k=some r ↔ r∈records ∧ key r=k:=by
  rw [lookup,Option.bind_eq_some_iff]
  constructor
  · rintro ⟨a,hfind,hr⟩
    obtain ⟨s,hs,hkey,haddr⟩:=h.find_eq_some_iff.1 hfind
    have hmem:=mem_of_find?_eq_some hr
    have heq : addr r=a:=by simpa using find?_some hr
    obtain rfl:=h.eq_of_addr_eq hmem hs (heq.trans haddr.symm)
    exact ⟨hmem,hkey⟩
  · rintro ⟨hmem,rfl⟩
    exact ⟨addr r,h.find_of_mem hmem,KeyedList.find?_key_of_mem h.addrs_nodup hmem⟩

lemma lookup_eq_none_iff {k : κ} : lookup hash addr index records k=none ↔ ∀ r∈records, key r≠k:=by
  rw [Option.eq_none_iff_forall_ne_some]
  constructor
  · intro hnone r hmem hkey
    exact hnone r (h.lookup_eq_some_iff.2 ⟨hmem,hkey⟩)
  · intro hall r hlookup
    obtain ⟨hmem,hkey⟩:=h.lookup_eq_some_iff.1 hlookup
    exact hall r hmem hkey

lemma replace_eq_self {r : ρ} (hr : r∈records) : replace hash index (key r) (addr r)=index:=by
  rw [replace,update_eq_self_iff]
  nth_rewrite 2 [← List.map_id (index (hash (key r)))]
  apply map_congr_left
  intro entry hentry
  split
  case isFalse=>rfl
  case isTrue hk=>exact (inj_on_of_nodup_map (h.entries_nodup _) hentry (h.entry_mem hr) hk).symm

lemma remove {r : ρ} (hr : r∈records) :
    Agrees hash key addr (remove hash index (key r)) (records.eraseP fun s=>addr s=addr r):=by
  have hsub : Sublist (records.eraseP fun s=>addr s=addr r) records:=eraseP_sublist
  have hmem (entry : κ × ℕ) :
      entry∈(records.eraseP fun s=>addr s=addr r).map (fun s=>(key s,addr s)) ↔
        entry∈records.map (fun s=>(key s,addr s)) ∧ entry.1≠key r:=by
    simp only [List.mem_map,KeyedList.mem_eraseP_key h.addrs_nodup]
    constructor
    · rintro ⟨s,⟨hs,haddr⟩,rfl⟩
      exact ⟨⟨s,hs,rfl⟩,fun hkey=>haddr (congrArg addr (h.eq_of_key_eq hs hr hkey))⟩
    · rintro ⟨⟨s,hs,rfl⟩,hkey⟩
      exact ⟨s,⟨hs,fun haddr=>hkey (congrArg key (h.eq_of_addr_eq hs hr haddr))⟩,rfl⟩
  constructor
  · exact h.keys_nodup.sublist (hsub.map key)
  · exact h.addrs_nodup.sublist (hsub.map addr)
  · intro i
    by_cases hi : i=hash (key r)
    · subst hi
      rw [BucketIndex.remove,update_self]
      exact (h.entries_nodup _).sublist (eraseP_sublist.map Prod.fst)
    · rw [BucketIndex.remove,update_of_ne hi]
      exact h.entries_nodup i
  · intro i entry
    rw [hmem,← and_assoc,← h.mem_iff]
    by_cases hi : i=hash (key r)
    · subst hi
      rw [BucketIndex.remove,update_self,KeyedList.mem_eraseP_key (h.entries_nodup _)]
    · rw [BucketIndex.remove,update_of_ne hi,iff_self_and]
      rintro hentry hkey
      exact hi (hkey ▸ ((h.mem_iff _ _).1 hentry).1.symm)

lemma removeAddr_eq_remove {r : ρ} (hr : r∈records) :
    removeAddr hash index (key r) (addr r)=BucketIndex.remove hash index (key r):=by
  rw [removeAddr,BucketIndex.remove]
  congr 1
  apply KeyedList.eraseP_congr
  intro entry hentry
  obtain ⟨s,hs,rfl⟩:=List.mem_map.1 ((h.mem_iff _ _).1 hentry).2
  refine decide_eq_decide.2 ⟨fun haddr=>?_,fun hkey=>?_⟩
  · exact congrArg key (h.eq_of_addr_eq hs hr haddr)
  · exact congrArg addr (h.eq_of_key_eq hs hr hkey)

end

lemma removeAddr_append_cons {before after : List ρ} {r : ρ} (h : Agrees hash key addr index (before++r::after)) :
    Agrees hash key addr (removeAddr hash index (key r) (addr r)) (before++after):=by
  have hr : r∈before++r::after:=by simp
  have hbefore : ∀ s∈before, ¬decide (addr s=addr r)=true:=by
    intro s hs haddr
    have hnodup:=h.addrs_nodup
    rw [map_append,map_cons] at hnodup
    exact disjoint_of_nodup_append hnodup (List.mem_map_of_mem hs) (of_decide_eq_true haddr ▸ mem_cons_self)
  have hrem:=h.remove hr
  rw [eraseP_append_right _ hbefore,eraseP_cons_of_pos (by simp)] at hrem
  rw [h.removeAddr_eq_remove hr]
  exact hrem

end Agrees
section
variable {κ : Type*} {n : ℕ} [DecidableEq κ] {hash : κ→Fin n} {index index' : Index κ n}

structure Hashed (hash : κ→Fin n) (index : Index κ n) : Prop where
  hash_eq : ∀ i, ∀ entry∈index i, hash entry.1=i
  keys_nodup : ∀ i, ((index i).map Prod.fst).Nodup

omit [DecidableEq κ] in
lemma Hashed.empty : Hashed hash (fun _=>[]):=⟨fun _ _ h=>absurd h not_mem_nil,fun _=>nodup_nil⟩

lemma Hashed.find_eq (h : Hashed hash index) {i : Fin n} {entry : κ × ℕ}
    (hentry : entry∈index i) : find hash index entry.1=some entry.2:=by
  rw [find,h.hash_eq i entry hentry,KeyedList.find?_key_of_mem (h.keys_nodup i) hentry]
  rfl

section
variable (h : Hashed hash index)
include h

omit [DecidableEq κ] in
lemma Hashed.update {i : Fin n} {bucket : List (κ × ℕ)}
    (hhash : ∀ entry∈bucket, hash entry.1=i) (hnodup : (bucket.map Prod.fst).Nodup) :
    Hashed hash (Function.update index i bucket):=by
  constructor
  · intro j entry hentry
    by_cases hj : j=i
    · subst hj
      rw [update_self] at hentry
      exact hhash entry hentry
    · rw [update_of_ne hj] at hentry
      exact h.hash_eq j entry hentry
  · intro j
    by_cases hj : j=i
    · subst hj
      rw [update_self]
      exact hnodup
    · rw [update_of_ne hj]
      exact h.keys_nodup j

lemma Hashed.remove (k : κ) : Hashed hash (BucketIndex.remove hash index k):=
  h.update (fun entry hentry=>h.hash_eq _ entry (mem_of_mem_eraseP hentry))
    ((h.keys_nodup _).sublist (eraseP_sublist.map Prod.fst))

lemma Hashed.replace (k : κ) (addr : ℕ) : Hashed hash (BucketIndex.replace hash index k addr):=by
  have hkey (entry : κ × ℕ) : (if entry.1=k then (k,addr) else entry).1=entry.1:=by
    split
    next hk=>exact hk.symm
    · rfl
  apply h.update
  · intro entry hentry
    obtain ⟨old,hold,rfl⟩:=List.mem_map.1 hentry
    rw [hkey]
    exact h.hash_eq _ old hold
  · have hmap : (Prod.fst ∘ fun entry : κ × ℕ=>if entry.1=k then (k,addr) else entry)=Prod.fst:=funext hkey
    rw [List.map_map,hmap]
    exact h.keys_nodup _

lemma Hashed.push {capacity : ℕ} {k : κ} {addr : ℕ} (hnone : find hash index k=none)
    (hpush : BucketIndex.push hash capacity index k addr=some index') : Hashed hash index':=by
  rw [find,Option.map_eq_none_iff,find?_eq_none] at hnone
  unfold BucketIndex.push at hpush
  split at hpush
  case isFalse=>cases hpush
  cases hpush
  apply h.update
  · intro entry hentry
    rcases mem_append.1 hentry with hold | hnew
    · exact h.hash_eq _ entry hold
    · rw [mem_singleton.1 hnew]
  · rw [map_append,map_singleton]
    refine (h.keys_nodup _).append (nodup_singleton k) ?_
    rw [disjoint_singleton]
    intro hk
    obtain ⟨entry,hentry,hkey⟩:=List.mem_map.1 hk
    exact hnone entry hentry (decide_eq_true hkey)

lemma Hashed.upsert {capacity : ℕ} {alloc : Bool} {k : κ} {addr : ℕ}
    (hups : BucketIndex.upsert hash capacity alloc index k addr=some index') : Hashed hash index':=by
  unfold BucketIndex.upsert at hups
  split at hups
  · cases hups
    exact h.replace k addr
  next hnone=>
    split at hups
    · exact h.push hnone hups
    · cases hups

lemma Hashed.find_remove_self (k : κ) : find hash (BucketIndex.remove hash index k) k=none:=by
  rw [find,BucketIndex.remove,update_self,KeyedList.find?_eraseP_key (h.keys_nodup _),Option.map_none]

end
end
end SoftMessageBus.BucketIndex
