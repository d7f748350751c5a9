import SoftMessageBus.DiscoveryParse
import SoftMessageBus.TcpReceive

/-!
# The parser of announcements never leaves its memory

Each step of the parser keeps its outputs terminated and in bounds.
-/
namespace SoftMessageBus
open StringScan List

def Terminated (block : Bytes) : Prop:=∃ s, HoldsString parsedFieldSize block s
def HoldsMetadata (block : Bytes) : Prop:=∃ s, HoldsString parsedFieldSize block s ∧ ∀ b∈s, isMetadataByte b=true

structure DiscoveryOutput.Sound (out : DiscoveryOutput) : Prop where
  serviceName : Terminated out.serviceName
  address : Terminated out.address
  topic : Terminated out.topic
  multicastAddr : ∀ block∈out.multicastAddr, Terminated block
  hostFingerprint : ∀ block∈out.hostFingerprint, HoldsMetadata block
  shmEndpoint : ∀ block∈out.shmEndpoint, HoldsMetadata block

def DiscoveryOutput.strings (out : DiscoveryOutput) : List Bytes:=
  [out.serviceName,out.address,out.topic]++out.multicastAddr.toList++out.hostFingerprint.toList++out.shmEndpoint.toList

variable {block : Bytes}

lemma HoldsMetadata.terminated (h : HoldsMetadata block) : Terminated block:=by
  obtain ⟨s,hs,-⟩:=h
  exact ⟨s,hs⟩

lemma holdsMetadata_replicate : HoldsMetadata (replicate parsedFieldSize 0):=
  ⟨[],holdsString_replicate (by decide),forall_mem_nil _⟩

lemma DiscoveryOutput.sound_cleared : DiscoveryOutput.cleared.Sound:=by
  have hterminated:=holdsMetadata_replicate.terminated
  have hmet:=holdsMetadata_replicate
  constructor <;> simp only [DiscoveryOutput.cleared,Option.mem_def,Option.some.injEq,forall_eq']
    <;> assumption

lemma exists_clear (h : Terminated block) :
    ∃ block', store block 0 [0]=some block' ∧ HoldsMetadata block':=by
  obtain ⟨s,hs⟩:=h
  obtain ⟨block',hstore,hblock⟩:=exists_store_string (s:=[]) hs.length (by decide) not_mem_nil
  exact ⟨block',hstore,[],hblock,forall_mem_nil _⟩

lemma exists_mapM_clear {output : Option Bytes} (h : ∀ block∈output, Terminated block) :
    ∃ output', output.mapM (store · 0 [0])=some output' ∧ ∀ block∈output', HoldsMetadata block:=by
  cases output with
  | none=>exact ⟨none,rfl,fun block hblock=>by cases hblock⟩
  | some block=>
    obtain ⟨block',hstore,hblock⟩:=exists_clear (h block rfl)
    refine ⟨some block',by simp [hstore],?_⟩
    rintro _ ⟨⟩
    exact hblock

lemma exists_clearOutputs {out : DiscoveryOutput} (h : out.Sound) :
    ∃ out', clearOutputs out=some out' ∧ out'.Sound:=by
  obtain ⟨multicastAddr,hmulticast,hmulti⟩:=exists_mapM_clear h.multicastAddr
  obtain ⟨hostFingerprint,hhost,hhostF⟩:=exists_mapM_clear fun block hblock=>(h.hostFingerprint block hblock).terminated
  obtain ⟨shmEndpoint,hshm,hshmE⟩:=exists_mapM_clear fun block hblock=>(h.shmEndpoint block hblock).terminated
  refine ⟨_,by simp only [clearOutputs,hmulticast,hhost,hshm,Option.bind_eq_bind,Option.bind_some]; rfl,?_⟩
  exact {
    serviceName:=h.serviceName
    address:=h.address
    topic:=h.topic
    multicastAddr:=fun block hblock=>(hmulti block hblock).terminated
    hostFingerprint:=hhostF
    shmEndpoint:=hshmE}

lemma exists_copyTerminated_field {s : Bytes} {n : ℕ} (h : Terminated block) (hn : n<parsedFieldSize) (hnul : 0∉s) :
    ∃ block', copyTerminated block s n=some block' ∧ HoldsString parsedFieldSize block' (s.take n):=by
  obtain ⟨_,ht⟩:=h
  exact exists_copyTerminated ht.length hn hnul

lemma exists_scanEndpoint {token address : Bytes} (port : UInt16) (hnul : 0∉token) (h : Terminated address) :
    ∃ scanned address' port', scanEndpoint token address port=some (scanned,address',port') ∧ Terminated address':=by
  simp only [scanEndpoint]
  generalize hhost : (token.takeWhile fun b=>decide (b≠58)).take 31=host
  have hle : host.length≤31:=hhost ▸ length_take_le _ _
  have hhostname : 0∉host:=fun hmem=>hnul (takeWhile_subset _ (mem_of_mem_take (hhost ▸ hmem)))
  obtain ⟨s,hs⟩:=h
  obtain ⟨address',hstore,haddress⟩:=exists_store_string hs.length (Nat.lt_of_le_of_lt hle (by decide)) hhostname
  split
  · exact ⟨_,_,_,rfl,s,hs⟩
  · simp only [hstore,Option.bind_eq_bind,Option.bind_some]
    split
    · exact ⟨_,_,_,rfl,host,haddress⟩
    · split
      · exact ⟨_,_,_,rfl,host,haddress⟩
      · split <;> exact ⟨_,_,_,rfl,host,haddress⟩

lemma exists_storeMetadata {value : Bytes} (hnul : 0∉value) (h : HoldsMetadata block) :
    ∃ safe block', storeMetadata value block=some (safe,block') ∧ HoldsMetadata block':=by
  unfold storeMetadata
  split
  next hsafe=>
    obtain ⟨block',hcopy,hblock⟩:=exists_copyTerminated_field h.terminated (n:=63) (by decide) hnul
    refine ⟨true,block',by rw [hcopy]; rfl,_,hblock,?_⟩
    intro b hb
    simp only [isDiscoveryMetadataValueSafe,Bool.and_eq_true,List.all_eq_true] at hsafe
    exact hsafe.2 b (mem_of_mem_take hb)
  · exact ⟨false,block,rfl,h⟩

lemma exists_parseMetadataToken {token : Bytes} {out : DiscoveryOutput} (hnul : 0∉token)
    (h : out.Sound) : ∃ safe out', parseMetadataToken token out=some (safe,out') ∧ out'.Sound:=by
  have hdrop (n : ℕ) : 0∉token.drop n:=fun hmem=>hnul (mem_of_mem_drop hmem)
  unfold parseMetadataToken
  split
  next hlabel=>
    obtain ⟨block,hblock⟩:=Option.isSome_iff_exists.1 hlabel.2
    obtain ⟨safe,block',hstore,hmet⟩:=exists_storeMetadata (hdrop 3) (h.hostFingerprint block hblock)
    refine ⟨safe,{out with hostFingerprint:=some block' },?_,{h with
      hostFingerprint:=?_}⟩
    · simp [hblock,hstore]
    · rintro _ ⟨⟩
      exact hmet
  · split
    · exact ⟨true,_,rfl,{h with}⟩
    · split
      next hlabel=>
        obtain ⟨block,hblock⟩:=Option.isSome_iff_exists.1 hlabel.2
        obtain ⟨safe,block',hstore,hmet⟩:=exists_storeMetadata (hdrop 4) (h.shmEndpoint block hblock)
        refine ⟨safe,{out with shmEndpoint:=some block' },?_,{h with shmEndpoint:=?_}⟩
        · simp [hblock,hstore]
        · rintro _ ⟨⟩
          exact hmet
      · exact ⟨true,out,rfl,h⟩

lemma exists_parseMetadata {metadata : List Bytes} {out : DiscoveryOutput}
    (hnul : ∀ token∈metadata, 0∉token) (h : out.Sound) :
    ∃ accepted out', parseMetadata metadata out=some (accepted,out') ∧ out'.Sound:=by
  induction metadata generalizing out with
  | nil=>exact ⟨true,out,rfl,h⟩
  | cons token metadata ih=>
    obtain ⟨htoken,hmet⟩:=forall_mem_cons.1 hnul
    obtain ⟨safe,out',hparse,hsound⟩:=exists_parseMetadataToken htoken h
    simp only [parseMetadata,hparse,Option.bind_eq_bind,Option.bind_some]
    split
    · exact ih hmet hsound
    · exact ⟨false,out',rfl,hsound⟩

lemma exists_parseTransport {fourth fifth : Bytes} {metadata : List Bytes}
    {out : DiscoveryOutput} (hfourth : 0∉fourth) (hfifth : 0∉fifth) (hnul : ∀ token∈metadata, 0∉token) (h : out.Sound) :
    ∃ accepted out', parseTransport fourth fifth metadata out=some (accepted,out') ∧ out'.Sound:=by
  simp only [parseTransport]
  generalize hmulticast : (if 58∈fourth ∧ 58∉fifth then fourth else fifth)=multicastToken
  have hmultic : 0∉multicastToken:=by
    rw [← hmulticast]
    split
    · exact hfourth
    · exact hfifth
  split
  next addr port haddr hport=>
    obtain ⟨scanned,addr',port',hscan,hterminated⟩:=exists_scanEndpoint port hmultic (h.multicastAddr addr haddr)
    simp only [hscan,Option.bind_eq_bind,Option.bind_some]
    have hsound : DiscoveryOutput.Sound {out with
        transportType:=atoi (if 58∈fourth ∧ 58∉fifth then fifth else fourth)
        multicastAddr:=some addr'
        multicastPort:=some port' }:=by
      refine {h with multicastAddr:=?_}
      rintro _ ⟨⟩
      exact hterminated
    split
    · exact exists_parseMetadata hnul hsound
    · exact ⟨false,_,rfl,hsound⟩
  · exact exists_parseMetadata hnul {h with}

lemma exists_parseTokens {words : List Bytes} {out : DiscoveryOutput}
    (hnul : ∀ token∈words, 0∉token) (h : out.Sound) :
    ∃ accepted out', parseTokens words out=some (accepted,out') ∧ out'.Sound ∧ (accepted=true → 5≤words.length):=by
  unfold parseTokens
  split
  next name topic endpoint fourth fifth metadata=>
    simp only [forall_mem_cons] at hnul
    obtain ⟨hname,htopic,hendpoint,hfourth,hfifth,hmet⟩:=hnul
    obtain ⟨nameBlock,hnameC,hnam⟩:=exists_copyTerminated_field h.serviceName (n:=31) (by decide) hname
    obtain ⟨topicBlock,htopics,htop⟩:=exists_copyTerminated_field h.topic (n:=31) (by decide) htopic
    obtain ⟨scanned,address,port,hscan,haddress⟩:=exists_scanEndpoint out.port hendpoint h.address
    simp only [hnameC,htopics,hscan,Option.bind_eq_bind,Option.bind_some]
    have hsound : DiscoveryOutput.Sound {out with
        serviceName:=nameBlock, topic:=topicBlock, address:=address, port:=port}:=
      {h with serviceName:=⟨_,hnam⟩, topic:=⟨_,htop⟩, address:=haddress}
    have hfive : 5≤(name::topic::endpoint::fourth::fifth::metadata).length:=by
      simp only [length_cons]
      omega
    split
    · obtain ⟨accepted,out',hparse,hsound'⟩:=exists_parseTransport hfourth hfifth hmet hsound
      exact ⟨accepted,out',hparse,hsound',fun _=>hfive⟩
    · exact ⟨false,_,rfl,hsound,fun _=>hfive⟩
  · exact ⟨false,out,rfl,h,fun hfalse=>by cases hfalse⟩

lemma Terminated.length_eq (h : Terminated block) : block.length=64 ∧ (0 : UInt8)∈block:=by
  obtain ⟨s,hs⟩:=h
  exact ⟨hs.length,mem_of_readString hs.read⟩

lemma HoldsMetadata.forall_mem (h : HoldsMetadata block) :
    ∀ b∈(CString.ofMemory block).bytes, isMetadataByte b=true:=by
  obtain ⟨s,hs,hall⟩:=h
  rwa [hs.ofMemory]

namespace DiscoveryOutput.Sound
variable {out : DiscoveryOutput}

lemma terminated_strings (h : out.Sound) : ∀ block∈out.strings, Terminated block:=by
  simp only [strings,mem_append,mem_cons,not_mem_nil,or_false,Option.mem_toList]
  rintro block ((((rfl | rfl | rfl) | hblock) | hblock) | hblock)
  · exact h.serviceName
  · exact h.address
  · exact h.topic
  · exact h.multicastAddr block hblock
  · exact (h.hostFingerprint block hblock).terminated
  · exact (h.shmEndpoint block hblock).terminated

end DiscoveryOutput.Sound

lemma parseDiscoveryPayloadMessageEx2_congr {alloc : ℕ→Bool} {msg other : Message}
    (out : DiscoveryOutput) (hsize : msg.header.payloadSize.toNat<2^32-1)
    (hsizes : other.header.payloadSize=msg.header.payloadSize) (hbytes : other.announcedBytes=msg.announcedBytes) :
    parseDiscoveryPayloadMessageEx2 alloc other out=parseDiscoveryPayloadMessageEx2 alloc msg out:=by
  unfold parseDiscoveryPayloadMessageEx2
  rw [hsizes]
  unfold Message.announcedBytes at hbytes
  cases hother : other.payload with
  | none=>
    rw [hother,Option.map_none] at hbytes
    rw [Option.map_eq_none_iff.1 hbytes.symm]
  | some payload=>
    rw [hother,Option.map_some] at hbytes
    obtain ⟨payload',hmsg,htake⟩:=Option.map_eq_some_iff.1 hbytes.symm
    have hle:=other.payload_le payload hother
    rw [hsizes] at hle htake
    rw [hmsg]
    simp only [copyPayload_eq hle hsize,copyPayload_eq (msg.payload_le payload' hmsg) hsize,htake]

lemma exists_parseDiscoveryPayloadMessageEx2 (alloc : ℕ→Bool) {msg : Message}
    {out : DiscoveryOutput} (hsize : msg.header.payloadSize.toNat<2^32-1) (h : out.Sound) :
    ∃ accepted out', parseDiscoveryPayloadMessageEx2 alloc msg out=some (accepted,out') ∧
      out'.Sound ∧ (accepted=true→∃ bytes∈msg.announcedBytes, 5≤(tokens 32 (CString.ofMemory bytes).bytes).length):=by
  cases hpayload : msg.payload with
  | none=>
    refine ⟨false,out,?_,h,fun hfalse=>Bool.noConfusion hfalse⟩
    rw [parseDiscoveryPayloadMessageEx2,hpayload]
  | some payload=>
    cases halloc : alloc (msg.header.payloadSize+1).toNat with
    | false=>
      refine ⟨false,out,?_,h,fun hfalse=>Bool.noConfusion hfalse⟩
      rw [parseDiscoveryPayloadMessageEx2,hpayload]
      simp only [halloc,Bool.false_eq_true,if_false]
    | true=>
      obtain ⟨cleared,hcleared,hsound⟩:=exists_clearOutputs h
      generalize hbytes : payload.take msg.header.payloadSize.toNat=bytes
      have hnul : ∀ token∈(tokens 32 (CString.ofMemory bytes).bytes).take maxTokens,
          0∉token:=by
        intro token htoken hmem
        exact (CString.ofMemory bytes).nul_notMem (mem_of_mem_tokens (mem_of_mem_take htoken) hmem)
      obtain ⟨accepted,out',hparse,hsound',hfive⟩:=exists_parseTokens hnul hsound
      refine ⟨accepted,out',?_,hsound',fun hacc=>⟨bytes,?_,?_⟩⟩
      · rw [parseDiscoveryPayloadMessageEx2_eq out hpayload hsize halloc,hcleared,hbytes]
        exact hparse
      · rw [Message.announcedBytes,hpayload,← hbytes]
        rfl
      · exact Nat.le_trans (hfive hacc) (length_take_le' _ _)

/-- Every datagram is parsed inside its bounds and leaves terminated strings. -/
theorem parsePayloadMessage_safe (alloc : ℕ→Bool) (msg : Message) (hsize : msg.header.payloadSize.toNat≤65535) :
    ∃ accepted out, parsePayloadMessage alloc msg=some (accepted,out) ∧
      (∀ other : Message, other.header.payloadSize=msg.header.payloadSize→
        other.announcedBytes=msg.announcedBytes→
        parsePayloadMessage alloc other=some (accepted,out)) ∧
      (∀ block∈out.strings, block.length=64 ∧ (0 : UInt8)∈block) ∧
      (accepted=true→
        (∃ bytes∈msg.announcedBytes, 5≤(tokens 32 (CString.ofMemory bytes).bytes).length) ∧
        (∀ block∈out.hostFingerprint, ∀ b∈(CString.ofMemory block).bytes, isMetadataByte b=true) ∧
        ∀ block∈out.shmEndpoint, ∀ b∈(CString.ofMemory block).bytes, isMetadataByte b=true):=by
  have hlt : msg.header.payloadSize.toNat<2^32-1:=by omega
  obtain ⟨accepted,out,hparse,hsound,hfive⟩:=exists_parseDiscoveryPayloadMessageEx2 alloc hlt DiscoveryOutput.sound_cleared
  refine ⟨accepted,out,hparse,?_,?_,?_⟩
  · intro other hsizes hbytes
    exact (parseDiscoveryPayloadMessageEx2_congr .cleared hlt hsizes hbytes).trans hparse
  · intro block hblock
    exact (hsound.terminated_strings block hblock).length_eq
  · intro haccepted
    refine ⟨hfive haccepted,?_,?_⟩
    · intro block hblock
      exact (hsound.hostFingerprint block hblock).forall_mem
    · intro block hblock
      exact (hsound.shmEndpoint block hblock).forall_mem

def sampleText : Bytes:=[97,32,98,32,99,58,49,32,49,32,100,58,50]

def announcementOf (header : MessageHeader) (text : Bytes) : Message where
  header:={header with payloadSize:=UInt32.ofNat text.length}
  payload:=some (text++[0])
  payload_le:=payloadSize_le_text text

theorem parsePayloadMessage_safe_sample : ∃ accepted out,
    parsePayloadMessage (fun _=>true) (announcementOf clearedMessage.header sampleText)=some (accepted,out):=by
  obtain ⟨accepted,out,hparse,-⟩:=parsePayloadMessage_safe (fun _=>true)
    (announcementOf clearedMessage.header sampleText) (by decide)
  exact ⟨accepted,out,hparse⟩

end SoftMessageBus
