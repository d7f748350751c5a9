import SoftMessageBus.DiscoveryParse
import SoftMessageBus.TcpReceive

/-!
# Announcements are read back

What an announcement is made from and what the discovery service reads from it.
-/
namespace SoftMessageBus
open StringScan List

def MetadataFits (value : Option CString) : Prop:=
  ∀ s∈value, s.bytes=[] ∨ (isDiscoveryMetadataValueSafe s.bytes=true ∧ s.bytes.length≤63)

structure HostFits (host : CString) : Prop where
  ne_nil : host.bytes≠[]
  space : 32∉host.bytes
  colon : 58∉host.bytes
  length : host.bytes.length≤31

structure NameFits (name : CString) : Prop where
  ne_nil : name.bytes≠[]
  space : 32∉name.bytes
  length : name.bytes.length≤63

/-- What can be told of a service in an announcement. -/
structure Announceable (info : DiscoveryInfo) : Prop where
  serviceName : NameFits info.serviceName
  topic : NameFits info.topic
  address : HostFits info.address
  multicastAddr : ∃ addr, info.multicastAddr=some addr ∧ HostFits addr
  hostFingerprint : MetadataFits info.hostFingerprint
  shmEndpoint : MetadataFits info.shmEndpoint

structure DiscoveryOutput.ReturnsEndpoint (out : DiscoveryOutput) (info : DiscoveryInfo) :
    Prop where
  address : CString.ofMemory out.address=info.address
  port : out.port=info.port
  transportType : out.transportType=info.transportType.code.toUInt32
  multicastAddr : out.multicastAddr.map CString.ofMemory=info.multicastAddr
  multicastPort : out.multicastPort=some info.multicastPort
  hostFingerprint : out.hostFingerprint.map CString.ofMemory=some (info.hostFingerprint.getD .empty)
  transportCapabilities : out.transportCapabilities=some info.transportCapabilities
  shmEndpoint : out.shmEndpoint.map CString.ofMemory=some (info.shmEndpoint.getD .empty)

/-- The outputs hold the values that the announcement was made from. -/
structure DiscoveryOutput.Returns (out : DiscoveryOutput) (info : DiscoveryInfo) : Prop
    extends out.ReturnsEndpoint info where
  serviceName : CString.ofMemory out.serviceName=info.serviceName
  topic : CString.ofMemory out.topic=info.topic

def optionalToken (label : Bytes) (value : Option CString) : List Bytes:=
  if (value.getD .empty).bytes=[] then [] else [label++(value.getD .empty).bytes]

def capabilitiesToken (capabilities : UInt32) : List Bytes:=
  if capabilities=0 then [] else [capLabel++decimal capabilities.toNat]

def requiredTokens (info : DiscoveryInfo) : List Bytes:=
  [info.serviceName.bytes,info.topic.bytes,
    info.address.bytes++58::decimal info.port.toNat,
    decimal info.transportType.code.toNat,
    (info.multicastAddr.getD .empty).bytes++58::decimal info.multicastPort.toNat]

lemma notMem_of_safe {value : Bytes} (h : isDiscoveryMetadataValueSafe value=true) : 32∉value:=by
  intro hmem
  simp only [isDiscoveryMetadataValueSafe,Bool.and_eq_true,List.all_eq_true] at h
  exact absurd (h.2 32 hmem) (by decide)

structure HasWords (text : Bytes) (words : List Bytes) : Prop where
  nul : 0∉text
  tokens : tokens 32 text=words

lemma hasWords_word {word : Bytes} (hne : word≠[]) (hspace : 32∉word) (hnul : 0∉word) : HasWords word [word]:=
  ⟨hnul,tokens_word hspace hne⟩

variable {text : Bytes} {words : List Bytes}

lemma HasWords.snoc {word : Bytes} (h : HasWords text words) (hne : word≠[])
    (hspace : 32∉word) (hnul : 0∉word) : HasWords (text++32::word) (words++[word]):=by
  refine ⟨?_,?_⟩
  · simpa [h.nul] using hnul
  · rw [tokens_append_cons,h.tokens,tokens_word hspace hne]

variable {buffer out : Bytes}

lemma eq_append_of_appendText (h : appendText buffer text=some out) : out=buffer++text:=by
  unfold appendText at h
  split at h
  · cases h
  · exact (Option.some.inj h).symm

lemma HasWords.appendOptional {label : Bytes} {value : Option CString}
    (h : HasWords buffer words) (hvalue : MetadataFits value) (hspace : 32∉label)
    (hnul : 0∉label) (hout : appendOptional buffer (32::label) value=some out) :
    HasWords out (words++optionalToken label value):=by
  cases value with
  | none=>
    cases hout
    simpa [optionalToken,CString.empty] using h
  | some s=>
    simp only [SoftMessageBus.appendOptional,List.isEmpty_iff] at hout
    simp only [optionalToken,Option.getD_some]
    split at hout
    next hs=>
      cases hout
      rw [if_pos hs,append_nil]
      exact h
    next hs=>
      rw [if_neg hs]
      have hsafe:=(hvalue s rfl).resolve_left hs
      rw [eq_append_of_appendText hout]
      refine h.snoc ?_ ?_ ?_
      · simp [hs]
      · simp [hspace,notMem_of_safe hsafe.1]
      · simp [hnul,s.nul_notMem]

lemma HasWords.appendCapabilities {capabilities : UInt32} (h : HasWords buffer words)
    (hout : appendCapabilities buffer capabilities=some out) :
    HasWords out (words++capabilitiesToken capabilities):=by
  unfold SoftMessageBus.appendCapabilities at hout
  unfold capabilitiesToken
  split at hout
  next hne=>
    rw [if_neg hne]
    rw [eq_append_of_appendText hout]
    refine h.snoc ?_ ?_ ?_
    · exact cons_ne_nil _ _
    · have hdec : 32∉decimal capabilities.toNat:=notMem_decimal (by decide)
      simpa [capLabel] using hdec
    · have hdec : 0∉decimal capabilities.toNat:=notMem_decimal (by decide)
      simpa [capLabel] using hdec
  next hzero=>
    cases hout
    rw [if_pos (not_not.1 hzero),append_nil]
    exact h

lemma HostFits.word {host : CString} (h : HostFits host) (port : UInt16) :
    host.bytes++58::decimal port.toNat≠[] ∧
      32∉host.bytes++58::decimal port.toNat ∧ 0∉host.bytes++58::decimal port.toNat:=by
  have hspace : 32∉decimal port.toNat:=notMem_decimal (by decide)
  have hnul : 0∉decimal port.toNat:=notMem_decimal (by decide)
  refine ⟨by simp,?_,?_⟩
  · simpa [h.space] using hspace
  · simpa [host.nul_notMem] using hnul

lemma hasWords_required {info : DiscoveryInfo} (h : Announceable info)
    (htext : appendText [] (info.serviceName.bytes++32::info.topic.bytes++32::
      info.address.bytes++58::decimal info.port.toNat++32::
      decimal info.transportType.code.toNat++32::(info.multicastAddr.getD .empty).bytes++
      58::decimal info.multicastPort.toNat)=some text) : HasWords text (requiredTokens info):=by
  obtain ⟨multicastAddr,hmulticast,hmulti⟩:=h.multicastAddr
  have hcode : 32∉decimal info.transportType.code.toNat:=notMem_decimal (by decide)
  have hcod : 0∉decimal info.transportType.code.toNat:=notMem_decimal (by decide)
  obtain ⟨haddress,haddresses,haddressn⟩:=h.address.word info.port
  obtain ⟨hgroupne,hgroup,hgroupn⟩:=hmulti.word info.multicastPort
  have hname:=hasWords_word h.serviceName.ne_nil h.serviceName.space info.serviceName.nul_notMem
  have htopic:=hname.snoc h.topic.ne_nil h.topic.space info.topic.nul_notMem
  have hendpoint:=htopic.snoc haddress haddresses haddressn
  have htransport:=hendpoint.snoc (decimal_ne_nil _) hcode hcod
  have hreq:=htransport.snoc hgroupne hgroup hgroupn
  rw [eq_append_of_appendText htext,requiredTokens,hmulticast,Option.getD_some]
  simpa only [nil_append,append_assoc,cons_append] using hreq

lemma hasWords_discoveryText {info : DiscoveryInfo} (h : Announceable info) (htext : discoveryText info=some text) :
    HasWords text (requiredTokens info++optionalToken hfLabel info.hostFingerprint++
      capabilitiesToken info.transportCapabilities++
      optionalToken shmLabel info.shmEndpoint):=by
  simp only [discoveryText,Option.bind_eq_bind,Option.bind_eq_some_iff] at htext
  obtain ⟨described,hdesc,located,hloc,capable,hcapa,hshm⟩:=htext
  have hreq : HasWords described (requiredTokens info):=by
    refine hasWords_required h ?_
    obtain ⟨addr,haddr,hfits⟩:=h.multicastAddr
    rw [haddr] at hdesc ⊢
    simpa only [List.isEmpty_iff,if_neg hfits.ne_nil,Option.getD_some] using hdesc
  have hhost:=hreq.appendOptional h.hostFingerprint (by decide) (by decide) hloc
  exact (hhost.appendCapabilities hcapa).appendOptional h.shmEndpoint (by decide) (by decide) hshm

variable {block : Bytes}

lemma exists_scanEndpoint_host {host : CString} (h : HostFits host)
    (hblock : block.length=parsedFieldSize) (port oldPort : UInt16) :
    ∃ block', scanEndpoint (host.bytes++58::decimal port.toNat) block oldPort=
        some (true,block',port) ∧ HoldsString parsedFieldSize block' host.bytes:=by
  have hhost : ((host.bytes++58::decimal port.toNat).takeWhile
      fun b=>decide (b≠58)).take 31=host.bytes:=by
    have hall : ∀ b∈host.bytes, decide (b≠58)=true:=by
      intro b hb
      exact decide_eq_true fun heq=>h.colon (heq ▸ hb)
    rw [takeWhile_append_of_pos hall,takeWhile_cons_of_neg (by simp),append_nil,take_of_length_le h.length]
  have hlt : host.bytes.length<parsedFieldSize:=Nat.lt_of_le_of_lt h.length (by decide)
  obtain ⟨block',hstore,hholds⟩:=exists_store_string hblock hlt host.nul_notMem
  refine ⟨block',?_,hholds⟩
  simp only [scanEndpoint,hhost,List.isEmpty_iff,h.ne_nil,if_false,hstore,drop_left,
    Option.bind_eq_bind,Option.bind_some,scanUnsignedShort_decimal]
  exact if_neg (not_not.2 rfl)

lemma exists_storeMetadata_safe {value : Bytes}
    (hsafe : isDiscoveryMetadataValueSafe value=true) (hlen : value.length≤63)
    (hnul : 0∉value) (hblock : block.length=parsedFieldSize) :
    ∃ block', storeMetadata value block=some (true,block') ∧ HoldsString parsedFieldSize block' value:=by
  obtain ⟨block',hcopy,hholds⟩:=exists_copyTerminated (n:=63) hblock (by decide) hnul
  rw [take_of_length_le hlen] at hholds
  exact ⟨block',by rw [storeMetadata,if_pos hsafe,hcopy]; rfl,hholds⟩

def HoldsField (output : Option Bytes) (s : CString) : Prop:=
  ∃ block, output=some block ∧ HoldsString parsedFieldSize block s.bytes

lemma HoldsField.map_ofMemory {output : Option Bytes} {s : CString}
    (h : HoldsField output s) : output.map CString.ofMemory=some s:=by
  obtain ⟨block,rfl,hblock⟩:=h
  exact congrArg some (CString.ext hblock.ofMemory)

lemma exists_parse_optional {label : Bytes} {value : Option CString} {out : DiscoveryOutput}
    {output : Option Bytes} (update : Option Bytes→DiscoveryOutput)
    (hvalue : MetadataFits value) (houtput : HoldsField output .empty) (hupd : update output=out)
    (hstep : ∀ s block block', output=some block→storeMetadata s block=some (true,block')→
      parseMetadataToken (label++s) out=some (true,update (some block'))) :
    ∃ output', HoldsField output' (value.getD .empty) ∧ ∀ metadata,
      parseMetadata (optionalToken label value++metadata) out=parseMetadata metadata (update output'):=by
  by_cases hempty : (value.getD .empty).bytes=[]
  · refine ⟨output,?_,fun metadata=>?_⟩
    · rwa [show value.getD .empty = .empty from CString.ext hempty]
    · rw [optionalToken,if_pos hempty,nil_append,hupd]
  · obtain ⟨s,rfl⟩ : ∃ s, value=some s:=by
      cases value with
      | none=>exact absurd rfl hempty
      | some s=>exact ⟨s,rfl⟩
    obtain ⟨hsafe,hlen⟩:=(hvalue s rfl).resolve_left hempty
    obtain ⟨block,hblock,hholds⟩:=houtput
    obtain ⟨block',hstore,hholds'⟩:=exists_storeMetadata_safe hsafe hlen s.nul_notMem hholds.length
    refine ⟨some block',⟨block',rfl,hholds'⟩,fun metadata=>?_⟩
    rw [optionalToken,if_neg hempty,singleton_append,parseMetadata,Option.getD_some,
      hstep s.bytes block block' hblock hstore]
    rfl

lemma parseMetadataToken_hf {s block' : Bytes} {out : DiscoveryOutput}
    (hblock : out.hostFingerprint=some block) (hstore : storeMetadata s block=some (true,block')) :
    parseMetadataToken (hfLabel++s) out=some (true,{out with hostFingerprint:=some block' }):=by
  have htake : (hfLabel++s).take 3=hfLabel:=rfl
  have hdrop : (hfLabel++s).drop 3=s:=rfl
  simp [parseMetadataToken,htake,hdrop,hblock,hstore]

lemma parseMetadataToken_shm {s block' : Bytes} {out : DiscoveryOutput}
    (hblock : out.shmEndpoint=some block) (hstore : storeMetadata s block=some (true,block')) :
    parseMetadataToken (shmLabel++s) out=some (true,{out with shmEndpoint:=some block' }):=by
  have hhf : (shmLabel++s).take 3≠hfLabel:=by simp [shmLabel,hfLabel]
  have hcap : (shmLabel++s).take 4≠capLabel:=by simp [shmLabel,capLabel]
  have htake : (shmLabel++s).take 4=shmLabel:=rfl
  have hdrop : (shmLabel++s).drop 4=s:=rfl
  rw [parseMetadataToken,if_neg (fun h=>hhf h.1),if_neg (fun h=>hcap h.1),if_pos ⟨htake,by rw [hblock]; rfl⟩,hdrop,hblock]
  simp [hstore]

lemma exists_parse_hostFingerprint {value : Option CString} (out : DiscoveryOutput)
    (hvalue : MetadataFits value) (hout : HoldsField out.hostFingerprint .empty) :
    ∃ output, HoldsField output (value.getD .empty) ∧ ∀ metadata,
      parseMetadata (optionalToken hfLabel value++metadata) out=parseMetadata metadata {out with hostFingerprint:=output}:=
  exists_parse_optional (fun output=>{out with hostFingerprint:=output}) hvalue hout rfl fun _ _ _=>parseMetadataToken_hf

lemma exists_parse_shmEndpoint {value : Option CString} (out : DiscoveryOutput)
    (hvalue : MetadataFits value) (hout : HoldsField out.shmEndpoint .empty) :
    ∃ output, HoldsField output (value.getD .empty) ∧ ∀ metadata,
      parseMetadata (optionalToken shmLabel value++metadata) out=parseMetadata metadata {out with shmEndpoint:=output}:=
  exists_parse_optional (fun output=>{out with shmEndpoint:=output}) hvalue hout rfl fun _ _ _=>parseMetadataToken_shm

lemma parseMetadata_capabilities {capabilities : UInt32} (out : DiscoveryOutput)
    (hout : out.transportCapabilities=some 0) (metadata : List Bytes) :
    parseMetadata (capabilitiesToken capabilities++metadata) out=
      parseMetadata metadata {out with transportCapabilities:=some capabilities}:=by
  unfold capabilitiesToken
  split
  next hzero=>
    subst hzero
    rw [nil_append,← hout]
  · have hhf : (capLabel++decimal capabilities.toNat).take 3≠hfLabel:=by simp [capLabel,hfLabel]
    have htake : (capLabel++decimal capabilities.toNat).take 4=capLabel:=rfl
    have hdrop : (capLabel++decimal capabilities.toNat).drop 4=decimal capabilities.toNat:=rfl
    rw [singleton_append,parseMetadata,parseMetadataToken,if_neg (fun h=>hhf h.1),
      if_pos ⟨htake,by rw [hout]; rfl⟩,hdrop,toUInt32_strtoul_decimal]
    rfl

lemma exists_parse_metadata {info : DiscoveryInfo} (out : DiscoveryOutput)
    (h : Announceable info) (hhost : HoldsField out.hostFingerprint .empty)
    (hcap : out.transportCapabilities=some 0) (hshm : HoldsField out.shmEndpoint .empty) :
    ∃ hostFingerprint shmEndpoint,
      HoldsField hostFingerprint (info.hostFingerprint.getD .empty) ∧
      HoldsField shmEndpoint (info.shmEndpoint.getD .empty) ∧
      parseMetadata (optionalToken hfLabel info.hostFingerprint++
        (capabilitiesToken info.transportCapabilities++optionalToken shmLabel info.shmEndpoint)) out=
        some (true, {out with
          hostFingerprint:=hostFingerprint
          transportCapabilities:=some info.transportCapabilities
          shmEndpoint:=shmEndpoint}):=by
  obtain ⟨hostFingerprint,hhost',hparsed⟩:=exists_parse_hostFingerprint out h.hostFingerprint hhost
  obtain ⟨shmEndpoint,hshm',hparseS⟩:=exists_parse_shmEndpoint {out with
      hostFingerprint:=hostFingerprint
      transportCapabilities:=some info.transportCapabilities} h.shmEndpoint hshm
  have hparseC:=@parseMetadata_capabilities info.transportCapabilities
    {out with hostFingerprint:=hostFingerprint} hcap (optionalToken shmLabel info.shmEndpoint)
  have hlast:=hparseS []
  rw [append_nil] at hlast
  exact ⟨hostFingerprint,shmEndpoint,hhost',hshm',(hparsed _).trans (hparseC.trans hlast)⟩

lemma clearOutputs_cleared : clearOutputs .cleared=some .cleared:=by decide

lemma exists_parseTokens_announced {info : DiscoveryInfo} (h : Announceable info) :
    ∃ out, parseTokens (requiredTokens info++optionalToken hfLabel info.hostFingerprint++
        capabilitiesToken info.transportCapabilities++optionalToken shmLabel info.shmEndpoint)
        .cleared=some (true,out) ∧ out.ReturnsEndpoint info ∧
      CString.ofMemory out.serviceName=info.serviceName.truncate 31 ∧
      CString.ofMemory out.topic=info.topic.truncate 31:=by
  obtain ⟨multicastAddr,hmulticast,hmulti⟩:=h.multicastAddr
  have hempty : HoldsString parsedFieldSize (replicate parsedFieldSize 0) []:=holdsString_replicate (by decide)
  obtain ⟨name,hname,hnam⟩:=exists_copyTerminated (n:=31) hempty.length (by decide) info.serviceName.nul_notMem
  obtain ⟨topic,htopic,htop⟩:=exists_copyTerminated (n:=31) hempty.length (by decide) info.topic.nul_notMem
  obtain ⟨address,haddress,haddres⟩:=exists_scanEndpoint_host h.address hempty.length info.port 0
  obtain ⟨group,hgroup,hgroupid⟩:=exists_scanEndpoint_host hmulti hempty.length info.multicastPort 0
  -- The transport type is written in front of the multicast group: nothing is swapped.
  have hcolon : 58∉decimal info.transportType.code.toNat:=notMem_decimal (by decide)
  have hfield : HoldsField (some (replicate parsedFieldSize 0)) .empty:=⟨_,rfl,hempty⟩
  obtain ⟨hostFingerprint,shmEndpoint,hhost,hshm,hparse⟩:=exists_parse_metadata
    {DiscoveryOutput.cleared with
      serviceName:=name
      topic:=topic
      address:=address
      port:=info.port
      transportType:=info.transportType.code.toUInt32
      multicastAddr:=some group
      multicastPort:=some info.multicastPort} h hfield rfl hfield
  have hrun : parseTokens (requiredTokens info++optionalToken hfLabel info.hostFingerprint++
      capabilitiesToken info.transportCapabilities++optionalToken shmLabel info.shmEndpoint)
      .cleared=some (true, {
        serviceName:=name
        address:=address
        port:=info.port
        topic:=topic
        transportType:=info.transportType.code.toUInt32
        multicastAddr:=some group
        multicastPort:=some info.multicastPort
        hostFingerprint:=hostFingerprint
        transportCapabilities:=some info.transportCapabilities
        shmEndpoint:=shmEndpoint}):=by
    simp only [requiredTokens,hmulticast,Option.getD_some,cons_append,nil_append,append_assoc,parseTokens,
      DiscoveryOutput.cleared,hname,htopic,haddress,Option.bind_eq_bind,Option.bind_some,if_true]
    simp only [parseTransport,hcolon,false_and,if_false,hgroup,atoi_decimal,Option.bind_eq_bind,Option.bind_some,if_true]
    exact hparse
  refine ⟨_,hrun,?_,CString.ext hnam.ofMemory,CString.ext htop.ofMemory⟩
  exact {
    address:=CString.ext haddres.ofMemory
    port:=rfl
    transportType:=rfl
    multicastAddr:=hmulticast ▸ congrArg some (CString.ext hgroupid.ofMemory)
    multicastPort:=rfl
    hostFingerprint:=hhost.map_ofMemory
    transportCapabilities:=rfl
    shmEndpoint:=hshm.map_ofMemory}

lemma length_announced (info : DiscoveryInfo) :
    (requiredTokens info++optionalToken hfLabel info.hostFingerprint++
      capabilitiesToken info.transportCapabilities++
      optionalToken shmLabel info.shmEndpoint).length ≤ maxTokens:=by
  have hoptional (label : Bytes) (value : Option CString) :
      (optionalToken label value).length≤1:=by
    unfold optionalToken
    split <;> simp
  have hcapable : (capabilitiesToken info.transportCapabilities).length≤1:=by
    unfold capabilitiesToken
    split <;> simp
  have hhost:=hoptional hfLabel info.hostFingerprint
  have hshm:=hoptional shmLabel info.shmEndpoint
  simp only [length_append,requiredTokens,length_cons,length_nil,maxTokens]
  omega

lemma exists_text_of_made {textAlloc : ℕ→Bool} {msg : Message} {info : DiscoveryInfo}
    (hmade : (makeDiscoveryPayloadMessageEx2 textAlloc msg info).1=true) :
    ∃ text, discoveryText info=some text ∧
      (makeDiscoveryPayloadMessageEx2 textAlloc msg info).2.payload=some (text++[0]) ∧
      (makeDiscoveryPayloadMessageEx2 textAlloc msg info).2.header.payloadSize.toNat=text.length:=by
  unfold makeDiscoveryPayloadMessageEx2 at hmade ⊢
  cases htext : discoveryText info with
  | none=>simp [htext] at hmade
  | some text=>
    simp only [htext] at hmade ⊢
    have hlt : text.length<512:=(fitsBuffer_discoveryText htext).2
    split at hmade
    next halloc=>
      refine ⟨text,rfl,by simp only [if_pos halloc],?_⟩
      simp only [if_pos halloc,UInt32.toNat_ofNat']
      exact Nat.mod_eq_of_lt (by omega)
    · cases hmade

lemma exists_parse_announcement {textAlloc : ℕ→Bool} (alloc : ℕ→Bool) {msg : Message}
    {info : DiscoveryInfo} (h : Announceable info) (hmade : (makeDiscoveryPayloadMessageEx2 textAlloc msg info).1=true)
    (halloc : alloc ((makeDiscoveryPayloadMessageEx2 textAlloc msg info).2.header.payloadSize+ 1).toNat=true) :
    ∃ out, parsePayloadMessage alloc (makeDiscoveryPayloadMessageEx2 textAlloc msg info).2=
        some (true,out) ∧ out.ReturnsEndpoint info ∧
      CString.ofMemory out.serviceName=info.serviceName.truncate 31 ∧
      CString.ofMemory out.topic=info.topic.truncate 31:=by
  obtain ⟨text,htext,hpayload,hsize⟩:=exists_text_of_made hmade
  have hlt : text.length<512:=(fitsBuffer_discoveryText htext).2
  have hwords:=hasWords_discoveryText h htext
  obtain ⟨out,hparse,hret⟩:=exists_parseTokens_announced h
  refine ⟨out,?_,hret⟩
  have hbytes : (CString.ofMemory text).bytes=text:=by
    refine takeWhile_eq_self_iff.2 fun b hb=>decide_eq_true ?_
    rintro rfl
    exact hwords.nul hb
  rw [parsePayloadMessage,parseDiscoveryPayloadMessageEx2_eq _ hpayload (by omega) halloc,hsize,take_left,hbytes,
    hwords.tokens,take_of_length_le (length_announced info),clearOutputs_cleared]
  exact hparse

/-- An announcement is read back exactly when its names have at most 31 characters and the payload
can be copied. -/
theorem announcement_round_trip_iff (textAlloc alloc : ℕ→Bool) (msg : Message)
    (info : DiscoveryInfo) (h : Announceable info) (hmade : (makeDiscoveryPayloadMessageEx2 textAlloc msg info).1=true) :
    (∃ out, parsePayloadMessage alloc (makeDiscoveryPayloadMessageEx2 textAlloc msg info).2=
      some (true,out) ∧ out.Returns info) ↔
    info.serviceName.bytes.length≤31 ∧ info.topic.bytes.length≤31 ∧
      alloc ((makeDiscoveryPayloadMessageEx2 textAlloc msg info).2.header.payloadSize+1).toNat=true:=by
  constructor
  · rintro ⟨out,hparse,hreturns⟩
    have halloc : alloc ((makeDiscoveryPayloadMessageEx2 textAlloc msg info).2.header.payloadSize+
        1).toNat=true:=by
      by_contra hfalse
      obtain ⟨text,-,hpayload,-⟩:=exists_text_of_made hmade
      rw [parsePayloadMessage,parseDiscoveryPayloadMessageEx2,hpayload] at hparse
      simp only [if_neg hfalse,Option.some.injEq,Prod.mk.injEq] at hparse
      cases hparse.1
    obtain ⟨out',hparse',-,hname,htopic⟩:=exists_parse_announcement alloc h hmade halloc
    obtain rfl : out'=out:=(Prod.mk.inj (Option.some.inj (hparse'.symm.trans hparse))).2
    refine ⟨?_,?_,halloc⟩
    · rw [← hreturns.serviceName,hname]
      exact CString.length_truncate_le 31 _
    · rw [← hreturns.topic,htopic]
      exact CString.length_truncate_le 31 _
  · rintro ⟨hname,htopic,halloc⟩
    obtain ⟨out,hparse,hendpoint,hname',htopic'⟩:=exists_parse_announcement alloc h hmade halloc
    refine ⟨out,hparse,{hendpoint with serviceName:=?_, topic:=?_}⟩
    · rw [hname',CString.truncate_eq_self hname]
    · rw [htopic',CString.truncate_eq_self htopic]

/-- A service "b" at "c:1" with the group "d:2". -/
def infoNamed (name : CString) : DiscoveryInfo where
  serviceName:=name
  address:=CString.ofMemory [99]
  port:=1
  topic:=CString.ofMemory [98]
  transportType:=.udp
  multicastAddr:=some (CString.ofMemory [100])
  multicastPort:=2
  hostFingerprint:=none
  transportCapabilities:=0
  shmEndpoint:=none

lemma announceable_infoNamed {name : CString} (h : NameFits name) :
    Announceable (infoNamed name) where
  serviceName:=h
  topic:=show NameFits (CString.ofMemory [98]) from ⟨by decide,by decide,by decide⟩
  address:=show HostFits (CString.ofMemory [99]) from ⟨by decide,by decide,by decide,by decide⟩
  multicastAddr:=⟨_,rfl,by decide,by decide,by decide,by decide⟩
  hostFingerprint:=fun _ hs=>by cases hs
  shmEndpoint:=fun _ hs=>by cases hs

theorem short_announcement_returned : ∃ out,
    parsePayloadMessage (fun _=>true) (makeDiscoveryPayloadMessageEx2 (fun _=>true)
      clearedMessage (infoNamed (CString.ofMemory [97]))).2=some (true,out) ∧
    out.Returns (infoNamed (CString.ofMemory [97])):=
  (announcement_round_trip_iff (fun _=>true) (fun _=>true) clearedMessage
    (infoNamed (CString.ofMemory [97]))
    (announceable_infoNamed ⟨by decide,by decide,by decide⟩) (by decide +kernel)).2
    ⟨by decide,by decide,rfl⟩

/-- A name of 40 characters is cut. -/
theorem long_name_not_returned :
    Announceable (infoNamed (CString.ofMemory (replicate 40 97))) ∧
    (makeDiscoveryPayloadMessageEx2 (fun _=>true) clearedMessage (infoNamed (CString.ofMemory (replicate 40 97)))).1=true ∧
    ¬∃ out, parsePayloadMessage (fun _=>true) (makeDiscoveryPayloadMessageEx2 (fun _=>true)
        clearedMessage (infoNamed (CString.ofMemory (replicate 40 97)))).2=
        some (true,out) ∧
      out.Returns (infoNamed (CString.ofMemory (replicate 40 97))):=by
  have hannounceable : Announceable (infoNamed (CString.ofMemory (replicate 40 97))):=
    announceable_infoNamed ⟨by decide,by decide,by decide⟩
  have hmade : (makeDiscoveryPayloadMessageEx2 (fun _=>true) clearedMessage
      (infoNamed (CString.ofMemory (replicate 40 97)))).1=true:=by decide +kernel
  refine ⟨hannounceable,hmade,?_⟩
  rintro ⟨out,hparse,hreturns⟩
  obtain ⟨out',hparse',-,hname,-⟩:=exists_parse_announcement (fun _=>true) hannounceable hmade rfl
  obtain rfl : out'=out:=(Prod.mk.inj (Option.some.inj (hparse'.symm.trans hparse))).2
  have hcut:=hname.symm.trans hreturns.serviceName
  exact absurd hcut (by decide)

end SoftMessageBus
