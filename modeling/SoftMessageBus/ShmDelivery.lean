import SoftMessageBus.ShmProcessing

/-!
# Delivery over shared memory

What the server reads is what the client has sent, in the same order.
-/
namespace SoftMessageBus
open ByteEncoding RingBuffer StepRuns List

namespace ShmLink

def readable (w : ShmLink) : ℕ:=if w.Registered then w.rxRing.elim 0 RingBuffer.used else 0

lemma Answered.readable_le {w w' : ShmLink} (h : Answered w w') :
    w'.readable≤w.readable ∧ w'.received=w.received ∧ w'.sent=w.sent:=by
  cases h with
  | refused=>exact ⟨le_rfl,rfl,rfl⟩
  | abandoned hnew hring hcreate=>
    refine ⟨?_,rfl,rfl⟩
    rw [readable]
    split
    next hreg=>exact absurd hreg hnew
    · exact Nat.zero_le _
  | registered hstarted hnew hring hcreate=>
    refine ⟨?_,rfl,rfl⟩
    rw [readable]
    split
    · exact (used_createInMemory hcreate).le.trans (Nat.zero_le _)
    · exact Nat.zero_le _

structure Short (w : ShmLink) : Prop where
  own : w.OwnRequests
  lt : framedSize w.received+w.readable<framedSize w.sent

lemma processClients_readable_le (e : Endian) (w : ShmLink) (calls : ℕ→ProcessCalls) :
    framedSize (w.processClients e calls).received+(w.processClients e calls).readable≤
      framedSize w.received+w.readable:=by
  unfold processClients
  split
  · exact le_rfl
  rename_i ring hring
  split
  next hreg=>
    have hused:=shmServerProcessClientMessages_used_le e ring calls
    have hbefore : w.readable=ring.used:=by
      rw [readable,if_pos hreg,hring]
      rfl
    rw [readable,if_pos (by exact hreg),framedSize_append,hbefore,Nat.add_assoc]
    exact Nat.add_le_add_left hused _
  · exact le_rfl

variable {i : ShmEvent} {e : Endian} {w : ShmLink}

lemma readable_step_le (hown : w.OwnRequests) (hi : i.ByServer) :
    framedSize (w.step e i).received+(w.step e i).readable≤framedSize w.received+w.readable:=by
  cases i with
  | start | send=>exact hi.elim
  | cleanup=>exact le_rfl
  | accept calls=>
    exact accept_keeps (P:=fun w'=>
        framedSize w'.received+w'.readable≤framedSize w.received+w.readable)
      le_rfl hown calls
      (fun v v' hanswer hle=>by
        obtain ⟨hreadable,hrec,-⟩:=hanswer.readable_le
        rw [hrec]
        exact (Nat.add_le_add_left hreadable _).trans hle)
      (fun _ _ _ hle=>hle)
  | process calls=>exact processClients_readable_le e w calls

lemma serverStep_frame (hown : w.OwnRequests) (hi : i.ByServer) :
    (w.step e i).OwnRequests ∧ (w.step e i).sent=w.sent:=by
  cases i with
  | start | send=>exact hi.elim
  | cleanup=>exact ⟨hown,rfl⟩
  | accept calls=>
    apply accept_keeps (P:=fun w'=>w'.OwnRequests ∧ w'.sent=w.sent) ⟨hown,rfl⟩ hown calls
    · rintro v v' hanswer ⟨hown,hsent⟩
      cases hanswer <;> exact ⟨hown,hsent⟩
    · rintro v slots hnone ⟨-,hsent⟩
      exact ⟨fun slot hmem hpending=>absurd hpending (hnone slot hmem),hsent⟩
  | process calls=>
    obtain ⟨rxRing,received,observed,heq⟩:=processClients_frame e w calls
    rw [step,heq]
    exact ⟨hown,rfl⟩

lemma Short.step (h : Short w) (hi : i.ByServer) : Short (w.step e i):=by
  obtain ⟨hown,hsent⟩:=serverStep_frame (e:=e) h.own hi
  refine ⟨hown,?_⟩
  rw [hsent]
  exact (readable_step_le h.own hi).trans_lt h.lt

lemma Short.received_ne {w : ShmLink} (h : Short w) : w.received≠w.sent:=by
  intro heq
  have hlt:=h.lt
  rw [heq] at hlt
  omega

structure Intact (e : Endian) (w : ShmLink) (unread : List Bytes) : Prop where
  own : w.OwnRequests
  started : w.Registered→w.isStarted=true
  balance : w.received++unread=w.sent
  waiting : ¬w.Registered→w.sent=[] ∧ ∀ ring, w.rxRing=some ring→
    ring.data.length=shmRingDataSize shmClientSize ∧ (ring.isValid=true→HoldsPayloads e ring [])
  serving : w.Registered→∃ ring, w.rxRing=some ring ∧ HoldsPayloads e ring unread

lemma intact_initial (e : Endian) (name : CString) (pid : Int32) :
    Intact e (initial name pid) [] where
  own slot hmem hpending:=by
    rw [eq_of_mem_replicate hmem] at hpending
    cases hpending
  started hreg:=by cases hreg
  balance:=rfl
  waiting _:=⟨rfl,fun _ hring=>by cases hring⟩
  serving hreg:=by cases hreg

lemma Intact.start {e : Endian} {w : ShmLink} {unread : List Bytes} (h : Intact e w unread) (calls : StartCalls) :
    Intact e (w.shmClientStart calls).2 unread ∧
      (w.shmClientStart calls).2.sent=w.sent ∧
      (w.shmClientStart calls).2.received=w.received:=by
  rcases w.start_cases calls with heq | ⟨hstopped,heq | ⟨ring,slots,hcreate,hslots,heq⟩⟩
  · rw [heq]
    exact ⟨h,rfl,rfl⟩
  · have hnew : ¬w.Registered:=fun hreg=>by simp [h.started hreg] at hstopped
    rw [heq]
    exact ⟨⟨h.own,h.started,h.balance,fun _=>⟨(h.waiting hnew).1,fun _ hring=>by cases hring⟩,
      fun hreg=>absurd hreg hnew⟩,rfl,rfl⟩
  · have hnew : ¬w.Registered:=fun hreg=>by simp [h.started hreg] at hstopped
    obtain ⟨hholds,hlen⟩:=HoldsPayloads.of_createInMemory e hcreate length_replicate
    rw [heq]
    refine ⟨⟨?_,fun _=>rfl,h.balance,fun _=>⟨(h.waiting hnew).1,?_⟩,fun hreg=>absurd hreg hnew⟩,rfl,rfl⟩
    · intro slot hmem hpending
      rcases mem_fillSlot hslots hmem with rfl | hold
      · exact ⟨rfl,rfl,rfl⟩
      · exact ⟨rfl,(h.own slot hold hpending).2⟩
    · intro ring' hring
      obtain rfl : ring=ring':=Option.some.inj hring
      exact ⟨hlen,fun _=>hholds⟩

/-- A send that returns OK finds the client on the list of the server and room for its
frame in the ring. -/
def SendsSafely (e : Endian) (w : ShmLink) : ShmEvent→Prop
  | .send msg bufferAllocated now=>
    (w.shmClientSend e msg bufferAllocated now).1 = .ok→
      w.Registered ∧ ∀ ring∈w.rxRing, ∀ payload∈msg.bind (shmSerialized e),
        headerSize+payload.length≤ringSpace ring.writePos ring.readPos ring.data.length
  | _=>True

namespace Intact
variable {e : Endian} {w : ShmLink} {unread : List Bytes}

section
variable (h : Intact e w unread)
include h

lemma write_failed {ring : RingBuffer} (hring : w.rxRing=some ring) {payload : Bytes}
    {now : UInt64} (hcode : (ring.write e (some payload) now).1 ≠ .ok) :
    (ring.write e (some payload) now).2=ring:=by
  have hholds : ∀ payloads, HoldsPayloads e ring payloads→
      (ring.write e (some payload) now).2=ring:=by
    intro payloads hholds
    rcases hholds.write_cases payload now with ⟨-,hwrite⟩ | ⟨ring',hwrite,-⟩
    · rw [hwrite]
    · rw [hwrite] at hcode
      exact absurd rfl hcode
  by_cases hreg : w.Registered
  · obtain ⟨ring',hring',hserving⟩:=h.serving hreg
    obtain rfl : ring=ring':=Option.some.inj (hring.symm.trans hring')
    exact hholds unread hserving
  · cases hvalid : ring.isValid with
    | true=>exact hholds [] (((h.waiting hreg).2 ring hring).2 hvalid)
    | false=>simp [RingBuffer.write,hvalid]

lemma send {msg : Option Message} {bufferAllocated : Bool} {now : UInt64}
    (hsafe : SendsSafely e w (.send msg bufferAllocated now)) :
    ∃ new, Intact e (w.shmClientSend e msg bufferAllocated now).2 (unread++new) ∧
      (w.shmClientSend e msg bufferAllocated now).2.sent=w.sent++new ∧
      (w.shmClientSend e msg bufferAllocated now).2.received=w.received:=by
  rcases w.send_cases e msg bufferAllocated now with ⟨-,heq⟩ | ⟨payload,ring,hpayload,hring,heq⟩
  · rw [heq]
    exact ⟨[],by simpa using h,by simp,rfl⟩
  by_cases hcode : (ring.write e (some payload) now).1 = .ok
  · obtain ⟨hreg,hroom⟩:=hsafe (by rw [heq]; exact hcode)
    obtain ⟨ring',hring',hserving⟩:=h.serving hreg
    obtain rfl : ring=ring':=Option.some.inj (hring.symm.trans hring')
    obtain ⟨msg,-,hser⟩:=Option.bind_eq_some_iff.1 hpayload
    rcases hserving.write_cases payload now with ⟨-,hwrite⟩ | ⟨ring',hwrite,-,hholds,-⟩
    · rw [hwrite] at hcode
      cases hcode
    · refine ⟨[payload],?_,?_,?_⟩
      · rw [heq,if_pos hcode]
        refine ⟨h.own,h.started,?_,fun hnew=>absurd hreg hnew,fun _=>?_⟩
        · rw [← append_assoc,h.balance]
        · refine ⟨ring',by rw [hwrite],hholds (hroom ring hring payload hpayload) ?_⟩
          exact length_shmSerialized_le hser
      · rw [heq,if_pos hcode]
      · rw [heq]
  · have hsame : (w.shmClientSend e msg bufferAllocated now).2=w:=by
      rw [heq,if_neg hcode,h.write_failed hring hcode]
      cases w
      cases hring
      rfl
    rw [hsame]
    exact ⟨[],by simpa using h,by simp,rfl⟩

lemma short_of_not_sendsSafely {i : ShmEvent} (hrisky : ¬SendsSafely e w i) : Short (w.step e i):=by
  cases i with
  | start | cleanup | accept | process=>exact absurd trivial hrisky
  | send msg bufferAllocated now=>
    rw [SendsSafely,Classical.not_imp] at hrisky
    obtain ⟨hcode,hrisky⟩:=hrisky
    rcases w.send_cases e msg bufferAllocated now with
      ⟨hne,-⟩ | ⟨payload,ring,hpayload,hring,heq⟩
    · exact absurd hcode hne
    rw [heq] at hcode
    rw [ShmLink.step,heq,if_pos hcode]
    refine ⟨h.own,?_⟩
    by_cases hreg : w.Registered
    · obtain ⟨ring',hring',hserving⟩:=h.serving hreg
      obtain rfl : ring=ring':=Option.some.inj (hring.symm.trans hring')
      rcases hserving.write_cases payload now with ⟨-,hwrite⟩ | ⟨ring',hwrite,-,-,hused⟩
      · rw [hwrite] at hcode
        cases hcode
      have hfull : ringSpace ring.writePos ring.readPos ring.data.length<
          headerSize+payload.length:=by
        by_contra hroom
        refine hrisky ⟨hreg,fun ring' hmem payload' hmem'=>?_⟩
        obtain rfl : ring=ring':=Option.some.inj (hring.symm.trans hmem)
        obtain rfl : payload=payload':=Option.some.inj (hpayload.symm.trans hmem')
        exact Nat.not_lt.1 hroom
      have hlt:=hused hfull
      rw [readable,if_pos (by exact hreg),hwrite]
      change framedSize w.received+ring'.used<framedSize (w.sent++[payload])
      rw [← h.balance,append_assoc,framedSize_append]
      omega
    · have hnone:=(h.waiting hreg).1
      have hrec : w.received=[]:=(append_eq_nil_iff.1 (h.balance.trans hnone)).1
      rw [readable,if_neg (by exact hreg)]
      change framedSize w.received+0<framedSize (w.sent++[payload])
      rw [hnone,hrec,nil_append,framedSize_cons,framedSize_nil,headerSize]
      omega

lemma answered {w' : ShmLink} (hanswer : Answered w w') :
    Intact e w' unread ∧ w'.sent=w.sent ∧ w'.received=w.received:=by
  cases hanswer with
  | refused=>exact ⟨h,rfl,rfl⟩
  | abandoned hnew hring hcreate=>
    obtain ⟨hnone,hmemory⟩:=h.waiting hnew
    obtain ⟨-,hlen⟩:=HoldsPayloads.of_createInMemory e hcreate (hmemory _ hring).1
    refine ⟨⟨h.own,h.started,h.balance,fun _=>⟨hnone,?_⟩, fun hreg=>absurd hreg hnew⟩,rfl,rfl⟩
    intro ring' hring'
    cases hring'
    exact ⟨hlen,fun hvalid=>by rw [isValid_destroy] at hvalid; cases hvalid⟩
  | registered hstarted hnew hring hcreate=>
    obtain ⟨hnone,hmemory⟩:=h.waiting hnew
    obtain ⟨hholds,-⟩:=HoldsPayloads.of_createInMemory e hcreate (hmemory _ hring).1
    obtain rfl : unread=[]:=(append_eq_nil_iff.1 (h.balance.trans hnone)).2
    exact ⟨⟨h.own,fun _=>hstarted,h.balance,fun hnot=>absurd (mem_append_right _ mem_cons_self) hnot,
      fun _=>⟨_,rfl,hholds⟩⟩,rfl,rfl⟩

lemma accept (calls : ℕ→AcceptCalls) :
    Intact e (w.shmServerAcceptNewClients calls) unread ∧
      (w.shmServerAcceptNewClients calls).sent=w.sent ∧
      (w.shmServerAcceptNewClients calls).received=w.received:=by
  apply accept_keeps (P:=fun w'=>Intact e w' unread ∧ w'.sent=w.sent ∧
    w'.received=w.received) ⟨h,rfl,rfl⟩ h.own calls
  · rintro v v' hanswer ⟨hv,hsent,hrec⟩
    obtain ⟨hv',hsent',hrec'⟩:=hv.answered hanswer
    exact ⟨hv',hsent'.trans hsent,hrec'.trans hrec⟩
  · rintro v slots hnone ⟨hv,hsent,hrec⟩
    exact ⟨⟨fun slot hmem hpending=>absurd hpending (hnone slot hmem),hv.started,hv.balance,hv.waiting,hv.serving⟩,hsent,hrec⟩

lemma process (calls : ℕ→ProcessCalls) :
    ∃ k, Intact e (w.processClients e calls) (unread.drop k) ∧
      (w.processClients e calls).sent=w.sent ∧
      (w.processClients e calls).received=w.received++unread.take k ∧
      ((calls 0).bufferAllocated=true → 0<k):=by
  by_cases hreg : w.Registered
  · obtain ⟨ring,hring,hserving⟩:=h.serving hreg
    obtain ⟨k,htaken,hrest,hpos⟩:=hserving.processClientMessages calls
    refine ⟨k,?_,?_,?_,hpos⟩
    · rw [processClients,hring]
      dsimp only
      rw [if_pos hreg]
      refine ⟨h.own,h.started,?_,fun hnew=>absurd hreg hnew,fun _=>⟨_,rfl,hrest⟩⟩
      dsimp only
      rw [htaken,append_assoc,take_append_drop,h.balance]
    · rw [processClients,hring]
      dsimp only
      rw [if_pos hreg]
    · rw [processClients,hring]
      dsimp only
      rw [if_pos hreg,← htaken]
  · have hsame : w.processClients e calls=w:=by
      unfold processClients
      split
      · rfl
      · exact if_neg hreg
    obtain rfl : unread=[]:=(append_eq_nil_iff.1 (h.balance.trans (h.waiting hreg).1)).2
    rw [hsame]
    exact ⟨1,h,rfl,by simp,fun _=>Nat.one_pos⟩

lemma step {i : ShmEvent} (hsafe : SendsSafely e w i) :
    (∃ unread', Intact e (w.step e i) unread') ∧ w.sent <+: (w.step e i).sent ∧
      w.received <+: (w.step e i).received ∧
      (i.TakesMessage→w.received.length<w.sent.length→w.received.length<(w.step e i).received.length):=by
  cases i with
  | start calls=>
    obtain ⟨hnext,hsent,hrec⟩:=h.start calls
    exact ⟨⟨_,hnext⟩,hsent ▸ prefix_rfl,hrec ▸ prefix_rfl,False.elim⟩
  | send msg bufferAllocated now=>
    obtain ⟨new,hnext,hsent,hrec⟩:=h.send hsafe
    exact ⟨⟨_,hnext⟩,hsent ▸ prefix_append _ _,hrec ▸ prefix_rfl,False.elim⟩
  | cleanup=>
    exact ⟨⟨unread,h.own,h.started,h.balance,h.waiting,h.serving⟩,prefix_rfl, prefix_rfl,False.elim⟩
  | accept calls=>
    obtain ⟨hnext,hsent,hrec⟩:=h.accept calls
    exact ⟨⟨_,hnext⟩,hsent ▸ prefix_rfl,hrec ▸ prefix_rfl,False.elim⟩
  | process calls=>
    obtain ⟨k,hnext,hsent,hrec,hpos⟩:=h.process calls
    refine ⟨⟨_,hnext⟩,hsent ▸ prefix_rfl,hrec ▸ prefix_append _ _,?_⟩
    intro hbuffer hbehind
    have hk:=hpos hbuffer
    have hlen:=congrArg length h.balance
    rw [length_append] at hlen
    rw [ShmLink.step,hrec,length_append,length_take]
    omega

end
end Intact

/-- The server keeps accepting clients and processing messages. -/
structure KeepsProcessing (schedule : ℕ→ShmEvent) : Prop where
  accepts : ∀ n, ∃ m, n ≤ m ∧ ∃ calls, schedule m = .accept calls
  processes : ∀ n, ∃ m, n ≤ m ∧ (schedule m).TakesMessage

/-- Once the client pauses, what the server has read becomes what was sent. -/
def Delivered (e : Endian) (w : ShmLink) : Prop:=
  ∀ schedule : ℕ→ShmEvent, (∀ n, (schedule n).ByServer)→KeepsProcessing schedule→
    ∃ n, ∀ m, n ≤ m→(stateAt (step e) w schedule m).received=w.sent

section
variable {e : Endian} {w : ShmLink} {schedule : ℕ→ShmEvent}

lemma sendsSafely_of_byServer {i : ShmEvent} (hi : i.ByServer) : SendsSafely e w i:=by
  cases i with
  | send msg bufferAllocated now=>exact hi.elim
  | start | cleanup | accept | process=>exact trivial

section
variable (hw : ∃ unread, Intact e w unread)
include hw

section
variable (hsafe : ∀ n, SendsSafely e (stateAt (step e) w schedule n) (schedule n))
include hsafe

lemma intact_stateAt (n : ℕ) : ∃ unread, Intact e (stateAt (step e) w schedule n) unread:=by
  induction n with
  | zero=>exact hw
  | succ n ih=>
    obtain ⟨unread,h⟩:=ih
    exact (h.step (hsafe n)).1

lemma prefix_stateAt {n m : ℕ} (hnm : n ≤ m) :
    (stateAt (step e) w schedule n).sent <+: (stateAt (step e) w schedule m).sent ∧
      (stateAt (step e) w schedule n).received <+: (stateAt (step e) w schedule m).received:=by
  induction m, hnm using Nat.le_induction with
  | base=>exact ⟨prefix_rfl,prefix_rfl⟩
  | succ m hnm ih=>
    obtain ⟨unread,h⟩:=intact_stateAt hw hsafe m
    obtain ⟨-,hsent,hrec,-⟩:=h.step (hsafe m)
    exact ⟨ih.1.trans hsent,ih.2.trans hrec⟩

lemma exists_length_received (hserve : KeepsProcessing schedule) (n : ℕ) {count : ℕ}
    (hcount : count≤(stateAt (step e) w schedule n).sent.length) :
    ∃ m, n ≤ m ∧ count≤(stateAt (step e) w schedule m).received.length:=by
  induction count with
  | zero=>exact ⟨n,le_rfl,Nat.zero_le _⟩
  | succ count ih=>
    obtain ⟨m,hnm,hm⟩:=ih (Nat.le_of_succ_le hcount)
    obtain ⟨k,hmk,htakes⟩:=hserve.processes m
    have hread:=(prefix_stateAt hw hsafe hmk).2.length_le
    have hsent:=(prefix_stateAt hw hsafe (hnm.trans hmk)).1.length_le
    obtain ⟨unread,h⟩:=intact_stateAt hw hsafe k
    obtain ⟨-,-,hkept,hnext⟩:=h.step (hsafe k)
    refine ⟨k+1,(hnm.trans hmk).trans k.le_succ,?_⟩
    rw [stateAt_succ]
    by_cases hbehind : (stateAt (step e) w schedule k).received.length<
        (stateAt (step e) w schedule k).sent.length
    · have:=hnext htakes hbehind
      omega
    · have:=hkept.length_le
      omega

lemma exists_sent_beginning (hserve : KeepsProcessing schedule) (n : ℕ) :
    (stateAt (step e) w schedule n).received <+: (stateAt (step e) w schedule n).sent ∧
      ∃ m, n ≤ m ∧ (stateAt (step e) w schedule n).sent <+: (stateAt (step e) w schedule m).received:=by
  have hbegins : ∀ m, (stateAt (step e) w schedule m).received <+:
      (stateAt (step e) w schedule m).sent:=by
    intro m
    obtain ⟨unread,h⟩:=intact_stateAt hw hsafe m
    exact ⟨unread,h.balance⟩
  obtain ⟨m,hnm,hlen⟩:=exists_length_received hw hsafe hserve n le_rfl
  exact ⟨hbegins n,m,hnm,prefix_of_prefix_length_le (prefix_stateAt hw hsafe hnm).1 (hbegins m) hlen⟩

end
end

lemma sent_stateAt (hown : w.OwnRequests) (hserver : ∀ n, (schedule n).ByServer) (n : ℕ) :
    (stateAt (step e) w schedule n).OwnRequests ∧ (stateAt (step e) w schedule n).sent=w.sent:=by
  induction n with
  | zero=>exact ⟨hown,rfl⟩
  | succ n ih=>
    obtain ⟨hnext,hsent⟩:=serverStep_frame (e:=e) ih.1 (hserver n)
    exact ⟨hnext,hsent.trans ih.2⟩

lemma Intact.delivered {unread : List Bytes} (h : Intact e w unread) : Delivered e w:=by
  intro schedule hserver hserve
  have hsafe : ∀ n, SendsSafely e (stateAt (ShmLink.step e) w schedule n) (schedule n):=
    fun n=>sendsSafely_of_byServer (hserver n)
  obtain ⟨-,n,-,hn⟩:=exists_sent_beginning ⟨unread,h⟩ hsafe hserve 0
  refine ⟨n,fun m hnm=>?_⟩
  have hread:=(prefix_stateAt ⟨unread,h⟩ hsafe hnm).2
  have hsent:=(exists_sent_beginning ⟨unread,h⟩ hsafe hserve m).1
  rw [(sent_stateAt h.own hserver m).2] at hsent
  exact hsent.eq_of_length_le (hn.trans hread).length_le

lemma Short.stateAt (h : Short w) (hserver : ∀ n, (schedule n).ByServer) (n : ℕ) :
    Short (stateAt (ShmLink.step e) w schedule n):=by
  induction n with
  | zero=>exact h
  | succ n ih=>exact ih.step (hserver n)

def readyAccept : AcceptCalls:=⟨⟨.found,true⟩,true,true,true,true,true,true,.ok⟩

def alternating (n : ℕ) : ShmEvent:=
  if n % 2=0 then .accept fun _=>readyAccept
  else .process fun _=>⟨true,fun _=>true,0,true⟩

lemma byServer_alternating (n : ℕ) : (alternating n).ByServer:=by
  unfold alternating
  split
  · exact trivial
  · exact trivial

lemma keepsProcessing_alternating : KeepsProcessing alternating where
  accepts n:=⟨2*n,by omega,_,if_pos (by omega)⟩
  processes n:=⟨2*n+1,by omega,by
    rw [alternating,if_neg (by omega)]
    exact rfl⟩

lemma Short.not_delivered (h : Short w) : ¬Delivered e w:=by
  intro hdel
  obtain ⟨n,hn⟩:=hdel alternating byServer_alternating keepsProcessing_alternating
  have hshort:=h.stateAt (e:=e) byServer_alternating n
  apply hshort.received_ne
  rw [hn n le_rfl,(sent_stateAt h.own byServer_alternating n).2]

lemma delivered_step_iff (hw : ∃ unread, Intact e w unread) (i : ShmEvent) :
    Delivered e (w.step e i) ↔ SendsSafely e w i:=by
  obtain ⟨unread,h⟩:=hw
  constructor
  · intro hdel
    by_contra hrisky
    exact (h.short_of_not_sendsSafely hrisky).not_delivered hdel
  · intro hsafe
    obtain ⟨⟨unread',hnext⟩,-⟩:=h.step hsafe
    exact hnext.delivered

end

/-- Everything sent is read once and in order exactly when every send comes after the acceptance and
finds room. -/
theorem run_delivered_iff (e : Endian) (name : CString) (pid : Int32) :
    (∀ events : List ShmEvent,
      Along (step e) (fun w i=>Delivered e (w.step e i)) (initial name pid) events ↔
        Along (step e) (SendsSafely e) (initial name pid) events) ∧
    ∀ schedule : ℕ→ShmEvent, KeepsProcessing schedule→
      (∀ n, SendsSafely e (stateAt (step e) (initial name pid) schedule n) (schedule n))→
      ∀ n, (stateAt (step e) (initial name pid) schedule n).received <+:
          (stateAt (step e) (initial name pid) schedule n).sent ∧
        ∃ m, n ≤ m ∧ (stateAt (step e) (initial name pid) schedule n).sent <+:
          (stateAt (step e) (initial name pid) schedule m).received:=by
  have hinitial : ∃ unread, Intact e (initial name pid) unread:=⟨[],intact_initial e name pid⟩
  constructor
  · intro events
    apply along_iff_of_invariant (fun w=>∃ unread, Intact e w unread)
    · rintro w i ⟨unread,h⟩ hsafe
      exact (h.step hsafe).1
    · exact fun w i hw=>delivered_step_iff hw i
    · exact hinitial
  · exact fun schedule hserve hsafe=>exists_sent_beginning hinitial hsafe hserve

def readyStart : StartCalls:=⟨true,true,true,true,true,true,true,⟨.found,true⟩,true⟩

/-- A client called `c`. -/
def sampleLink : ShmLink:=initial ⟨[99],by decide⟩ 1

lemma initial_eq_sampleLink : initial ⟨[99],by decide⟩ 1=sampleLink:=rfl

def sampleRequest : Registration:=⟨.pending,sampleLink.name,sampleLink.pid,shmGenerateKey sampleLink.name sampleLink.pid⟩

def startedLink (ring : RingBuffer) (sent : List Bytes) : ShmLink:=
  {sampleLink with
    isStarted:=true
    rxRing:=some ring
    slots:=sampleRequest::replicate 15 .cleared
    clientCount:=1
    sent:=sent}

lemma start_sampleLink : ∃ ring,
    sampleLink.shmClientStart readyStart=(.ok,startedLink ring []) ∧
      HoldsPayloads .little ring [] ∧ ring.data.length=shmRingDataSize shmClientSize:=by
  have hlen : (replicate (shmRingDataSize shmClientSize) (0 : UInt8)).length=
      shmRingDataSize shmClientSize:=length_replicate
  obtain ⟨ring,hcreate,hholds,hdata⟩:=HoldsPayloads.exists_createInMemory .little hlen
  have hvalid : sampleLink.shmValidateClientRegistration sampleLink.name sampleLink.pid
      (shmGenerateKey sampleLink.name sampleLink.pid) ⟨.found,true⟩ = .ok:=by decide
  have hslots : fillSlot sampleRequest sampleLink.slots=some (sampleRequest::replicate 15 .cleared):=by rfl
  have hrequest : sampleLink.shmRequestClientRegistration ⟨.found,true⟩ true=
      some {sampleLink with
        slots:=sampleRequest::replicate 15 .cleared
        clientCount:=1}:=by
    rw [shmRequestClientRegistration]
    dsimp only
    rw [hvalid,if_neg (by simp),if_neg (by simp),← sampleRequest,hslots]
    rfl
  have hregister : sampleLink.clientRegisterWithServer readyStart=(.ok, {sampleLink with
      rxRing:=some ring
      slots:=sampleRequest::replicate 15 .cleared
      clientCount:=1}):=by simp [clientRegisterWithServer,readyStart,hcreate,hrequest]
  refine ⟨ring,?_,hholds,hdata⟩
  rw [shmClientStart,if_neg (by decide),if_neg (by decide),hregister]
  rfl

lemma acceptSlots_of_ne_pending (w : ShmLink) (calls : ℕ→AcceptCalls)
    {slots : List Registration} (h : ∀ slot∈slots, slot.status ≠ .pending) :
    w.acceptSlots calls slots=(slots,w):=by
  induction slots generalizing calls with
  | nil=>rfl
  | cons slot slots ih=>
    rw [acceptSlots,if_neg (h slot mem_cons_self)]
    dsimp only
    rw [ih _ fun slot hmem=>h slot (mem_cons_of_mem _ hmem)]

variable {ring : RingBuffer}

lemma request_of_ready {w : ShmLink} {request : Registration} {ring' : RingBuffer}
    (hnew : ⟨request.clientName,request.clientPid⟩∉w.clients)
    (hvalid : w.shmValidateClientRegistration request.clientName request.clientPid
      request.clientShmKey ⟨.found,true⟩ = .ok) (hring : w.rxRing=some ring)
    (hcreate : createInMemory ring.data true=some ring') :
    w.shmValidateAndRegisterClient request readyAccept=(.ok, .cleared, {w with
      rxRing:=some ring'
      clients:=w.clients++[⟨request.clientName,request.clientPid⟩]
      clientCount:=w.clients.length+1}):=by
  have hcalls : readyAccept.validation=⟨.found,true⟩:=rfl
  rw [shmValidateAndRegisterClient,if_neg hnew,hcalls,hvalid]
  simp [registerSegment,readyAccept,hring,hcreate]

def acceptedLink (ring : RingBuffer) (sent : List Bytes) : ShmLink:=
  {startedLink ring sent with
    slots:=replicate 16 .cleared
    clients:=[⟨sampleLink.name,sampleLink.pid⟩]}

lemma accept_startedLink (hlen : ring.data.length=shmRingDataSize shmClientSize) (sent : List Bytes) :
    ∃ ring', (startedLink ring sent).shmServerAcceptNewClients (fun _=>readyAccept)=
        acceptedLink ring' sent ∧ HoldsPayloads .little ring' [] ∧
      ring'.data.length=shmRingDataSize shmClientSize:=by
  obtain ⟨ring',hcreate,hholds,hdata⟩:=HoldsPayloads.exists_createInMemory .little hlen
  have hvalid : (startedLink ring sent).shmValidateClientRegistration sampleRequest.clientName
      sampleRequest.clientPid sampleRequest.clientShmKey ⟨.found,true⟩ = .ok:=by
    change {sampleLink with clientCount:=1}.shmValidateClientRegistration _ _ _ _ = .ok
    decide
  have hanswer:=request_of_ready (w:=startedLink ring sent) not_mem_nil hvalid rfl hcreate
  have hcleared : ∀ slot∈replicate 15 Registration.cleared, slot.status ≠ .pending:=by
    intro slot hmem
    rw [eq_of_mem_replicate hmem]
    exact RegistrationStatus.noConfusion
  have hslots : (startedLink ring sent).acceptSlots (fun _=>readyAccept)
      (startedLink ring sent).slots=(replicate 16 .cleared, {startedLink ring' sent with
        clients:=[⟨sampleLink.name,sampleLink.pid⟩]}):=by
    change (startedLink ring sent).acceptSlots _ (sampleRequest::replicate 15 .cleared)=_
    rw [acceptSlots,if_pos (show sampleRequest.status = .pending from rfl),hanswer]
    dsimp only
    rw [acceptSlots_of_ne_pending _ _ hcleared]
    rfl
  have hcap : ¬(startedLink ring sent).maxClients≤(startedLink ring sent).clientCount:=show ¬shmMaxClients≤1 by decide
  refine ⟨ring',?_,hholds,hdata⟩
  rw [shmServerAcceptNewClients,if_neg hcap,hslots]
  rfl

lemma write_samplePublication (h : HoldsPayloads .little ring [])
    (hlen : ring.data.length=shmRingDataSize shmClientSize) :
    ∃ ring', ring.write .little (some samplePublication.wire) 0=(.ok,ring') ∧
      ring'.data.length=shmRingDataSize shmClientSize:=by
  have hsize : samplePublication.wire.length=109:=by decide
  have hdata : shmRingDataSize shmClientSize=2098960:=by decide
  rcases h.write_cases samplePublication.wire 0 with ⟨hparam,-⟩ | ⟨ring',hwrite,hlen',-⟩
  · rw [hsize,hlen,hdata] at hparam
    exact absurd hparam (by decide)
  · exact ⟨ring',hwrite,hlen'.trans hlen⟩

lemma send_of_write {e : Endian} {w : ShmLink} {ring' : RingBuffer} {msg : Message}
    {payload : Bytes} {now : UInt64} (hstarted : w.isStarted=true)
    (hring : w.rxRing=some ring) (hpayload : shmSerialized e msg=some payload)
    (hwrite : ring.write e (some payload) now=(.ok,ring')) :
    w.shmClientSend e (some msg) true now=(.ok,{w with rxRing:=some ring', sent:=w.sent++[payload]}):=by
  simp [shmClientSend,hstarted,hring,hpayload,hwrite]

lemma shmSerialized_samplePublication :
    shmSerialized .little samplePublication=some samplePublication.wire:=
  shmSerialized_eq .little (by decide) (by
    have hreq : calculateRequiredBufferSize samplePublication=109:=by decide
    rw [hreq,maxTransportBufferSize]
    omega)

/-- A publication sent before the acceptance is lost. -/
theorem acceptance_discards_publication :
    let w:=sampleLink.step .little (.start readyStart)
    (w.shmClientSend .little (some samplePublication) true 0).1 = .ok ∧
      ((w.step .little (.send (some samplePublication) true 0)).step .little (.accept fun _=>readyAccept)).Registered ∧
      ¬Along (step .little) (fun w i=>Delivered .little (w.step .little i)) sampleLink
        [.start readyStart,.send (some samplePublication) true 0]:=by
  obtain ⟨ring,hstart,hholds,hlen⟩:=start_sampleLink
  obtain ⟨written,hwrite,hlen'⟩:=write_samplePublication hholds hlen
  obtain ⟨ring',haccept,-⟩:=accept_startedLink hlen' [samplePublication.wire]
  have hstarted : sampleLink.step .little (.start readyStart)=startedLink ring []:=by rw [step,hstart]
  have hsend : (startedLink ring []).shmClientSend .little (some samplePublication) true 0=
      (.ok,startedLink written [samplePublication.wire]):=
    send_of_write rfl rfl shmSerialized_samplePublication hwrite
  dsimp only
  rw [hstarted]
  refine ⟨by rw [hsend],?_,?_⟩
  · rw [step,hsend]
    dsimp only
    rw [step,haccept]
    exact mem_cons_self
  · rintro ⟨-,hdelivered,-⟩
    rw [hstarted] at hdelivered
    have hintact : ∃ unread, Intact .little (startedLink ring []) unread:=by
      have hinitial:=intact_initial .little ⟨[99],by decide⟩ 1
      rw [initial_eq_sampleLink] at hinitial
      have hnext:=(hinitial.start readyStart).1
      rw [hstart] at hnext
      exact ⟨[],hnext⟩
    have hsafe:=(delivered_step_iff hintact _).1 hdelivered
    exact not_mem_nil (hsafe (by rw [hsend])).1

/-- The client sends a publication; the server accepts and processes in turn. -/
def sampleSchedule : ℕ→ShmEvent
  | 0=>.start readyStart
  | 1=>.accept fun _=>readyAccept
  | 2=>.send (some samplePublication) true 0
  | n+3=>alternating n

lemma keepsProcessing_sampleSchedule : KeepsProcessing sampleSchedule where
  accepts n:=by
    obtain ⟨m,hm,hevent⟩:=keepsProcessing_alternating.accepts n
    exact ⟨m+3,by omega,hevent⟩
  processes n:=by
    obtain ⟨m,hm,hevent⟩:=keepsProcessing_alternating.processes n
    exact ⟨m+3,by omega,hevent⟩

lemma sampleSchedule_safe : ∃ ring,
    stateAt (step .little) sampleLink sampleSchedule 3=acceptedLink ring [samplePublication.wire] ∧
    ∀ n, SendsSafely .little (stateAt (step .little) sampleLink sampleSchedule n) (sampleSchedule n):=by
  obtain ⟨ring,hstart,-,hlen⟩:=start_sampleLink
  obtain ⟨ring',hacc,hholds,hlen'⟩:=accept_startedLink hlen []
  obtain ⟨written,hwrite,-⟩:=write_samplePublication hholds hlen'
  have hsend : (acceptedLink ring' []).shmClientSend .little (some samplePublication) true 0=
      (.ok,acceptedLink written [samplePublication.wire]):=
    send_of_write rfl rfl shmSerialized_samplePublication hwrite
  have htwo : stateAt (step .little) sampleLink sampleSchedule 2=acceptedLink ring' []:=by
    rw [stateAt_succ,stateAt_succ,stateAt_zero,sampleSchedule,sampleSchedule,step,hstart, step]
    exact hacc
  refine ⟨written,?_,?_⟩
  · rw [stateAt_succ,htwo,sampleSchedule,step,hsend]
  · intro n
    match n with
    | 0=>exact trivial
    | 1=>exact trivial
    | 2=>
      rw [htwo]
      refine fun _=>⟨mem_cons_self,fun ring hring payload hpayload=>?_⟩
      obtain rfl : ring'=ring:=Option.some.inj hring
      rw [Option.bind_some,shmSerialized_samplePublication] at hpayload
      obtain rfl : samplePublication.wire=payload:=Option.some.inj hpayload
      have hsize : samplePublication.wire.length=109:=by decide
      have hdata : shmRingDataSize shmClientSize=2098960:=by decide
      rw [hholds.ringSpace_eq,hlen',hsize,hdata,headerSize,framedSize_nil]
      omega
    | n+3=>exact sendsSafely_of_byServer (byServer_alternating n)

/-- The publication of an accepted client arrives. -/
theorem run_delivered_accepted : ∃ m, samplePublication.wire ∈
    (stateAt (step .little) sampleLink sampleSchedule m).received:=by
  obtain ⟨ring,hthree,hsafe⟩:=sampleSchedule_safe
  have hrun:=(run_delivered_iff .little ⟨[99],by decide⟩ 1).2 sampleSchedule keepsProcessing_sampleSchedule
  rw [initial_eq_sampleLink] at hrun
  obtain ⟨-,m,-,hm⟩:=hrun hsafe 3
  refine ⟨m,hm.subset ?_⟩
  rw [hthree]
  exact mem_cons_self

end ShmLink
end SoftMessageBus
