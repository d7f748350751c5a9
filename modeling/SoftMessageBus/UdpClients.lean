import SoftMessageBus.CString
import SoftMessageBus.StepRuns

/-!
# The clients of a UDP server

Where a unicast by name goes after the datagrams that the server has received.
-/
namespace SoftMessageBus
open List StepRuns Function

structure UdpConsumer (α : Type*) where
  name : CString
  addr : α

/-- The list of the clients, and the source of the last datagram under each name. -/
structure UdpServer (α : Type*) where
  clients : List (UdpConsumer α)
  latest : CString→Option α

/-- A datagram, with whether a consumer can be allocated for its sender. The server reads the
sender up to its terminator, which has to be in the field. -/
structure UdpDatagram (α : Type*) where
  sender : List.Vector UInt8 32
  terminated : 0∈sender.toList
  source : α
  allocated : Bool

def maxTransportConsumerSize : ℕ:=1024

namespace UdpServer
variable {α : Type*}

def initial : UdpServer α:=⟨[],fun _=>none⟩

section
variable (s : UdpServer α)

section
variable (name : CString)

def consumerFindByName : Option (UdpConsumer α):=s.clients.find? fun c=>c.name=name

/-- `zoo_smb_create_consumer`. -/
def createConsumer (addr : α) (allocated : Bool) : Option (UdpConsumer α):=
  if name.bytes=[] ∨ allocated=false then none else some ⟨name.truncate 63,addr⟩

/-- `zoo_smb_create_consumer_and_insert`. -/
def createConsumerAndInsert (addr : α) (allocated : Bool) : List (UdpConsumer α):=
  match createConsumer name addr allocated with
  | none=>s.clients
  | some c=>if s.clients.length < maxTransportConsumerSize then s.clients++[c] else s.clients

def udpRegisterClient (d : UdpDatagram α) : UdpServer α where
  clients:=
    if (s.consumerFindByName (CString.ofArray d.sender)).isSome then s.clients
    else s.createConsumerAndInsert (CString.ofArray d.sender) d.source d.allocated
  latest:=Function.update s.latest (CString.ofArray d.sender) (some d.source)

/-- The address that `udp_send_unicast_by_name` sends to. -/
def udpSendUnicastByName : Option α:=(s.consumerFindByName name).map UdpConsumer.addr

end

/-- A unicast goes to the source of the last datagram received under the name. -/
def Follows : Prop:=∀ name, s.udpSendUnicastByName name=s.latest name

/-- A known sender has kept its address, and a new one can be registered. -/
def Stays (d : UdpDatagram α) : Prop:=
  match s.consumerFindByName (CString.ofArray d.sender) with
  | some c=>c.addr=d.source
  | none=>(CString.ofArray d.sender).bytes≠[] ∧ d.allocated=true ∧
      s.clients.length < maxTransportConsumerSize

end

lemma truncate_sender (d : UdpDatagram α) :
    (CString.ofArray d.sender).truncate 63=CString.ofArray d.sender:=by
  refine CString.truncate_eq_self ((takeWhile_sublist _).length_le.trans ?_)
  rw [List.Vector.toList_length]
  decide

variable {s : UdpServer α} {d : UdpDatagram α}

lemma createConsumerAndInsert_eq : s.createConsumerAndInsert (CString.ofArray d.sender) d.source
      d.allocated=if (CString.ofArray d.sender).bytes≠[] ∧ d.allocated=true ∧ s.clients.length < maxTransportConsumerSize
      then s.clients++[⟨CString.ofArray d.sender,d.source⟩] else s.clients:=by
  rw [createConsumerAndInsert,createConsumer,truncate_sender]
  by_cases hname : (CString.ofArray d.sender).bytes=[]
  · simp [hname]
  · cases halloc : d.allocated <;> simp [hname]

lemma Follows.register_iff (h : s.Follows) : (s.udpRegisterClient d).Follows ↔ s.Stays d:=by
  have hother {clients : List (UdpConsumer α)} : Follows ⟨clients,Function.update s.latest
      (CString.ofArray d.sender) (some d.source)⟩ ↔
      ((clients.find? fun c=>c.name=CString.ofArray d.sender).map UdpConsumer.addr=
        some d.source ∧ ∀ name, name≠CString.ofArray d.sender→
        (clients.find? fun c=>c.name=name).map UdpConsumer.addr=s.latest name):=by
    constructor
    · intro hfollows
      refine ⟨(hfollows _).trans (update_self ..),fun name hne=>?_⟩
      exact (hfollows name).trans (update_of_ne hne ..)
    · rintro ⟨hself,hrest⟩ name
      change _=Function.update s.latest _ _ name
      by_cases hname : name=CString.ofArray d.sender
      · rw [hname,update_self]
        exact hself
      · rw [update_of_ne hname]
        exact hrest name hname
  rw [udpRegisterClient,hother,Stays]
  cases hfind : s.consumerFindByName (CString.ofArray d.sender) with
  | some c=>
    rw [Option.isSome_some,if_pos rfl]
    refine (and_iff_left fun name _=>h name).trans ?_
    rw [← consumerFindByName,hfind,Option.map_some,Option.some_inj]
  | none=>
    rw [Option.isSome_none,if_neg Bool.false_ne_true,createConsumerAndInsert_eq]
    split
    next hroom=>
      refine iff_of_true ⟨?_,fun name hne=>?_⟩ hroom
      · rw [find?_append,← consumerFindByName,hfind]
        simp
      · rw [find?_append,find?_singleton,if_neg (by simpa using Ne.symm hne),Option.or_none]
        exact h name
    next hroom=>
      refine iff_of_false (fun hfollows=>?_) hroom
      rw [← consumerFindByName,hfind] at hfollows
      cases hfollows.1

/-- The server follows its senders exactly as long as none of them moves. -/
theorem unicast_follows_iff (datagrams : List (UdpDatagram α)) :
    Along udpRegisterClient (fun s d=>(s.udpRegisterClient d).Follows) initial datagrams ↔
      Along udpRegisterClient Stays initial datagrams:=
  along_iff_of_invariant Follows (fun _ _ h hstays=>h.register_iff.2 hstays)
    (fun _ _ h=>h.register_iff) (fun _=>rfl) datagrams

theorem unicast_not_follows :
    ¬Along udpRegisterClient (fun s d=>(s.udpRegisterClient d).Follows) (initial (α:=ℕ))
      [⟨97 ::ᵥ .replicate 31 0,by decide,1,true⟩,⟨97 ::ᵥ .replicate 31 0,by decide,2,true⟩]:=by
  rintro ⟨-,hfollows,-⟩
  exact absurd (hfollows (CString.ofMemory [97])) (by decide)

end UdpServer
end SoftMessageBus
