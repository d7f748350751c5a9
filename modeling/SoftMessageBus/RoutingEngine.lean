import SoftMessageBus.ProtocolCodec
import SoftMessageBus.RuleManager
import SoftMessageBus.TransportObserver

/-!
# Ingress and dispatch of messages

A message is checked, copied and queued, and later given to the observers.
-/
namespace SoftMessageBus

/-- `ZOO_SMB_NODE_OBSERVER_STRUCT`. -/
structure NodeObserver where
  id : UInt32
  msgType : MsgType
  handler : Option ℕ
  usrData : ℕ
  deriving DecidableEq

structure IngressConfig where
  requireSenderIdentity : Bool
  enforceEncryptedMessages : Bool
  maxTimeout : ℤ

def msgFlagEncrypt : UInt16:=0x02

/-- What `handle_transport_incoming_data` finds in its surroundings. -/
structure IngressEnvironment where
  isRunning : Bool
  config : Option IngressConfig
  transportBufferSize : Option ℕ
  now : ℤ
  inFlight : ℕ
  highWatermark : ℕ
  alloc : ℕ→Bool
  queueAccepts : Bool

/-- `ZOO_SMB_INGRESS_DROP_REASON_ENUM`, and the case of an engine that is not running. -/
inductive IngressDrop where
  | notRunning | invalidHeader | securityPolicy | backpressure | invalidParam | queueFull
  deriving DecidableEq

def copyMessage (alloc : ℕ→Bool) (message : Message) : Option Message:=
  if message.header.payloadSize.toNat=0 then
    some (.withoutPayload message.header)
  else match hpayload : message.payload with
    | none=>none
    | some bs=>
      if alloc message.header.payloadSize.toNat then
        some ⟨message.header,some (bs.take message.header.payloadSize.toNat),by
          have hle:=message.payload_le bs hpayload
          simp [hle]⟩
      else none

section
variable {alloc : ℕ→Bool} {message copy : Message} (h : copyMessage alloc message=some copy)
include alloc h

lemma header_copyMessage : copy.header=message.header:=by
  unfold copyMessage at h
  split at h
  · cases h
    rfl
  · split at h
    · cases h
    · split at h
      · cases h
        rfl
      · cases h

lemma payloadBytes_copyMessage : copy.payloadBytes=message.payloadBytes:=by
  unfold copyMessage at h
  split at h
  next hzero=>
    cases h
    simp [Message.payloadBytes,Message.withoutPayload,hzero]
  · split at h
    · cases h
    next bs hpayload=>
      split at h
      · cases h
        simp [Message.payloadBytes,hpayload]
      · cases h

end
section
variable (env : IngressEnvironment)

def IngressEnvironment.isStale (config : IngressConfig) (header : MessageHeader) : Bool:=
  decide (0<config.maxTimeout) && decide (0<header.timestamp) && decide (0≤env.now) &&
    decide ((header.timestamp.toNat : ℤ)<env.now) &&
    decide (config.maxTimeout<env.now-header.timestamp.toNat)

/-- The reason for which `handle_transport_incoming_data` drops a message, if any. -/
def IngressEnvironment.check (header : MessageHeader) : Option IngressDrop:=
  if !env.isRunning then some .notRunning
  else if !isHeaderValid env.transportBufferSize header then some .invalidHeader
  else if env.config.any fun config=>
      config.requireSenderIdentity && header.sender.head == 0 then some .securityPolicy
  else if env.config.any fun config=>
      config.enforceEncryptedMessages && header.flags &&& msgFlagEncrypt == 0 then
    some .securityPolicy
  else if env.config.any fun config=>env.isStale config header then some .securityPolicy
  else none

/-- `handle_transport_incoming_data`. -/
def handleTransportIncomingData (message : Message) : Except IngressDrop Message:=
  match env.check message.header with
  | some drop=>.error drop
  | none=>
    if env.highWatermark<env.inFlight+1 then .error .backpressure
    else if !env.alloc messageStructSize then .error .invalidParam
    else match copyMessage env.alloc message with
      | none=>.error .invalidParam
      | some copy=>if env.queueAccepts then .ok copy else .error .queueFull

end

lemma header_handleTransportIncomingData {env : IngressEnvironment} {message copy : Message}
    (h : handleTransportIncomingData env message = .ok copy) : copy.header=message.header:=by
  unfold handleTransportIncomingData at h
  split at h
  · cases h
  split at h
  · cases h
  split at h
  · cases h
  split at h
  · cases h
  split at h
  · cases h
    exact header_copyMessage ‹_›
  · cases h

def NodeObserver.Observes (o : NodeObserver) (header : MessageHeader) : Prop:=
  o.handler.isSome ∧ header.msgType=o.msgType.code
  deriving Decidable

/-- `process_message_and_notify_observer`. -/
def processMessageAndNotifyObserver (observers : List NodeObserver) (message : Message) : List NodeObserver:=
  observers.filter fun o=>o.Observes message.header

end SoftMessageBus
