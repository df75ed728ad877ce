/- Digest: What the callbacks keep, from what the single calls they make keep. -/

import ZephyrEsphome.Rpc.Service
import ZephyrEsphome.Rpc.Writing

set_option autoImplicit false
set_option relaxedAutoImplicit false

namespace ZephyrEsphome.Rpc.Handling

open Api
open Kernel
open Library.Exec
open Writing

variable {G : Guarantee Node} {pb : Protobuf}

theorem keeps_packedWrite {message : Outgoing} {payload : Payload}
    (refused : ∀ s : Node, s.heap.Refuses →
      G.onReturn s { s with heap := { s.heap with refusals := s.heap.refusals.tail } })
    (sent : ∀ (s : Node) (bytes : List UInt8), ¬ s.heap.Refuses →
      G.onReturn s { sending message s bytes with
        heap := (s.heap.kMalloc bytes.length).2.kFree (s.heap.ledger.next, bytes.length) })
    (lost : ∀ (s : Node) (size : Nat), ¬ s.heap.Refuses →
      G.onStop s { s with heap := (s.heap.kMalloc size).2 }) :
    Keeps G (packedWrite message payload) := by
  constructor
  intro s
  by_cases refuses : s.heap.Refuses
  · rw [packedWrite_refused message payload s refuses]
    exact refused s refuses
  · by_cases fits : (frameOf message payload).length < 2 ^ 32
    · rw [packedWrite_sends message payload s refuses fits]
      exact sent s _ refuses
    · rw [packedWrite_wraps message payload s refuses (Nat.le_of_not_lt fits)]
      exact lost s _ refuses

theorem keeps_emptyWrite {message : Outgoing}
    (sent : ∀ (s : Node) (bytes : List UInt8), G.onReturn s (sending message s bytes)) :
    Keeps G (emptyWrite message) := by
  constructor
  intro s
  rw [emptyWrite_sends]
  exact sent s _

theorem keeps_onSwitch [Stoppable G] {α : Type}
    (gpio : ∀ (s : Node) devices, G.onReturn s { s with switchGpio := devices })
    (hbridge : ∀ (s : Node) devices, G.onReturn s { s with switchHbridge := devices })
    (gpio' : ∀ (s : Node) devices, G.onStop s { s with switchGpio := devices })
    (hbridge' : ∀ (s : Node) devices, G.onStop s { s with switchHbridge := devices })
    (dev : Device) (m : Exec Switch.GpioSwitch α) (m' : Exec Switch.Hbridge α) :
    Keeps G (match dev.compatible with
      | .switchGpio => onSwitchGpio dev.inst m
      | .switchHbridge => onSwitchHbridge dev.inst m'
      | _ => throw .undefined) := by
  cases dev.compatible with
  | switchGpio => exact keeps_zoom (fun s _ => gpio s _) (fun s _ => gpio' s _)
  | switchHbridge => exact keeps_zoom (fun s _ => hbridge s _) (fun s _ => hbridge' s _)
  | buttonTemplate => exact keeps_throw _
  | sensorTemperature => exact keeps_throw _
  | sensorTimestamp => exact keeps_throw _

structure KeepsDevice (G : Guarantee Node) (dev : Device) : Prop where
  setState : ∀ state, Keeps G (switchSetState dev state)
  getState : Keeps G (switchGetState dev)
  onPress : Keeps G (buttonOnPress dev)

theorem keeps_device [Stoppable G] {dev : Device}
    (recorded : ∀ (s : Node) (event : Event), event.callee = some dev →
      G.onReturn s { s with events := s.events ++ [event] })
    (gpio : ∀ (s : Node) devices, G.onReturn s { s with switchGpio := devices })
    (hbridge : ∀ (s : Node) devices, G.onReturn s { s with switchHbridge := devices })
    (button : ∀ (s : Node) devices, G.onReturn s { s with buttonTemplate := devices })
    (gpio' : ∀ (s : Node) devices, G.onStop s { s with switchGpio := devices })
    (hbridge' : ∀ (s : Node) devices, G.onStop s { s with switchHbridge := devices }) :
    KeepsDevice G dev := by
  have records : ∀ event : Event, event.callee = some dev → Keeps G (record event) :=
    fun event called => keeps_modify fun s => recorded s event called
  constructor
  · intro state
    apply keeps_bind (records _ rfl)
    intro _
    exact keeps_onSwitch gpio hbridge gpio' hbridge' dev _ _
  · apply keeps_bind (records _ rfl)
    intro _
    exact keeps_onSwitch gpio hbridge gpio' hbridge' dev _ _
  · apply keeps_bind (records _ rfl)
    intro _
    cases dev.compatible with
    | switchGpio => exact keeps_throw _
    | switchHbridge => exact keeps_throw _
    | buttonTemplate => exact keeps_modifyGet fun s => button s _
    | sensorTemperature => exact keeps_throw _
    | sensorTimestamp => exact keeps_throw _

theorem keeps_receiveMessage [Stoppable G]
    (stream : ∀ (s : Node) rx, G.onReturn s { s with rx := rx })
    (stream' : ∀ (s : Node) rx, G.onStop s { s with rx := rx })
    (heap : ∀ (s : Node) heap, G.onReturn s { s with heap := heap }) (fuel : Nat) :
    Keeps G (receiveMessage fuel) := by
  apply keeps_bind (keeps_zoom (fun s _ => stream s _) (fun s _ => stream' s _))
  rintro (ret | ⟨msgId, len⟩)
  · exact keeps_pure _
  · apply keeps_ite (keeps_pure _)
    apply keeps_bind (keeps_modifyGet fun s => heap s _)
    rintro (_ | block)
    · exact keeps_pure _
    · apply keeps_bind keeps_get
      intro node
      apply keeps_bind (keeps_zoom (fun s _ => stream s _) (fun s _ => stream' s _))
      rintro ⟨ret, got⟩
      exact keeps_ite (keeps_pure _) (keeps_pure _)

theorem keeps_sensorRead [Stoppable G]
    (temperature : ∀ (s : Node) devices, G.onReturn s { s with sensorTemperature := devices })
    (timestamp : ∀ (s : Node) devices, G.onReturn s { s with sensorTimestamp := devices })
    (temperature' : ∀ (s : Node) devices, G.onStop s { s with sensorTemperature := devices })
    (timestamp' : ∀ (s : Node) devices, G.onStop s { s with sensorTimestamp := devices })
    (dev : Device) : Keeps G (sensorRead dev) := by
  unfold sensorRead
  cases dev.compatible with
  | switchGpio => exact keeps_throw _
  | switchHbridge => exact keeps_throw _
  | buttonTemplate => exact keeps_throw _
  | sensorTemperature => exact keeps_zoom (fun s _ => temperature s _) (fun s _ => temperature' s _)
  | sensorTimestamp => exact keeps_zoom (fun s _ => timestamp s _) (fun s _ => timestamp' s _)

inductive IsAnswer : Outgoing → Prop
  | hello (response : HelloResponse) : IsAnswer (.helloResponse response)
  | connect (response : ConnectResponse) : IsAnswer (.connectResponse response)
  | disconnect : IsAnswer .disconnectResponse
  | ping : IsAnswer .pingResponse
  | deviceInfo (response : DeviceInfoResponse) : IsAnswer (.deviceInfoResponse response)

inductive UsesRegistry : MessageType → Prop
  | list : UsesRegistry .listEntitiesRequest
  | switch : UsesRegistry .switchCommandRequest
  | button : UsesRegistry .buttonCommandRequest

theorem keeps_answering (packs : ∀ message, IsAnswer message → Keeps G (pack pb message))
    (empties : ∀ message, IsAnswer message → Keeps G (emptyWrite message)) (type : MessageType)
    (msg : type.Fields) (apart : ¬ UsesRegistry type) : Keeps G (callback pb type msg) := by
  unfold callback
  split
  · apply keeps_bind keeps_get
    intro s
    exact packs _ (.hello _)
  · apply keeps_bind keeps_get
    intro s
    cases s.config.password with
    | none => exact packs _ (.connect _)
    | some password => exact packs _ (.connect _)
  · apply keeps_bind keeps_get
    intro s
    exact packs _ (.deviceInfo _)
  · exact absurd .list apart
  · exact absurd .switch apart
  · exact absurd .button apart
  · exact keeps_pure _
  · exact keeps_pure _
  · exact keeps_pure _
  · exact keeps_pure _
  · exact empties _ .ping
  · apply keeps_bind (empties _ .disconnect)
    intro _
    exact keeps_pure _
  · exact keeps_pure _

theorem keeps_listEntity (packs : ∀ message, Keeps G (pack pb message)) (entity : Entity) :
    Keeps G (listEntity pb entity) := by
  unfold listEntity
  cases entity.dev.kind with
  | switch => exact keeps_bind (packs _) fun _ => keeps_pure _
  | button => exact keeps_bind (packs _) fun _ => keeps_pure _
  | sensor => exact keeps_bind (packs _) fun _ => keeps_pure _

theorem keeps_listEntitiesRequestCb (packs : ∀ message, Keeps G (pack pb message))
    (empties : ∀ message, Keeps G (emptyWrite message)) : Keeps G (listEntitiesRequestCb pb) := by
  apply keeps_bind keeps_get
  intro s
  apply keeps_bind
  · apply keeps_forM
    intro entity _
    exact keeps_bind (keeps_listEntity packs entity) fun _ => keeps_pure _
  · intro _
    exact empties _

theorem keeps_callback (packs : ∀ message, Keeps G (pack pb message))
    (empties : ∀ message, Keeps G (emptyWrite message)) (devices : ∀ dev, KeepsDevice G dev)
    (type : MessageType) (msg : type.Fields) : Keeps G (callback pb type msg) := by
  by_cases apart : UsesRegistry type
  · cases apart with
    | list => exact keeps_listEntitiesRequestCb packs empties
    | switch =>
      apply keeps_bind keeps_get
      intro s
      cases findDeviceEntityByKey s.entities msg.key with
      | none => exact keeps_pure _
      | some switchDev =>
        apply keeps_bind ((devices _).setState _)
        intro _
        apply keeps_bind ((devices _).getState)
        intro _
        exact packs _
    | button =>
      apply keeps_bind keeps_get
      intro s
      cases findDeviceEntityByKey s.entities msg.key with
      | none => exact keeps_pure _
      | some buttonDev => exact (devices _).onPress
  · exact keeps_answering (fun message _ => packs message) (fun message _ => empties message)
      type msg apart

theorem switchCommand_absent (pb : Protobuf) (s : Node) (request : SwitchCommandRequest)
    (absent : findDeviceEntityByKey s.entities request.key = none) :
    (switchCommandRequestCb pb request).run s = .ok (-enodev) s := by
  rw [switchCommandRequestCb, run_bind_ok _ (run_get s), absent]
  rfl

theorem buttonCommand_absent (s : Node) (request : ButtonCommandRequest)
    (absent : findDeviceEntityByKey s.entities request.key = none) :
    (buttonCommandRequestCb request).run s = .ok (-enodev) s := by
  rw [buttonCommandRequestCb, run_bind_ok _ (run_get s), absent]
  rfl

section Recording

variable {P : Event → Prop}

/-- Everything that a run records is in `P`. -/
abbrev recording (P : Event → Prop) : Guarantee Node :=
  .always (Guarantee.Grown Node.events P)

theorem recording_packedWrite {message : Outgoing} {payload : Payload}
    (sent : ∀ socket frame ret, P (.sent socket message frame ret)) :
    Keeps (recording P) (packedWrite message payload) := by
  apply keeps_packedWrite
  · intro s _
    exact Guarantee.grown_none rfl
  · intro s bytes _
    exact Guarantee.grown_one rfl (sent _ _ _)
  · intro s size _
    exact Guarantee.grown_none rfl

theorem recording_emptyWrite {message : Outgoing}
    (sent : ∀ socket frame ret, P (.sent socket message frame ret)) :
    Keeps (recording P) (emptyWrite message) :=
  keeps_emptyWrite fun _ _ => Guarantee.grown_one rfl (sent _ _ _)

theorem recording_device {dev : Device}
    (called : ∀ event : Event, event.callee = some dev → P event) :
    KeepsDevice (recording P) dev := by
  apply keeps_device
  · intro s event callee
    exact Guarantee.grown_one rfl (called event callee)
  all_goals
    intro s devices
    exact Guarantee.grown_none rfl

theorem recording_receiveMessage (fuel : Nat) : Keeps (recording P) (receiveMessage fuel) :=
  keeps_receiveMessage (fun _ _ => Guarantee.grown_none rfl) (fun _ _ => Guarantee.grown_none rfl)
    (fun _ _ => Guarantee.grown_none rfl) fuel

theorem recording_sensorRead (dev : Device) : Keeps (recording P) (sensorRead dev) :=
  keeps_sensorRead (fun _ _ => Guarantee.grown_none rfl) (fun _ _ => Guarantee.grown_none rfl)
    (fun _ _ => Guarantee.grown_none rfl) (fun _ _ => Guarantee.grown_none rfl) dev

theorem added_record (event : Event) (s : Node) :
    event ∈ added Node.events s ((record event).run s) := by
  show event ∈ (s.events ++ [event]).drop s.events.length
  rw [List.drop_left]
  exact List.mem_singleton_self event

theorem setState_added (dev : Device) (state : Int) (s : Node) :
    .setState dev state ∈ added Node.events s ((switchSetState dev state).run s) := by
  apply added_bind_left (P := fun _ => True)
  · intro _
    exact keeps_onSwitch (fun _ _ => Guarantee.grown_none rfl) (fun _ _ => Guarantee.grown_none rfl)
      (fun _ _ => Guarantee.grown_none rfl) (fun _ _ => Guarantee.grown_none rfl) dev _ _
  · exact added_record _ s

theorem onPress_added (dev : Device) (s : Node) :
    .onPress dev ∈ added Node.events s ((buttonOnPress dev).run s) := by
  apply added_bind_left (P := fun _ => True)
  · intro _
    cases dev.compatible with
    | switchGpio => exact keeps_throw _
    | switchHbridge => exact keeps_throw _
    | buttonTemplate => exact keeps_modifyGet fun _ => Guarantee.grown_none rfl
    | sensorTemperature => exact keeps_throw _
    | sensorTimestamp => exact keeps_throw _
  · exact added_record _ s

theorem emptyWrite_added (message : Outgoing) (s : Node) :
    .sent s.socket message (frame message.rpcId []) (s.tx.zsockSend (frame message.rpcId [])).1 ∈
      added Node.events s ((emptyWrite message).run s) := by
  rw [emptyWrite_sends]
  exact added_record _ s

theorem packedWrite_added {message : Outgoing} {payload : Payload} {s t : Node} {ret : Int}
    (granted : ¬ s.heap.Refuses) (run : (packedWrite message payload).run s = .ok ret t) :
    .sent s.socket message (frameOf message payload) (s.tx.zsockSend (frameOf message payload)).1 ∈
      added Node.events s ((packedWrite message payload).run s) := by
  by_cases fits : (frameOf message payload).length < 2 ^ 32
  · rw [packedWrite_sends message payload s granted fits]
    exact added_record _ s
  · rw [packedWrite_wraps message payload s granted (Nat.le_of_not_lt fits)] at run
    exact absurd run nofun

end Recording

theorem readMessage_unpacked {pb : Protobuf} {type : MessageType} {data : List UInt8}
    {msg : type.Fields} {s : Node} (unpacked : pb.unpack type data s.heap = some msg) :
    (readMessage pb type data).run s = (callback pb type msg).run s := by
  rw [readMessage, run_bind_ok _ (run_get s), unpacked]

def deliver (pb : Protobuf) (data : List UInt8) (type : MessageType) : Exec Node Int :=
  match type.bareFields with
  | some msg => callback pb type msg
  | none => readMessage pb type data

theorem dispatch_known (pb : Protobuf) {msgId : UInt32} {type : MessageType}
    (known : MessageType.ofId msgId = some type) (data : List UInt8) :
    dispatch pb msgId data = deliver pb data type := by
  unfold dispatch
  rw [known]
  cases type <;> rfl

theorem dispatch_unknown (pb : Protobuf) {msgId : UInt32}
    (unknown : MessageType.ofId msgId = none) (data : List UInt8) :
    dispatch pb msgId data = pure (-enotsup) := by
  unfold dispatch
  rw [unknown]

theorem dispatch_cases (pb : Protobuf) (msgId : UInt32) (data : List UInt8) :
    dispatch pb msgId data = pure (-enotsup) ∨
      ∃ type, MessageType.ofId msgId = some type ∧
        (dispatch pb msgId data = readMessage pb type data ∨
          ∃ msg, type.bareFields = some msg ∧ dispatch pb msgId data = callback pb type msg) := by
  cases known : MessageType.ofId msgId with
  | none => exact Or.inl (dispatch_unknown pb known data)
  | some type =>
    refine Or.inr ⟨type, rfl, ?_⟩
    rw [dispatch_known pb known data, deliver]
    cases type.bareFields with
    | none => exact Or.inl rfl
    | some msg => exact Or.inr ⟨msg, rfl, rfl⟩

theorem keeps_dispatch {msgId : UInt32}
    (callbacks : ∀ type msg, MessageType.ofId msgId = some type → Keeps G (callback pb type msg))
    (data : List UInt8) : Keeps G (dispatch pb msgId data) := by
  rcases dispatch_cases pb msgId data with same | ⟨type, known, same | ⟨msg, -, same⟩⟩
  · rw [same]
    exact keeps_pure _
  · rw [same]
    apply keeps_bind keeps_get
    intro s
    cases pb.unpack type data s.heap with
    | none => exact keeps_pure _
    | some msg => exact callbacks type msg known
  · rw [same]
    exact callbacks type msg known

end ZephyrEsphome.Rpc.Handling
