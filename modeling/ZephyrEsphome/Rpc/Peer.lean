/- Digest: What one end writes, the other end reads as the same message. -/

import ZephyrEsphome.Rpc.Conversation
import ZephyrEsphome.Rpc.RoundTrip

set_option autoImplicit false
set_option relaxedAutoImplicit false

namespace ZephyrEsphome.Rpc.Peer

open Kernel
open Library.Exec
open Library.Framing
open Library.Stream
open Conversation RoundTrip Writing
open Handling (deliver dispatch_known)
open Release (silent)

def writeId : MessageType → UInt32
  | .helloRequest => 1
  | .helloResponse => 2
  | .connectRequest => 3
  | .connectResponse => 4
  | .disconnectRequest => 5
  | .disconnectResponse => 6
  | .pingRequest => 7
  | .pingResponse => 8
  | .deviceInfoRequest => 9
  | .deviceInfoResponse => 10
  | .listEntitiesRequest => 11
  | .listEntitiesBinarySensorResponse => 12
  | .listEntitiesCoverResponse => 13
  | .listEntitiesFanResponse => 14
  | .listEntitiesLightResponse => 15
  | .listEntitiesSensorResponse => 16
  | .listEntitiesSwitchResponse => 17
  | .listEntitiesTextSensorResponse => 18
  | .listEntitiesDoneResponse => 19
  | .subscribeStatesRequest => 20
  | .binarySensorStateResponse => 21
  | .coverStateResponse => 22
  | .fanStateResponse => 23
  | .lightStateResponse => 24
  | .sensorStateResponse => 25
  | .switchStateResponse => 26
  | .textSensorStateResponse => 27
  | .subscribeLogsRequest => 28
  | .subscribeLogsResponse => 29
  | .coverCommandRequest => 30
  | .fanCommandRequest => 31
  | .lightCommandRequest => 32
  | .switchCommandRequest => 33
  | .subscribeHomeassistantServicesRequest => 34
  | .homeassistantServiceResponse => 35
  | .getTimeRequest => 36
  | .getTimeResponse => 37
  | .subscribeHomeAssistantStatesRequest => 38
  | .subscribeHomeAssistantStateResponse => 39
  | .homeAssistantStateResponse => 40
  | .listEntitiesServicesResponse => 41
  | .executeServiceRequest => 42
  | .listEntitiesCameraResponse => 43
  | .cameraImageResponse => 44
  | .cameraImageRequest => 45
  | .listEntitiesClimateResponse => 46
  | .climateStateResponse => 47
  | .climateCommandRequest => 48
  | .listEntitiesNumberResponse => 49
  | .numberStateResponse => 50
  | .numberCommandRequest => 51
  | .listEntitiesSelectResponse => 52
  | .selectStateResponse => 53
  | .selectCommandRequest => 54
  | .listEntitiesLockResponse => 58
  | .lockStateResponse => 59
  | .lockCommandRequest => 60
  | .listEntitiesButtonResponse => 61
  | .buttonCommandRequest => 62
  | .listEntitiesMediaPlayerResponse => 63
  | .mediaPlayerStateResponse => 64
  | .mediaPlayerCommandRequest => 65
  | .subscribeBluetoothLEAdvertisementsRequest => 66
  | .bluetoothLEAdvertisementResponse => 67
  | .bluetoothDeviceRequest => 68
  | .bluetoothDeviceConnectionResponse => 69
  | .bluetoothGATTGetServicesRequest => 70
  | .bluetoothGATTGetServicesResponse => 71
  | .bluetoothGATTGetServicesDoneResponse => 72
  | .bluetoothGATTReadRequest => 73
  | .bluetoothGATTReadResponse => 74
  | .bluetoothGATTWriteRequest => 75
  | .bluetoothGATTReadDescriptorRequest => 76
  | .bluetoothGATTWriteDescriptorRequest => 77
  | .bluetoothGATTNotifyRequest => 78
  | .bluetoothGATTNotifyDataResponse => 79
  | .subscribeBluetoothConnectionsFreeRequest => 80
  | .bluetoothConnectionsFreeResponse => 81
  | .bluetoothGATTErrorResponse => 82
  | .bluetoothGATTWriteResponse => 83
  | .bluetoothGATTNotifyResponse => 84
  | .bluetoothDevicePairingResponse => 85
  | .bluetoothDeviceUnpairingResponse => 86
  | .unsubscribeBluetoothLEAdvertisementsRequest => 87
  | .bluetoothDeviceClearCacheResponse => 88
  | .subscribeVoiceAssistantRequest => 89
  | .voiceAssistantRequest => 90
  | .voiceAssistantResponse => 91
  | .voiceAssistantEventResponse => 92
  | .bluetoothLERawAdvertisementsResponse => 93
  | .listEntitiesAlarmControlPanelResponse => 94
  | .alarmControlPanelStateResponse => 95
  | .alarmControlPanelCommandRequest => 96
  | .listEntitiesTextResponse => 97
  | .textStateResponse => 98
  | .textCommandRequest => 99
  | .listEntitiesDateResponse => 100
  | .dateStateResponse => 101
  | .dateCommandRequest => 102
  | .listEntitiesTimeResponse => 103
  | .timeStateResponse => 104
  | .timeCommandRequest => 105
  | .voiceAssistantAudio => 106
  | .listEntitiesEventResponse => 107
  | .eventResponse => 108
  | .listEntitiesValveResponse => 109
  | .valveStateResponse => 110
  | .valveCommandRequest => 111
  | .listEntitiesDateTimeResponse => 112
  | .dateTimeStateResponse => 113
  | .dateTimeCommandRequest => 114
  | .voiceAssistantTimerEventResponse => 115
  | .listEntitiesUpdateResponse => 116
  | .updateStateResponse => 117
  | .updateCommandRequest => 118
  | .voiceAssistantAnnounceRequest => 119
  | .voiceAssistantAnnounceFinished => 120
  | .voiceAssistantConfigurationRequest => 121
  | .voiceAssistantConfigurationResponse => 122
  | .voiceAssistantSetConfiguration => 123

def bare (type : MessageType) : Bool := type.bareFields.isSome

def writeOf (type : MessageType) (payload : Payload) : WriteCall :=
  if bare type then .empty (.other (writeId type)) else .packed (.other (writeId type)) payload

def body (type : MessageType) (payload : Payload) : List UInt8 :=
  if bare type then [] else payload.bytes

theorem content_writeOf (type : MessageType) (payload : Payload) :
    (writeOf type payload).content = (writeId type, body type payload) := by
  unfold writeOf body
  split
  · rfl
  · rfl

theorem ofId_writeId (type : MessageType) : MessageType.ofId (writeId type) = some type := by
  cases type <;> rfl

theorem dispatch_iff (msgId : UInt32) (type : MessageType) :
    MessageType.ofId msgId = some type ↔ msgId = writeId type := by
  constructor
  · intro known
    unfold MessageType.ofId at known
    split at known
    all_goals first
      | (obtain rfl := Option.some.inj known
         rename_i number
         exact UInt32.toNat_inj.mp number)
      | exact absurd known nofun
  · rintro rfl
    exact ofId_writeId type

theorem dispatch_writeId (pb : Protobuf) (type : MessageType) (data : List UInt8) :
    dispatch pb (writeId type) data = deliver pb data type :=
  dispatch_known pb (ofId_writeId type) data

structure Sent where
  type : MessageType
  payload : Payload

namespace Sent

def call (sent : Sent) : WriteCall := writeOf sent.type sent.payload

def message (sent : Sent) : Message := (writeId sent.type, body sent.type sent.payload)

theorem content_call (sent : Sent) : sent.call.content = sent.message :=
  content_writeOf sent.type sent.payload

end Sent

section Peer

variable (pb : Protobuf)

def receive (sent : Sent) : Exec Node Int := do
  let data := body sent.type sent.payload
  if data = [] then
    deliver pb [] sent.type
  else
    match ← kMalloc data.length with
    | none => return -enomem
    | some _ => deliver pb data sent.type

def receiveAll : List Sent → Exec Node (Option Int)
  | [] => return none
  | sent :: later => do
    let ret ← receive pb sent
    if ret = 0 then
      receiveAll later
    else
      return some ret

def receiveFrom (sends : List Sent) : Exec Node Unit := do
  match ← receiveAll pb sends with
  | none => throw .unfinished
  | some _ => record (.closed (← get).socket)

variable {pb}

theorem handle_message (sent : Sent) : handle pb sent.message = receive pb sent := by
  have routed := dispatch_writeId pb sent.type
  apply if_congr Iff.rfl (routed [])
  apply bind_congr
  rintro (_ | block)
  · rfl
  · exact routed (body sent.type sent.payload)

theorem handleAll_messages (sends : List Sent) :
    handleAll pb (sends.map Sent.message) = receiveAll pb sends := by
  induction sends with
  | nil => rfl
  | cons sent later ih => rw [List.map_cons, handleAll, receiveAll, handle_message, ih]

theorem attend_messages (sends : List Sent) :
    attend pb (sends.map Sent.message) = receiveFrom pb sends := by
  rw [receiveFrom, ← handleAll_messages]
  rfl

end Peer

theorem frames_calls (sends : List Sent) :
    (sends.map Sent.call).flatMap WriteCall.frame = frames (sends.map Sent.message) := by
  rw [frames, List.flatMap_map, List.flatMap_map]
  apply List.flatMap_congr
  intro sent _
  rw [WriteCall.frame, sent.content_call]

/-- Whatever Write functions one end calls, the other end runs the Read functions of the same
messages on the same payloads, in the same order, up to the first that is not answered with 0. -/
theorem peer_dispatches {sends : List Sent} (fits : ∀ sent ∈ sends, Fits sent.call) {writer : Node}
    (accepting : Accepting writer) (start : writer.tx.accepted = []) :
    ∃ written,
      (inOrder (sends.map fun sent => sent.call.run)).run writer =
        .ok (sends.map fun _ => 0) written ∧
      ∀ (pb : Protobuf) (fuel : Nat) (peer : Node), sends.length < fuel → peer.rx.schedule = [] →
        peer.rx.incoming = written.tx.accepted →
        ∃ rx, (serveConnection pb fuel).run peer =
          replaced putRx rx ((receiveFrom pb sends).run peer) := by
  have good : ∀ call ∈ sends.map Sent.call, Fits call := by
    intro call member
    obtain ⟨sent, among, rfl⟩ := List.mem_map.mp member
    exact fits sent among
  obtain ⟨written, run, stream, -⟩ := sends_calls.many (sends.map Sent.call) writer good accepting
  rw [List.map_map, List.map_map] at run
  rw [start, List.nil_append, frames_calls] at stream
  refine ⟨written, run, ?_⟩
  intro pb fuel peer enough plain incoming
  have small : ∀ message ∈ sends.map Sent.message, message.2.length < 2 ^ 32 := by
    intro message member
    obtain ⟨sent, -, rfl⟩ := List.mem_map.mp member
    rw [← sent.content_call]
    exact sent.call.length_content_lt
  have rounds : (sends.map Sent.message).length < fuel := by rwa [List.length_map]
  rw [← attend_messages]
  exact serveConnection_attends plain small (incoming.trans stream) rounds

def farewell : List Sent :=
  [⟨.pingRequest, silent.pack .disconnectResponse⟩,
    ⟨.disconnectRequest, silent.pack .disconnectResponse⟩]

theorem peer_dispatches_farewell :
    ∃ written t,
      (inOrder (farewell.map fun sent => sent.call.run)).run (freshNode none [] []) =
        .ok [0, 0] written ∧
      (serveConnection silent 3).run (freshNode none [] written.tx.accepted) = .ok () t ∧
      t.events.getLast? = some (.closed 3) := by
  have fits : ∀ sent ∈ farewell, Fits sent.call := by
    intro sent member
    apply fits_of_length_le
    rcases List.mem_cons.mp member with rfl | last
    · decide
    · obtain rfl := List.mem_singleton.mp last
      decide
  obtain ⟨written, run, reads⟩ :=
    @peer_dispatches farewell fits (freshNode none [] []) ⟨rfl, rfl⟩ rfl
  obtain ⟨rx, served⟩ := reads silent 3 (freshNode none [] written.tx.accepted) (by decide) rfl rfl
  exact ⟨written, _, run, served, rfl⟩

end ZephyrEsphome.Rpc.Peer
