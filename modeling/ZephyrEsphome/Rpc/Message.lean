/- Digest: The messages of the protocol, and the packer and unpacker of their fields. -/

import ZephyrEsphome.Kernel.CString
import ZephyrEsphome.Kernel.Heap

set_option autoImplicit false
set_option relaxedAutoImplicit false

namespace ZephyrEsphome.Rpc

open Kernel

inductive MessageType
  | helloRequest
  | helloResponse
  | connectRequest
  | connectResponse
  | disconnectRequest
  | disconnectResponse
  | pingRequest
  | pingResponse
  | deviceInfoRequest
  | deviceInfoResponse
  | listEntitiesRequest
  | listEntitiesBinarySensorResponse
  | listEntitiesCoverResponse
  | listEntitiesFanResponse
  | listEntitiesLightResponse
  | listEntitiesSensorResponse
  | listEntitiesSwitchResponse
  | listEntitiesTextSensorResponse
  | listEntitiesDoneResponse
  | subscribeStatesRequest
  | binarySensorStateResponse
  | coverStateResponse
  | fanStateResponse
  | lightStateResponse
  | sensorStateResponse
  | switchStateResponse
  | textSensorStateResponse
  | subscribeLogsRequest
  | subscribeLogsResponse
  | coverCommandRequest
  | fanCommandRequest
  | lightCommandRequest
  | switchCommandRequest
  | subscribeHomeassistantServicesRequest
  | homeassistantServiceResponse
  | getTimeRequest
  | getTimeResponse
  | subscribeHomeAssistantStatesRequest
  | subscribeHomeAssistantStateResponse
  | homeAssistantStateResponse
  | listEntitiesServicesResponse
  | executeServiceRequest
  | listEntitiesCameraResponse
  | cameraImageResponse
  | cameraImageRequest
  | listEntitiesClimateResponse
  | climateStateResponse
  | climateCommandRequest
  | listEntitiesNumberResponse
  | numberStateResponse
  | numberCommandRequest
  | listEntitiesSelectResponse
  | selectStateResponse
  | selectCommandRequest
  | listEntitiesLockResponse
  | lockStateResponse
  | lockCommandRequest
  | listEntitiesButtonResponse
  | buttonCommandRequest
  | listEntitiesMediaPlayerResponse
  | mediaPlayerStateResponse
  | mediaPlayerCommandRequest
  | subscribeBluetoothLEAdvertisementsRequest
  | bluetoothLEAdvertisementResponse
  | bluetoothDeviceRequest
  | bluetoothDeviceConnectionResponse
  | bluetoothGATTGetServicesRequest
  | bluetoothGATTGetServicesResponse
  | bluetoothGATTGetServicesDoneResponse
  | bluetoothGATTReadRequest
  | bluetoothGATTReadResponse
  | bluetoothGATTWriteRequest
  | bluetoothGATTReadDescriptorRequest
  | bluetoothGATTWriteDescriptorRequest
  | bluetoothGATTNotifyRequest
  | bluetoothGATTNotifyDataResponse
  | subscribeBluetoothConnectionsFreeRequest
  | bluetoothConnectionsFreeResponse
  | bluetoothGATTErrorResponse
  | bluetoothGATTWriteResponse
  | bluetoothGATTNotifyResponse
  | bluetoothDevicePairingResponse
  | bluetoothDeviceUnpairingResponse
  | unsubscribeBluetoothLEAdvertisementsRequest
  | bluetoothDeviceClearCacheResponse
  | subscribeVoiceAssistantRequest
  | voiceAssistantRequest
  | voiceAssistantResponse
  | voiceAssistantEventResponse
  | bluetoothLERawAdvertisementsResponse
  | listEntitiesAlarmControlPanelResponse
  | alarmControlPanelStateResponse
  | alarmControlPanelCommandRequest
  | listEntitiesTextResponse
  | textStateResponse
  | textCommandRequest
  | listEntitiesDateResponse
  | dateStateResponse
  | dateCommandRequest
  | listEntitiesTimeResponse
  | timeStateResponse
  | timeCommandRequest
  | voiceAssistantAudio
  | listEntitiesEventResponse
  | eventResponse
  | listEntitiesValveResponse
  | valveStateResponse
  | valveCommandRequest
  | listEntitiesDateTimeResponse
  | dateTimeStateResponse
  | dateTimeCommandRequest
  | voiceAssistantTimerEventResponse
  | listEntitiesUpdateResponse
  | updateStateResponse
  | updateCommandRequest
  | voiceAssistantAnnounceRequest
  | voiceAssistantAnnounceFinished
  | voiceAssistantConfigurationRequest
  | voiceAssistantConfigurationResponse
  | voiceAssistantSetConfiguration
  deriving DecidableEq

namespace MessageType

/-- The arms of the switch in `esphome_read_request`. -/
def ofId (msgId : UInt32) : Option MessageType :=
  match msgId.toNat with
  | 1 => some .helloRequest
  | 2 => some .helloResponse
  | 3 => some .connectRequest
  | 4 => some .connectResponse
  | 5 => some .disconnectRequest
  | 6 => some .disconnectResponse
  | 7 => some .pingRequest
  | 8 => some .pingResponse
  | 9 => some .deviceInfoRequest
  | 10 => some .deviceInfoResponse
  | 11 => some .listEntitiesRequest
  | 12 => some .listEntitiesBinarySensorResponse
  | 13 => some .listEntitiesCoverResponse
  | 14 => some .listEntitiesFanResponse
  | 15 => some .listEntitiesLightResponse
  | 16 => some .listEntitiesSensorResponse
  | 17 => some .listEntitiesSwitchResponse
  | 18 => some .listEntitiesTextSensorResponse
  | 19 => some .listEntitiesDoneResponse
  | 20 => some .subscribeStatesRequest
  | 21 => some .binarySensorStateResponse
  | 22 => some .coverStateResponse
  | 23 => some .fanStateResponse
  | 24 => some .lightStateResponse
  | 25 => some .sensorStateResponse
  | 26 => some .switchStateResponse
  | 27 => some .textSensorStateResponse
  | 28 => some .subscribeLogsRequest
  | 29 => some .subscribeLogsResponse
  | 30 => some .coverCommandRequest
  | 31 => some .fanCommandRequest
  | 32 => some .lightCommandRequest
  | 33 => some .switchCommandRequest
  | 34 => some .subscribeHomeassistantServicesRequest
  | 35 => some .homeassistantServiceResponse
  | 36 => some .getTimeRequest
  | 37 => some .getTimeResponse
  | 38 => some .subscribeHomeAssistantStatesRequest
  | 39 => some .subscribeHomeAssistantStateResponse
  | 40 => some .homeAssistantStateResponse
  | 41 => some .listEntitiesServicesResponse
  | 42 => some .executeServiceRequest
  | 43 => some .listEntitiesCameraResponse
  | 44 => some .cameraImageResponse
  | 45 => some .cameraImageRequest
  | 46 => some .listEntitiesClimateResponse
  | 47 => some .climateStateResponse
  | 48 => some .climateCommandRequest
  | 49 => some .listEntitiesNumberResponse
  | 50 => some .numberStateResponse
  | 51 => some .numberCommandRequest
  | 52 => some .listEntitiesSelectResponse
  | 53 => some .selectStateResponse
  | 54 => some .selectCommandRequest
  | 58 => some .listEntitiesLockResponse
  | 59 => some .lockStateResponse
  | 60 => some .lockCommandRequest
  | 61 => some .listEntitiesButtonResponse
  | 62 => some .buttonCommandRequest
  | 63 => some .listEntitiesMediaPlayerResponse
  | 64 => some .mediaPlayerStateResponse
  | 65 => some .mediaPlayerCommandRequest
  | 66 => some .subscribeBluetoothLEAdvertisementsRequest
  | 67 => some .bluetoothLEAdvertisementResponse
  | 68 => some .bluetoothDeviceRequest
  | 69 => some .bluetoothDeviceConnectionResponse
  | 70 => some .bluetoothGATTGetServicesRequest
  | 71 => some .bluetoothGATTGetServicesResponse
  | 72 => some .bluetoothGATTGetServicesDoneResponse
  | 73 => some .bluetoothGATTReadRequest
  | 74 => some .bluetoothGATTReadResponse
  | 75 => some .bluetoothGATTWriteRequest
  | 76 => some .bluetoothGATTReadDescriptorRequest
  | 77 => some .bluetoothGATTWriteDescriptorRequest
  | 78 => some .bluetoothGATTNotifyRequest
  | 79 => some .bluetoothGATTNotifyDataResponse
  | 80 => some .subscribeBluetoothConnectionsFreeRequest
  | 81 => some .bluetoothConnectionsFreeResponse
  | 82 => some .bluetoothGATTErrorResponse
  | 83 => some .bluetoothGATTWriteResponse
  | 84 => some .bluetoothGATTNotifyResponse
  | 85 => some .bluetoothDevicePairingResponse
  | 86 => some .bluetoothDeviceUnpairingResponse
  | 87 => some .unsubscribeBluetoothLEAdvertisementsRequest
  | 88 => some .bluetoothDeviceClearCacheResponse
  | 89 => some .subscribeVoiceAssistantRequest
  | 90 => some .voiceAssistantRequest
  | 91 => some .voiceAssistantResponse
  | 92 => some .voiceAssistantEventResponse
  | 93 => some .bluetoothLERawAdvertisementsResponse
  | 94 => some .listEntitiesAlarmControlPanelResponse
  | 95 => some .alarmControlPanelStateResponse
  | 96 => some .alarmControlPanelCommandRequest
  | 97 => some .listEntitiesTextResponse
  | 98 => some .textStateResponse
  | 99 => some .textCommandRequest
  | 100 => some .listEntitiesDateResponse
  | 101 => some .dateStateResponse
  | 102 => some .dateCommandRequest
  | 103 => some .listEntitiesTimeResponse
  | 104 => some .timeStateResponse
  | 105 => some .timeCommandRequest
  | 106 => some .voiceAssistantAudio
  | 107 => some .listEntitiesEventResponse
  | 108 => some .eventResponse
  | 109 => some .listEntitiesValveResponse
  | 110 => some .valveStateResponse
  | 111 => some .valveCommandRequest
  | 112 => some .listEntitiesDateTimeResponse
  | 113 => some .dateTimeStateResponse
  | 114 => some .dateTimeCommandRequest
  | 115 => some .voiceAssistantTimerEventResponse
  | 116 => some .listEntitiesUpdateResponse
  | 117 => some .updateStateResponse
  | 118 => some .updateCommandRequest
  | 119 => some .voiceAssistantAnnounceRequest
  | 120 => some .voiceAssistantAnnounceFinished
  | 121 => some .voiceAssistantConfigurationRequest
  | 122 => some .voiceAssistantConfigurationResponse
  | 123 => some .voiceAssistantSetConfiguration
  | _ => none

end MessageType

structure ConnectRequest where
  password : CString

structure SwitchCommandRequest where
  key : UInt32
  state : Int

structure ButtonCommandRequest where
  key : UInt32

abbrev MessageType.Fields : MessageType → Type
  | .connectRequest => ConnectRequest
  | .switchCommandRequest => SwitchCommandRequest
  | .buttonCommandRequest => ButtonCommandRequest
  | _ => Unit

/-- The fields of a message that is sent without a payload, and is received without a look at it. -/
def MessageType.bareFields : (type : MessageType) → Option type.Fields
  | .disconnectRequest => some ()
  | .disconnectResponse => some ()
  | .pingRequest => some ()
  | .pingResponse => some ()
  | .deviceInfoRequest => some ()
  | .listEntitiesRequest => some ()
  | .listEntitiesDoneResponse => some ()
  | .subscribeStatesRequest => some ()
  | .subscribeHomeassistantServicesRequest => some ()
  | .subscribeHomeAssistantStatesRequest => some ()
  | .getTimeRequest => some ()
  | .subscribeBluetoothConnectionsFreeRequest => some ()
  | .unsubscribeBluetoothLEAdvertisementsRequest => some ()
  | .voiceAssistantConfigurationRequest => some ()
  | _ => none

structure HelloResponse where
  apiVersionMajor : UInt32
  apiVersionMinor : UInt32
  serverInfo : CString
  name : CString
  deriving DecidableEq

structure ConnectResponse where
  invalidPassword : Int
  deriving DecidableEq

structure DeviceInfoResponse where
  usesPassword : Bool
  name : CString
  esphomeVersion : CString
  compilationTime : CString
  model : Option CString
  projectName : Option CString
  projectVersion : Option CString
  manufacturer : Option CString
  deriving DecidableEq

structure ListEntitiesResponse where
  objectId : CString
  key : UInt32
  name : CString
  uniqueId : CString
  icon : Option CString
  disabledByDefault : Bool
  entityCategory : Int
  deviceClass : CString
  deriving DecidableEq

structure SwitchStateResponse where
  key : UInt32
  state : Int
  deriving DecidableEq

/-- The reading is kept as the bits of the `float`. -/
structure SensorStateResponse where
  key : UInt32
  state : UInt32
  missingState : Bool
  deriving DecidableEq

inductive Outgoing
  | helloResponse (response : HelloResponse)
  | connectResponse (response : ConnectResponse)
  | disconnectResponse
  | pingResponse
  | deviceInfoResponse (response : DeviceInfoResponse)
  | listEntitiesSensorResponse (response : ListEntitiesResponse)
  | listEntitiesSwitchResponse (response : ListEntitiesResponse)
  | listEntitiesDoneResponse
  | sensorStateResponse (response : SensorStateResponse)
  | switchStateResponse (response : SwitchStateResponse)
  | listEntitiesButtonResponse (response : ListEntitiesResponse)
  /-- One of the messages that no component sends. -/
  | other (rpcId : UInt32)
  deriving DecidableEq

def Outgoing.rpcId : Outgoing → UInt32
  | .helloResponse _ => 2
  | .connectResponse _ => 4
  | .disconnectResponse => 6
  | .pingResponse => 8
  | .deviceInfoResponse _ => 10
  | .listEntitiesSensorResponse _ => 16
  | .listEntitiesSwitchResponse _ => 17
  | .listEntitiesDoneResponse => 19
  | .sensorStateResponse _ => 25
  | .switchStateResponse _ => 26
  | .listEntitiesButtonResponse _ => 61
  | .other rpcId => rpcId

/-- The packed fields of a message, whose number of bytes is a `size_t`. -/
structure Payload where
  bytes : List UInt8
  length_lt : bytes.length < 2 ^ 32

structure Protobuf where
  unpack : (type : MessageType) → List UInt8 → Heap → Option type.Fields
  pack : Outgoing → Payload

end ZephyrEsphome.Rpc
