/- Digest: The callbacks of the API component, and what the sensor thread sends. -/

import ZephyrEsphome.Api.Entity
import ZephyrEsphome.Rpc.Frame

set_option autoImplicit false
set_option relaxedAutoImplicit false

namespace ZephyrEsphome.Api

open Kernel
open Rpc

/-- The conversion `%d`. -/
def decimal (n : UInt32) : List UInt8 :=
  (toString n.toBitVec.toInt).toList.map fun c => UInt8.ofNat c.toNat

/-- `_esphome_get_version` into a buffer of `len` bytes. -/
def esphomeGetVersion (config : EsphomeConfig) (len : Nat) : CString :=
  let version := decimal config.apiVersionMajor ++ [0x2E] ++ decimal config.apiVersionMinor
  CString.ofBytes (version.take (len - 1))

/-- `DT_ENTITY_CONFIG_TO_RESPONSE`, and the key. -/
def entityConfigToResponse (entity : Entity) : ListEntitiesResponse where
  objectId := entity.config.objectId
  key := entity.key
  name := entity.config.name
  uniqueId := entity.config.uniqueId
  icon := entity.config.icon
  disabledByDefault := entity.config.disabledByDefault
  entityCategory := entity.config.entityCategory
  deviceClass := entity.config.deviceClass

section Callbacks

variable (pb : Protobuf)

def esphomeSwitchListEntity (entity : Entity) : Exec Node Int := do
  let _ ← listEntitiesSwitchResponseWrite pb (entityConfigToResponse entity)
  return 0

def esphomeButtonListEntity (entity : Entity) : Exec Node Int := do
  let _ ← listEntitiesButtonResponseWrite pb (entityConfigToResponse entity)
  return 0

def esphomeSensorListEntity (entity : Entity) : Exec Node Int := do
  let _ ← listEntitiesSensorResponseWrite pb (entityConfigToResponse entity)
  return 0

/-- `entity->list_entity`. -/
def listEntity (entity : Entity) : Exec Node Int :=
  match entity.dev.kind with
  | .switch => esphomeSwitchListEntity pb entity
  | .button => esphomeButtonListEntity pb entity
  | .sensor => esphomeSensorListEntity pb entity

def helloRequestCb : Exec Node Int := do
  let config := (← get).config
  helloResponseWrite pb
    { name := config.name
      serverInfo := config.serverInfo
      apiVersionMajor := config.apiVersionMajor
      apiVersionMinor := config.apiVersionMinor }

def connectRequestCb (request : ConnectRequest) : Exec Node Int := do
  match (← get).config.password with
  | none => connectResponseWrite pb ⟨0⟩
  | some password => connectResponseWrite pb ⟨strcmp password request.password⟩

def deviceInfoRequestCb : Exec Node Int := do
  let config := (← get).config
  deviceInfoResponseWrite pb
    { usesPassword := config.password.any (·.bytes.length ≠ 0)
      name := config.name
      esphomeVersion := esphomeGetVersion config 32
      compilationTime := config.compilationTime
      projectName := config.projectName
      projectVersion := config.projectVersion
      model := config.model
      manufacturer := config.manufacturer }

def listEntitiesRequestCb : Exec Node Int := do
  forM (← get).entities fun entity => do
    let _ ← listEntity pb entity
  listEntitiesDoneResponseWrite

def switchCommandRequestCb (request : SwitchCommandRequest) : Exec Node Int := do
  match findDeviceEntityByKey (← get).entities request.key with
  | none => return -enodev
  | some switchDev =>
    let _ ← switchSetState switchDev request.state
    let (_, state) ← switchGetState switchDev
    switchStateResponseWrite pb ⟨request.key, state⟩

def buttonCommandRequestCb (request : ButtonCommandRequest) : Exec Node Int := do
  match findDeviceEntityByKey (← get).entities request.key with
  | none => return -enodev
  | some buttonDev => buttonOnPress buttonDev

def lightCommandRequestCb : Exec Node Int :=
  return -enotsup

def subscribeStatesRequestCb : Exec Node Int :=
  return 0

def subscribeHomeassistantServicesRequestCb : Exec Node Int :=
  return 0

def subscribeHomeAssistantStatesRequestCb : Exec Node Int :=
  return 0

def pingRequestCb : Exec Node Int :=
  pingResponseWrite

def disconnectRequestCb : Exec Node Int := do
  let _ ← disconnectResponseWrite
  return -enotconn

def callback : (type : MessageType) → type.Fields → Exec Node Int
  | .helloRequest, _ => helloRequestCb pb
  | .connectRequest, request => connectRequestCb pb request
  | .deviceInfoRequest, _ => deviceInfoRequestCb pb
  | .listEntitiesRequest, _ => listEntitiesRequestCb pb
  | .switchCommandRequest, request => switchCommandRequestCb pb request
  | .buttonCommandRequest, request => buttonCommandRequestCb request
  | .lightCommandRequest, _ => lightCommandRequestCb
  | .subscribeStatesRequest, _ => subscribeStatesRequestCb
  | .subscribeHomeassistantServicesRequest, _ => subscribeHomeassistantServicesRequestCb
  | .subscribeHomeAssistantStatesRequest, _ => subscribeHomeAssistantStatesRequestCb
  | .pingRequest, _ => pingRequestCb
  | .disconnectRequest, _ => disconnectRequestCb
  | _, _ => return -1

/-- `esphome_sensor_send_state`. -/
def esphomeSensorSendState (entity : Entity) : Exec Node Unit := do
  let (_, state) ← sensorRead entity.dev
  let _ ← sensorStateResponseWrite pb ⟨entity.key, state.getD 0, false⟩

end Callbacks

end ZephyrEsphome.Api
