/- Digest: The state of the device as its threads share it, and the record of what they did. -/

import ZephyrEsphome.Kernel.Socket
import ZephyrEsphome.Rpc.Message
import ZephyrEsphome.Sensor.Driver
import ZephyrEsphome.Switch.Driver

set_option autoImplicit false
set_option relaxedAutoImplicit false

namespace ZephyrEsphome.Rpc

open Kernel
open Library.Exec (zoom)
open Sensor (TemperatureSensor TimestampSensor)
open Switch (GpioSwitch Hbridge)

/-- `struct esphome_config`, as far as the callbacks read it. -/
structure EsphomeConfig where
  name : CString
  serverInfo : CString
  apiVersionMajor : UInt32
  apiVersionMinor : UInt32
  compilationTime : CString
  projectName : Option CString
  projectVersion : Option CString
  model : Option CString
  manufacturer : Option CString
  password : Option CString

inductive Compatible
  | switchGpio
  | switchHbridge
  | buttonTemplate
  | sensorTemperature
  | sensorTimestamp
  deriving DecidableEq

inductive EntityKind
  | switch
  | button
  | sensor
  deriving DecidableEq

def Compatible.kind : Compatible → EntityKind
  | .switchGpio => .switch
  | .switchHbridge => .switch
  | .buttonTemplate => .button
  | .sensorTemperature => .sensor
  | .sensorTimestamp => .sensor

structure Device where
  compatible : Compatible
  inst : Nat
  deriving DecidableEq

def Device.kind (dev : Device) : EntityKind := dev.compatible.kind

structure EntityConfig where
  objectId : CString
  name : CString
  uniqueId : CString
  icon : Option CString
  disabledByDefault : Bool
  entityCategory : Int
  deviceClass : CString

/-- `struct esphome_entity` with its data; the kind of the device decides `list_entity`. -/
structure Entity where
  dev : Device
  config : EntityConfig
  key : UInt32

inductive Event
  /-- `zsock_send` of a frame that was built for the message. -/
  | sent (socket : Int) (message : Outgoing) (frame : List UInt8) (ret : Int)
  | setState (dev : Device) (state : Int)
  | getState (dev : Device)
  | onPress (dev : Device)
  | closed (socket : Int)
  deriving DecidableEq

def Event.callee : Event → Option Device
  | .setState dev _ => some dev
  | .getState dev => some dev
  | .onPress dev => some dev
  | _ => none

/-- `rx` and `tx` are the two directions of the connection behind `socket`. -/
structure Node where
  config : EsphomeConfig
  socket : Int
  rx : Receiver
  tx : Transmitter
  heap : Heap
  entities : List Entity
  switchGpio : Nat → GpioSwitch
  switchHbridge : Nat → Hbridge
  /-- What the next calls of the `on_press` function of each button return. -/
  buttonTemplate : Nat → List Int
  sensorTemperature : Nat → TemperatureSensor
  sensorTimestamp : Nat → TimestampSensor
  events : List Event

/-- A device just after boot on a connection that brings `incoming`, whose kernel never fails. -/
def freshNode (password : Option CString) (entities : List Entity) (incoming : List UInt8) :
    Node where
  config :=
    { name := CString.ofBytes [0x6E]
      serverInfo := CString.ofBytes []
      apiVersionMajor := 1
      apiVersionMinor := 10
      compilationTime := CString.ofBytes [0x74]
      projectName := none
      projectVersion := none
      model := none
      manufacturer := none
      password := password }
  socket := 3
  rx := { incoming := incoming, schedule := [], calls := 0, residue := fun _ => 0 }
  tx := { accepted := [], schedule := [] }
  heap := { ledger := Library.Resources.empty, refusals := [], garbage := fun _ => 0 }
  entities := entities
  switchGpio := fun _ =>
    { gpio := { active := fun _ => false, activeLow := fun _ => false, outcomes := [], log := [] }
      state := -einval }
  switchHbridge := fun _ =>
    { gpio := { active := fun _ => false, activeLow := fun _ => false, outcomes := [], log := [] }
      waitTime := 1
      state := -einval }
  buttonTemplate := fun _ => []
  sensorTemperature := fun _ => { fetches := [], readings := [] }
  sensorTimestamp := fun _ => { times := [] }
  events := []

def record (event : Event) : Exec Node Unit :=
  modify fun node => { node with events := node.events ++ [event] }

def onRx {α : Type} (m : Exec Receiver α) : Exec Node α :=
  zoom Node.rx (fun rx node => { node with rx := rx }) m

/-- `zsock_recv` on the connection. -/
def zsockRecv (len : Nat) : Exec Receiver (Int × List UInt8) :=
  modifyGet (·.zsockRecv len)

/-- `zsock_send` on the connection. -/
def zsockSend (message : Outgoing) (frame : List UInt8) : Exec Node Int :=
  modifyGet fun node =>
    let (ret, tx) := node.tx.zsockSend frame
    (ret, { node with tx := tx, events := node.events ++ [.sent node.socket message frame ret] })

def kMalloc (size : Nat) : Exec Node (Option Block) :=
  modifyGet fun node =>
    let (block, heap) := node.heap.kMalloc size
    (block, { node with heap := heap })

def kFree (block : Block) : Exec Node Unit :=
  modify fun node => { node with heap := node.heap.kFree block }

def onSwitchGpio {α : Type} (inst : Nat) (m : Exec GpioSwitch α) : Exec Node α :=
  zoom (fun node => node.switchGpio inst)
    (fun dev node => { node with switchGpio := Function.update node.switchGpio inst dev }) m

def onSwitchHbridge {α : Type} (inst : Nat) (m : Exec Hbridge α) : Exec Node α :=
  zoom (fun node => node.switchHbridge inst)
    (fun dev node => { node with switchHbridge := Function.update node.switchHbridge inst dev }) m

def onSensorTemperature {α : Type} (inst : Nat) (m : Exec TemperatureSensor α) : Exec Node α :=
  zoom (fun node => node.sensorTemperature inst)
    (fun dev node =>
      { node with sensorTemperature := Function.update node.sensorTemperature inst dev }) m

def onSensorTimestamp {α : Type} (inst : Nat) (m : Exec TimestampSensor α) : Exec Node α :=
  zoom (fun node => node.sensorTimestamp inst)
    (fun dev node =>
      { node with sensorTimestamp := Function.update node.sensorTimestamp inst dev }) m

/-- `esphome_switch_set_state`. -/
def switchSetState (dev : Device) (state : Int) : Exec Node Int := do
  record (.setState dev state)
  match dev.compatible with
  | .switchGpio =>
    onSwitchGpio dev.inst (Switch.esphomeSwitchSetState Switch.gpioSwitch state)
  | .switchHbridge =>
    onSwitchHbridge dev.inst (Switch.esphomeSwitchSetState Switch.hbridgeSwitch state)
  | _ => throw .undefined

/-- `esphome_switch_get_state`. -/
def switchGetState (dev : Device) : Exec Node (Int × Int) := do
  record (.getState dev)
  match dev.compatible with
  | .switchGpio =>
    onSwitchGpio dev.inst (Switch.esphomeSwitchGetState Switch.gpioSwitch)
  | .switchHbridge =>
    onSwitchHbridge dev.inst (Switch.esphomeSwitchGetState Switch.hbridgeSwitch)
  | _ => throw .undefined

/-- `esphome_button_on_press`. -/
def buttonOnPress (dev : Device) : Exec Node Int := do
  record (.onPress dev)
  match dev.compatible with
  | .buttonTemplate =>
    modifyGet fun node =>
      ((node.buttonTemplate dev.inst).headD 0,
        { node with
          buttonTemplate := Function.update node.buttonTemplate dev.inst
            (node.buttonTemplate dev.inst).tail })
  | _ => throw .undefined

/-- `esphome_sensor_read`. -/
def sensorRead (dev : Device) : Exec Node (Int × Option UInt32) :=
  match dev.compatible with
  | .sensorTemperature =>
    onSensorTemperature dev.inst (Sensor.esphomeSensorRead Sensor.temperatureSensor)
  | .sensorTimestamp =>
    onSensorTimestamp dev.inst (Sensor.esphomeSensorRead Sensor.timestampSensor)
  | _ => throw .undefined

end ZephyrEsphome.Rpc
