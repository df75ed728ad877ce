/- Digest: The sensor component and its two drivers, a temperature and the time since boot. -/

import ZephyrEsphome.Kernel.Basic

set_option autoImplicit false
set_option relaxedAutoImplicit false

namespace ZephyrEsphome.Sensor

open Kernel

/-- What the next calls on the underlying sensor return; once a list is used up its calls succeed.
A reading is the bits of the `float` it is converted to. -/
structure TemperatureSensor where
  fetches : List Int
  readings : List (Int × UInt32)

def sensorSampleFetch : Exec TemperatureSensor Int :=
  modifyGet fun sensor => (sensor.fetches.headD 0, { sensor with fetches := sensor.fetches.tail })

/-- `sensor_channel_get`, and `sensor_value_to_float` of what it stored. -/
def sensorChannelGet : Exec TemperatureSensor (Int × UInt32) :=
  modifyGet fun sensor =>
    (sensor.readings.headD (0, 0), { sensor with readings := sensor.readings.tail })

/-- `device_read_temperature`: the return value and what is stored through the pointer. -/
def deviceReadTemperature : Exec TemperatureSensor (Int × Option UInt32) := do
  let ret ← sensorSampleFetch
  if ret ≠ 0 then
    return (ret, none)
  let (ret, value) ← sensorChannelGet
  if ret ≠ 0 then
    return (ret, none)
  return (ret, some value)

/-- The times the next calls find, in seconds, as the bits of a `float`. -/
structure TimestampSensor where
  times : List UInt32

/-- `device_read_timestamp`. -/
def deviceReadTimestamp : Exec TimestampSensor (Int × Option UInt32) :=
  modifyGet fun sensor =>
    ((0, some (sensor.times.headD 0)), { sensor with times := sensor.times.tail })

/-- `struct esphome_sensor_api`, as far as the service calls it. -/
structure SensorApi (σ : Type) where
  read : Exec σ (Int × Option UInt32)

def temperatureSensor : SensorApi TemperatureSensor where
  read := deviceReadTemperature

def timestampSensor : SensorApi TimestampSensor where
  read := deviceReadTimestamp

/-- `device_init_temperature`, where the underlying sensor is ready or not. Nothing reads the trigger
that it sets. -/
def deviceInitTemperature (ready : Bool) : Exec TemperatureSensor Int := do
  if !ready then
    return -enodev
  return 0

/-- `esphome_sensor_init`, for the init function of a driver that has one. -/
def esphomeSensorInit {σ : Type} (init : Option (Exec σ Int)) : Exec σ Int :=
  match init with
  | some init => init
  | none => return 0

/-- `esphome_sensor_read`. -/
def esphomeSensorRead {σ : Type} (api : SensorApi σ) : Exec σ (Int × Option UInt32) :=
  api.read

end ZephyrEsphome.Sensor
