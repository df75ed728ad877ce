/- Digest: The switch component and its two drivers, a single output and an h-bridge. -/

import ZephyrEsphome.Kernel.Gpio

set_option autoImplicit false
set_option relaxedAutoImplicit false

namespace ZephyrEsphome.Switch

open Kernel
open Library.Exec (zoom)

structure GpioSwitch where
  gpio : Gpio Unit
  state : Int

namespace GpioSwitch

def onGpio {α : Type} (m : Exec (Gpio Unit) α) : Exec GpioSwitch α :=
  zoom GpioSwitch.gpio (fun gpio dev => { dev with gpio := gpio }) m

/-- `esphome_gpio_switch_init`. -/
def esphomeGpioSwitchInit : Exec GpioSwitch Int := do
  let ret ← onGpio (gpioPinConfigureDt ())
  if ret ≠ 0 then
    return ret
  modify fun dev => { dev with state := -einval }
  return 0

/-- `esphome_gpio_switch_set_state`. -/
def esphomeGpioSwitchSetState (state : Int) : Exec GpioSwitch Int := do
  let ret ← onGpio (gpioPinSetDt () state)
  if ret < 0 then
    return ret
  modify fun dev => { dev with state := state }
  return 0

/-- `esphome_gpio_switch_get_state`. -/
def esphomeGpioSwitchGetState : Exec GpioSwitch Int := do
  return (← get).state

end GpioSwitch

inductive HbridgePin
  | onPin
  | offPin
  deriving DecidableEq

structure Hbridge where
  gpio : Gpio HbridgePin
  waitTime : Int
  state : Int

namespace Hbridge

def onGpio {α : Type} (m : Exec (Gpio HbridgePin) α) : Exec Hbridge α :=
  zoom Hbridge.gpio (fun gpio dev => { dev with gpio := gpio }) m

/-- `esphome_switch_hbridge_init`. -/
def esphomeSwitchHbridgeInit : Exec Hbridge Int := do
  let ret ← onGpio (gpioPinConfigureDt .onPin)
  if ret ≠ 0 then
    return ret
  let ret ← onGpio (gpioPinConfigureDt .offPin)
  if ret ≠ 0 then
    return ret
  modify fun dev => { dev with state := -einval }
  return 0

/-- `esphome_switch_hbridge_gpios`. -/
def esphomeSwitchHbridgeGpios (onPin offPin : Int) : Exec Hbridge Int := do
  let ret ← onGpio (gpioPinSetDt .onPin onPin)
  if ret < 0 then
    return ret
  let ret ← onGpio (gpioPinSetDt .offPin offPin)
  if ret < 0 then
    return ret
  return 0

/-- `esphome_switch_hbridge_set_state`. -/
def esphomeSwitchHbridgeSetState (state : Int) : Exec Hbridge Int := do
  let ret ← esphomeSwitchHbridgeGpios state (if state = 0 then 1 else 0)
  if ret < 0 then
    return ret
  onGpio (kSleep (← get).waitTime)
  let ret ← esphomeSwitchHbridgeGpios 0 0
  if ret < 0 then
    return ret
  modify fun dev => { dev with state := state }
  return 0

/-- `esphome_switch_hbridge_get_state`. -/
def esphomeSwitchHbridgeGetState : Exec Hbridge Int := do
  return (← get).state

end Hbridge

/-- `struct esphome_switch_component_api`. -/
structure SwitchComponentApi (σ : Type) where
  setState : Int → Exec σ Int
  getState : Exec σ Int

def gpioSwitch : SwitchComponentApi GpioSwitch where
  setState := GpioSwitch.esphomeGpioSwitchSetState
  getState := GpioSwitch.esphomeGpioSwitchGetState

def hbridgeSwitch : SwitchComponentApi Hbridge where
  setState := Hbridge.esphomeSwitchHbridgeSetState
  getState := Hbridge.esphomeSwitchHbridgeGetState

variable {σ : Type} (api : SwitchComponentApi σ)

/-- `esphome_switch_get_state`: the return value and what is stored through the pointer. -/
def esphomeSwitchGetState : Exec σ (Int × Int) := do
  let state ← api.getState
  return (if state < 0 then state else 0, state)

/-- `esphome_switch_set_state`. -/
def esphomeSwitchSetState (state : Int) : Exec σ Int :=
  api.setState state

/-- `esphome_switch_turn_on`. -/
def esphomeSwitchTurnOn : Exec σ Int :=
  api.setState 1

/-- `esphome_switch_turn_off`. -/
def esphomeSwitchTurnOff : Exec σ Int :=
  api.setState 0

/-- `esphome_switch_toggle`. -/
def esphomeSwitchToggle : Exec σ Int := do
  let (ret, state) ← esphomeSwitchGetState api
  if ret < 0 then
    return ret
  if state ≠ 0 then
    return ← esphomeSwitchTurnOff api
  esphomeSwitchTurnOn api

end ZephyrEsphome.Switch
