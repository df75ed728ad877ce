/- Digest: The output pins of one device, the calls that drive them, and the record of those calls. -/

import ZephyrEsphome.Kernel.Basic
import Mathlib.Logic.Function.Basic

set_option autoImplicit false
set_option relaxedAutoImplicit false

namespace ZephyrEsphome.Kernel

variable {Pin : Type}

inductive Action (Pin : Type)
  | set (pin : Pin) (value : Int) (ret : Int)
  | sleep (ms : Int)
  deriving DecidableEq

abbrev Levels (Pin : Type) := Pin → Bool

structure Gpio (Pin : Type) where
  active : Levels Pin
  /-- The pins whose active level is the low voltage. -/
  activeLow : Pin → Bool
  /-- The errors the next calls meet; once it is used up every call succeeds. -/
  outcomes : List (Option Failure)
  /-- Every action in order, with the levels from then on. -/
  log : List (Action Pin × Levels Pin)

namespace Gpio

def obstacle (gpio : Gpio Pin) : Option Failure := gpio.outcomes.head?.join

/-- The pins after an action that leaves them at `levels`. -/
def after (gpio : Gpio Pin) (action : Action Pin) (levels : Levels Pin) : Gpio Pin :=
  { gpio with
    active := levels
    outcomes := gpio.outcomes.tail
    log := gpio.log ++ [(action, levels)] }

@[simp] theorem active_after (gpio : Gpio Pin) (action : Action Pin) (levels : Levels Pin) :
    (gpio.after action levels).active = levels := rfl

@[simp] theorem log_after (gpio : Gpio Pin) (action : Action Pin) (levels : Levels Pin) :
    (gpio.after action levels).log = gpio.log ++ [(action, levels)] := rfl

end Gpio

variable [DecidableEq Pin]

/-- `gpio_pin_set_dt`: the logical value is driven onto the pin, or the pin is left alone. -/
def gpioPinSetDt (pin : Pin) (value : Int) : Exec (Gpio Pin) Int :=
  modifyGet fun gpio =>
    match gpio.obstacle with
    | some failure => (failure.code, gpio.after (.set pin value failure.code) gpio.active)
    | none => (0, gpio.after (.set pin value 0) (Function.update gpio.active pin (value != 0)))

/-- `gpio_pin_configure_dt` with `GPIO_OUTPUT_LOW`, which is a voltage and not a logical level. -/
def gpioPinConfigureDt (pin : Pin) : Exec (Gpio Pin) Int :=
  modifyGet fun gpio =>
    match gpio.obstacle with
    | some failure => (failure.code, { gpio with outcomes := gpio.outcomes.tail })
    | none =>
      (0, { gpio with
        active := Function.update gpio.active pin (gpio.activeLow pin)
        outcomes := gpio.outcomes.tail })

/-- `k_sleep`. -/
def kSleep (ms : Int) : Exec (Gpio Pin) Unit :=
  modify fun gpio => { gpio with log := gpio.log ++ [(.sleep ms, gpio.active)] }

theorem gpioPinSetDt_fails {gpio : Gpio Pin} {failure : Failure}
    (h : gpio.obstacle = some failure) (pin : Pin) (value : Int) :
    (gpioPinSetDt pin value).run gpio =
      .ok failure.code (gpio.after (.set pin value failure.code) gpio.active) := by
  simp [gpioPinSetDt, h]

theorem gpioPinSetDt_drives {gpio : Gpio Pin} (h : gpio.obstacle = none) (pin : Pin)
    (value : Int) :
    (gpioPinSetDt pin value).run gpio =
      .ok 0 (gpio.after (.set pin value 0) (Function.update gpio.active pin (value != 0))) := by
  simp [gpioPinSetDt, h]

end ZephyrEsphome.Kernel
