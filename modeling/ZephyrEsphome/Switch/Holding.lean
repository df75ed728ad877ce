/- Digest: When a call of `set_state` succeeds, and what its driver holds afterwards. -/

import ZephyrEsphome.Switch.Driver

set_option autoImplicit false
set_option relaxedAutoImplicit false

namespace ZephyrEsphome.Switch.Holding

open Kernel
open Library.Exec
open Hbridge (esphomeSwitchHbridgeGpios esphomeSwitchHbridgeInit esphomeSwitchHbridgeSetState
  onGpio)
open GpioSwitch (esphomeGpioSwitchInit esphomeGpioSwitchSetState)

/-- None of the next `calls` meets an error. -/
def Clear (outcomes : List (Option Failure)) (calls : Nat) : Prop :=
  ∀ outcome ∈ outcomes.take calls, outcome = none

instance (outcomes : List (Option Failure)) (calls : Nat) : Decidable (Clear outcomes calls) := by
  unfold Clear
  infer_instance

theorem clear_add (outcomes : List (Option Failure)) (first second : Nat) :
    Clear outcomes (first + second) ↔
      Clear outcomes first ∧ Clear (outcomes.drop first) second := by
  unfold Clear
  rw [List.take_add]
  exact List.forall_mem_append

theorem clear_one {Pin : Type} (gpio : Gpio Pin) :
    Clear gpio.outcomes 1 ↔ gpio.obstacle = none := by
  unfold Clear Gpio.obstacle
  cases gpio.outcomes with
  | nil => simp
  | cons outcome later => simp

theorem clear_mono {outcomes : List (Option Failure)} {calls more : Nat} (fewer : calls ≤ more)
    (clear : Clear outcomes more) : Clear outcomes calls := by
  obtain ⟨rest, rfl⟩ := Nat.exists_eq_add_of_le fewer
  exact ((clear_add outcomes calls rest).mp clear).1

/-- What a call of `set_state` returns, and what its driver holds before and after it. -/
structure Settled (succeeds : Prop) (state before ret after : Int) : Prop where
  success : succeeds → ret = 0 ∧ after = state
  failure : ¬ succeeds → ret < 0 ∧ after = before

theorem Settled.zero_iff {succeeds : Prop} [Decidable succeeds] {state before ret after : Int}
    (settled : Settled succeeds state before ret after) : ret = 0 ↔ succeeds := by
  constructor
  · rintro rfl
    apply Decidable.byContradiction
    intro fails
    obtain ⟨negative, -⟩ := settled.failure fails
    exact absurd negative (by decide)
  · intro succeeds
    exact (settled.success succeeds).1

theorem run_gpioSwitchSetState (dev : GpioSwitch) (state : Int) :
    ∃ ret next, (esphomeGpioSwitchSetState state).run dev = .ok ret next ∧
      Settled (Clear dev.gpio.outcomes 1) state dev.state ret next.state := by
  rw [clear_one]
  unfold esphomeGpioSwitchSetState
  cases met : dev.gpio.obstacle with
  | some failure =>
    have written := run_zoom_ok (fun gpio (dev : GpioSwitch) => { dev with gpio := gpio })
      (gpioPinSetDt_fails met () state)
    let left := dev.gpio.after (.set () state failure.code) dev.gpio.active
    refine ⟨failure.code, { dev with gpio := left }, ?_, ?_, ?_⟩
    · rw [GpioSwitch.onGpio, run_bind_ok _ written, if_pos failure.negative]
      rfl
    · intro clear
      exact absurd clear nofun
    · intro _
      exact ⟨failure.negative, rfl⟩
  | none =>
    have written := run_zoom_ok (fun gpio (dev : GpioSwitch) => { dev with gpio := gpio })
      (gpioPinSetDt_drives met () state)
    let left := dev.gpio.after (.set () state 0)
      (Function.update dev.gpio.active () (state != 0))
    refine ⟨0, { gpio := left, state := state }, ?_, ?_, ?_⟩
    · rw [GpioSwitch.onGpio, run_bind_ok _ written, if_neg (by decide)]
      rfl
    · intro _
      exact ⟨rfl, rfl⟩
    · intro hindered
      exact absurd rfl hindered

theorem gpioSwitchInit_unknown {boot dev : GpioSwitch}
    (init : esphomeGpioSwitchInit.run boot = .ok 0 dev) : dev.state = -einval := by
  obtain ⟨configured, -, later⟩ := run_checked_inv init
  obtain ⟨-, rfl⟩ := EStateM.Result.ok.inj later
  rfl

theorem gpioSwitchInit_reaches {gpio : Gpio Unit} (low : gpio.active () = gpio.activeLow ()) :
    ∃ boot, esphomeGpioSwitchInit.run boot = .ok 0 { gpio := gpio, state := -einval } := by
  let boot : GpioSwitch :=
    { gpio := { gpio with outcomes := none :: gpio.outcomes }, state := 0 }
  refine ⟨boot, ?_⟩
  have configured : (gpioPinConfigureDt ()).run boot.gpio = .ok 0 gpio := by
    simp [gpioPinConfigureDt, Gpio.obstacle, boot, ← low]
  rw [esphomeGpioSwitchInit, GpioSwitch.onGpio, run_bind_ok _ (run_zoom_ok _ configured)]
  rfl

def driven (dev : Hbridge) (pin : HbridgePin) (value : Int) : Hbridge :=
  { dev with
    gpio := dev.gpio.after (.set pin value 0) (Function.update dev.gpio.active pin (value != 0)) }

def refused (dev : Hbridge) (pin : HbridgePin) (value : Int) (failure : Failure) : Hbridge :=
  { dev with gpio := dev.gpio.after (.set pin value failure.code) dev.gpio.active }

theorem set_drives {dev : Hbridge} (free : dev.gpio.obstacle = none) (pin : HbridgePin)
    (value : Int) :
    (onGpio (gpioPinSetDt pin value)).run dev = .ok 0 (driven dev pin value) :=
  run_zoom_ok _ (gpioPinSetDt_drives free pin value)

theorem set_fails {dev : Hbridge} {failure : Failure} (met : dev.gpio.obstacle = some failure)
    (pin : HbridgePin) (value : Int) :
    (onGpio (gpioPinSetDt pin value)).run dev =
      .ok failure.code (refused dev pin value failure) :=
  run_zoom_ok _ (gpioPinSetDt_fails met pin value)

theorem clear_succ {dev : Hbridge} {outcomes : List (Option Failure)} {calls : Nat}
    (left : dev.gpio.outcomes = outcomes.drop calls) :
    Clear outcomes (calls + 1) ↔ Clear outcomes calls ∧ dev.gpio.obstacle = none := by
  rw [clear_add outcomes calls 1, ← left, clear_one]

theorem gpios_cases (dev : Hbridge) (on off : Int) :
    (∃ failure, ¬ Clear dev.gpio.outcomes 1 ∧
      (esphomeSwitchHbridgeGpios on off).run dev =
        .ok failure.code (refused dev .onPin on failure)) ∨
    (∃ failure, Clear dev.gpio.outcomes 1 ∧ ¬ Clear dev.gpio.outcomes 2 ∧
      (esphomeSwitchHbridgeGpios on off).run dev =
        .ok failure.code (refused (driven dev .onPin on) .offPin off failure)) ∨
    (Clear dev.gpio.outcomes 2 ∧
      (esphomeSwitchHbridgeGpios on off).run dev =
        .ok 0 (driven (driven dev .onPin on) .offPin off)) := by
  have left : (driven dev .onPin on).gpio.outcomes = dev.gpio.outcomes.drop 1 := List.drop_one.symm
  rw [clear_succ left, clear_one]
  unfold esphomeSwitchHbridgeGpios
  cases first : dev.gpio.obstacle with
  | some failure =>
    left
    refine ⟨failure, nofun, ?_⟩
    rw [run_bind_ok _ (set_fails first .onPin on), if_pos failure.negative]
    rfl
  | none =>
    right
    rw [run_bind_ok _ (set_drives first .onPin on), if_neg (by decide)]
    cases second : (driven dev .onPin on).gpio.obstacle with
    | some failure =>
      left
      refine ⟨failure, rfl, nofun, ?_⟩
      rw [run_bind_ok _ (set_fails second .offPin off), if_pos failure.negative]
      rfl
    | none =>
      right
      refine ⟨⟨rfl, rfl⟩, ?_⟩
      rw [run_bind_ok _ (set_drives second .offPin off), if_neg (by decide)]
      rfl

/-- The value that a call for `state` writes to the off output. -/
def opposite (state : Int) : Int := if state = 0 then 1 else 0

/-- The device after a call for `state` has driven both outputs. -/
def energised (dev : Hbridge) (state : Int) : Hbridge :=
  driven (driven dev .onPin state) .offPin (opposite state)

def rested (dev : Hbridge) (state : Int) : Hbridge :=
  { energised dev state with
    gpio := { (energised dev state).gpio with
      log := (energised dev state).gpio.log ++
        [(.sleep dev.waitTime, (energised dev state).gpio.active)] } }

theorem outcomes_rested (dev : Hbridge) (state : Int) :
    (rested dev state).gpio.outcomes = dev.gpio.outcomes.drop 2 := by
  show dev.gpio.outcomes.tail.tail = _
  rw [← List.drop_one, ← List.drop_one, List.drop_drop]

/-- How a call of `set_state` of an h-bridge ends: at the first of its four writes that meets an
error, or as it should. -/
inductive Ends (dev : Hbridge) (state : Int) : Int → Hbridge → Prop
  | undriven (failure : Failure) (hindered : ¬ Clear dev.gpio.outcomes 1) :
      Ends dev state failure.code (refused dev .onPin state failure)
  | halfDriven (failure : Failure) (clear : Clear dev.gpio.outcomes 1)
      (hindered : ¬ Clear dev.gpio.outcomes 2) :
      Ends dev state failure.code
        (refused (driven dev .onPin state) .offPin (opposite state) failure)
  | unreleased (failure : Failure) (clear : Clear dev.gpio.outcomes 2)
      (hindered : ¬ Clear dev.gpio.outcomes 3) :
      Ends dev state failure.code (refused (rested dev state) .onPin 0 failure)
  | halfReleased (failure : Failure) (clear : Clear dev.gpio.outcomes 3)
      (hindered : ¬ Clear dev.gpio.outcomes 4) :
      Ends dev state failure.code
        (refused (driven (rested dev state) .onPin 0) .offPin 0 failure)
  | whole (clear : Clear dev.gpio.outcomes 4) :
      Ends dev state 0
        { driven (driven (rested dev state) .onPin 0) .offPin 0 with state := state }

theorem setState_ends (dev : Hbridge) (state : Int) :
    ∃ ret next, (esphomeSwitchHbridgeSetState state).run dev = .ok ret next ∧
      Ends dev state ret next := by
  have three := clear_add dev.gpio.outcomes 2 1
  have four := clear_add dev.gpio.outcomes 2 2
  rw [← outcomes_rested dev state] at three four
  unfold esphomeSwitchHbridgeSetState
  rcases gpios_cases dev state (opposite state) with
    ⟨failure, hindered, run⟩ | ⟨failure, clear, hindered, run⟩ | ⟨clear, run⟩
  · have driving : (esphomeSwitchHbridgeGpios state (if state = 0 then 1 else 0)).run dev = _ := run
    refine ⟨_, _, ?_, .undriven failure hindered⟩
    rw [run_bind_ok _ driving, if_pos failure.negative]
    rfl
  · have driving : (esphomeSwitchHbridgeGpios state (if state = 0 then 1 else 0)).run dev = _ := run
    refine ⟨_, _, ?_, .halfDriven failure clear hindered⟩
    rw [run_bind_ok _ driving, if_pos failure.negative]
    rfl
  · have driving : (esphomeSwitchHbridgeGpios state (if state = 0 then 1 else 0)).run dev =
        .ok 0 (energised dev state) := run
    have sleeping : (onGpio (kSleep (energised dev state).waitTime)).run (energised dev state) =
        .ok () (rested dev state) := rfl
    rw [run_bind_ok _ driving, if_neg (by decide), run_bind_ok _ (run_get _),
      run_bind_ok _ sleeping]
    rcases gpios_cases (rested dev state) 0 0 with
      ⟨failure, hindered, run⟩ | ⟨failure, clear', hindered, run⟩ | ⟨clear', run⟩
    · refine ⟨_, _, ?_, .unreleased failure clear fun all => hindered (three.mp all).2⟩
      rw [run_bind_ok _ run, if_pos failure.negative]
      rfl
    · refine ⟨_, _, ?_, .halfReleased failure (three.mpr ⟨clear, clear'⟩)
        fun all => hindered (four.mp all).2⟩
      rw [run_bind_ok _ run, if_pos failure.negative]
      rfl
    · refine ⟨_, _, ?_, .whole (four.mpr ⟨clear, clear'⟩)⟩
      rw [run_bind_ok _ run, if_neg (by decide)]
      rfl

theorem run_hbridgeSetState (dev : Hbridge) (state : Int) :
    ∃ ret next, (esphomeSwitchHbridgeSetState state).run dev = .ok ret next ∧
      Settled (Clear dev.gpio.outcomes 4) state dev.state ret next.state := by
  obtain ⟨ret, next, run, ends⟩ := setState_ends dev state
  refine ⟨ret, next, run, ?_⟩
  cases ends with
  | undriven failure hindered =>
    exact ⟨fun clear => absurd (clear_mono (by decide) clear) hindered,
      fun _ => ⟨failure.negative, rfl⟩⟩
  | halfDriven failure _ hindered =>
    exact ⟨fun clear => absurd (clear_mono (by decide) clear) hindered,
      fun _ => ⟨failure.negative, rfl⟩⟩
  | unreleased failure _ hindered =>
    exact ⟨fun clear => absurd (clear_mono (by decide) clear) hindered,
      fun _ => ⟨failure.negative, rfl⟩⟩
  | halfReleased failure _ hindered =>
    exact ⟨fun clear => absurd clear hindered, fun _ => ⟨failure.negative, rfl⟩⟩
  | whole clear => exact ⟨fun _ => ⟨rfl, rfl⟩, fun hindered => absurd clear hindered⟩

theorem hbridgeInit_unknown {boot dev : Hbridge}
    (init : esphomeSwitchHbridgeInit.run boot = .ok 0 dev) : dev.state = -einval := by
  obtain ⟨configured, -, later⟩ := run_checked_inv init
  obtain ⟨configured', -, later⟩ := run_checked_inv later
  obtain ⟨-, rfl⟩ := EStateM.Result.ok.inj later
  rfl

end ZephyrEsphome.Switch.Holding
