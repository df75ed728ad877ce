/- Digest: What the polarity of its pins makes of an h-bridge between boot and its first calls.

   The initialisation asks for the low voltage on both pins, and every later write for a logical
   level. The two agree for a pin whose active level is the high voltage. For the other pins the
   initialisation switches the output on, and it stays on until the first call of `set_state`. -/

import ZephyrEsphome.Switch.Relay

set_option autoImplicit false
set_option relaxedAutoImplicit false

namespace ZephyrEsphome.Switch.Boot

open Kernel
open Library.Exec
open GpioSwitch (esphomeGpioSwitchInit)
open Hbridge (esphomeSwitchHbridgeInit esphomeSwitchHbridgeSetState onGpio)
open Holding Relay ShootThrough

theorem configure_returns {Pin : Type} [DecidableEq Pin] (gpio : Gpio Pin) (pin : Pin) :
    ∃ ret next, (gpioPinConfigureDt pin).run gpio = .ok ret next ∧
      next.outcomes = gpio.outcomes.tail ∧ (ret = 0 ↔ gpio.obstacle = none) := by
  cases met : gpio.obstacle with
  | some failure =>
    refine ⟨failure.code, { gpio with outcomes := gpio.outcomes.tail }, ?_, rfl, ?_⟩
    · simp [gpioPinConfigureDt, met]
    · simp [Int.ne_of_lt failure.negative]
  | none =>
    refine ⟨0, { gpio with
      active := Function.update gpio.active pin (gpio.activeLow pin)
      outcomes := gpio.outcomes.tail }, ?_, rfl, ?_⟩
    · simp [gpioPinConfigureDt, met]
    · simp

theorem gpioInit_returns (dev : GpioSwitch) : ∃ ret next,
    esphomeGpioSwitchInit.run dev = .ok ret next ∧
      (ret = 0 ↔ Clear dev.gpio.outcomes 1) ∧
      next.state = if Clear dev.gpio.outcomes 1 then -einval else dev.state := by
  obtain ⟨ret, gpio, configured, -, zero⟩ := configure_returns dev.gpio ()
  rw [← clear_one] at zero
  unfold esphomeGpioSwitchInit GpioSwitch.onGpio
  rw [run_bind_ok _ (run_zoom_ok _ configured)]
  by_cases done : ret = 0
  · rw [if_neg (not_not_intro done), if_pos (zero.mp done)]
    exact ⟨0, { gpio := gpio, state := -einval }, rfl, iff_of_true rfl (zero.mp done), rfl⟩
  · rw [if_pos done, if_neg (mt zero.mpr done)]
    exact ⟨ret, { dev with gpio := gpio }, rfl, zero, rfl⟩

theorem hbridgeInit_returns (dev : Hbridge) : ∃ ret next,
    esphomeSwitchHbridgeInit.run dev = .ok ret next ∧
      (ret = 0 ↔ Clear dev.gpio.outcomes 2) ∧
      next.state = if Clear dev.gpio.outcomes 2 then -einval else dev.state := by
  obtain ⟨ret, gpio, configured, left, zero⟩ := configure_returns dev.gpio HbridgePin.onPin
  obtain ⟨ret', gpio', configured', -, zero'⟩ := configure_returns gpio HbridgePin.offPin
  rw [← clear_one] at zero
  rw [← clear_one, left, ← List.drop_one] at zero'
  have both := clear_add dev.gpio.outcomes 1 1
  unfold esphomeSwitchHbridgeInit onGpio
  rw [run_bind_ok _ (run_zoom_ok _ configured)]
  by_cases done : ret = 0
  · rw [if_neg (not_not_intro done),
      run_bind_ok _ (@run_zoom_ok _ _ _ _ Hbridge.gpio _ _ { dev with gpio := gpio } _ _ configured')]
    by_cases done' : ret' = 0
    · have clear := both.mpr ⟨zero.mp done, zero'.mp done'⟩
      rw [if_neg (not_not_intro done'), if_pos clear]
      exact ⟨0, { dev with gpio := gpio', state := -einval }, rfl, iff_of_true rfl clear, rfl⟩
    · have hindered : ¬ Clear dev.gpio.outcomes 2 := fun clear => done' (zero'.mpr (both.mp clear).2)
      rw [if_pos done', if_neg hindered]
      exact ⟨ret', { dev with gpio := gpio' }, rfl, iff_of_false done' hindered, rfl⟩
  · have hindered : ¬ Clear dev.gpio.outcomes 2 := fun clear => done (zero.mpr (both.mp clear).1)
    rw [if_pos done, if_neg hindered]
    exact ⟨ret, { dev with gpio := gpio }, rfl, iff_of_false done hindered, rfl⟩

theorem gpioInit_low {dev : GpioSwitch} (free : dev.gpio.obstacle = none) : ∃ next,
    esphomeGpioSwitchInit.run dev = .ok 0 next ∧
      next.gpio.active () = dev.gpio.activeLow () ∧
      next.gpio.outcomes = dev.gpio.outcomes.tail := by
  have configured : (gpioPinConfigureDt ()).run dev.gpio = .ok 0 { dev.gpio with
      active := Function.update dev.gpio.active () (dev.gpio.activeLow ())
      outcomes := dev.gpio.outcomes.tail } := by
    simp [gpioPinConfigureDt, free]
  refine ⟨{ gpio := { dev.gpio with
    active := Function.update dev.gpio.active () (dev.gpio.activeLow ())
    outcomes := dev.gpio.outcomes.tail }, state := -einval }, ?_, ?_, rfl⟩
  · rw [esphomeGpioSwitchInit, GpioSwitch.onGpio, run_bind_ok _ (run_zoom_ok _ configured)]
    rfl
  · simp

def configured (dev : Hbridge) (pin : HbridgePin) : Hbridge :=
  { dev with
    gpio := { dev.gpio with
      active := Function.update dev.gpio.active pin (dev.gpio.activeLow pin)
      outcomes := dev.gpio.outcomes.tail } }

theorem run_configure {dev : Hbridge} (free : dev.gpio.obstacle = none) (pin : HbridgePin) :
    (onGpio (gpioPinConfigureDt pin)).run dev = .ok 0 (configured dev pin) := by
  apply run_zoom_ok
  simp [gpioPinConfigureDt, free]

structure Ready (dev ready : Hbridge) : Prop where
  active : ∀ pin, ready.gpio.active pin = dev.gpio.activeLow pin
  untouched : ready.gpio.log = dev.gpio.log
  outcomes : ready.gpio.outcomes = dev.gpio.outcomes.drop 2

theorem run_init {dev : Hbridge} (clear : Clear dev.gpio.outcomes 2) :
    ∃ ready, esphomeSwitchHbridgeInit.run dev = .ok 0 ready ∧ Ready dev ready := by
  obtain ⟨first, second⟩ := (clear_add dev.gpio.outcomes 1 1).mp clear
  have free := (clear_one dev.gpio).mp first
  have free' : (configured dev .onPin).gpio.obstacle = none := by
    rw [← clear_one]
    rwa [List.drop_one] at second
  refine ⟨{ configured (configured dev .onPin) .offPin with state := -einval }, ?_, ?_⟩
  · rw [esphomeSwitchHbridgeInit, run_bind_ok _ (run_configure free .onPin),
      if_neg (not_not_intro rfl), run_bind_ok _ (run_configure free' .offPin),
      if_neg (not_not_intro rfl)]
    rfl
  · refine ⟨?_, rfl, ?_⟩
    · intro pin
      cases pin with
      | onPin => simp [configured]
      | offPin => simp [configured]
    · show dev.gpio.outcomes.tail.tail = _
      rw [← List.drop_one, ← List.drop_one, List.drop_drop]

def Dark (dev : Hbridge) : Prop := ∀ pin, dev.gpio.active pin = false

theorem Dark.apart {dev : Hbridge} (dark : Dark dev) : ¬ Both dev.gpio.active := by
  rintro ⟨on, -⟩
  rw [dark] at on
  exact Bool.false_ne_true on

theorem Dark.not_against {dev : Hbridge} (dark : Dark dev) (state : Int) : ¬ Against dev state := by
  rintro ⟨-, -, off⟩
  rw [dark] at off
  exact Bool.false_ne_true off

theorem setState_clear {dev : Hbridge} (clear : Clear dev.gpio.outcomes 4) (state : Int) :
    ∃ next, (esphomeSwitchHbridgeSetState state).run dev = .ok 0 next ∧ next.state = state ∧
      Dark next ∧ next.gpio.outcomes = dev.gpio.outcomes.drop 4 := by
  obtain ⟨ret, next, run, ends⟩ := setState_ends dev state
  cases ends with
  | undriven failure hindered => exact absurd (clear_mono (by decide) clear) hindered
  | halfDriven failure _ hindered => exact absurd (clear_mono (by decide) clear) hindered
  | unreleased failure _ hindered => exact absurd (clear_mono (by decide) clear) hindered
  | halfReleased failure _ hindered => exact absurd clear hindered
  | whole =>
    refine ⟨_, run, rfl, ?_, ?_⟩
    · intro pin
      cases pin with
      | onPin => simp [driven]
      | offPin => simp [driven]
    · show (rested dev state).gpio.outcomes.tail.tail = _
      rw [outcomes_rested, ← List.drop_one, ← List.drop_one, List.drop_drop, List.drop_drop]

theorem dark_apart (states : List Int) : ∀ dev : Hbridge, Dark dev →
    Clear dev.gpio.outcomes (4 * states.length) →
    Dark (afterCalls dev states) ∧
      (Overlaps (afterCalls dev states).gpio.log ↔ Overlaps dev.gpio.log) := by
  induction states with
  | nil =>
    intro dev dark _
    exact ⟨dark, Iff.rfl⟩
  | cons state states ih =>
    intro dev dark clear
    rw [List.length_cons, Nat.mul_succ, Nat.add_comm, clear_add] at clear
    obtain ⟨next, run, -, dark', left⟩ := setState_clear clear.1 state
    obtain ⟨_, _, run', log, -⟩ := setState_overlaps dark.apart state
    obtain ⟨-, rfl⟩ := EStateM.Result.ok.inj (run.symm.trans run')
    obtain ⟨last, rest⟩ := ih next dark' (by rw [left]; exact clear.2)
    rw [afterCalls, setStates_cons run]
    refine ⟨last, rest.trans (log.trans ?_)⟩
    have never := dark.not_against state
    tauto

/-- From the end of the initialisation on there is an instant with both outputs active. -/
def Shorted (ready : Hbridge) (states : List Int) : Prop :=
  Both ready.gpio.active ∨ Overlaps (afterCalls ready states).gpio.log

/-- As long as nothing fails, the bridge is shorted exactly when its off output is active at the low
voltage and either the on output is as well or the first call asks for the on state. An output is
active after the calls exactly when there were none and the low voltage makes it so. -/
theorem shorted_since_boot_iff {dev : Hbridge} (boot : dev.gpio.log = []) {states : List Int}
    (clear : Clear dev.gpio.outcomes (2 + 4 * states.length)) :
    ∃ ready, esphomeSwitchHbridgeInit.run dev = .ok 0 ready ∧
      (Shorted ready states ↔ dev.gpio.activeLow .offPin = true ∧
        (dev.gpio.activeLow .onPin = true ∨ ∃ state ∈ states.head?, state ≠ 0)) ∧
      ∀ pin, (afterCalls ready states).gpio.active pin = true ↔
        states = [] ∧ dev.gpio.activeLow pin = true := by
  obtain ⟨early, late⟩ := (clear_add _ 2 _).mp clear
  obtain ⟨ready, init, levels⟩ := run_init early
  have silent : ¬ Overlaps ready.gpio.log := by
    rw [levels.untouched, boot]
    rintro ⟨entry, member, -⟩
    exact List.not_mem_nil member
  have both : Both ready.gpio.active ↔
      dev.gpio.activeLow .onPin = true ∧ dev.gpio.activeLow .offPin = true := by
    rw [Both, levels.active, levels.active]
  refine ⟨ready, init, ?_⟩
  cases states with
  | nil =>
    have same : afterCalls ready [] = ready := rfl
    rw [Shorted, same, both]
    refine ⟨?_, ?_⟩
    · simp only [List.head?_nil, Option.not_mem_none, false_and, exists_false, or_false]
      tauto
    · intro pin
      rw [levels.active]
      simp
  | cons state states =>
    rw [List.length_cons, Nat.mul_succ, Nat.add_comm (4 * _), clear_add, ← levels.outcomes] at late
    obtain ⟨next, run, -, dark, left⟩ := setState_clear late.1 state
    obtain ⟨last, rest⟩ := dark_apart states next dark (by rw [left]; exact late.2)
    have whole : afterCalls ready (state :: states) = afterCalls next states := by
      rw [afterCalls, setStates_cons run]
      rfl
    rw [Shorted, whole, both]
    refine ⟨?_, ?_⟩
    · by_cases apart : Both ready.gpio.active
      · have pins := both.mp apart
        tauto
      · obtain ⟨_, _, run', log, -⟩ := setState_overlaps apart state
        obtain ⟨-, rfl⟩ := EStateM.Result.ok.inj (run.symm.trans run')
        have free := (clear_one ready.gpio).mp (clear_mono (by decide) late.1)
        have pins := mt both.mpr apart
        rw [rest, log, Against, levels.active]
        simp only [List.head?_cons, Option.mem_some_iff, exists_eq_left', free, true_and]
        tauto
    · intro pin
      rw [last pin]
      simp

def offActiveLow : Hbridge where
  gpio :=
    { active := fun _ => false
      activeLow := fun pin => pin == .offPin
      outcomes := []
      log := [] }
  waitTime := 100
  state := 0

theorem shorted_since_boot_iff_off :
    ∃ ready, esphomeSwitchHbridgeInit.run offActiveLow = .ok 0 ready ∧ Shorted ready [1] ∧
      ¬ Shorted ready [0, 1] := by
  obtain ⟨ready, init, shorted, -⟩ :=
    @shorted_since_boot_iff offActiveLow rfl [1] (by decide)
  obtain ⟨ready', init', apart, -⟩ :=
    @shorted_since_boot_iff offActiveLow rfl [0, 1] (by decide)
  obtain ⟨-, rfl⟩ := EStateM.Result.ok.inj (init.symm.trans init')
  refine ⟨ready, init, ?_, ?_⟩
  · exact shorted.mpr ⟨rfl, Or.inr ⟨1, rfl, by decide⟩⟩
  · intro both
    obtain ⟨-, on | ⟨state, first, nonzero⟩⟩ := apart.mp both
    · exact absurd on (by decide)
    · exact nonzero (Option.some.inj first).symm

end ZephyrEsphome.Switch.Boot
