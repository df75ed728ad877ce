/- Digest: What a call of `set_state` does to an h-bridge, and when it leaves a coil energised. -/

import ZephyrEsphome.Switch.ShootThrough

set_option autoImplicit false
set_option relaxedAutoImplicit false

namespace ZephyrEsphome.Switch.Pulses

open Kernel
open Library.Exec
open Hbridge (esphomeSwitchHbridgeSetState)
open Holding
open ShootThrough (setStates)

abbrev Entry := Action HbridgePin × Levels HbridgePin

/-- The outputs during the pulse of a call for `state`. -/
def pulseLevels (state : Int) : Levels HbridgePin
  | .onPin => state != 0
  | .offPin => opposite state != 0

/-- The record of the pulse of a call for `state`: two writes, and the time between. -/
def pulse (waitTime state : Int) (levels : Levels HbridgePin) : List Entry :=
  [(.set .onPin state 0, levels), (.set .offPin (opposite state) 0, pulseLevels state),
    (.sleep waitTime, pulseLevels state)]

inductive Course (dev : Hbridge) (state : Int) : List Entry → Int → Prop
  | undriven {e : Int} {levels : Levels HbridgePin} (error : e < 0)
      (hindered : ¬ Clear dev.gpio.outcomes 1) :
      Course dev state [(.set .onPin state e, levels)] dev.state
  | halfDriven {e : Int} {levels levels' : Levels HbridgePin} (error : e < 0)
      (clear : Clear dev.gpio.outcomes 1) (hindered : ¬ Clear dev.gpio.outcomes 2) :
      Course dev state
        [(.set .onPin state 0, levels), (.set .offPin (opposite state) e, levels')] dev.state
  | unreleased {e : Int} {levels levels' : Levels HbridgePin} (error : e < 0)
      (clear : Clear dev.gpio.outcomes 2) (hindered : ¬ Clear dev.gpio.outcomes 3) :
      Course dev state (pulse dev.waitTime state levels ++ [(.set .onPin 0 e, levels')]) dev.state
  | halfReleased {e : Int} {levels levels' levels'' : Levels HbridgePin} (error : e < 0)
      (clear : Clear dev.gpio.outcomes 3) (hindered : ¬ Clear dev.gpio.outcomes 4) :
      Course dev state
        (pulse dev.waitTime state levels ++
          [(.set .onPin 0 0, levels'), (.set .offPin 0 e, levels'')])
        dev.state
  | whole {levels levels' levels'' : Levels HbridgePin} (clear : Clear dev.gpio.outcomes 4) :
      Course dev state
        (pulse dev.waitTime state levels ++
          [(.set .onPin 0 0, levels'), (.set .offPin 0 0, levels'')])
        state

private theorem energised_levels (dev : Hbridge) (state : Int) :
    (energised dev state).gpio.active = pulseLevels state := by
  funext pin
  cases pin with
  | onPin => rfl
  | offPin => rfl

private theorem rested_log (dev : Hbridge) (state : Int) :
    (rested dev state).gpio.log =
      dev.gpio.log ++ pulse dev.waitTime state (driven dev .onPin state).gpio.active := by
  show (dev.gpio.log ++ [_] ++ [(_, (energised dev state).gpio.active)]) ++
    [(_, (energised dev state).gpio.active)] = _
  rw [energised_levels, List.append_assoc, List.append_assoc]
  rfl

theorem setState_course (dev : Hbridge) (state : Int) :
    ∃ ret next made, (esphomeSwitchHbridgeSetState state).run dev = .ok ret next ∧
      next.gpio.log = dev.gpio.log ++ made ∧ next.waitTime = dev.waitTime ∧
      Course dev state made next.state := by
  obtain ⟨ret, next, run, ends⟩ := setState_ends dev state
  have rest := rested_log dev state
  cases ends with
  | undriven failure hindered =>
    exact ⟨_, _, _, run, rfl, rfl, .undriven failure.negative hindered⟩
  | halfDriven failure clear hindered =>
    exact ⟨_, _, _, run, List.append_assoc _ _ _, rfl,
      .halfDriven failure.negative clear hindered⟩
  | unreleased failure clear hindered =>
    have log : (refused (rested dev state) .onPin 0 failure).gpio.log =
        (rested dev state).gpio.log ++ [_] := rfl
    rw [rest, List.append_assoc] at log
    exact ⟨_, _, _, run, log, rfl, .unreleased failure.negative clear hindered⟩
  | halfReleased failure clear hindered =>
    have log : (refused (driven (rested dev state) .onPin 0) .offPin 0 failure).gpio.log =
        (rested dev state).gpio.log ++ [_] ++ [_] := rfl
    rw [rest, List.append_assoc, List.append_assoc] at log
    exact ⟨_, _, _, run, log, rfl, .halfReleased failure.negative clear hindered⟩
  | whole clear =>
    have log : (driven (driven (rested dev state) .onPin 0) .offPin 0).gpio.log =
        (rested dev state).gpio.log ++ [_] ++ [_] := rfl
    rw [rest, List.append_assoc, List.append_assoc] at log
    exact ⟨_, _, _, run, log, rfl, .whole clear⟩

/-- Every output that was driven active is written 0 later. -/
def Released (made : List Entry) : Prop :=
  ∀ early pin value levels late, made = early ++ (.set pin value 0, levels) :: late → value ≠ 0 →
    ∃ ret levels', (.set pin 0 ret, levels') ∈ late

theorem released_nil : Released [] := by
  intro early pin value levels late split
  exact absurd split.symm (by simp)

theorem released_cons {entry : Entry} {later : List Entry} : Released (entry :: later) ↔
    (∀ pin value, entry.1 = .set pin value 0 → value ≠ 0 →
      ∃ ret levels, (.set pin 0 ret, levels) ∈ later) ∧ Released later := by
  constructor
  · intro released
    constructor
    · intro pin value driving nonzero
      obtain ⟨action, levels⟩ := entry
      obtain rfl : action = .set pin value 0 := driving
      exact released [] pin value levels later rfl nonzero
    · intro early pin value levels late split nonzero
      exact released (entry :: early) pin value levels late (by rw [split]; rfl) nonzero
  · rintro ⟨first, rest⟩ early pin value levels late split nonzero
    cases early with
    | nil =>
      obtain ⟨rfl, rfl⟩ := List.cons.inj split
      exact first pin value rfl nonzero
    | cons entry' early =>
      exact rest early pin value levels late (List.cons.inj split).2 nonzero

/-- When a write of the call meets an error, no coil is active that only later writes release. -/
structure Finishes (outcomes : List (Option Failure)) (state : Int) : Prop where
  on : state ≠ 0 → Clear outcomes 1 → Clear outcomes 2
  off : state = 0 → Clear outcomes 2 → Clear outcomes 3

private theorem released_twice (waitTime state ret : Int)
    (levels levels' levels'' : Levels HbridgePin) :
    Released (pulse waitTime state levels ++
      [(.set .onPin 0 0, levels'), (.set .offPin 0 ret, levels'')]) := by
  simp [pulse, released_cons, released_nil]

theorem Course.releases_iff {dev : Hbridge} {state after : Int} {made : List Entry}
    (course : Course dev state made after) :
    Released made ↔ Finishes dev.gpio.outcomes state := by
  cases course with
  | undriven error hindered =>
    constructor
    · intro _
      exact ⟨fun _ clear => absurd clear hindered,
        fun _ clear => absurd (clear_mono (by decide) clear) hindered⟩
    · intro _
      simp only [released_cons, Action.set.injEq]
      refine ⟨?_, released_nil⟩
      rintro pin value ⟨-, -, rfl⟩ _
      exact absurd error (by decide)
  | halfDriven error clear hindered =>
    by_cases zero : state = 0
    · constructor
      · intro _
        exact ⟨fun nonzero => absurd zero nonzero, fun _ clear' => absurd clear' hindered⟩
      · intro _
        subst zero
        simp [released_cons, released_nil]
        omega
    · constructor
      · intro released
        simp [released_cons, released_nil, opposite, zero] at released
      · intro finishes
        exact absurd (finishes.on zero clear) hindered
  | unreleased error clear hindered =>
    by_cases zero : state = 0
    · constructor
      · intro released
        simp [pulse, released_cons, released_nil, opposite, zero] at released
      · intro finishes
        exact absurd (finishes.off zero clear) hindered
    · constructor
      · intro _
        exact ⟨fun _ _ => clear, fun isZero => absurd isZero zero⟩
      · intro _
        simp [pulse, released_cons, released_nil, opposite, zero]
  | halfReleased error clear hindered =>
    constructor
    · intro _
      exact ⟨fun _ _ => clear_mono (by decide) clear, fun _ _ => clear⟩
    · intro _
      exact released_twice _ _ _ _ _ _
  | whole clear =>
    constructor
    · intro _
      exact ⟨fun _ _ => clear_mono (by decide) clear, fun _ _ => clear_mono (by decide) clear⟩
    · intro _
      exact released_twice _ _ _ _ _ _

def recordOf (dev : Hbridge) (state : Int) : List Entry :=
  added (fun dev => dev.gpio.log) dev ((esphomeSwitchHbridgeSetState state).run dev)

theorem recordOf_course (dev : Hbridge) (state : Int) :
    Course dev state (recordOf dev state)
      (final ((esphomeSwitchHbridgeSetState state).run dev)).state := by
  obtain ⟨ret, next, made, run, log, -, course⟩ := setState_course dev state
  rw [recordOf, run, added, final_ok, log, List.drop_left]
  exact course

/-- In a sequence of calls each one releases the outputs that it drove exactly when none with a
non-zero state fails at its second write and none with state 0 at its third. -/
theorem coils_released_iff (dev : Hbridge) (states : List Int) :
    (∀ before state rest, states = before ++ state :: rest →
      Released (recordOf (final ((setStates before).run dev)) state)) ↔
    ∀ before state rest, states = before ++ state :: rest →
      Finishes (final ((setStates before).run dev)).gpio.outcomes state := by
  constructor
  · intro released before state rest split
    exact (recordOf_course _ state).releases_iff.mp (released before state rest split)
  · intro finishes before state rest split
    exact (recordOf_course _ state).releases_iff.mpr (finishes before state rest split)

def halfDriveable : Hbridge where
  gpio :=
    { active := fun _ => false
      activeLow := fun _ => false
      outcomes := [none, some ⟨-eio, neg_eio_negative⟩]
      log := [] }
  waitTime := 100
  state := -einval

/-- The on output is driven, and then the write to the off output fails. -/
theorem coil_left_energised :
    ¬ ∀ (dev : Hbridge) (states before : List Int) (state : Int) (rest : List Int),
      states = before ++ state :: rest →
        Released (recordOf (final ((setStates before).run dev)) state) := by
  intro always
  have released : Released (recordOf halfDriveable 1) := always halfDriveable [1] [] 1 [] rfl
  have finishes := (recordOf_course halfDriveable 1).releases_iff.mp released
  exact absurd (finishes.on (by decide) (by decide)) (by decide)

end ZephyrEsphome.Switch.Pulses
