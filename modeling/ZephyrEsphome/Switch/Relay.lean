/- Digest: Where the latching relay behind an h-bridge is, and when the driver's state says so. -/

import Mathlib.Data.List.Induction
import ZephyrEsphome.Switch.Pulses

set_option autoImplicit false
set_option relaxedAutoImplicit false

namespace ZephyrEsphome.Switch.Relay

open Kernel
open Library.Exec
open Hbridge (esphomeSwitchHbridgeSetState)
open Holding (Clear clear_mono opposite)
open Pulses
open ShootThrough (setStates)

inductive Position
  | on
  | off
  deriving DecidableEq

def asked (state : Int) : Position := if state = 0 then .off else .on

def moved (waitTime : Int) (position : Option Position) : Entry → Option Position
  | (.sleep ms, levels) =>
    if ms = waitTime ∧ levels .onPin = true ∧ levels .offPin = false then some .on
    else if ms = waitTime ∧ levels .onPin = false ∧ levels .offPin = true then some .off
    else position
  | (.set _ _ _, _) => position

def relay (waitTime : Int) (position : Option Position) (log : List Entry) : Option Position :=
  log.foldl (moved waitTime) position

theorem relay_append (waitTime : Int) (position : Option Position) (early late : List Entry) :
    relay waitTime position (early ++ late) = relay waitTime (relay waitTime position early) late :=
  List.foldl_append

theorem moved_pulse (waitTime state : Int) (position : Option Position) :
    moved waitTime position (.sleep waitTime, pulseLevels state) = some (asked state) := by
  unfold moved
  by_cases zero : state = 0
  · simp [pulseLevels, opposite, asked, zero]
  · simp [pulseLevels, opposite, asked, zero]

theorem relay_course {dev : Hbridge} {state after : Int} {made : List Entry}
    (course : Course dev state made after) (position : Option Position) :
    relay dev.waitTime position made =
      if Clear dev.gpio.outcomes 2 then some (asked state) else position := by
  have pulsed : ∀ levels, relay dev.waitTime position (pulse dev.waitTime state levels) =
      some (asked state) := fun levels => moved_pulse dev.waitTime state position
  cases course with
  | undriven error hindered =>
    rw [if_neg fun clear => hindered (clear_mono (by decide) clear)]
    rfl
  | halfDriven error clear hindered =>
    rw [if_neg hindered]
    rfl
  | unreleased error clear hindered =>
    rw [if_pos clear, relay_append, pulsed]
    rfl
  | halfReleased error clear hindered =>
    rw [if_pos (clear_mono (by decide) clear), relay_append, pulsed]
    rfl
  | whole clear =>
    rw [if_pos (clear_mono (by decide) clear), relay_append, pulsed]
    rfl

theorem state_course {dev : Hbridge} {state after : Int} {made : List Entry}
    (course : Course dev state made after) :
    after = if Clear dev.gpio.outcomes 4 then state else dev.state := by
  cases course with
  | undriven error hindered => rw [if_neg fun clear => hindered (clear_mono (by decide) clear)]
  | halfDriven error clear hindered =>
    rw [if_neg fun clear => hindered (clear_mono (by decide) clear)]
  | unreleased error clear hindered =>
    rw [if_neg fun clear => hindered (clear_mono (by decide) clear)]
  | halfReleased error clear hindered => rw [if_neg hindered]
  | whole clear => rw [if_pos clear]

theorem run_setStates_concat {dev mid : Hbridge} {states : List Int}
    (run : (setStates states).run dev = .ok () mid) (state : Int) :
    ∃ ret next made, (esphomeSwitchHbridgeSetState state).run mid = .ok ret next ∧
      (setStates (states ++ [state])).run dev = .ok () next ∧
      next.gpio.log = mid.gpio.log ++ made ∧ next.waitTime = mid.waitTime ∧
      Course mid state made next.state := by
  obtain ⟨ret, next, made, last, log, waitTime, course⟩ := setState_course mid state
  refine ⟨ret, next, made, last, ?_, log, waitTime, course⟩
  unfold setStates at run ⊢
  rw [List.forM_append, run_bind_ok _ run, List.forM_cons, bind_assoc, run_bind_ok _ last]
  rfl

theorem run_setStates (dev : Hbridge) (states : List Int) :
    ∃ mid made, (setStates states).run dev = .ok () mid ∧
      mid.gpio.log = dev.gpio.log ++ made ∧ mid.waitTime = dev.waitTime := by
  induction states using List.reverseRecOn with
  | nil => exact ⟨dev, [], rfl, (List.append_nil _).symm, rfl⟩
  | append_singleton states state ih =>
    obtain ⟨mid, early, run, log, waitTime⟩ := ih
    obtain ⟨ret, next, late, -, whole, log', waitTime', -⟩ := run_setStates_concat run state
    exact ⟨next, early ++ late, whole, by rw [log', log, List.append_assoc],
      waitTime'.trans waitTime⟩

def afterCalls (dev : Hbridge) (states : List Int) : Hbridge :=
  final ((setStates states).run dev)

def positionAfter (dev : Hbridge) (states : List Int) : Option Position :=
  relay dev.waitTime none (added (fun dev => dev.gpio.log) dev ((setStates states).run dev))

theorem positionAfter_nil (dev : Hbridge) : positionAfter dev [] = none := by
  have nothing : added (fun dev : Hbridge => dev.gpio.log) dev ((setStates []).run dev) = [] :=
    List.drop_length
  rw [positionAfter, nothing]
  rfl

theorem after_concat (dev : Hbridge) (states : List Int) (state : Int) :
    (afterCalls dev (states ++ [state])).state =
        (if Clear (afterCalls dev states).gpio.outcomes 4 then state
          else (afterCalls dev states).state) ∧
      positionAfter dev (states ++ [state]) =
        if Clear (afterCalls dev states).gpio.outcomes 2 then some (asked state)
        else positionAfter dev states := by
  obtain ⟨mid, early, run, log, waitTime⟩ := run_setStates dev states
  obtain ⟨ret, next, late, -, whole, log', -, course⟩ := run_setStates_concat run state
  unfold afterCalls positionAfter
  rw [run, whole]
  constructor
  · exact state_course course
  · rw [added, added, final_ok, final_ok, log', log, List.append_assoc, List.drop_left,
      List.drop_left, relay_append, ← waitTime]
    exact relay_course course _

def Shows (state : Int) : Position → Prop
  | .on => 0 < state
  | .off => state = 0

/-- If the calls have moved the relay, the state that is held is the relay's position. -/
def Follows (dev : Hbridge) (states : List Int) : Prop :=
  ∀ position, positionAfter dev states = some position →
    Shows (afterCalls dev states).state position

/-- A call that pulses and does not end well asks for the position that is held already, and one
that does asks for a state that stands for a position. -/
structure Settles (dev : Hbridge) (state : Int) : Prop where
  cut : Clear dev.gpio.outcomes 2 → ¬ Clear dev.gpio.outcomes 4 → Shows dev.state (asked state)
  whole : Clear dev.gpio.outcomes 4 → 0 ≤ state

theorem shows_asked (state : Int) : Shows state (asked state) ↔ 0 ≤ state := by
  by_cases zero : state = 0
  · simp [asked, Shows, zero]
  · simp only [asked, Shows, zero, if_false]
    omega

theorem follows_concat (dev : Hbridge) (states : List Int) (state : Int) :
    Follows dev (states ++ [state]) ↔
      if Clear (afterCalls dev states).gpio.outcomes 2 then Settles (afterCalls dev states) state
      else Follows dev states := by
  obtain ⟨held, position⟩ := after_concat dev states state
  unfold Follows
  rw [held, position]
  by_cases pulsed : Clear (afterCalls dev states).gpio.outcomes 2
  · simp only [if_pos pulsed, Option.some.injEq, forall_eq']
    by_cases clear : Clear (afterCalls dev states).gpio.outcomes 4
    · rw [if_pos clear, shows_asked]
      exact ⟨fun positive => ⟨fun _ hindered => absurd clear hindered, fun _ => positive⟩,
        fun settles => settles.whole clear⟩
    · rw [if_neg clear]
      exact ⟨fun shows => ⟨fun _ _ => shows, fun clear' => absurd clear' clear⟩,
        fun settles => settles.cut pulsed clear⟩
  · have hindered : ¬ Clear (afterCalls dev states).gpio.outcomes 4 :=
      fun clear => pulsed (clear_mono (by decide) clear)
    simp only [if_neg pulsed, if_neg hindered]

/-- After every call from the first pulse on the state is the relay's position exactly when no call
that pulses and then fails asks for another position than is held, and no call that succeeds asks
for a negative state. -/
theorem follows_relay_iff (dev : Hbridge) (states : List Int) :
    (∀ before rest, states = before ++ rest → Follows dev before) ↔
      ∀ before state rest, states = before ++ state :: rest →
        Settles (afterCalls dev before) state := by
  constructor
  · intro follows before state rest split
    have here := follows (before ++ [state]) rest (by rw [split, List.append_assoc]; rfl)
    rw [follows_concat] at here
    by_cases pulsed : Clear (afterCalls dev before).gpio.outcomes 2
    · rwa [if_pos pulsed] at here
    · exact ⟨fun clear => absurd clear pulsed,
        fun clear => absurd (clear_mono (by decide) clear) pulsed⟩
  · intro settles before
    induction before using List.reverseRecOn with
    | nil =>
      intro rest _ position moved
      exact absurd ((positionAfter_nil dev).symm.trans moved) (Option.some_ne_none position).symm
    | append_singleton before state ih =>
      intro rest split
      rw [List.append_assoc, List.singleton_append] at split
      rw [follows_concat]
      by_cases pulsed : Clear (afterCalls dev before).gpio.outcomes 2
      · rw [if_pos pulsed]
        exact settles before state rest split
      · rw [if_neg pulsed]
        exact ih (state :: rest) split

def unreleasable : Hbridge where
  gpio :=
    { active := fun _ => false
      activeLow := fun _ => false
      outcomes := [none, none, some ⟨-eio, neg_eio_negative⟩]
      log := [] }
  waitTime := 100
  state := -einval

/-- The relay is turned on and the release fails: the state is still unknown. -/
theorem state_behind_relay :
    ¬ ∀ (dev : Hbridge) (states before rest : List Int), states = before ++ rest →
      Follows dev before := by
  intro always
  have moved : positionAfter unreleasable [1] = some .on := by decide
  have shows : 0 < (afterCalls unreleasable [1]).state :=
    always unreleasable [1] [1] [] rfl .on moved
  exact absurd shows (by decide)

end ZephyrEsphome.Switch.Relay
