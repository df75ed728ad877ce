/- Digest: When the two outputs of an h-bridge are active together, over any history of calls. -/

import Mathlib.Tactic.Tauto
import ZephyrEsphome.Switch.Holding

set_option autoImplicit false
set_option relaxedAutoImplicit false

namespace ZephyrEsphome.Switch.ShootThrough

open Kernel
open Library.Exec
open Hbridge (esphomeSwitchHbridgeSetState)
open Holding

def Both (levels : Levels HbridgePin) : Prop :=
  levels .onPin = true ∧ levels .offPin = true

instance (levels : Levels HbridgePin) : Decidable (Both levels) := by
  unfold Both
  infer_instance

/-- There is an instant of the record at which both outputs are active. -/
def Overlaps (log : List (Action HbridgePin × Levels HbridgePin)) : Prop :=
  ∃ entry ∈ log, Both entry.2

instance (log : List (Action HbridgePin × Levels HbridgePin)) : Decidable (Overlaps log) := by
  unfold Overlaps
  infer_instance

theorem overlaps_append (early late : List (Action HbridgePin × Levels HbridgePin)) :
    Overlaps (early ++ late) ↔ Overlaps early ∨ Overlaps late := by
  constructor
  · rintro ⟨entry, member, both⟩
    rcases List.mem_append.mp member with left | right
    · exact Or.inl ⟨entry, left, both⟩
    · exact Or.inr ⟨entry, right, both⟩
  · rintro (⟨entry, member, both⟩ | ⟨entry, member, both⟩)
    · exact ⟨entry, List.mem_append_left _ member, both⟩
    · exact ⟨entry, List.mem_append_right _ member, both⟩

theorem overlaps_single (action : Action HbridgePin) (levels : Levels HbridgePin) :
    Overlaps [(action, levels)] ↔ Both levels := by
  constructor
  · rintro ⟨entry, member, both⟩
    rw [List.mem_singleton] at member
    rwa [member] at both
  · intro both
    exact ⟨_, List.mem_singleton_self _, both⟩

def Against (dev : Hbridge) (on : Int) : Prop :=
  on ≠ 0 ∧ dev.gpio.obstacle = none ∧ dev.gpio.active .offPin = true

theorem against_iff {dev : Hbridge} (clear : Clear dev.gpio.outcomes 1) (state : Int) :
    Against dev state ↔ Both (driven dev .onPin state).gpio.active := by
  have free := (clear_one dev.gpio).mp clear
  simp [Against, Both, driven, free]

theorem apart_energised (dev : Hbridge) (state : Int) :
    ¬ Both (energised dev state).gpio.active := by
  by_cases zero : state = 0
  · simp [Both, energised, driven, zero]
  · simp [Both, energised, driven, opposite, zero]

theorem apart_driven_zero (dev : Hbridge) : ¬ Both (driven dev .onPin 0).gpio.active := by
  simp [Both, driven]

theorem overlaps_driven (dev : Hbridge) (pin : HbridgePin) (value : Int) :
    Overlaps (driven dev pin value).gpio.log ↔
      Overlaps dev.gpio.log ∨ Both (driven dev pin value).gpio.active := by
  have log : (driven dev pin value).gpio.log =
      dev.gpio.log ++ [(.set pin value 0, (driven dev pin value).gpio.active)] := rfl
  rw [log, overlaps_append, overlaps_single]

theorem overlaps_refused (dev : Hbridge) (pin : HbridgePin) (value : Int) (failure : Failure) :
    Overlaps (refused dev pin value failure).gpio.log ↔
      Overlaps dev.gpio.log ∨ Both dev.gpio.active := by
  have log : (refused dev pin value failure).gpio.log =
      dev.gpio.log ++ [(.set pin value failure.code, dev.gpio.active)] := rfl
  rw [log, overlaps_append, overlaps_single]

theorem overlaps_rested {dev : Hbridge} (clear : Clear dev.gpio.outcomes 1) (state : Int) :
    Overlaps (rested dev state).gpio.log ↔ Overlaps dev.gpio.log ∨ Against dev state := by
  have log : (rested dev state).gpio.log = (energised dev state).gpio.log ++
      [(.sleep dev.waitTime, (energised dev state).gpio.active)] := rfl
  have apart : ¬ Both (driven (driven dev .onPin state) .offPin (opposite state)).gpio.active :=
    apart_energised dev state
  rw [log, overlaps_append, overlaps_single, energised, overlaps_driven, overlaps_driven,
    ← against_iff clear]
  tauto

theorem setState_overlaps {dev : Hbridge} (safe : ¬ Both dev.gpio.active) (state : Int) :
    ∃ ret next, (esphomeSwitchHbridgeSetState state).run dev = .ok ret next ∧
      (Overlaps next.gpio.log ↔ Overlaps dev.gpio.log ∨ Against dev state) ∧
      (Both next.gpio.active → Against dev state) := by
  obtain ⟨ret, next, run, ends⟩ := setState_ends dev state
  refine ⟨ret, next, run, ?_⟩
  have apart : ¬ Both (rested dev state).gpio.active := apart_energised dev state
  have apart' := apart_driven_zero (rested dev state)
  cases ends with
  | undriven failure hindered =>
    have never : ¬ Against dev state := fun against => hindered ((clear_one _).mpr against.2.1)
    refine ⟨?_, fun both => absurd both safe⟩
    rw [overlaps_refused]
    tauto
  | halfDriven failure clear hindered =>
    refine ⟨?_, (against_iff clear state).mpr⟩
    rw [overlaps_refused, overlaps_driven, against_iff clear]
    tauto
  | unreleased failure clear hindered =>
    refine ⟨?_, fun both => absurd both apart⟩
    rw [overlaps_refused, overlaps_rested (clear_mono (by decide) clear)]
    tauto
  | halfReleased failure clear hindered =>
    refine ⟨?_, fun both => absurd both apart'⟩
    rw [overlaps_refused, overlaps_driven, overlaps_rested (clear_mono (by decide) clear)]
    tauto
  | whole clear =>
    have released : ¬ Both (driven (driven (rested dev state) .onPin 0) .offPin 0).gpio.active := by
      simp [Both, driven]
    refine ⟨?_, fun both => absurd both released⟩
    show Overlaps (driven (driven (rested dev state) .onPin 0) .offPin 0).gpio.log ↔ _
    rw [overlaps_driven, overlaps_driven, overlaps_rested (clear_mono (by decide) clear)]
    tauto

def recorded : Guarantee Hbridge :=
  .always (Guarantee.Grown (fun dev => dev.gpio.log) fun _ => True)

theorem recorded_overlaps {dev next : Hbridge} (grown : recorded.onReturn dev next)
    (before : Overlaps dev.gpio.log) : Overlaps next.gpio.log := by
  obtain ⟨added, split, -⟩ := grown
  have whole : next.gpio.log = dev.gpio.log ++ added := split
  rw [whole, overlaps_append]
  exact Or.inl before

theorem recorded_driven (dev : Hbridge) (pin : HbridgePin) (value : Int) :
    recorded.onReturn dev (driven dev pin value) := Guarantee.grown_one rfl trivial

theorem recorded_refused (dev : Hbridge) (pin : HbridgePin) (value : Int) (failure : Failure) :
    recorded.onReturn dev (refused dev pin value failure) := Guarantee.grown_one rfl trivial

theorem recorded_rested (dev : Hbridge) (state : Int) :
    recorded.onReturn dev (rested dev state) := by
  apply recorded.trans (recorded_driven dev .onPin state)
  apply recorded.trans (recorded_driven _ .offPin (opposite state))
  exact Guarantee.grown_one rfl trivial

theorem keeps_setState (state : Int) : Keeps recorded (esphomeSwitchHbridgeSetState state) := by
  constructor
  intro dev
  obtain ⟨ret, next, run, ends⟩ := setState_ends dev state
  rw [run]
  show recorded.onReturn dev next
  cases ends with
  | undriven failure => exact recorded_refused _ _ _ _
  | halfDriven failure => exact recorded.trans (recorded_driven _ _ _) (recorded_refused _ _ _ _)
  | unreleased failure => exact recorded.trans (recorded_rested _ _) (recorded_refused _ _ _ _)
  | halfReleased failure =>
    apply recorded.trans (recorded_rested dev state)
    exact recorded.trans (recorded_driven _ _ _) (recorded_refused _ _ _ _)
  | whole =>
    apply recorded.trans (recorded_rested dev state)
    apply recorded.trans (recorded_driven _ .onPin 0)
    exact recorded_driven _ .offPin 0

/-- The calls of `set_state` made one after the other, whatever each returns. -/
def setStates (states : List Int) : Exec Hbridge Unit :=
  forM states fun state => do
    let _ ← esphomeSwitchHbridgeSetState state

theorem setStates_cons {dev next : Hbridge} {state ret : Int}
    (run : (esphomeSwitchHbridgeSetState state).run dev = .ok ret next) (states : List Int) :
    (setStates (state :: states)).run dev = (setStates states).run next := by
  unfold setStates
  rw [List.forM_cons]
  apply run_bind_ok
  rw [run_bind_ok _ run]
  rfl

def SomeAgainst (dev : Hbridge) (states : List Int) : Prop :=
  ∃ before state rest, states = before ++ state :: rest ∧
    Against (final ((setStates before).run dev)) state

theorem someAgainst_cons {dev next : Hbridge} {state ret : Int}
    (run : (esphomeSwitchHbridgeSetState state).run dev = .ok ret next) (states : List Int) :
    SomeAgainst dev (state :: states) ↔ Against dev state ∨ SomeAgainst next states := by
  constructor
  · rintro ⟨before, state', rest, split, against⟩
    cases before with
    | nil =>
      obtain ⟨rfl, -⟩ := List.cons.inj split
      exact Or.inl against
    | cons first before =>
      obtain ⟨rfl, tail⟩ := List.cons.inj split
      rw [setStates_cons run] at against
      exact Or.inr ⟨before, state', rest, tail, against⟩
  · rintro (against | ⟨before, state', rest, rfl, against⟩)
    · exact ⟨[], state, states, rfl, against⟩
    · refine ⟨state :: before, state', rest, rfl, ?_⟩
      rwa [setStates_cons run]

private theorem keeps_setStates (states : List Int) : Keeps recorded (setStates states) := by
  apply keeps_forM
  intro state _
  apply keeps_bind (keeps_setState state)
  intro _
  exact keeps_pure ()

theorem setStates_overlaps (states : List Int) : ∀ dev : Hbridge, ¬ Both dev.gpio.active →
    (Overlaps (final ((setStates states).run dev)).gpio.log ↔
      Overlaps dev.gpio.log ∨ SomeAgainst dev states) := by
  induction states with
  | nil =>
    intro dev safe
    constructor
    · intro early
      exact Or.inl early
    · rintro (early | ⟨before, state, rest, split, -⟩)
      · exact early
      · simp at split
  | cons state states ih =>
    intro dev safe
    obtain ⟨ret, next, run, log, active⟩ := setState_overlaps safe state
    rw [setStates_cons run, someAgainst_cons run]
    by_cases against : Against dev state
    · have early : Overlaps next.gpio.log := log.mpr (Or.inr against)
      have late := recorded_overlaps ((keeps_setStates states).final next) early
      tauto
    · have apart : ¬ Both next.gpio.active := fun both => against (active both)
      rw [ih next apart]
      tauto

/-- Both outputs are inactive and nothing was done with them yet. -/
structure Idle (dev : Hbridge) : Prop where
  on_inactive : dev.gpio.active .onPin = false
  off_inactive : dev.gpio.active .offPin = false
  untouched : dev.gpio.log = []

/-- The outputs are never active together exactly when no call that asks for the on state finds the
off output still active, unless its first write fails. -/
theorem never_both_iff {dev : Hbridge} (idle : Idle dev) (states : List Int) :
    ¬ Overlaps (final ((setStates states).run dev)).gpio.log ↔
      ∀ before state rest, states = before ++ state :: rest → state ≠ 0 →
        (final ((setStates before).run dev)).gpio.obstacle = none →
        (final ((setStates before).run dev)).gpio.active .offPin = false := by
  have safe : ¬ Both dev.gpio.active := by
    rintro ⟨on, -⟩
    rw [idle.on_inactive] at on
    exact Bool.false_ne_true on
  have silent : ¬ Overlaps dev.gpio.log := by
    rw [idle.untouched]
    rintro ⟨entry, member, -⟩
    exact List.not_mem_nil member
  rw [setStates_overlaps states dev safe]
  constructor
  · intro never before state rest split nonzero free
    by_contra active
    apply never
    right
    exact ⟨before, state, rest, split, nonzero, free, by simpa using active⟩
  · rintro guarded (early | ⟨before, state, rest, split, nonzero, free, active⟩)
    · exact silent early
    · have inactive := guarded before state rest split nonzero free
      rw [inactive] at active
      exact Bool.false_ne_true active

def unreleased : Hbridge where
  gpio :=
    { active := fun _ => false
      activeLow := fun _ => false
      outcomes := [none, none, none, some ⟨-eio, by decide⟩]
      log := [] }
  waitTime := 100
  state := -einval

theorem idle_unreleased : Idle unreleased := ⟨rfl, rfl, rfl⟩

/-- Off, with the release failing, then on: the second call drives the on output first. -/
theorem shoots_through :
    ¬ ∀ (dev : Hbridge) (states : List Int), Idle dev →
      ¬ Overlaps (final ((setStates states).run dev)).gpio.log := by
  intro never
  exact never unreleased [0, 1] idle_unreleased (by decide)

theorem never_both_iff_unreleased :
    Idle unreleased ∧
      (¬ Overlaps (final ((setStates [0, 1]).run unreleased)).gpio.log ↔
        ∀ before state rest, [0, 1] = before ++ state :: rest → state ≠ 0 →
          (final ((setStates before).run unreleased)).gpio.obstacle = none →
          (final ((setStates before).run unreleased)).gpio.active .offPin = false) :=
  ⟨idle_unreleased, never_both_iff idle_unreleased [0, 1]⟩

end ZephyrEsphome.Switch.ShootThrough
