/- Digest: Several threads that set one h-bridge at the same time. -/

import ZephyrEsphome.Library.Transition
import ZephyrEsphome.Switch.ShootThrough

set_option autoImplicit false
set_option relaxedAutoImplicit false

namespace ZephyrEsphome.Switch.Interleaving

open Kernel
open Library.Exec
open Library.Transition
open Hbridge (esphomeSwitchHbridgeGpios esphomeSwitchHbridgeSetState onGpio)
open Holding (driven set_drives)
open ShootThrough (Both)

/-- What a call of `set_state` for a state does next. -/
inductive Position
  | driveOn (state : Int)
  | driveOff (state : Int)
  | sleep (state : Int)
  | releaseOn (state : Int)
  | releaseOff (state : Int)
  | store (state : Int)
  deriving DecidableEq

/-- One step of `esphome_switch_hbridge_set_state`: the position after it, or the result. -/
def setStateStep : Position → Exec Hbridge (Position ⊕ Int)
  | .driveOn state => do
    let ret ← onGpio (gpioPinSetDt .onPin state)
    if ret < 0 then
      return .inr ret
    return .inl (.driveOff state)
  | .driveOff state => do
    let ret ← onGpio (gpioPinSetDt .offPin (if state = 0 then 1 else 0))
    if ret < 0 then
      return .inr ret
    return .inl (.sleep state)
  | .sleep state => do
    onGpio (kSleep (← get).waitTime)
    return .inl (.releaseOn state)
  | .releaseOn state => do
    let ret ← onGpio (gpioPinSetDt .onPin 0)
    if ret < 0 then
      return .inr ret
    return .inl (.releaseOff state)
  | .releaseOff state => do
    let ret ← onGpio (gpioPinSetDt .offPin 0)
    if ret < 0 then
      return .inr ret
    return .inl (.store state)
  | .store state => do
    modify fun dev => { dev with state := state }
    return .inr 0

private theorem loop_checked (check : Exec Hbridge Int) (next : Position) {p : Position}
    (rounds : Nat) (body : setStateStep p = do
      let ret ← check
      if ret < 0 then
        return .inr ret
      return .inl next) :
    loop .unfinished setStateStep (rounds + 1) p = (do
      let ret ← check
      if ret < 0 then
        return ret
      loop .unfinished setStateStep rounds next) := by
  rw [loop, body]
  simp only [bind_assoc]
  apply bind_congr
  intro ret
  by_cases failed : ret < 0
  · rw [if_pos failed, if_pos failed, pure_bind]
  · rw [if_neg failed, if_neg failed, pure_bind]

private theorem gpios_checked (on off : Int) (rest : Exec Hbridge Int) :
    (do
      let ret ← esphomeSwitchHbridgeGpios on off
      if ret < 0 then
        return ret
      rest) = (do
      let ret ← onGpio (gpioPinSetDt .onPin on)
      if ret < 0 then
        return ret
      let ret ← onGpio (gpioPinSetDt .offPin off)
      if ret < 0 then
        return ret
      rest) := by
  unfold esphomeSwitchHbridgeGpios
  simp only [bind_assoc]
  apply bind_congr
  intro ret
  by_cases failed : ret < 0
  · rw [if_pos failed, if_pos failed, pure_bind, if_pos failed]
  · rw [if_neg failed, if_neg failed, bind_assoc]
    apply bind_congr
    intro ret'
    by_cases failed' : ret' < 0
    · rw [if_pos failed', if_pos failed', pure_bind, if_pos failed']
    · rw [if_neg failed', if_neg failed', pure_bind, if_neg (by decide)]

theorem setState_steps (state : Int) :
    loop .unfinished setStateStep 6 (.driveOn state) = esphomeSwitchHbridgeSetState state := by
  have stored : loop .unfinished setStateStep 1 (.store state) = (do
      modify fun dev => { dev with state := state }
      return 0) := rfl
  have slept : loop .unfinished setStateStep 4 (.sleep state) = (do
      onGpio (kSleep (← get).waitTime)
      loop .unfinished setStateStep 3 (.releaseOn state)) := rfl
  rw [loop_checked _ _ 5 (by rfl), loop_checked _ _ 4 (by rfl), slept, loop_checked _ _ 2 (by rfl),
    loop_checked _ _ 1 (by rfl), stored, ← gpios_checked, ← gpios_checked]
  rfl

inductive Call
  | setState (state : Int)
  | turnOn
  | turnOff
  | toggle
  deriving DecidableEq

def Call.code : Call → Exec Hbridge Int
  | .setState state => esphomeSwitchSetState hbridgeSwitch state
  | .turnOn => esphomeSwitchTurnOn hbridgeSwitch
  | .turnOff => esphomeSwitchTurnOff hbridgeSwitch
  | .toggle => esphomeSwitchToggle hbridgeSwitch

/-- Up to the first step of `set_state`; a toggle reads the state before. -/
def Call.enter : Call → Exec Hbridge (Position ⊕ Int)
  | .setState state => return .inl (.driveOn state)
  | .turnOn => return .inl (.driveOn 1)
  | .turnOff => return .inl (.driveOn 0)
  | .toggle => do
    let (ret, state) ← esphomeSwitchGetState hbridgeSwitch
    if ret < 0 then
      return .inr ret
    if state ≠ 0 then
      return .inl (.driveOn 0)
    return .inl (.driveOn 1)

theorem code_steps (call : Call) :
    call.code = (do
      match ← call.enter with
      | .inl position => loop .unfinished setStateStep 6 position
      | .inr ret => return ret) := by
  cases call with
  | setState state => exact (setState_steps state).symm
  | turnOn => exact (setState_steps 1).symm
  | turnOff => exact (setState_steps 0).symm
  | toggle =>
    unfold Call.code Call.enter esphomeSwitchToggle
    rw [bind_assoc]
    apply bind_congr
    rintro ⟨ret, state⟩
    by_cases failed : ret < 0
    · simp only [if_pos failed, pure_bind]
    · by_cases on : state ≠ 0
      · simp only [if_neg failed, if_pos on, pure_bind]
        exact (setState_steps 0).symm
      · simp only [if_neg failed, if_neg on, pure_bind]
        exact (setState_steps 1).symm

structure System (Tid : Type) where
  dev : Hbridge
  threads : Tid → Option Position

inductive Move (Tid : Type)
  /-- The thread calls a function of the component. -/
  | call (tid : Tid) (call : Call)
  /-- The thread takes the next step of its call. -/
  | advance (tid : Tid)

section Threads

variable {Tid : Type} [DecidableEq Tid]

def System.settle (s : System Tid) (tid : Tid) :
    EStateM.Result Stop Hbridge (Position ⊕ Int) → Option (System Tid)
  | .ok (.inl position) dev =>
    some { dev := dev, threads := Function.update s.threads tid (some position) }
  | .ok (.inr _) dev => some { dev := dev, threads := Function.update s.threads tid none }
  | .error _ _ => none

def step (s : System Tid) : Move Tid → Option (System Tid)
  | .call tid call =>
    match s.threads tid with
    | none => s.settle tid (call.enter.run s.dev)
    | some _ => none
  | .advance tid =>
    match s.threads tid with
    | none => none
    | some position => s.settle tid ((setStateStep position).run s.dev)

def Position.pulse : Position → Option HbridgePin
  | .driveOn _ => none
  | .driveOff state => if state = 0 then none else some .onPin
  | .sleep state => some (if state = 0 then .offPin else .onPin)
  | .releaseOn state => some (if state = 0 then .offPin else .onPin)
  | .releaseOff state => if state = 0 then some .offPin else none
  | .store _ => none

/-- The outputs are not active together, and no call's pulse was ended by another call. -/
structure Safe (s : System Tid) : Prop where
  apart : ¬ Both s.dev.gpio.active
  whole : ∀ tid position pin, s.threads tid = some position → position.pulse = some pin →
    s.dev.gpio.active pin = true

/-- Every write will succeed, both outputs are inactive, and no thread is in a call. -/
structure AtRest (s : System Tid) : Prop where
  succeeds : s.dev.gpio.outcomes = []
  inactive : ∀ pin, s.dev.gpio.active pin = false
  outside : ∀ tid, s.threads tid = none

def Position.Critical : Position → Prop
  | .driveOn _ => False
  | .driveOff _ => True
  | .sleep _ => True
  | .releaseOn _ => True
  | .releaseOff _ => True
  | .store _ => False

def Exclusive (s : System Tid) : Move Tid → Prop
  | .call _ _ => True
  | .advance tid => ∀ state, s.threads tid = some (.driveOn state) →
    ∀ other position, s.threads other = some position → ¬ position.Critical

def Position.levels : Position → Levels HbridgePin
  | .driveOn _, _ => false
  | .driveOff state, .onPin => state != 0
  | .driveOff _, .offPin => false
  | .sleep state, .onPin => state != 0
  | .sleep state, .offPin => state == 0
  | .releaseOn state, .onPin => state != 0
  | .releaseOn state, .offPin => state == 0
  | .releaseOff _, .onPin => false
  | .releaseOff state, .offPin => state == 0
  | .store _, _ => false

theorem levels_ext {levels levels' : Levels HbridgePin} (on : levels .onPin = levels' .onPin)
    (off : levels .offPin = levels' .offPin) : levels = levels' := by
  ext pin
  cases pin with
  | onPin => rw [on]
  | offPin => rw [off]

theorem levels_apart (position : Position) : ¬ Both position.levels := by
  rintro ⟨on, off⟩
  cases position with
  | driveOn state => exact absurd on nofun
  | driveOff state => exact absurd off nofun
  | sleep state =>
    have nonzero : state ≠ 0 := bne_iff_ne.mp on
    exact nonzero (beq_iff_eq.mp off)
  | releaseOn state =>
    have nonzero : state ≠ 0 := bne_iff_ne.mp on
    exact nonzero (beq_iff_eq.mp off)
  | releaseOff state => exact absurd on nofun
  | store state => exact absurd on nofun

private theorem sleep_levels {state : Int} {pin : HbridgePin}
    (pulse : (Position.sleep state).pulse = some pin) :
    (Position.sleep state).levels pin = true := by
  simp only [Position.pulse] at pulse
  by_cases zero : state = 0
  · rw [if_pos zero] at pulse
    cases pulse
    exact beq_iff_eq.mpr zero
  · rw [if_neg zero] at pulse
    cases pulse
    exact bne_iff_ne.mpr zero

theorem pulse_levels {position : Position} {pin : HbridgePin}
    (pulse : position.pulse = some pin) :
    position.Critical ∧ position.levels pin = true := by
  cases position with
  | driveOn state => exact absurd pulse nofun
  | driveOff state =>
    refine ⟨trivial, ?_⟩
    simp only [Position.pulse] at pulse
    by_cases zero : state = 0
    · rw [if_pos zero] at pulse
      exact absurd pulse nofun
    · rw [if_neg zero] at pulse
      cases pulse
      exact bne_iff_ne.mpr zero
  | sleep state => exact ⟨trivial, sleep_levels pulse⟩
  | releaseOn state =>
    have same : (Position.releaseOn state).levels = (Position.sleep state).levels :=
      levels_ext rfl rfl
    rw [same]
    exact ⟨trivial, sleep_levels pulse⟩
  | releaseOff state =>
    refine ⟨trivial, ?_⟩
    simp only [Position.pulse] at pulse
    by_cases zero : state = 0
    · rw [if_pos zero] at pulse
      cases pulse
      exact beq_iff_eq.mpr zero
    · rw [if_neg zero] at pulse
      exact absurd pulse nofun
  | store state => exact absurd pulse nofun

theorem levels_outside {position : Position} (outside : ¬ position.Critical) :
    position.levels = fun _ => false := by
  cases position with
  | driveOn state => rfl
  | driveOff state => exact absurd trivial outside
  | sleep state => exact absurd trivial outside
  | releaseOn state => exact absurd trivial outside
  | releaseOff state => exact absurd trivial outside
  | store state => rfl

private theorem run_write {dev : Hbridge} (succeeds : dev.gpio.outcomes = []) (pin : HbridgePin)
    (value : Int) (next : Position)
    (active : Function.update dev.gpio.active pin (value != 0) = next.levels) :
    ∃ dev', (do
        let ret ← onGpio (gpioPinSetDt pin value)
        if ret < 0 then
          return .inr ret
        return .inl next : Exec Hbridge (Position ⊕ Int)).run dev = .ok (.inl next) dev' ∧
      dev'.gpio.outcomes = [] ∧ dev'.gpio.active = next.levels := by
  have free : dev.gpio.obstacle = none := by
    rw [Gpio.obstacle, succeeds]
    rfl
  refine ⟨driven dev pin value, ?_, ?_, active⟩
  · rw [run_bind_ok _ (set_drives free pin value), if_neg (by decide)]
    rfl
  · show dev.gpio.outcomes.tail = []
    rw [succeeds]
    rfl

theorem run_step {dev : Hbridge} (succeeds : dev.gpio.outcomes = []) {position : Position}
    (unfinished : ∀ state, position ≠ .store state) (alone : dev.gpio.active = position.levels) :
    ∃ next dev', (setStateStep position).run dev = .ok (.inl next) dev' ∧
      dev'.gpio.outcomes = [] ∧ dev'.gpio.active = next.levels := by
  cases position with
  | driveOn state =>
    refine ⟨.driveOff state, run_write succeeds .onPin state _ ?_⟩
    rw [alone]
    exact levels_ext rfl rfl
  | driveOff state =>
    refine ⟨.sleep state, run_write succeeds .offPin _ _ ?_⟩
    rw [alone]
    apply levels_ext
    · rfl
    · show ((if state = 0 then (1 : Int) else 0) != 0) = (state == 0)
      by_cases zero : state = 0
      · rw [if_pos zero, zero]
        rfl
      · rw [if_neg zero, beq_eq_false_iff_ne.mpr zero]
        rfl
  | sleep state =>
    refine ⟨.releaseOn state, _, rfl, succeeds, ?_⟩
    exact alone.trans (levels_ext rfl rfl)
  | releaseOn state =>
    refine ⟨.releaseOff state, run_write succeeds .onPin 0 _ ?_⟩
    rw [alone]
    exact levels_ext rfl rfl
  | releaseOff state =>
    refine ⟨.store state, run_write succeeds .offPin 0 _ ?_⟩
    rw [alone]
    exact levels_ext rfl rfl
  | store state => exact absurd rfl (unfinished state)

theorem run_enter (call : Call) (dev : Hbridge) :
    ∃ outcome, call.enter.run dev = .ok outcome dev ∧
      ∀ position, outcome = .inl position → ¬ position.Critical := by
  cases call with
  | setState state => exact ⟨.inl (.driveOn state), rfl, by rintro _ ⟨⟩ ⟨⟩⟩
  | turnOn => exact ⟨.inl (.driveOn 1), rfl, by rintro _ ⟨⟩ ⟨⟩⟩
  | turnOff => exact ⟨.inl (.driveOn 0), rfl, by rintro _ ⟨⟩ ⟨⟩⟩
  | toggle =>
    have read : (esphomeSwitchGetState hbridgeSwitch).run dev =
        .ok (if dev.state < 0 then dev.state else 0, dev.state) dev := rfl
    unfold Call.enter
    rw [run_bind_ok _ read]
    by_cases failed : (if dev.state < 0 then dev.state else 0) < 0
    · simp only [if_pos failed]
      exact ⟨.inr _, rfl, by rintro _ ⟨⟩⟩
    · simp only [if_neg failed]
      by_cases on : dev.state ≠ 0
      · rw [if_pos on]
        exact ⟨.inl (.driveOn 0), rfl, by rintro _ ⟨⟩ ⟨⟩⟩
      · rw [if_neg on]
        exact ⟨.inl (.driveOn 1), rfl, by rintro _ ⟨⟩ ⟨⟩⟩

structure Inv (s : System Tid) : Prop where
  succeeds : s.dev.gpio.outcomes = []
  lone : ∀ tid other position position', s.threads tid = some position →
    s.threads other = some position' → position.Critical → position'.Critical → tid = other
  critical : ∀ tid position, s.threads tid = some position → position.Critical →
    s.dev.gpio.active = position.levels
  quiet : (∀ tid position, s.threads tid = some position → ¬ position.Critical) →
    s.dev.gpio.active = fun _ => false

omit [DecidableEq Tid] in
theorem inv_rest {s : System Tid} (rest : AtRest s) : Inv s := by
  refine ⟨rest.succeeds, ?_, ?_, ?_⟩
  · intro tid other position position' inside _ _ _
    rw [rest.outside tid] at inside
    exact absurd inside nofun
  · intro tid position inside _
    rw [rest.outside tid] at inside
    exact absurd inside nofun
  · intro _
    funext pin
    exact rest.inactive pin

omit [DecidableEq Tid] in
theorem safe_of_inv {s : System Tid} (inv : Inv s) : Safe s := by
  refine ⟨?_, ?_⟩
  · by_cases busy : ∃ tid position, s.threads tid = some position ∧ position.Critical
    · obtain ⟨tid, position, inside, critical⟩ := busy
      rw [inv.critical tid position inside critical]
      exact levels_apart position
    · have quiet := inv.quiet fun tid position inside critical =>
        busy ⟨tid, position, inside, critical⟩
      rintro ⟨on, -⟩
      rw [quiet] at on
      exact Bool.false_ne_true on
  · intro tid position pin inside pulse
    obtain ⟨critical, active⟩ := pulse_levels pulse
    rw [inv.critical tid position inside critical]
    exact active

theorem inv_alone {s : System Tid} {tid : Tid} (next : Position) {dev : Hbridge}
    (succeeds : dev.gpio.outcomes = [])
    (others : ∀ other position, other ≠ tid → s.threads other = some position →
      ¬ position.Critical)
    (active : dev.gpio.active = next.levels) :
    Inv { dev := dev, threads := Function.update s.threads tid (some next) } := by
  have only : ∀ other position,
      Function.update s.threads tid (some next) other = some position → position.Critical →
      other = tid ∧ position = next := by
    intro other position inside critical
    by_cases same : other = tid
    · rw [same, Function.update_self] at inside
      exact ⟨same, (Option.some.inj inside).symm⟩
    · rw [Function.update_of_ne same] at inside
      exact absurd critical (others other position same inside)
  refine ⟨succeeds, ?_, ?_, ?_⟩
  · intro one other position position' inside inside' critical critical'
    obtain ⟨rfl, -⟩ := only one position inside critical
    obtain ⟨rfl, -⟩ := only other position' inside' critical'
    rfl
  · intro other position inside critical
    obtain ⟨-, rfl⟩ := only other position inside critical
    exact active
  · intro quiet
    exact active.trans (levels_outside (quiet tid next (Function.update_self _ _ _)))

theorem inv_outside {s : System Tid} (inv : Inv s) {tid : Tid} {next : Option Position}
    {dev : Hbridge} (gpio : dev.gpio = s.dev.gpio)
    (before : ∀ position, s.threads tid = some position → ¬ position.Critical)
    (after : ∀ position, next = some position → ¬ position.Critical) :
    Inv { dev := dev, threads := Function.update s.threads tid next } := by
  have was : ∀ other position, Function.update s.threads tid next other = some position →
      position.Critical → s.threads other = some position := by
    intro other position inside critical
    by_cases same : other = tid
    · rw [same, Function.update_self] at inside
      exact absurd critical (after position inside)
    · rwa [Function.update_of_ne same] at inside
  refine ⟨by rw [gpio]; exact inv.succeeds, ?_, ?_, ?_⟩
  · intro one other position position' inside inside' critical critical'
    exact inv.lone one other position position' (was one position inside critical)
      (was other position' inside' critical') critical critical'
  · intro other position inside critical
    exact (congrArg Gpio.active gpio).trans
      (inv.critical other position (was other position inside critical) critical)
  · intro quiet
    refine (congrArg Gpio.active gpio).trans (inv.quiet ?_)
    intro other position inside critical
    by_cases same : other = tid
    · rw [same] at inside
      exact before position inside critical
    · exact quiet other position ((Function.update_of_ne same _ _).trans inside) critical

omit [DecidableEq Tid] in
theorem others_outside {s : System Tid} (inv : Inv s) {tid : Tid} {position : Position}
    (inside : s.threads tid = some position) (unfinished : ∀ state, position ≠ .store state)
    (exclusive : Exclusive s (.advance tid)) :
    ∀ other position', other ≠ tid → s.threads other = some position' →
      ¬ position'.Critical := by
  intro other position' apart inside' critical'
  by_cases critical : position.Critical
  · exact apart (inv.lone other tid position' position inside' inside critical' critical)
  · cases position with
    | driveOn state => exact exclusive state inside other position' inside' critical'
    | driveOff state => exact critical trivial
    | sleep state => exact critical trivial
    | releaseOn state => exact critical trivial
    | releaseOff state => exact critical trivial
    | store state => exact unfinished state rfl

omit [DecidableEq Tid] in
theorem active_levels {s : System Tid} (inv : Inv s) {tid : Tid} {position : Position}
    (inside : s.threads tid = some position)
    (others : ∀ other position', other ≠ tid → s.threads other = some position' →
      ¬ position'.Critical) : s.dev.gpio.active = position.levels := by
  by_cases critical : position.Critical
  · exact inv.critical tid position inside critical
  · rw [levels_outside critical]
    apply inv.quiet
    intro other position' inside' critical'
    by_cases same : other = tid
    · rw [same, inside] at inside'
      obtain rfl := Option.some.inj inside'
      exact critical critical'
    · exact others other position' same inside' critical'

theorem inv_call {s t : System Tid} {tid : Tid} {call : Call} (inv : Inv s)
    (taken : step s (.call tid call) = some t) : Inv t := by
  unfold step at taken
  dsimp only at taken
  cases outside : s.threads tid with
  | some position =>
    rw [outside] at taken
    exact absurd taken nofun
  | none =>
    have before : ∀ position, s.threads tid = some position → ¬ position.Critical := by
      intro position inside
      exact absurd (outside.symm.trans inside) nofun
    obtain ⟨outcome, run, entered⟩ := run_enter call s.dev
    rw [outside] at taken
    dsimp only at taken
    rw [run] at taken
    cases outcome with
    | inl position =>
      obtain rfl := Option.some.inj taken
      apply inv_outside inv rfl before
      intro next same
      obtain rfl := Option.some.inj same
      exact entered position rfl
    | inr ret =>
      obtain rfl := Option.some.inj taken
      exact inv_outside inv rfl before (fun _ h => absurd h nofun)

theorem inv_advance {s t : System Tid} {tid : Tid} (inv : Inv s)
    (exclusive : Exclusive s (.advance tid)) (taken : step s (.advance tid) = some t) : Inv t := by
  unfold step at taken
  dsimp only at taken
  cases inside : s.threads tid with
  | none =>
    rw [inside] at taken
    exact absurd taken nofun
  | some position =>
    rw [inside] at taken
    dsimp only at taken
    by_cases last : ∃ state, position = .store state
    · obtain ⟨state, rfl⟩ := last
      obtain rfl := Option.some.inj taken
      apply @inv_outside _ _ s inv tid none { s.dev with state := state } rfl
      · intro position inside' critical
        obtain rfl := Option.some.inj (inside.symm.trans inside')
        exact critical
      · exact fun _ h => absurd h nofun
    · have unfinished : ∀ state, position ≠ .store state := fun state final => last ⟨state, final⟩
      have others := others_outside inv inside unfinished exclusive
      obtain ⟨next, dev, run, succeeds, active⟩ :=
        run_step inv.succeeds unfinished (active_levels inv inside others)
      rw [run] at taken
      obtain rfl := Option.some.inj taken
      exact inv_alone next succeeds others active

theorem inv_step (s : System Tid) (move : Move Tid) (t : System Tid) (inv : Inv s)
    (exclusive : Exclusive s move) (taken : step s move = some t) : Inv t := by
  cases move with
  | call tid call => exact inv_call inv taken
  | advance tid => exact inv_advance inv exclusive taken

/-- Runs in which no call makes its first write while another call is between its first write and
its last one are safe in every state they reach. -/
theorem exclusive_safe {s : System Tid} (rest : AtRest s) (moves : List (Move Tid))
    (exclusive : AtEach step moves s Exclusive) : Throughout step moves s Safe := by
  have inv : Throughout step moves s Inv :=
    throughout_invariant step inv_step (inv_rest rest) exclusive
  exact inv.imp step fun t => safe_of_inv

end Threads

def bridge : System Bool where
  dev :=
    { gpio :=
        { active := fun _ => false
          activeLow := fun _ => false
          outcomes := []
          log := [] }
      waitTime := 100
      state := 0 }
  threads := fun _ => none

theorem atRest_bridge : AtRest bridge := ⟨rfl, fun _ => rfl, fun _ => rfl⟩

/-- One thread turns the switch off, and while it sleeps another one turns it on. -/
theorem threads_shoot_through :
    ¬ ∀ (s : System Bool) (moves : List (Move Bool)), AtRest s → Throughout step moves s Safe := by
  intro always
  have both : (leads step [.call false .turnOff, .advance false, .advance false, .call true .turnOn,
      .advance true] bridge).map (fun t => decide (Both t.dev.gpio.active)) = some true := by
    decide
  obtain ⟨t, reached, shorted⟩ := Option.map_eq_some_iff.mp both
  have safe := always bridge _ atRest_bridge _ [] t (List.append_nil _).symm reached
  exact safe.apart (of_decide_eq_true shorted)

theorem exclusive_safe_entered :
    Throughout step [.call false .turnOn, .advance false, .call true .turnOff] bridge Safe := by
  apply exclusive_safe atRest_bridge
  have called : Exclusive bridge (.call false .turnOn) := trivial
  refine atEach_cons step called fun u entered => ?_
  obtain rfl := Option.some.inj entered
  refine atEach_cons step ?_ fun v _ => ?_
  · intro state _ other position inside
    cases other with
    | false =>
      obtain rfl := Option.some.inj inside
      exact id
    | true => exact absurd inside nofun
  · have late : Exclusive v (.call true .turnOff) := trivial
    exact atEach_cons step late fun w _ => atEach_nil step w _

end ZephyrEsphome.Switch.Interleaving
