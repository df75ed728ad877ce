/- Digest: Both switch drivers answer as one abstract switch, known or not known.

   The abstract switch is the state that was set last, or `none` while none was set. It says nothing
   of how often a driver writes its outputs, except where it writes none. -/

import ZephyrEsphome.Library.Refinement
import ZephyrEsphome.Switch.Holding

set_option autoImplicit false
set_option relaxedAutoImplicit false

namespace ZephyrEsphome.Switch.Refinement

open Kernel
open Library.Exec
open Library.Refinement
open GpioSwitch (esphomeGpioSwitchInit)
open Hbridge (esphomeSwitchHbridgeInit)
open Holding

/-- The calls of the component's interface; states to be set are not negative. -/
inductive Call
  | setState (state : Nat)
  | turnOn
  | turnOff
  | toggle
  | getState
  deriving DecidableEq

structure Reply where
  ret : Int
  stored : Option Int
  actions : Nat
  deriving DecidableEq

def Call.perform {σ : Type} (api : SwitchComponentApi σ) : Call → Exec σ (Int × Option Int)
  | .setState state => do
    return (← esphomeSwitchSetState api state, none)
  | .turnOn => do
    return (← esphomeSwitchTurnOn api, none)
  | .turnOff => do
    return (← esphomeSwitchTurnOff api, none)
  | .toggle => do
    return (← esphomeSwitchToggle api, none)
  | .getState => do
    let (ret, state) ← esphomeSwitchGetState api
    return (ret, some state)

/-- A driver as an object that answers calls; `taken` counts its actions. -/
def machine {σ : Type} (api : SwitchComponentApi σ) (taken : σ → Nat) : Machine σ Call Reply :=
  fun dev call =>
    match (call.perform api).run dev with
    | .ok (ret, stored) next => some (⟨ret, stored, taken next - taken dev⟩, next)
    | .error _ _ => none

def Call.asks (known : Option Nat) : Call → Option Nat
  | .setState state => some state
  | .turnOn => some 1
  | .turnOff => some 0
  | .toggle => known.map fun state => if state = 0 then 1 else 0
  | .getState => none

inductive Abstract : Option Nat → Call → Reply → Option Nat → Prop
  | set {known : Option Nat} {call : Call} {state : Nat} (asked : call.asks known = some state)
      (actions : Nat) : Abstract known call ⟨0, none, actions⟩ (some state)
  | failed {known : Option Nat} {call : Call} {state : Nat} {ret : Int}
      (asked : call.asks known = some state) (error : ret < 0) (actions : Nat) :
      Abstract known call ⟨ret, none, actions⟩ known
  | told (state : Nat) : Abstract (some state) .getState ⟨0, some state, 0⟩ (some state)
  | untold : Abstract none .getState ⟨-einval, some (-einval), 0⟩ none
  | untoggled : Abstract none .toggle ⟨-einval, none, 0⟩ none

def held : Option Nat → Int
  | some state => state
  | none => -einval

section Driver

variable {σ : Type} {api : SwitchComponentApi σ} {state : σ → Int} {taken : σ → Nat}

structure Latches (api : SwitchComponentApi σ) (state : σ → Int) : Prop where
  set : ∀ dev asked, ∃ ret next, (api.setState asked).run dev = .ok ret next ∧
    (ret = 0 ∧ state next = asked ∨ ret < 0 ∧ state next = state dev)
  get : ∀ dev, api.getState.run dev = .ok (state dev) dev

theorem Latches.getState (latches : Latches api state) {dev : σ} {known : Option Nat}
    (here : state dev = held known) :
    (esphomeSwitchGetState api).run dev =
      .ok (if known.isSome then 0 else -einval, held known) dev := by
  rw [esphomeSwitchGetState, run_bind_ok _ (latches.get dev), here]
  cases known with
  | none => rfl
  | some known =>
    have positive : ¬ held (some known) < 0 := Int.not_lt.mpr (Int.natCast_nonneg known)
    rw [if_neg positive]
    rfl

theorem Latches.asking (latches : Latches api state) {dev : σ} {known : Option Nat} {call : Call}
    {asked : Nat} (asks : call.asks known = some asked)
    (sets : (call.perform api).run dev =
      (do return (← api.setState asked, none) : Exec σ (Int × Option Int)).run dev)
    (here : state dev = held known) :
    ∃ reply next known', machine api taken dev call = some (reply, next) ∧
      Abstract known call reply known' ∧ state next = held known' := by
  obtain ⟨ret, next, run, outcome⟩ := latches.set dev asked
  have performed : (call.perform api).run dev = .ok (ret, none) next := by
    rw [sets, run_bind_ok _ run]
    rfl
  rcases outcome with ⟨rfl, same⟩ | ⟨error, same⟩
  · refine ⟨⟨0, none, taken next - taken dev⟩, next, some asked, ?_, .set asks _, same⟩
    rw [machine, performed]
  · refine ⟨⟨ret, none, taken next - taken dev⟩, next, known, ?_, .failed asks error _, ?_⟩
    · rw [machine, performed]
    · rw [same, here]

theorem Latches.toggle (latches : Latches api state) {dev : σ} {known : Option Nat}
    (here : state dev = held known) :
    ∃ reply next known', machine api taken dev .toggle = some (reply, next) ∧
      Abstract known .toggle reply known' ∧ state next = held known' := by
  have told := latches.getState here
  cases known with
  | none =>
    have performed : (Call.perform api .toggle).run dev = .ok (-einval, none) dev := by
      rw [Call.perform, esphomeSwitchToggle, bind_assoc, run_bind_ok _ told]
      rfl
    refine ⟨⟨-einval, none, 0⟩, dev, none, ?_, .untoggled, here⟩
    rw [machine, performed]
    dsimp only
    rw [Nat.sub_self]
  | some known =>
    apply latches.asking rfl _ here
    have opposite : (if held (some known) ≠ 0 then esphomeSwitchTurnOff api
        else esphomeSwitchTurnOn api) = api.setState (if known = 0 then 1 else 0 : Nat) := by
      have nonzero : held (some known) ≠ 0 ↔ known ≠ 0 := by
        rw [held]
        omega
      by_cases zero : known = 0
      · rw [if_neg fun h => nonzero.mp h zero, if_pos zero]
        rfl
      · rw [if_pos (nonzero.mpr zero), if_neg zero]
        rfl
    rw [Call.perform, esphomeSwitchToggle, bind_assoc, run_bind_ok _ told]
    dsimp only [Option.isSome_some]
    rw [if_pos rfl, if_neg (Int.lt_irrefl 0), opposite]

theorem Latches.refines (latches : Latches api state) :
    Refines (machine api taken) Abstract fun dev known => state dev = held known := by
  constructor
  intro dev known call here
  cases call with
  | setState asked => exact latches.asking rfl rfl here
  | turnOn => exact latches.asking rfl rfl here
  | turnOff => exact latches.asking rfl rfl here
  | toggle => exact latches.toggle here
  | getState =>
    have told := latches.getState here
    have performed : (Call.perform api .getState).run dev =
        .ok (if known.isSome then 0 else -einval, some (held known)) dev := by
      rw [Call.perform, run_bind_ok _ told]
      rfl
    refine ⟨⟨if known.isSome then 0 else -einval, some (held known), 0⟩, dev, known, ?_, ?_, here⟩
    · rw [machine, performed]
      dsimp only
      rw [Nat.sub_self]
    · cases known with
      | none => exact .untold
      | some known => exact .told known

end Driver

def Call.setResult : Call → Reply → Option (Int × Option Int)
  | .getState, _ => none
  | _, reply => some (reply.ret, none)

def Call.seen (_ : Call) (reply : Reply) : Option (Int × Option Int) :=
  some (reply.ret, reply.stored)

theorem Abstract.asked {known next : Option Nat} {call : Call} {reply : Reply} {state : Nat}
    (allowed : Abstract known call reply next) (asks : call.asks known = some state) :
    reply.stored = none ∧
      (reply.ret = 0 ∧ next = some state ∨ reply.ret < 0 ∧ next = known) := by
  cases allowed with
  | set asked actions =>
    obtain rfl := Option.some.inj (asked.symm.trans asks)
    exact ⟨rfl, Or.inl ⟨rfl, rfl⟩⟩
  | failed asked error actions => exact ⟨rfl, Or.inr ⟨error, rfl⟩⟩
  | told state => exact absurd asks nofun
  | untold => exact absurd asks nofun
  | untoggled => exact absurd asks nofun

theorem Abstract.unasked {known next next' : Option Nat} {call : Call} {reply reply' : Reply}
    (allowed : Abstract known call reply next) (allowed' : Abstract known call reply' next')
    (asks : call.asks known = none) : reply = reply' ∧ next = next' := by
  cases allowed with
  | set asked actions => exact absurd (asked.symm.trans asks) nofun
  | failed asked error actions => exact absurd (asked.symm.trans asks) nofun
  | told state =>
    cases allowed' with
    | set asked actions => exact absurd asked nofun
    | failed asked error actions => exact absurd asked nofun
    | told => exact ⟨rfl, rfl⟩
  | untold =>
    cases allowed' with
    | set asked actions => exact absurd asked nofun
    | failed asked error actions => exact absurd asked nofun
    | untold => exact ⟨rfl, rfl⟩
  | untoggled =>
    cases allowed' with
    | set asked actions => exact absurd asked nofun
    | failed asked error actions => exact absurd asked nofun
    | untoggled => exact ⟨rfl, rfl⟩

theorem setResult_asked {known : Option Nat} {call : Call} {state : Nat}
    (asks : call.asks known = some state) (reply : Reply) :
    call.setResult reply = some (reply.ret, none) := by
  cases call with
  | setState _ => rfl
  | turnOn => rfl
  | turnOff => rfl
  | toggle => rfl
  | getState => exact absurd asks nofun

theorem determined : Determined Abstract Call.setResult Call.seen := by
  intro known call reply reply' next next' first second agree
  cases asks : call.asks known with
  | none =>
    obtain ⟨rfl, rfl⟩ := first.unasked second asks
    exact ⟨rfl, rfl⟩
  | some state =>
    rw [setResult_asked asks, setResult_asked asks] at agree
    have ret : reply.ret = reply'.ret := congrArg Prod.fst (Option.some.inj agree)
    obtain ⟨stored, outcome⟩ := first.asked asks
    obtain ⟨stored', outcome'⟩ := second.asked asks
    refine ⟨by rw [Call.seen, Call.seen, ret, stored, stored'], ?_⟩
    rcases outcome with ⟨zero, rfl⟩ | ⟨error, rfl⟩
    · rcases outcome' with ⟨-, rfl⟩ | ⟨error', -⟩
      · rfl
      · omega
    · rcases outcome' with ⟨zero', -⟩ | ⟨-, rfl⟩
      · omega
      · rfl

end ZephyrEsphome.Switch.Refinement
