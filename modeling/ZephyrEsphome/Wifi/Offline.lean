/- Digest: When the wifi component stays offline for good. -/

import ZephyrEsphome.Library.Transition
import ZephyrEsphome.Wifi.Driver

set_option autoImplicit false
set_option relaxedAutoImplicit false

namespace ZephyrEsphome.Wifi.Offline

open Kernel
open Library.Exec
open Library.Transition

structure Station where
  wifi : EsphomeWifi
  linkUp : Bool
  /-- How many accepted connect requests have had no result yet. -/
  awaiting : Nat

inductive Happening
  /-- The work queue runs the retry work. -/
  | workFires
  /-- The result of a connect request. -/
  | connectResult (status : Int)
  /-- A lost link, a failed connection, or the result of a disconnect request. -/
  | disconnectResult (status : Int)

def accepted (log : List Action) : Nat :=
  log.countP fun
    | .netMgmt (.wifiConnect _) ret => ret = 0
    | _ => false

def step (s : Station) : Happening → Option Station
  | .workFires =>
    if s.wifi.work.isSome then
      match wifiConnectWorkCb.run { s.wifi with work := none } with
      | .ok _ wifi =>
        some { s with
          wifi := wifi
          awaiting := s.awaiting + accepted (wifi.log.drop s.wifi.log.length) }
      | .error _ _ => none
    else none
  | .connectResult status =>
    if 0 < s.awaiting then
      match (wifiMgmtEventHandler .connectResult status).run s.wifi with
      | .ok _ wifi =>
        some { wifi := wifi, linkUp := status = 0 || s.linkUp, awaiting := s.awaiting - 1 }
      | .error _ _ => none
    else none
  | .disconnectResult status =>
    match (wifiMgmtEventHandler .disconnectResult status).run s.wifi with
    | .ok _ wifi => some { s with wifi := wifi, linkUp := false }
    | .error _ _ => none

/-- The component has just been initialised. -/
structure Initialised (s : Station) : Prop where
  init : ∃ boot, esphomeWifiInit.run boot = .ok 0 s.wifi
  linkDown : s.linkUp = false
  nothing : s.awaiting = 0

/-- A connect request has no result yet, or the retry work is scheduled. -/
def Station.Trying (s : Station) : Prop :=
  0 < s.awaiting ∨ s.wifi.work.isSome

/-- The component is not stuck offline. -/
def Station.Alive (s : Station) : Prop :=
  s.linkUp = true ∨ s.Trying

instance (s : Station) : Decidable s.Trying := by
  unfold Station.Trying
  infer_instance

instance (s : Station) : Decidable s.Alive := by
  unfold Station.Alive
  infer_instance

theorem run_connectResult (status : Int) (w : EsphomeWifi) :
    ∃ t, (wifiMgmtEventHandler .connectResult status).run w = .ok () t ∧
      (status ≠ 0 → t.work.isSome) := by
  dsimp only [wifiMgmtEventHandler, handleWifiConnectResult]
  by_cases failed : status ≠ 0
  · rw [if_pos failed]
    exact ⟨{ w with work := some (w.work.getD 15000) }, rfl, fun _ => rfl⟩
  · rw [if_neg failed]
    have returns : Returns (do
        wifiStatus
        if (← get).onConnect then
          call .onConnect) := by
      apply returns_bind (returns_bind (returns_modifyGet _) fun _ => returns_pure _)
      intro _
      apply returns_bind fun w => ⟨w, w, rfl⟩
      intro w
      exact returns_ite (returns_modifyGet _) (returns_pure _)
    obtain ⟨_, t, run⟩ := returns w
    exact ⟨t, run, fun nonzero => absurd nonzero failed⟩

theorem run_disconnectResult (status : Int) (w : EsphomeWifi) :
    ∃ t, (wifiMgmtEventHandler .disconnectResult status).run w = .ok () t ∧
      (t.work.isSome ↔ status ≠ 0 ∨ w.work.isSome) := by
  dsimp only [wifiMgmtEventHandler, handleWifiDisconnectResult]
  by_cases failed : status ≠ 0
  · rw [if_pos failed]
    exact ⟨{ w with work := some (w.work.getD 15000) }, rfl, fun _ => Or.inl failed, fun _ => rfl⟩
  · rw [if_neg failed, run_bind_ok _ (run_get w)]
    have same : w.work.isSome ↔ status ≠ 0 ∨ w.work.isSome := by
      constructor
      · exact Or.inr
      · rintro (nonzero | scheduled)
        · exact absurd nonzero failed
        · exact scheduled
    by_cases callback : w.onDisconnect = true
    · rw [if_pos callback]
      exact ⟨{ w with log := w.log ++ [.onDisconnect] }, rfl, same⟩
    · rw [if_neg callback]
      exact ⟨w, rfl, same⟩

theorem run_connectWork {w t : EsphomeWifi} (run : wifiConnectWorkCb.run w = .ok () t) :
    0 < accepted (t.log.drop w.log.length) ∨ t.work.isSome := by
  obtain ⟨_, asked, first, connecting⟩ := run_bind_inv run
  obtain ⟨-, rfl⟩ := EStateM.Result.ok.inj first
  obtain ⟨params, chosen, choosing, requesting⟩ := run_bind_inv connecting
  have apart : Keeps (.always (Guarantee.Same EsphomeWifi.log))
      (onCredentials wifiCredentialsGetNext) :=
    keeps_zoom (fun _ _ => rfl) fun _ _ => rfl
  have log := apart.final { w with
    answers := w.answers.tail
    log := w.log ++ [.netMgmt .wifiDisconnect (w.answers.headD 0)] }
  rw [choosing] at log
  have log : chosen.log = w.log ++ [.netMgmt .wifiDisconnect (w.answers.headD 0)] := log
  obtain ⟨ret, answered, request, later⟩ := run_bind_inv requesting
  obtain ⟨rfl, rfl⟩ := EStateM.Result.ok.inj request
  by_cases rejected : chosen.answers.headD 0 ≠ 0
  · rw [if_pos rejected] at later
    obtain ⟨-, rfl⟩ := EStateM.Result.ok.inj later
    exact Or.inr rfl
  · rw [if_neg rejected] at later
    obtain ⟨-, rfl⟩ := EStateM.Result.ok.inj later
    left
    show 0 < accepted ((chosen.log ++ [Action.netMgmt (.wifiConnect params)
      (chosen.answers.headD 0)]).drop w.log.length)
    rw [Decidable.of_not_not rejected, log, List.append_assoc, List.drop_left]
    exact Nat.one_pos

inductive Happens (s : Station) : Happening → Station → Prop
  | workFires {wifi : EsphomeWifi} (scheduled : s.wifi.work.isSome)
      (run : wifiConnectWorkCb.run { s.wifi with work := none } = .ok () wifi) :
      Happens s .workFires { s with
        wifi := wifi
        awaiting := s.awaiting + accepted (wifi.log.drop s.wifi.log.length) }
  | connectResult {status : Int} {wifi : EsphomeWifi} (awaited : 0 < s.awaiting)
      (run : (wifiMgmtEventHandler .connectResult status).run s.wifi = .ok () wifi) :
      Happens s (.connectResult status)
        { wifi := wifi, linkUp := status = 0 || s.linkUp, awaiting := s.awaiting - 1 }
  | disconnectResult {status : Int} {wifi : EsphomeWifi}
      (run : (wifiMgmtEventHandler .disconnectResult status).run s.wifi = .ok () wifi) :
      Happens s (.disconnectResult status) { s with wifi := wifi, linkUp := false }

theorem happens_of_step {s t : Station} {event : Happening} (taken : step s event = some t) :
    Happens s event t := by
  unfold step at taken
  cases event with
  | workFires =>
    dsimp only at taken
    split at taken
    · rename_i scheduled
      cases run : wifiConnectWorkCb.run { s.wifi with work := none } with
      | ok _ wifi =>
        rw [run] at taken
        obtain rfl := Option.some.inj taken
        exact .workFires scheduled run
      | error _ _ =>
        rw [run] at taken
        exact absurd taken nofun
    · exact absurd taken nofun
  | connectResult status =>
    dsimp only at taken
    split at taken
    · rename_i awaited
      cases run : (wifiMgmtEventHandler .connectResult status).run s.wifi with
      | ok _ wifi =>
        rw [run] at taken
        obtain rfl := Option.some.inj taken
        exact .connectResult awaited run
      | error _ _ =>
        rw [run] at taken
        exact absurd taken nofun
    · exact absurd taken nofun
  | disconnectResult status =>
    dsimp only at taken
    cases run : (wifiMgmtEventHandler .disconnectResult status).run s.wifi with
    | ok _ wifi =>
      rw [run] at taken
      obtain rfl := Option.some.inj taken
      exact .disconnectResult run
    | error _ _ =>
      rw [run] at taken
      exact absurd taken nofun

theorem alive_start {s : Station} (start : Initialised s) : s.Alive := by
  obtain ⟨boot, init⟩ := start.init
  obtain ⟨-, wifi⟩ := EStateM.Result.ok.inj init
  right
  right
  rw [← wifi]
  rfl

theorem alive_step {s : Station} {event : Happening} {t : Station}
    (tries : event = .disconnectResult 0 → s.Trying) (taken : step s event = some t) :
    t.Alive := by
  cases happens_of_step taken with
  | workFires _ run =>
    rcases run_connectWork run with answered | scheduled
    · exact Or.inr (Or.inl (Nat.add_pos_right _ answered))
    · exact Or.inr (Or.inr scheduled)
  | @connectResult status wifi _ run =>
    obtain ⟨wifi', run', scheduled⟩ := run_connectResult status s.wifi
    obtain ⟨-, rfl⟩ := EStateM.Result.ok.inj (run.symm.trans run')
    by_cases connected : status = 0
    · left
      show (decide (status = 0) || s.linkUp) = true
      rw [decide_eq_true connected, Bool.true_or]
    · exact Or.inr (Or.inr (scheduled connected))
  | @disconnectResult status wifi run =>
    obtain ⟨wifi', run', scheduled⟩ := run_disconnectResult status s.wifi
    obtain ⟨-, rfl⟩ := EStateM.Result.ok.inj (run.symm.trans run')
    right
    by_cases failed : status ≠ 0
    · exact Or.inr (scheduled.mpr (Or.inl failed))
    · obtain rfl : status = 0 := Decidable.of_not_not failed
      rcases tries rfl with awaiting | scheduled'
      · exact Or.inl awaiting
      · exact Or.inr (scheduled.mpr (Or.inr scheduled'))

theorem stuck_step {s : Station} (idle : ¬ s.Trying) :
    ∃ t, step s (.disconnectResult 0) = some t ∧ ¬ t.Alive := by
  obtain ⟨wifi, run, scheduled⟩ := run_disconnectResult 0 s.wifi
  refine ⟨{ s with wifi := wifi, linkUp := false }, ?_, ?_⟩
  · dsimp only [step]
    rw [run]
  · rintro (up | awaiting | later)
    · exact absurd up Bool.false_ne_true
    · exact idle (Or.inl awaiting)
    · rcases scheduled.mp later with nonzero | later'
      · exact nonzero rfl
      · exact idle (Or.inr later')

/-- The component is never stuck offline exactly when every disconnect result with status 0 arrives
while a connect request has no result yet or the retry work is scheduled. -/
theorem never_stuck_iff {s : Station} (start : Initialised s) (events : List Happening) :
    Throughout step events s Station.Alive ↔
      AtEach step events s fun t event => event = .disconnectResult 0 → t.Trying := by
  constructor
  · rintro alive t _ reached rfl
    by_cases trying : t.Trying
    · exact trying
    · obtain ⟨u, taken, stuck⟩ := stuck_step trying
      obtain ⟨-, after⟩ := alive.around step reached taken
      exact absurd after stuck
  · intro tries
    exact throughout_invariant step (fun _ _ _ _ => alive_step) (alive_start start) tries

def enabled : Station where
  wifi :=
    { onConnect := false
      onDisconnect := false
      credentials := .boot [⟨.ofBytes [0x6E], .ofBytes [0x70], 1⟩]
      work := some 1000
      answers := []
      log := [] }
  linkUp := false
  awaiting := 0

theorem initialised_enabled : Initialised enabled :=
  ⟨⟨{ enabled.wifi with work := none }, rfl⟩, rfl, rfl⟩

/-- The component connects, and then the access point ends the connection. -/
theorem left_offline :
    ¬ ∀ (s : Station) (events : List Happening), Initialised s →
      Throughout step events s Station.Alive := by
  intro always
  have stuck : (leads step [.workFires, .connectResult 0, .disconnectResult 0] enabled).map
      (fun t => decide t.Alive) = some false := by
    decide
  obtain ⟨t, reached, dead⟩ := Option.map_eq_some_iff.mp stuck
  have alive := always enabled _ initialised_enabled _ [] t (List.append_nil _).symm reached
  exact of_decide_eq_false dead alive

theorem never_stuck_iff_awaiting :
    Throughout step [.workFires, .disconnectResult 0] enabled Station.Alive := by
  apply (never_stuck_iff initialised_enabled _).mpr
  refine atEach_cons step ?_ fun u fired => ?_
  · exact fun other => absurd other Happening.noConfusion
  obtain rfl := Option.some.inj fired
  refine atEach_cons step ?_ fun v _ => atEach_nil step v _
  intro _
  decide

end ZephyrEsphome.Wifi.Offline
