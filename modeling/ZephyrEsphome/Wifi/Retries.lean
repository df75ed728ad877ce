/- Digest: Which networks a run of the wifi component asks for, and what each attempt is owed to. -/

import ZephyrEsphome.Wifi.Requests

set_option autoImplicit false
set_option relaxedAutoImplicit false

namespace ZephyrEsphome.Wifi.Retries

open Kernel
open Library.Cycle (turn)
open Library.Exec
open Library.Transition
open Offline (Station Happening happens_of_step step)
open Requests
open RoundRobin (handedOut)

def attempts (log : List Action) : List WifiConnectReqParams :=
  log.filterMap fun
    | .netMgmt (.wifiConnect params) _ => some params
    | _ => none

def rejected (log : List Action) : Nat :=
  log.countP fun
    | .netMgmt (.wifiConnect _) ret => ret ≠ 0
    | _ => false

theorem attempts_append (early late : List Action) :
    attempts (early ++ late) = attempts early ++ attempts late :=
  List.filterMap_append

theorem rejected_append (early late : List Action) :
    rejected (early ++ late) = rejected early + rejected late :=
  List.countP_append

theorem unasked_log {new : List Action} (calm : ∀ action ∈ new, ¬ IsConnect action) :
    attempts new = [] ∧ rejected new = 0 := by
  constructor
  · apply List.filterMap_eq_nil_iff.mpr
    intro action member
    cases action with
    | onConnect => rfl
    | onDisconnect => rfl
    | netMgmt request ret =>
      cases request with
      | wifiConnect params => exact absurd ⟨params, ret, rfl⟩ (calm _ member)
      | wifiDisconnect => rfl
      | wifiIfaceStatus => rfl
  · apply List.countP_eq_zero.mpr
    intro action member
    cases action with
    | onConnect => exact Bool.false_ne_true
    | onDisconnect => exact Bool.false_ne_true
    | netMgmt request ret =>
      cases request with
      | wifiConnect params => exact absurd ⟨params, ret, rfl⟩ (calm _ member)
      | wifiDisconnect => exact Bool.false_ne_true
      | wifiIfaceStatus => exact Bool.false_ne_true

def requested (wifi : EsphomeWifi) (params : WifiConnectReqParams) (data : WifiCredentials) :
    EsphomeWifi :=
  { wifi with
    credentials := data
    answers := wifi.answers.tail.tail
    work := if wifi.answers.tail.headD 0 ≠ 0 then some (wifi.work.getD 15000) else wifi.work
    log := wifi.log ++ [.netMgmt .wifiDisconnect (wifi.answers.headD 0),
      .netMgmt (.wifiConnect params) (wifi.answers.tail.headD 0)] }

theorem run_work_requested {wifi : EsphomeWifi} {params : WifiConnectReqParams}
    {data : WifiCredentials}
    (found : wifiCredentialsGetNext.run wifi.credentials = .ok params data) :
    wifiConnectWorkCb.run wifi = .ok () (requested wifi params data) := by
  have chosen : (onCredentials wifiCredentialsGetNext).run (disconnecting wifi) = _ :=
    run_zoom_ok _ found
  rw [wifiConnectWorkCb, run_bind_ok _ (run_disconnect wifi), wifiConnect, run_bind_ok _ chosen,
    run_bind_ok _ (run_netMgmt _ _), requested]
  by_cases refused : wifi.answers.tail.headD 0 ≠ 0
  · rw [if_pos refused, if_pos (show (disconnecting wifi).answers.headD 0 ≠ 0 from refused)]
    simp only [disconnecting, List.append_assoc]
    rfl
  · rw [if_neg refused, if_neg (show ¬ (disconnecting wifi).answers.headD 0 ≠ 0 from refused)]
    simp only [disconnecting, List.append_assoc]
    rfl

theorem run_work_inv {wifi next : EsphomeWifi} (run : wifiConnectWorkCb.run wifi = .ok () next) :
    ∃ params data, wifiCredentialsGetNext.run wifi.credentials = .ok params data ∧
      next = requested wifi params data := by
  cases found : wifiCredentialsGetNext.run wifi.credentials with
  | ok params data =>
    obtain ⟨-, rfl⟩ := EStateM.Result.ok.inj (run.symm.trans (run_work_requested found))
    exact ⟨params, data, rfl, rfl⟩
  | error e data =>
    have chosen : (onCredentials wifiCredentialsGetNext).run (disconnecting wifi) = _ :=
      run_zoom_error _ found
    rw [wifiConnectWorkCb, run_bind_ok _ (run_disconnect wifi), wifiConnect,
      run_bind_error _ chosen] at run
    cases run

section Table

variable {networks : List NetworkConfig}

/-- The attempts so far went round the table, and the next one can be made. -/
structure InTurn (networks : List NetworkConfig) (s : Station) : Prop where
  turns : ∀ k params, (attempts s.wifi.log)[k]? = some params →
    turn (networks.map wifiCredentials) k = some params
  ready : s.wifi.work.isSome → ∃ t, step s .workFires = some t

structure Placed (networks : List NetworkConfig) (s : Station) : Prop where
  place : s.wifi.credentials = handedOut networks (attempts s.wifi.log).length
  turns : ∀ k params, (attempts s.wifi.log)[k]? = some params →
    turn (networks.map wifiCredentials) k = some params

theorem placed_quiet {s t : Station} (placed : Placed networks s)
    (quiet : t.wifi.credentials = s.wifi.credentials ∧
      Guarantee.Grown EsphomeWifi.log (fun action => ¬ IsConnect action) s.wifi t.wifi) :
    Placed networks t := by
  obtain ⟨same, new, log, calm⟩ := quiet
  have unchanged : attempts t.wifi.log = attempts s.wifi.log := by
    rw [log, attempts_append, (unasked_log calm).1, List.append_nil]
  constructor
  · rw [same, unchanged]
    exact placed.place
  · rw [unchanged]
    exact placed.turns

variable (positive : 0 < networks.length) (small : networks.length ≤ 255)

include positive small

theorem getNext_handedOut (given : Nat) :
    ∃ params, turn (networks.map wifiCredentials) given = some params ∧
      wifiCredentialsGetNext.run (handedOut networks given) =
        .ok params (handedOut networks (given + 1)) := by
  obtain ⟨network, found, answer⟩ := RoundRobin.shows positive small given .next
  refine ⟨wifiCredentials network, ?_, ?_⟩
  · rw [RoundRobin.turn_table, found]
    rfl
  · rw [RoundRobin.selection, RoundRobin.called] at answer
    cases run : wifiCredentialsGetNext.run (handedOut networks given) with
    | ok params next =>
      rw [run] at answer
      obtain ⟨rfl, rfl⟩ := Prod.mk.inj (Option.some.inj answer)
      rfl
    | error e next =>
      rw [run] at answer
      cases answer

theorem placed_step (s : Station) (event : Happening) (t : Station) (placed : Placed networks s)
    (taken : step s event = some t) : Placed networks t := by
  cases happens_of_step taken with
  | @workFires wifi _ run =>
    obtain ⟨params, next, run'⟩ :=
      getNext_handedOut positive small (attempts s.wifi.log).length
    have found : wifiCredentialsGetNext.run { s.wifi with work := none }.credentials =
        .ok params (handedOut networks ((attempts s.wifi.log).length + 1)) := by
      rw [← run', ← placed.place]
    obtain ⟨-, rfl⟩ := EStateM.Result.ok.inj (run.symm.trans (run_work_requested found))
    have more : attempts (requested { s.wifi with work := none } params
        (handedOut networks ((attempts s.wifi.log).length + 1))).log =
        attempts s.wifi.log ++ [params] := attempts_append _ _
    constructor
    · show _ = handedOut networks (attempts (requested _ _ _).log).length
      rw [more, List.length_append]
      rfl
    · intro k other at_
      change (attempts (requested _ _ _).log)[k]? = some other at at_
      rw [more] at at_
      rcases Nat.lt_trichotomy k (attempts s.wifi.log).length with below | rfl | above
      · rw [List.getElem?_append_left below] at at_
        exact placed.turns k other at_
      · rw [List.getElem?_append_right (Nat.le_refl _), Nat.sub_self] at at_
        obtain rfl := Option.some.inj at_
        exact next
      · rw [List.getElem?_eq_none (by rw [List.length_append, List.length_singleton]; omega)]
          at at_
        exact absurd at_ nofun
  | connectResult _ run => exact placed_quiet placed (handler_unasked run)
  | disconnectResult run => exact placed_quiet placed (handler_unasked run)

theorem inTurn_of_placed {s : Station} (placed : Placed networks s) : InTurn networks s := by
  refine ⟨placed.turns, ?_⟩
  intro scheduled
  obtain ⟨params, -, run⟩ := getNext_handedOut positive small (attempts s.wifi.log).length
  have found : wifiCredentialsGetNext.run { s.wifi with work := none }.credentials =
      .ok params (handedOut networks ((attempts s.wifi.log).length + 1)) := by
    rw [← run, ← placed.place]
  dsimp only [step]
  rw [if_pos scheduled, run_work_requested found]
  exact ⟨_, rfl⟩

/-- In every order of the stack's results and the retry work, whatever the stack answers: the k-th
connect request is made for the k-th network of the table, counted round and round, and the retry
work never reads outside the table. -/
theorem attempts_in_turn (onConnect onDisconnect : Bool) (answers : List Int)
    (events : List Happening) :
    Throughout step events (started networks onConnect onDisconnect answers) (InTurn networks) := by
  have start : Placed networks (started networks onConnect onDisconnect answers) :=
    ⟨RoundRobin.handedOut_zero.symm, fun k params at_ => absurd at_ (by simp [started, attempts])⟩
  have placed := throughout_of_step step (placed_step positive small) start events
  exact placed.imp step fun _ => inTurn_of_placed positive small

end Table

theorem attempts_in_turn_two : Throughout step [.workFires, .disconnectResult 1, .workFires]
    (started [RoundRobin.home, RoundRobin.guest] false false [])
    (InTurn [RoundRobin.home, RoundRobin.guest]) :=
  attempts_in_turn (by decide) (by decide) false false [] _

def failed : Happening → Bool
  | .workFires => false
  | .connectResult status => status ≠ 0
  | .disconnectResult status => status ≠ 0

def pending (wifi : EsphomeWifi) : Nat := if wifi.work.isSome then 1 else 0

def merged : List Happening → Station → Nat
  | [], _ => 0
  | event :: events, s =>
    (if failed event then pending s.wifi else 0) +
      match step s event with
      | some t => merged events t
      | none => 0

theorem handler_work {mgmtEvent : MgmtEvent} {status : Int} {wifi next : EsphomeWifi}
    (run : (wifiMgmtEventHandler mgmtEvent status).run wifi = .ok () next) :
    pending next = if status ≠ 0 then 1 else pending wifi := by
  by_cases nonzero : status ≠ 0
  · have scheduled : next.work = some (wifi.work.getD 15000) := by
      cases mgmtEvent with
      | connectResult =>
        dsimp only [wifiMgmtEventHandler, handleWifiConnectResult] at run
        rw [if_pos nonzero] at run
        obtain ⟨-, rfl⟩ := EStateM.Result.ok.inj run
        rfl
      | disconnectResult =>
        dsimp only [wifiMgmtEventHandler, handleWifiDisconnectResult] at run
        rw [if_pos nonzero] at run
        obtain ⟨-, rfl⟩ := EStateM.Result.ok.inj run
        rfl
    rw [if_pos nonzero, pending, scheduled]
    rfl
  · have same : Keeps (.always (Guarantee.Same EsphomeWifi.work))
        (wifiMgmtEventHandler mgmtEvent status) := by
      cases mgmtEvent with
      | connectResult =>
        dsimp only [wifiMgmtEventHandler, handleWifiConnectResult]
        rw [if_neg nonzero]
        apply keeps_bind (keeps_bind (keeps_modifyGet fun _ => rfl) fun _ => keeps_pure _)
        intro _
        apply keeps_bind keeps_get
        intro wifi
        exact keeps_ite (keeps_modify fun _ => rfl) (keeps_pure _)
      | disconnectResult =>
        dsimp only [wifiMgmtEventHandler, handleWifiDisconnectResult]
        rw [if_neg nonzero]
        apply keeps_bind keeps_get
        intro wifi
        exact keeps_ite (keeps_modify fun _ => rfl) (keeps_pure _)
    have kept : next.work = wifi.work := by
      have final := same.final wifi
      rw [run] at final
      exact final
    rw [if_neg nonzero, pending, pending, kept]

theorem rejected_request (ret : Int) (params : WifiConnectReqParams) (ret' : Int) :
    rejected [.netMgmt .wifiDisconnect ret, .netMgmt (.wifiConnect params) ret'] =
      if ret' ≠ 0 then 1 else 0 := by
  simp [rejected]

theorem account_work {wifi : EsphomeWifi} (idle : wifi.work = none) (params : WifiConnectReqParams)
    (data : WifiCredentials) :
    (attempts (requested wifi params data).log).length = (attempts wifi.log).length + 1 ∧
      rejected (requested wifi params data).log =
        rejected wifi.log + pending (requested wifi params data) := by
  have log : (requested wifi params data).log = wifi.log ++ _ := rfl
  constructor
  · rw [log, attempts_append, List.length_append]
    rfl
  · rw [log, rejected_append, rejected_request, pending, requested, idle]
    by_cases refused : wifi.answers.tail.headD 0 ≠ 0
    · simp only [if_pos refused]
      rfl
    · simp only [if_neg refused]
      rfl

theorem account_step {s t : Station} {event : Happening} (taken : step s event = some t) :
    (attempts t.wifi.log).length + pending t.wifi +
        (if failed event then pending s.wifi else 0) + rejected s.wifi.log =
      (attempts s.wifi.log).length + pending s.wifi + (if failed event then 1 else 0) +
        rejected t.wifi.log := by
  have result : ∀ {mgmtEvent status wifi}, (wifiMgmtEventHandler mgmtEvent status).run s.wifi =
      .ok () wifi → (attempts wifi.log).length + pending wifi +
          (if decide (status ≠ 0) then pending s.wifi else 0) + rejected s.wifi.log =
        (attempts s.wifi.log).length + pending s.wifi + (if decide (status ≠ 0) then 1 else 0) +
          rejected wifi.log := by
    intro mgmtEvent status wifi run
    obtain ⟨-, new, log, calm⟩ := handler_unasked run
    rw [handler_work run, log, attempts_append, rejected_append, (unasked_log calm).1,
      (unasked_log calm).2, List.append_nil]
    by_cases nonzero : status ≠ 0
    · rw [decide_eq_true nonzero, if_pos nonzero, if_pos rfl, if_pos rfl]
      omega
    · rw [decide_eq_false nonzero, if_neg nonzero, if_neg Bool.false_ne_true,
        if_neg Bool.false_ne_true]
      omega
  cases happens_of_step taken with
  | @workFires wifi scheduled run =>
    obtain ⟨params, data, -, same⟩ := run_work_inv run
    obtain ⟨more, refused⟩ := @account_work { s.wifi with work := none } rfl params data
    rw [← same] at more refused
    have due : pending s.wifi = 1 := if_pos scheduled
    show (attempts wifi.log).length + pending wifi + 0 + rejected s.wifi.log =
      (attempts s.wifi.log).length + pending s.wifi + 0 + rejected wifi.log
    rw [more, refused, due]
    show (attempts s.wifi.log).length + 1 + pending wifi + 0 + rejected s.wifi.log =
      (attempts s.wifi.log).length + 1 + 0 + (rejected s.wifi.log + pending wifi)
    omega
  | connectResult _ run => exact result run
  | disconnectResult run => exact result run

theorem account_run (events : List Happening) : ∀ {s t : Station},
    leads step events s = some t →
    (attempts t.wifi.log).length + pending t.wifi + merged events s + rejected s.wifi.log =
      (attempts s.wifi.log).length + pending s.wifi + events.countP failed +
        rejected t.wifi.log := by
  induction events with
  | nil =>
    intro s t reached
    obtain rfl := Option.some.inj reached
    show _ + 0 + _ = _ + 0 + _
    omega
  | cons event events ih =>
    intro s t reached
    cases taken : step s event with
    | none =>
      unfold leads at reached
      rw [List.foldlM_cons, taken] at reached
      exact absurd reached nofun
    | some u =>
      rw [leads_cons step taken] at reached
      have first := account_step taken
      have later := ih reached
      rw [merged, taken, List.countP_cons]
      dsimp only
      omega

/-- Every attempt of a run but the first is owed to a failure of its own: there are as many, with the
one that is still to come, as requests that the stack rejected and results that failed, less those
results that came when the next attempt was scheduled already. -/
theorem attempts_accounted (networks : List NetworkConfig) (onConnect onDisconnect : Bool)
    (answers : List Int) {events : List Happening} {t : Station}
    (reached : leads step events (started networks onConnect onDisconnect answers) = some t) :
    (attempts t.wifi.log).length + pending t.wifi +
        merged events (started networks onConnect onDisconnect answers) =
      1 + rejected t.wifi.log + events.countP failed := by
  have account := account_run events reached
  have start : (attempts (started networks onConnect onDisconnect answers).wifi.log).length +
      pending (started networks onConnect onDisconnect answers).wifi = 1 := rfl
  have none : rejected (started networks onConnect onDisconnect answers).wifi.log = 0 := rfl
  omega

theorem attempts_accounted_rejected :
    ∃ t, leads step [.workFires, .disconnectResult 1, .workFires]
        (started [RoundRobin.home] false false [0, -5]) = some t ∧
      (attempts t.wifi.log).length + pending t.wifi +
          merged [.workFires, .disconnectResult 1, .workFires]
            (started [RoundRobin.home] false false [0, -5]) = 1 + rejected t.wifi.log + 1 :=
  ⟨_, rfl, attempts_accounted [RoundRobin.home] false false [0, -5] rfl⟩

end ZephyrEsphome.Wifi.Retries
