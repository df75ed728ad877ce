/- Digest: Which connect requests name a configured network. -/

import ZephyrEsphome.Wifi.Offline
import ZephyrEsphome.Wifi.RoundRobin

set_option autoImplicit false
set_option relaxedAutoImplicit false

namespace ZephyrEsphome.Wifi.Requests

open Kernel
open Library.Exec
open Library.Transition
open Offline (Station Happening step)

def literal (str : CString) : List UInt8 := str.bytes ++ [0]

/-- The request's `ssid` and `psk`, cut at their lengths, are the SSID and the password of a
configured network. -/
def NamesNetwork (networks : List NetworkConfig) (params : WifiConnectReqParams) : Prop :=
  ∃ network ∈ networks,
    (literal params.ssid).take params.ssidLength.toNat = network.ssid.bytes ∧
    (literal params.psk).take params.pskLength.toNat = network.password.bytes

/-- The string is so long that its `sizeof` does not fit into its length field, and the bytes that
the field then counts are those of the other string. -/
structure CountsAs (str other : CString) : Prop where
  long : 255 ≤ str.bytes.length
  counted : str.bytes.take ((str.bytes.length + 1) % 256) = other.bytes

def Survives (networks : List NetworkConfig) (network : NetworkConfig) : Prop :=
  ∃ other ∈ networks, CountsAs network.ssid other.ssid ∧ CountsAs network.password other.password

theorem toNat_sizeof (str : CString) :
    (UInt8.ofNat (sizeofLiteral str)).toNat = (str.bytes.length + 1) % 256 := rfl

theorem countsAs_iff (str other : CString) :
    (literal str).take (UInt8.ofNat (sizeofLiteral str)).toNat = other.bytes ↔
      CountsAs str other := by
  rw [toNat_sizeof, literal]
  by_cases long : 255 ≤ str.bytes.length
  · have within : (str.bytes.length + 1) % 256 ≤ str.bytes.length := by omega
    rw [List.take_append_of_le_length within]
    exact ⟨fun counted => ⟨long, counted⟩, CountsAs.counted⟩
  · have whole : (str.bytes.length + 1) % 256 = (str.bytes ++ [0]).length := by
      rw [List.length_append, List.length_singleton]
      omega
    rw [whole, List.take_length]
    constructor
    · intro same
      have terminated : 0 ∈ other.bytes := by
        rw [← same]
        exact List.mem_append_right _ (List.mem_singleton_self 0)
      exact absurd terminated other.noNul
    · intro counts
      exact absurd counts.long long

theorem namesNetwork_iff (networks : List NetworkConfig) (network : NetworkConfig) :
    NamesNetwork networks (wifiCredentials network) ↔ Survives networks network := by
  constructor
  · rintro ⟨other, member, ssid, password⟩
    exact ⟨other, member, (countsAs_iff _ _).mp ssid, (countsAs_iff _ _).mp password⟩
  · rintro ⟨other, member, ssid, password⟩
    exact ⟨other, member, (countsAs_iff _ _).mpr ssid, (countsAs_iff _ _).mpr password⟩

def IsConnect (action : Action) : Prop :=
  ∃ params ret, action = .netMgmt (.wifiConnect params) ret

theorem keeps_handler {G : Guarantee EsphomeWifi}
    (scheduled : ∀ wifi work, G.onReturn wifi { wifi with work := work })
    (said : ∀ (wifi : EsphomeWifi) action answers, ¬ IsConnect action →
      G.onReturn wifi { wifi with answers := answers, log := wifi.log ++ [action] })
    (mgmtEvent : MgmtEvent) (status : Int) : Keeps G (wifiMgmtEventHandler mgmtEvent status) := by
  have retries : Keeps G (kWorkSchedule 15000) := keeps_modify fun wifi => scheduled wifi _
  have calls : ∀ callback, ¬ IsConnect callback → Keeps G (call callback) :=
    fun callback other => keeps_modify fun wifi => said wifi callback wifi.answers other
  cases mgmtEvent with
  | connectResult =>
    apply keeps_ite retries
    apply keeps_bind
    · apply keeps_bind
      · apply keeps_modifyGet
        intro wifi
        apply said
        rintro ⟨params, ret, same⟩
        cases same
      · exact fun _ => keeps_pure ()
    · intro _
      apply keeps_bind keeps_get
      intro wifi
      apply keeps_ite _ (keeps_pure ())
      apply calls
      rintro ⟨params, ret, same⟩
      cases same
  | disconnectResult =>
    apply keeps_ite retries
    apply keeps_bind keeps_get
    intro wifi
    apply keeps_ite _ (keeps_pure ())
    apply calls
    rintro ⟨params, ret, same⟩
    cases same

theorem handler_unasked {mgmtEvent : MgmtEvent} {status : Int} {wifi next : EsphomeWifi}
    (run : (wifiMgmtEventHandler mgmtEvent status).run wifi = .ok () next) :
    next.credentials = wifi.credentials ∧
      Guarantee.Grown EsphomeWifi.log (fun action => ¬ IsConnect action) wifi next := by
  have same := (keeps_handler (G := .always (Guarantee.Same EsphomeWifi.credentials))
    (fun _ _ => rfl) (fun _ _ _ _ => rfl) mgmtEvent status).final wifi
  have grown := (keeps_handler
    (G := .always (Guarantee.Grown EsphomeWifi.log fun action => ¬ IsConnect action))
    (fun _ _ => Guarantee.grown_none rfl) (fun _ _ _ other => Guarantee.grown_one rfl other)
    mgmtEvent status).final wifi
  rw [run, final_ok] at same grown
  exact ⟨same, grown⟩

section Table

variable {networks : List NetworkConfig}

def TableOf (networks : List NetworkConfig) (wifi : EsphomeWifi) : Prop :=
  wifi.credentials.credentials = networks.map wifiCredentials

def selectedNetwork (networks : List NetworkConfig) (wifi : EsphomeWifi) : Option NetworkConfig :=
  networks[wifi.credentials.selected.toNat]?

def disconnecting (wifi : EsphomeWifi) : EsphomeWifi :=
  { wifi with
    answers := wifi.answers.tail
    log := wifi.log ++ [.netMgmt .wifiDisconnect (wifi.answers.headD 0)] }

theorem run_netMgmt (request : NetRequest) (wifi : EsphomeWifi) :
    (netMgmt request).run wifi = .ok (wifi.answers.headD 0) { wifi with
      answers := wifi.answers.tail
      log := wifi.log ++ [.netMgmt request (wifi.answers.headD 0)] } := rfl

theorem run_disconnect (wifi : EsphomeWifi) :
    wifiDisconnect.run wifi = .ok () (disconnecting wifi) := rfl

theorem run_work {wifi : EsphomeWifi} (table : TableOf networks wifi) {network : NetworkConfig}
    (selected : selectedNetwork networks wifi = some network) :
    ∃ next ret, wifiConnectWorkCb.run wifi = .ok () next ∧ TableOf networks next ∧
      next.log = (disconnecting wifi).log ++ [.netMgmt (.wifiConnect (wifiCredentials network))
        ret] := by
  have inside : wifi.credentials.credentials[wifi.credentials.selected.toNat]? =
      some (wifiCredentials network) := by
    rw [table, List.getElem?_map, ← selectedNetwork, selected, Option.map_some]
  obtain ⟨place, next⟩ := RoundRobin.getNext_found inside
  have chosen : (onCredentials wifiCredentialsGetNext).run (disconnecting wifi) = _ :=
    run_zoom_ok _ next
  rw [wifiConnectWorkCb, run_bind_ok _ (run_disconnect wifi), wifiConnect, run_bind_ok _ chosen,
    run_bind_ok _ (run_netMgmt _ _)]
  by_cases rejected : (disconnecting wifi).answers.headD 0 ≠ 0
  · rw [if_pos rejected]
    exact ⟨_, _, rfl, table, rfl⟩
  · rw [if_neg rejected]
    exact ⟨_, _, rfl, table, rfl⟩

theorem run_work_outside {wifi : EsphomeWifi} (table : TableOf networks wifi)
    (outside : selectedNetwork networks wifi = none) :
    ∃ next, wifiConnectWorkCb.run wifi = .error .undefined next := by
  have absent : wifi.credentials.credentials[wifi.credentials.selected.toNat]? = none := by
    rw [table, List.getElem?_map, ← selectedNetwork, outside, Option.map_none]
  obtain ⟨place, next⟩ := RoundRobin.getNext_missing absent
  have chosen : (onCredentials wifiCredentialsGetNext).run (disconnecting wifi) = _ :=
    run_zoom_error _ next
  rw [wifiConnectWorkCb, run_bind_ok _ (run_disconnect wifi), wifiConnect,
    run_bind_error _ chosen]
  exact ⟨_, rfl⟩

theorem step_cases {s t : Station} {event : Happening} (table : TableOf networks s.wifi)
    (taken : step s event = some t) :
    TableOf networks t.wifi ∧
      (Guarantee.Grown EsphomeWifi.log (fun action => ¬ IsConnect action) s.wifi t.wifi ∨
        event = .workFires ∧ s.wifi.work.isSome ∧ ∃ network ret,
          selectedNetwork networks s.wifi = some network ∧
          t.wifi.log = (disconnecting s.wifi).log ++
            [.netMgmt (.wifiConnect (wifiCredentials network)) ret]) := by
  cases Offline.happens_of_step taken with
  | workFires scheduled run =>
    have table' : TableOf networks { s.wifi with work := none } := table
    cases selected : selectedNetwork networks { s.wifi with work := none } with
    | none =>
      obtain ⟨next, stopped⟩ := run_work_outside table' selected
      cases run.symm.trans stopped
    | some network =>
      obtain ⟨next, ret, run', kept, log⟩ := run_work table' selected
      obtain ⟨-, rfl⟩ := EStateM.Result.ok.inj (run.symm.trans run')
      exact ⟨kept, Or.inr ⟨rfl, scheduled, network, ret, selected, log⟩⟩
  | connectResult _ run =>
    obtain ⟨same, grown⟩ := handler_unasked run
    exact ⟨(congrArg _ same).trans table, Or.inl grown⟩
  | disconnectResult run =>
    obtain ⟨same, grown⟩ := handler_unasked run
    exact ⟨(congrArg _ same).trans table, Or.inl grown⟩

/-- Every connect request so far names a configured network. -/
def RequestsNamed (networks : List NetworkConfig) (s : Station) : Prop :=
  ∀ params ret, .netMgmt (.wifiConnect params) ret ∈ s.wifi.log → NamesNetwork networks params

/-- If the retry work runs now, the selected network survives the lengths of its request. -/
def FiresNamed (networks : List NetworkConfig) (s : Station) (event : Happening) : Prop :=
  event = .workFires → s.wifi.work.isSome →
    ∀ network, selectedNetwork networks s.wifi = some network → Survives networks network

def started (networks : List NetworkConfig) (onConnect onDisconnect : Bool) (answers : List Int) :
    Station where
  wifi :=
    { onConnect := onConnect
      onDisconnect := onDisconnect
      credentials := .boot networks
      work := some 1000
      answers := answers
      log := [] }
  linkUp := false
  awaiting := 0

theorem initialised_started (onConnect onDisconnect : Bool) (answers : List Int) :
    Offline.Initialised (started networks onConnect onDisconnect answers) :=
  ⟨⟨{ (started networks onConnect onDisconnect answers).wifi with work := none }, rfl⟩, rfl, rfl⟩

theorem named_step {s t : Station} {event : Happening}
    (inv : TableOf networks s.wifi ∧ RequestsNamed networks s)
    (fires : FiresNamed networks s event) (taken : step s event = some t) :
    TableOf networks t.wifi ∧ RequestsNamed networks t := by
  obtain ⟨table, named⟩ := inv
  obtain ⟨kept, ⟨new, log, calm⟩ | ⟨rfl, scheduled, network, ret, selected, log⟩⟩ :=
    step_cases table taken
  · refine ⟨kept, ?_⟩
    intro params ret member
    rw [log] at member
    rcases List.mem_append.mp member with early | late
    · exact named params ret early
    · exact absurd ⟨params, ret, rfl⟩ (calm _ late)
  · refine ⟨kept, ?_⟩
    intro params ret' member
    rw [log] at member
    rcases List.mem_append.mp member with early | late
    · rcases List.mem_append.mp early with earlier | first
      · exact named params ret' earlier
      · cases List.mem_singleton.mp first
    · cases List.mem_singleton.mp late
      exact (namesNetwork_iff networks network).mpr (fires rfl scheduled network selected)

theorem table_step (s : Station) (event : Happening) (t : Station)
    (table : TableOf networks s.wifi) (taken : step s event = some t) :
    TableOf networks t.wifi :=
  (step_cases table taken).1

/-- In a run from the init every connect request names a configured network exactly when the retry
work only runs while the selected network is one whose request does, which takes an SSID and a
password of 255 bytes or more. -/
theorem requests_named_iff (networks : List NetworkConfig) (onConnect onDisconnect : Bool)
    (answers : List Int) (events : List Happening) :
    Throughout step events (started networks onConnect onDisconnect answers)
        (RequestsNamed networks) ↔
      AtEach step events (started networks onConnect onDisconnect answers)
        (FiresNamed networks) := by
  have table : TableOf networks (started networks onConnect onDisconnect answers).wifi := rfl
  constructor
  · rintro named t _ reached rfl scheduled network selected
    have table' : TableOf networks { t.wifi with work := none } :=
      takes_invariant step table_step table reached
    obtain ⟨next, ret, run, -, log⟩ := run_work table' selected
    have taken : ∃ u, step t .workFires = some u ∧ u.wifi = next := by
      dsimp only [step]
      rw [if_pos scheduled, run]
      exact ⟨_, rfl, rfl⟩
    obtain ⟨u, taken, rfl⟩ := taken
    obtain ⟨-, after⟩ := named.around step reached taken
    apply (namesNetwork_iff networks network).mp
    apply after _ ret
    rw [log]
    exact List.mem_append_right _ (List.mem_singleton_self _)
  · intro fires
    have inv := throughout_invariant step (fun _ _ _ inv fires taken => named_step inv fires taken)
      ⟨table, fun _ _ member => absurd member List.not_mem_nil⟩ fires
    exact inv.imp step fun _ both => both.2

end Table

/-- The first request counts the terminators of `home` and of its password. -/
theorem terminator_counted : ¬ ∀ (networks : List NetworkConfig) (onConnect onDisconnect : Bool)
    (answers : List Int) (events : List Happening),
    Throughout step events (started networks onConnect onDisconnect answers)
      (RequestsNamed networks) := by
  intro always
  have named := always [RoundRobin.home] false false [] [.workFires] [.workFires] [] _ rfl rfl
  have names := named (wifiCredentials RoundRobin.home) 0 (by decide)
  obtain ⟨other, -, ssid, -⟩ := (namesNetwork_iff _ _).mp names
  exact absurd ssid.long (by decide)

end ZephyrEsphome.Wifi.Requests
