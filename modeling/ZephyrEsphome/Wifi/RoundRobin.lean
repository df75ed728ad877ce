/- Digest: The configured networks are tried in turn, and which of them counts as the current one. -/

import ZephyrEsphome.Library.Cycle
import ZephyrEsphome.Library.Exec
import ZephyrEsphome.Wifi.Credentials

set_option autoImplicit false
set_option relaxedAutoImplicit false

namespace ZephyrEsphome.Wifi.RoundRobin

open Kernel
open Library.Cycle
open Library.Exec
open Library.Refinement

def called : Ask → Exec WifiCredentials WifiConnectReqParams
  | .next => wifiCredentialsGetNext
  | .peek => wifiCredentialsGetCurrent

def selection : Machine WifiCredentials Ask WifiConnectReqParams := fun data ask =>
  match (called ask).run data with
  | .ok params next => some (params, next)
  | .error _ _ => none

theorem run_read {data : WifiCredentials} {id : UInt8} {params : WifiConnectReqParams}
    (inside : data.credentials[id.toNat]? = some params) :
    (readCredentials id).run data = .ok params data := by
  rw [readCredentials, run_bind_ok _ (run_get data), inside]
  rfl

theorem run_getNext (data : WifiCredentials) :
    wifiCredentialsGetNext.run data = (readCredentials data.selected).run { data with
      selected := if data.count ≤ data.selected + 1 then 0 else data.selected + 1 } := by
  have start : wifiCredentialsGetNext.run data =
      (if data.selected + 1 ≥ data.count then
        (do modify fun data => { data with selected := 0 }
            readCredentials data.selected : Exec WifiCredentials WifiConnectReqParams)
      else readCredentials data.selected).run { data with selected := data.selected + 1 } := by
    unfold wifiCredentialsGetNext
    rw [run_bind_ok _ (run_get data)]
    rfl
  rw [start]
  by_cases full : data.count ≤ data.selected + 1
  · rw [if_pos full, if_pos full]
    rfl
  · rw [if_neg full, if_neg full]

theorem getNext_found {data : WifiCredentials} {params : WifiConnectReqParams}
    (inside : data.credentials[data.selected.toNat]? = some params) :
    ∃ place, wifiCredentialsGetNext.run data = .ok params { data with selected := place } := by
  rw [run_getNext]
  exact ⟨_, run_read inside⟩

theorem getNext_missing {data : WifiCredentials}
    (outside : data.credentials[data.selected.toNat]? = none) :
    ∃ place, wifiCredentialsGetNext.run data =
      .error .undefined { data with selected := place } := by
  rw [run_getNext, readCredentials, run_bind_ok _ (run_get _)]
  dsimp only
  rw [outside]
  exact ⟨_, rfl⟩

def handedOut (networks : List NetworkConfig) (given : Nat) : WifiCredentials :=
  { WifiCredentials.boot networks with selected := UInt8.ofNat (given % networks.length) }

section Table

variable {networks : List NetworkConfig}

theorem handedOut_zero : handedOut networks 0 = .boot networks := by
  rw [handedOut, Nat.zero_mod]
  rfl

theorem toNat_small {m : Nat} (small : m ≤ 255) : (UInt8.ofNat m).toNat = m :=
  Nat.mod_eq_of_lt (Nat.lt_succ_of_le small)

theorem turn_table (given : Nat) :
    turn (networks.map wifiCredentials) given =
      (networks[given % networks.length]?).map wifiCredentials := by
  rw [turn, List.length_map, List.getElem?_map]

theorem wifiCredentials_injective {network other : NetworkConfig}
    (same : wifiCredentials network = wifiCredentials other) : network = other := by
  obtain ⟨ssid, password, security⟩ := network
  obtain ⟨ssid', password', security'⟩ := other
  obtain ⟨rfl, -, rfl, -, rfl, -⟩ := WifiConnectReqParams.mk.inj same
  rfl

section Sized

variable (positive : 0 < networks.length) (small : networks.length ≤ 255)

include positive small

theorem selected_handedOut (given : Nat) :
    (handedOut networks given).selected.toNat = given % networks.length :=
  toNat_small (Nat.le_trans (Nat.le_of_lt (Nat.mod_lt given positive)) small)

theorem read_handedOut (given given' : Nat) {params : WifiConnectReqParams}
    (next : turn (networks.map wifiCredentials) given = some params) :
    (readCredentials (handedOut networks given).selected).run (handedOut networks given') =
      .ok params (handedOut networks given') := by
  apply run_read
  rw [selected_handedOut positive small, ← next, turn, List.length_map]
  rfl

theorem selected_succ (given : Nat) :
    { handedOut networks given with
      selected :=
        if (handedOut networks given).count ≤ (handedOut networks given).selected + 1 then 0
        else (handedOut networks given).selected + 1 } = handedOut networks (given + 1) := by
  have place := selected_handedOut positive small given
  have inside := Nat.mod_lt given positive
  have count : (handedOut networks given).count.toNat = networks.length := toNat_small small
  have one : (1 : UInt8).toNat = 1 := rfl
  have next : ((handedOut networks given).selected + 1).toNat = given % networks.length + 1 := by
    rw [UInt8.toNat_add, place, one]
    omega
  have moved : (if (handedOut networks given).count ≤ (handedOut networks given).selected + 1
      then 0 else (handedOut networks given).selected + 1) =
      UInt8.ofNat ((given + 1) % networks.length) := by
    have full : (handedOut networks given).count ≤ (handedOut networks given).selected + 1 ↔
        networks.length ≤ given % networks.length + 1 := by
      rw [UInt8.le_iff_toNat_le, count, next]
    rw [place_succ positive, ← UInt8.toNat_inj]
    by_cases within : given % networks.length + 1 < networks.length
    · rw [if_neg (mt full.mp (by omega)), if_pos within, next, toNat_small (by omega)]
    · rw [if_pos (full.mpr (by omega)), if_neg within]
      rfl
  rw [moved]
  rfl

theorem refines : Refines selection (cursor (networks.map wifiCredentials))
    fun data given => data = handedOut networks given := by
  constructor
  rintro _ given ask rfl
  obtain ⟨params, next⟩ :=
    @turn_exists _ (networks.map wifiCredentials) (by rwa [List.length_map]) given
  refine ⟨params, handedOut networks (given + ask.gives), given + ask.gives, ?_, ⟨next, rfl⟩, rfl⟩
  cases ask with
  | next =>
    have run : wifiCredentialsGetNext.run (handedOut networks given) =
        .ok params (handedOut networks (given + 1)) := by
      rw [run_getNext, selected_succ positive small]
      exact read_handedOut positive small given _ next
    rw [selection, called, run]
    rfl
  | peek =>
    have run : wifiCredentialsGetCurrent.run (handedOut networks given) =
        .ok params (handedOut networks given) := by
      rw [wifiCredentialsGetCurrent, run_bind_ok _ (run_get _)]
      exact read_handedOut positive small given _ next
    rw [selection, called, run]
    rfl

theorem answers_exist (asks : List Ask) (given : Nat) :
    ∃ replies, answers selection asks (handedOut networks given) =
        some (replies, handedOut networks (given + asks.count .next)) ∧
      Allows (cursor (networks.map wifiCredentials)) given asks replies
        (given + asks.count .next) := by
  obtain ⟨replies, _, last, run, allowed, rfl⟩ :=
    (refines positive small).run asks (handedOut networks given) given rfl
  rw [given_after allowed] at run allowed
  exact ⟨replies, run, allowed⟩

theorem state_after {asks : List Ask} {replies : List WifiConnectReqParams} {t : WifiCredentials}
    (run : answers selection asks (.boot networks) = some (replies, t)) :
    t = handedOut networks (asks.count .next) := by
  obtain ⟨replies', run', -⟩ := answers_exist positive small asks 0
  rw [handedOut_zero, run, Nat.zero_add] at run'
  exact (Prod.mk.inj (Option.some.inj run')).2

theorem shows (given : Nat) (ask : Ask) :
    ∃ network, networks[given % networks.length]? = some network ∧
      selection (handedOut networks given) ask =
        some (wifiCredentials network, handedOut networks (given + ask.gives)) := by
  obtain ⟨params, _, next, answer, ⟨here, rfl⟩, rfl⟩ :=
    (refines positive small).step _ given ask rfl
  rw [turn_table] at here
  obtain ⟨network, found, rfl⟩ := Option.map_eq_some_iff.mp here
  exact ⟨network, found, answer⟩

end Sized

end Table

/-- After any calls the next network handed out is the one whose turn it is, no call reads outside
the table, and as many networks in a row as there are hand out each of them once. -/
structure TriesInTurn (networks : List NetworkConfig) : Prop where
  turns : ∀ asks replies t, answers selection asks (.boot networks) = some (replies, t) →
    ∃ network u, networks[asks.count .next % networks.length]? = some network ∧
      selection t .next = some (wifiCredentials network, u)
  inside : ∀ asks, ∃ replies t, answers selection asks (.boot networks) = some (replies, t) ∧
    t.selected.toNat < networks.length
  eachOnce : ∀ asks replies t, answers selection asks (.boot networks) = some (replies, t) →
    ∃ handed u, answers selection (List.replicate networks.length .next) t = some (handed, u) ∧
      handed.Perm (networks.map wifiCredentials)

theorem tries_in_turn {networks : List NetworkConfig} (positive : 0 < networks.length)
    (small : networks.length ≤ 255) : TriesInTurn networks := by
  constructor
  · intro asks replies t run
    obtain rfl := state_after positive small run
    obtain ⟨network, found, answer⟩ := shows positive small (asks.count .next) .next
    exact ⟨network, _, found, answer⟩
  · intro asks
    obtain ⟨replies, run, -⟩ := answers_exist positive small asks 0
    rw [handedOut_zero] at run
    refine ⟨replies, _, run, ?_⟩
    rw [selected_handedOut positive small]
    exact Nat.mod_lt _ positive
  · intro asks replies t run
    obtain rfl := state_after positive small run
    obtain ⟨handed, row, allowed⟩ := answers_exist positive small
      (List.replicate networks.length .next) (asks.count .next)
    rw [← List.length_map (f := wifiCredentials)] at allowed
    exact ⟨handed, _, row, replies_round_perm allowed⟩

def home : NetworkConfig := ⟨.ofBytes [0x68], .ofBytes [0x70], 1⟩

def guest : NetworkConfig := ⟨.ofBytes [0x67], .ofBytes [], 0⟩

theorem tries_in_turn_two : TriesInTurn [home, guest] :=
  tries_in_turn (by decide) (by decide)

/-- After these calls and one more that hands out a network, that network is the current one. -/
def CurrentInUse (networks : List NetworkConfig) (asks : List Ask) : Prop :=
  ∀ replies t params u current v, answers selection asks (.boot networks) = some (replies, t) →
    selection t .next = some (params, u) → selection u .peek = some (current, v) →
    current = params

/-- The network that was handed out is the current one exactly when the one after it in the table, or
the first one after the last, is the same: the selection already points there. -/
theorem current_in_use_iff {networks : List NetworkConfig} (positive : 0 < networks.length)
    (small : networks.length ≤ 255) (asks : List Ask) :
    CurrentInUse networks asks ↔
      networks[asks.count .next % networks.length]? =
        networks[(asks.count .next + 1) % networks.length]? := by
  obtain ⟨replies, run, -⟩ := answers_exist positive small asks 0
  rw [handedOut_zero, Nat.zero_add] at run
  obtain ⟨network, found, next⟩ := shows positive small (asks.count .next) .next
  obtain ⟨other, found', peek⟩ := shows positive small (asks.count .next + 1) .peek
  rw [found, found']
  constructor
  · intro inUse
    have same := inUse _ _ _ _ _ _ run next peek
    rw [wifiCredentials_injective same]
  · intro same replies' t params u current v run' next' peek'
    rw [run] at run'
    obtain ⟨-, rfl⟩ := Prod.mk.inj (Option.some.inj run')
    rw [next] at next'
    obtain ⟨rfl, rfl⟩ := Prod.mk.inj (Option.some.inj next')
    have peek' : selection (handedOut networks (asks.count .next + 1)) .peek = some (current, v) :=
      peek'
    rw [peek] at peek'
    obtain ⟨rfl, -⟩ := Prod.mk.inj (Option.some.inj peek')
    rw [Option.some.inj same]

theorem current_in_use_iff_twins :
    CurrentInUse [home, home, guest] [.peek] ∧ ¬ CurrentInUse [home, home, guest] [.next, .peek] := by
  constructor
  · exact (current_in_use_iff (by decide) (by decide) [.peek]).mpr rfl
  · intro inUse
    have same := (current_in_use_iff (by decide) (by decide) [.next, .peek]).mp inUse
    exact absurd same (by decide)

/-- The first network has been handed out, and the second one counts as the current one. -/
theorem current_is_next : ¬ ∀ (networks : List NetworkConfig) (asks : List Ask),
    0 < networks.length → networks.length ≤ 255 → CurrentInUse networks asks := by
  intro always
  have same := always [home, guest] [] (by decide) (by decide) [] (.boot [home, guest])
    (wifiCredentials home) (handedOut [home, guest] 1) (wifiCredentials guest)
    (handedOut [home, guest] 1) rfl rfl rfl
  exact absurd same (by decide)

end ZephyrEsphome.Wifi.RoundRobin
