/- Digest: What the slot holds at an upgrade request, over any number of sessions. -/

import ZephyrEsphome.Ota.Transfer

set_option autoImplicit false
set_option relaxedAutoImplicit false

namespace ZephyrEsphome.Ota.Upgrade

open Kernel
open Library.Exec
open Session Transfer

def sessionStarts (fuel : Nat) : OtaNode → List Connection → List OtaNode
  | _, [] => []
  | node, connection :: connections =>
    node.accept connection ::
      match (esphomeOtaRun fuel).run (node.accept connection) with
      | .ok _ next => sessionStarts fuel next connections
      | .error _ _ => []

theorem serve_record (fuel : Nat) (connections : List Connection) : ∀ node : OtaNode,
    (final ((serve fuel connections).run node)).events =
      node.events ++ (sessionStarts fuel node connections).flatMap (record fuel) := by
  induction connections with
  | nil =>
    intro node
    exact (List.append_nil _).symm
  | cons connection connections ih =>
    intro node
    have whole := record_events fuel (node.accept connection)
    have start : (serve fuel (connection :: connections)).run node =
        (esphomeOtaRun fuel >>= fun _ => serve fuel connections).run (node.accept connection) := rfl
    rw [start]
    unfold sessionStarts
    cases run : (esphomeOtaRun fuel).run (node.accept connection) with
    | ok ret next =>
      rw [run] at whole
      rw [run_bind_ok _ run, ih next, List.flatMap_cons, ← List.append_assoc]
      exact congrArg (· ++ _) whole
    | error e next =>
      rw [run] at whole
      rw [run_bind_error _ run, List.flatMap_cons, List.flatMap_nil, List.append_nil]
      exact whole

/-- Each upgrade request of the session finds exactly the image of this session in the slot. -/
def CoversOwnImage (fuel : Nat) (start : OtaNode) : Prop :=
  ∀ slot ret, .upgrade slot ret ∈ record fuel start →
    ∃ n, IsUpload start.rx.incoming n slot

/-- The session gets to its upgrade request. -/
def RequestsUpgrade (fuel : Nat) (start : OtaNode) : Prop :=
  ∃ event ∈ record fuel start, IsUpgrade event

theorem covers_iff (fuel : Nat) (start : OtaNode) :
    CoversOwnImage fuel start ↔ (RequestsUpgrade fuel start → start.flash.written = []) := by
  by_cases there : ∃ t, (download fuel).run start = .ok none t
  · obtain ⟨t, run⟩ := there
    obtain ⟨n, acks, chunks, got, upload, -, progress, -, -, -⟩ := download_none run
    obtain ⟨before, ret, after, -, whole, calm, calm', -⟩ := record_upgrade run
    rw [progress.written] at whole
    have requested : .upgrade (start.flash.written ++ (chunks.map Prod.fst).flatten) ret ∈
        record fuel start := by
      rw [whole]
      exact List.mem_append_right before List.mem_cons_self
    constructor
    · intro covers _
      obtain ⟨n', upload'⟩ := covers _ ret requested
      obtain ⟨-, same⟩ := upload.unique upload'
      simpa using same
    · intro fresh slot ret' member
      have empty := fresh ⟨_, requested, _, ret, rfl⟩
      rw [whole] at member
      rcases List.mem_append.mp member with early | late
      · exact absurd ⟨slot, ret', rfl⟩ (calm _ early)
      · rcases List.mem_cons.mp late with this | later
        · obtain ⟨rfl, rfl⟩ := OtaEvent.upgrade.inj this
          rw [empty, List.nil_append]
          exact ⟨n, upload⟩
        · exact absurd ⟨slot, ret', rfl⟩ (calm' _ later)
  · have quiet := record_quiet (fun t run => there ⟨t, run⟩)
    constructor
    · rintro _ ⟨event, member, upgrade⟩
      exact absurd upgrade (quiet event member)
    · intro _ slot ret member
      exact absurd ⟨slot, ret, rfl⟩ (quiet _ member)

/-- In a run of the service every upgrade request covers just its own session's image exactly when
every session that gets to one started with nothing written since `flash_img_init`. -/
theorem upgrades_cover_iff (fuel : Nat) (node : OtaNode) (connections : List Connection) :
    (∀ start ∈ sessionStarts fuel node connections, CoversOwnImage fuel start) ↔
      ∀ start ∈ sessionStarts fuel node connections, RequestsUpgrade fuel start →
        start.flash.written = [] := by
  constructor
  · intro covers start member
    exact (covers_iff fuel start).mp (covers start member)
  · intro fresh start member
    exact (covers_iff fuel start).mpr (fresh start member)

/-- The first of two sessions after `flash_img_init`. -/
def firstRun : EStateM.Result Stop OtaNode Int :=
  (esphomeOtaRun 3).run (booted.accept (uploadByte 0xAA))

def secondStart : OtaNode :=
  (final firstRun).accept (uploadByte 0xBB)

theorem secondStart_mem :
    secondStart ∈ sessionStarts 3 booted [uploadByte 0xAA, uploadByte 0xBB] := by
  have goes : returned firstRun = true := by decide +kernel
  unfold secondStart sessionStarts
  have start : (esphomeOtaRun 3).run (booted.accept (uploadByte 0xAA)) = firstRun := rfl
  rw [start]
  cases run : firstRun with
  | ok ret next =>
    unfold sessionStarts
    exact List.mem_cons_of_mem _ List.mem_cons_self
  | error e next =>
    rw [run] at goes
    exact absurd goes Bool.false_ne_true

theorem upgrade_with_stale_byte :
    ¬ ∀ (fuel : Nat) (node : OtaNode) (connections : List Connection), node.flash.written = [] →
      ∀ start ∈ sessionStarts fuel node connections, CoversOwnImage fuel start := by
  intro covers
  have requested : .upgrade [0xAA, 0xBB] 0 ∈ record 3 secondStart := by decide +kernel
  obtain ⟨n, upload⟩ := covers 3 booted [uploadByte 0xAA, uploadByte 0xBB] rfl secondStart
    secondStart_mem [0xAA, 0xBB] 0 requested
  have incoming : secondStart.rx.incoming = (uploadByte 0xBB).rx.incoming := rfl
  rw [incoming] at upload
  obtain ⟨-, same⟩ := (uploadByte_upload 0xBB).unique upload
  exact absurd same (by decide)

end ZephyrEsphome.Ota.Upgrade
