/- Digest: Whole runs of the service: that they come to an end, and what the slot holds by then. -/

import ZephyrEsphome.Ota.Calls
import ZephyrEsphome.Ota.Upgrade

set_option autoImplicit false
set_option relaxedAutoImplicit false

namespace ZephyrEsphome.Ota.Slot

open Kernel
open Library.Exec
open Calls Session Transfer Upgrade

def stored (events : List OtaEvent) : List UInt8 :=
  events.flatMap fun
    | .wrote buf _ ret => if ret = 0 then buf else []
    | _ => []

theorem stored_append (early late : List OtaEvent) :
    stored (early ++ late) = stored early ++ stored late :=
  List.flatMap_append

theorem stored_flatMap {α : Type} (f : α → List OtaEvent) (items : List α) :
    stored (items.flatMap f) = items.flatMap fun item => stored (f item) :=
  List.flatMap_assoc

def Tells (s t : OtaNode) : Prop :=
  ∃ new, t.events = s.events ++ new ∧ t.flash.written = s.flash.written ++ stored new ∧
    ∀ before slot ret after, new = before ++ .upgrade slot ret :: after →
      slot = s.flash.written ++ stored before

instance isPreorder_tells : IsPreorder OtaNode Tells where
  refl s := by
    refine ⟨[], (List.append_nil _).symm, (List.append_nil _).symm, ?_⟩
    intro before slot ret after split
    exact absurd split.symm (List.append_ne_nil_of_right_ne_nil _ (List.cons_ne_nil _ _))
  trans s t u := by
    rintro ⟨first, events, written, told⟩ ⟨second, events', written', told'⟩
    refine ⟨first ++ second, ?_, ?_, ?_⟩
    · rw [events', events, List.append_assoc]
    · rw [written', written, stored_append, List.append_assoc]
    · intro before slot ret after split
      rcases List.append_eq_append_iff.mp split with ⟨more, rfl, rest⟩ | ⟨more, rfl, rest⟩
      · rw [told' more slot ret after rest, written, stored_append, List.append_assoc]
      · cases more with
        | nil =>
          rw [List.append_nil] at written
          rw [told' [] slot ret after rest.symm, written]
          exact List.append_nil _
        | cons event more =>
          obtain ⟨rfl, rfl⟩ := List.cons.inj rest
          exact told before slot ret more rfl

theorem tells_one {s t : OtaNode} {event : OtaEvent} (one : t.events = s.events ++ [event])
    (written : t.flash.written = s.flash.written ++ stored [event]) (quiet : ¬ IsUpgrade event) :
    Tells s t := by
  refine ⟨[event], one, written, ?_⟩
  intro before slot ret after split
  have member : OtaEvent.upgrade slot ret ∈ [event] := by
    rw [split]
    exact List.mem_append_right before List.mem_cons_self
  exact absurd ⟨slot, ret, (List.mem_singleton.mp member).symm⟩ quiet

theorem written_write (flash : FlashImg) (buf : List UInt8) (flush : Bool) :
    (flash.flashImgBufferedWrite buf).2.written =
      flash.written ++ stored [.wrote buf flush (flash.flashImgBufferedWrite buf).1] := by
  rw [stored, List.flatMap_singleton]
  unfold FlashImg.flashImgBufferedWrite
  by_cases refused : flash.outcomes.headD 0 ≠ 0
  · simp only [if_pos refused, if_neg refused, List.append_nil]
  · by_cases fits : flash.written.length + buf.length ≤ flash.capacity
    · simp only [if_neg refused, if_pos fits, if_pos]
    · have failed : ¬ -enomem = (0 : Int) := by decide
      simp only [if_neg refused, if_neg fits, if_neg failed, List.append_nil]

theorem flashImgInit_written {flash : FlashImg} (succeeded : ¬ flash.flashImgInit.1 ≠ 0) :
    flash.flashImgInit.2.written = [] := by
  unfold FlashImg.flashImgInit at succeeded ⊢
  by_cases refused : flash.outcomes.headD 0 ≠ 0
  · simp only [if_pos refused] at succeeded
    exact absurd refused succeeded
  · simp only [if_neg refused]

theorem flashImgInit_capacity (flash : FlashImg) :
    flash.flashImgInit.2.capacity = flash.capacity := by
  unfold FlashImg.flashImgInit
  dsimp only
  split
  · rfl
  · rfl

abbrev telling : Guarantee OtaNode := .always Tells

theorem calls_tell : KeepsCalls telling where
  recv len := by
    apply keeps_modifyGet
    intro s
    exact tells_one rfl (List.append_nil _).symm (usual_quiet.received _ _)
  send buf := by
    apply keeps_modifyGet
    intro s
    exact tells_one rfl (List.append_nil _).symm nofun
  write buf flush := by
    apply keeps_modifyGet
    intro s
    exact tells_one rfl (written_write s.flash buf flush) (usual_quiet.wrote _ _ _)
  boot := by
    apply keeps_modifyGet
    intro s
    refine ⟨[.upgrade s.flash.written (s.bootOutcomes.headD 0)], rfl, (List.append_nil _).symm, ?_⟩
    intro before slot ret after split
    cases before with
    | nil =>
      obtain ⟨rfl, -⟩ := OtaEvent.upgrade.inj (List.cons.inj split).1
      exact (List.append_nil _).symm
    | cons event before =>
      exact absurd (List.cons.inj split).2 (by simp)

theorem tells_accept (s : OtaNode) (connection : Connection) : Tells s (s.accept connection) :=
  refl_of Tells s

section Service

variable (fuel : Nat) (connections : List Connection)

theorem written_run {s t : OtaNode} {ret : Int} (run : (esphomeOtaRun fuel).run s = .ok ret t) :
    t.flash.written = s.flash.written ++ stored (record fuel s) := by
  obtain ⟨new, events, written, -⟩ := (esphomeOtaRun_keeps calls_tell fuel).final s
  have whole := record_events fuel s
  rw [events] at whole
  rw [← List.append_cancel_left whole, ← written, run]
  rfl

theorem written_start {start : OtaNode} : ∀ {node : OtaNode} {done later : List OtaNode},
    sessionStarts fuel node connections = done ++ start :: later →
    start.flash.written = node.flash.written ++ stored (done.flatMap (record fuel)) := by
  induction connections with
  | nil =>
    intro node done later split
    exact absurd split (by simp [sessionStarts])
  | cons connection connections ih =>
    intro node done later split
    unfold sessionStarts at split
    cases done with
    | nil =>
      obtain ⟨rfl, -⟩ := List.cons.inj split
      exact (List.append_nil _).symm
    | cons first done =>
      obtain ⟨rfl, rest⟩ := List.cons.inj split
      cases run : (esphomeOtaRun fuel).run (node.accept connection) with
      | ok ret next =>
        rw [run] at rest
        rw [ih rest, written_run fuel run, List.flatMap_cons, stored_append, List.append_assoc]
        rfl
      | error e next =>
        rw [run] at rest
        exact absurd rest (by simp)

theorem sessionStarts_one (node : OtaNode) (connection : Connection) :
    sessionStarts fuel node [connection] = [node.accept connection] := by
  unfold sessionStarts
  cases (esphomeOtaRun fuel).run (node.accept connection) with
  | ok ret next => rfl
  | error e next => rfl

/-- The state after `flash_img_init`. -/
def started (boot : OtaNode) : OtaNode := { boot with flash := boot.flash.flashImgInit.2 }

theorem run_service_failed {boot : OtaNode} (failed : boot.flash.flashImgInit.1 ≠ 0) :
    (esphomeOtaService fuel connections).run boot =
      .ok boot.flash.flashImgInit.1 (started boot) := by
  have init : (esphomeOtaService fuel connections).run boot =
      (if boot.flash.flashImgInit.1 ≠ 0 then pure boot.flash.flashImgInit.1 else do
        serve fuel connections
        pure 0 : Exec OtaNode Int).run (started boot) := rfl
  rw [init, if_pos failed]
  rfl

theorem run_service_started {boot : OtaNode} (succeeded : ¬ boot.flash.flashImgInit.1 ≠ 0) :
    (esphomeOtaService fuel connections).run boot =
      (serve fuel connections >>= fun _ => pure 0 : Exec OtaNode Int).run (started boot) := by
  have init : (esphomeOtaService fuel connections).run boot =
      (if boot.flash.flashImgInit.1 ≠ 0 then pure boot.flash.flashImgInit.1 else do
        serve fuel connections
        pure 0 : Exec OtaNode Int).run (started boot) := rfl
  rw [init, if_neg succeeded]

/-- In every run of `esphome_ota_service`, whichever of its calls fail, each upgrade request is made
for just the bytes that all writes since `flash_img_init` stored, those of aborted sessions too. -/
theorem upgrade_slot (boot : OtaNode) {before after : List OtaEvent} {slot : List UInt8} {ret : Int}
    (split : added OtaNode.events boot ((esphomeOtaService fuel connections).run boot) =
      before ++ .upgrade slot ret :: after) : slot = stored before := by
  by_cases failed : boot.flash.flashImgInit.1 ≠ 0
  · -- The service returns at once, with an empty record.
    rw [run_service_failed fuel connections failed] at split
    have none : added OtaNode.events boot (.ok boot.flash.flashImgInit.1 (started boot) :
        EStateM.Result Stop OtaNode Int) = [] := List.drop_length
    exact absurd (none.symm.trans split).symm
      (List.append_ne_nil_of_right_ne_nil _ (List.cons_ne_nil _ _))
  · rw [run_service_started fuel connections failed] at split
    have keeps : Keeps telling (serve fuel connections >>= fun _ => pure 0 : Exec OtaNode Int) :=
      keeps_bind (serve_keeps calls_tell tells_accept fuel connections) fun _ => keeps_pure _
    obtain ⟨new, events, -, told⟩ := keeps.final (started boot)
    have same : added OtaNode.events boot
        ((serve fuel connections >>= fun _ => pure 0 : Exec OtaNode Int).run (started boot)) = new := by
      rw [added, events]
      exact List.drop_left
    rw [told before slot ret after (same.symm.trans split), started, flashImgInit_written failed,
      List.nil_append]

end Service

theorem upgrade_slot_second :
    OtaEvent.upgrade [0xAA, 0xBB] 0 ∈ added OtaNode.events booted
        ((esphomeOtaService 3 [uploadByte 0xAA, uploadByte 0xBB]).run booted) ∧
      ∃ before, [0xAA, 0xBB] = stored before := by
  have requested : OtaEvent.upgrade [0xAA, 0xBB] 0 ∈ added OtaNode.events booted
      ((esphomeOtaService 3 [uploadByte 0xAA, uploadByte 0xBB]).run booted) := by decide +kernel
  refine ⟨requested, ?_⟩
  obtain ⟨before, after, split⟩ := List.append_of_mem requested
  exact ⟨before, upgrade_slot 3 [uploadByte 0xAA, uploadByte 0xBB] booted split⟩

/-- A session gets to request an upgrade of just its own image exactly when no session before it
stored a byte since `flash_img_init`: one session that was broken off spoils all later ones. -/
theorem covers_unspoiled_iff (fuel : Nat) (connections : List Connection) {boot node : OtaNode}
    (init : boot.flash.flashImgInit = (0, node.flash)) {done later : List OtaNode} {start : OtaNode}
    (split : sessionStarts fuel node connections = done ++ start :: later) :
    CoversOwnImage fuel start ↔
      (RequestsUpgrade fuel start → ∀ earlier ∈ done, stored (record fuel earlier) = []) := by
  have succeeded : ¬ boot.flash.flashImgInit.1 ≠ 0 := by
    rw [init]
    exact fun differs => differs rfl
  have empty : node.flash.written = [] := by
    rw [← flashImgInit_written succeeded, init]
  rw [covers_iff, written_start fuel connections split, empty, List.nil_append, stored_flatMap,
    List.flatMap_eq_nil_iff]

theorem covers_unspoiled_second : ¬ CoversOwnImage 3 secondStart := by
  have goes : returned firstRun = true := by decide +kernel
  have requests : RequestsUpgrade 3 secondStart :=
    ⟨.upgrade [0xAA, 0xBB] 0, by decide +kernel, [0xAA, 0xBB], 0, rfl⟩
  have spoiled : stored (record 3 (booted.accept (uploadByte 0xAA))) ≠ [] := by decide +kernel
  have split : sessionStarts 3 booted [uploadByte 0xAA, uploadByte 0xBB] =
      [booted.accept (uploadByte 0xAA)] ++ secondStart :: [] := by
    have start : (esphomeOtaRun 3).run (booted.accept (uploadByte 0xAA)) = firstRun := rfl
    rw [sessionStarts, start, secondStart, List.singleton_append]
    cases run : firstRun with
    | ok ret next => exact congrArg _ (sessionStarts_one 3 next (uploadByte 0xBB))
    | error e next =>
      rw [run] at goes
      exact absurd goes Bool.false_ne_true
  have init : booted.flash.flashImgInit = (0, booted.flash) := rfl
  intro covers
  have clean := (covers_unspoiled_iff 3 [uploadByte 0xAA, uploadByte 0xBB] init split).mp
    covers requests
  exact spoiled (clean _ List.mem_cons_self)

abbrev sizing : Guarantee OtaNode := .always (Guarantee.Same fun node => node.flash.capacity)

theorem calls_size : KeepsCalls sizing where
  recv _ := keeps_modifyGet fun _ => rfl
  send _ := keeps_modifyGet fun _ => rfl
  write buf flush := by
    apply keeps_modifyGet
    intro s
    show (s.flash.flashImgBufferedWrite buf).2.capacity = s.flash.capacity
    unfold FlashImg.flashImgBufferedWrite
    dsimp only
    split
    · rfl
    · split
      · rfl
      · rfl
  boot := keeps_modifyGet fun _ => rfl

section Ends

variable {fuel : Nat}

theorem run_ends (ample : 2 ^ 32 ≤ fuel) {s : OtaNode} (small : s.flash.capacity < 2 ^ 31) :
    (∃ ret t, (esphomeOtaRun fuel).run s = .ok ret t ∧ t.flash.capacity < 2 ^ 31) ∨
      ∃ t, (esphomeOtaRun fuel).run s = .error .reboot t := by
  have same := (esphomeOtaRun_keeps calls_size fuel).final s
  obtain ⟨left, t, loaded⟩ := download_ends ample small
  have ends : (∃ ret u, (esphomeOtaRun fuel).run s = .ok ret u) ∨
      ∃ u, (esphomeOtaRun fuel).run s = .error .reboot u := by
    rw [esphomeOtaRun, run_bind_ok _ loaded]
    cases left with
    | some ret => exact Or.inl ⟨ret, t, rfl⟩
    | none => exact (commit_record t).2
  rcases ends with ⟨ret, u, returned⟩ | rebooted
  · rw [returned] at same
    exact Or.inl ⟨ret, u, returned, Nat.lt_of_le_of_lt (Nat.le_of_eq same) small⟩
  · exact Or.inr rebooted

theorem serve_ends (ample : 2 ^ 32 ≤ fuel) (connections : List Connection) : ∀ {node : OtaNode},
    node.flash.capacity < 2 ^ 31 →
    (∃ t, (serve fuel connections).run node = .ok () t ∧
      (sessionStarts fuel node connections).length = connections.length) ∨
    ∃ t, (serve fuel connections).run node = .error .reboot t := by
  induction connections with
  | nil => exact fun {node} _ => Or.inl ⟨node, rfl, rfl⟩
  | cons connection connections ih =>
    intro node small
    have start : (serve fuel (connection :: connections)).run node =
        (esphomeOtaRun fuel >>= fun _ => serve fuel connections).run (node.accept connection) := rfl
    rw [start]
    rcases @run_ends fuel ample (node.accept connection) small with ⟨ret, t, run, small'⟩ | ⟨t, run⟩
    · rw [run_bind_ok _ run]
      rcases ih small' with ⟨u, later, all⟩ | rebooted
      · refine Or.inl ⟨u, later, ?_⟩
        unfold sessionStarts
        rw [run, List.length_cons, List.length_cons]
        exact congrArg Nat.succ all
      · exact Or.inr rebooted
    · exact Or.inr ⟨t, run_bind_error _ run⟩

/-- With a slot of less than 2 GiB no client can hang the service, whatever it sends before it closes
and whichever calls fail: each connection gets its session, one after the other, until one of them
reboots. -/
theorem service_ends (ample : 2 ^ 32 ≤ fuel) (connections : List Connection) {boot : OtaNode}
    (small : boot.flash.capacity < 2 ^ 31) (succeeded : ¬ boot.flash.flashImgInit.1 ≠ 0) :
    (∃ t, (esphomeOtaService fuel connections).run boot = .ok 0 t ∧
      (sessionStarts fuel (started boot) connections).length = connections.length) ∨
    ∃ t, (esphomeOtaService fuel connections).run boot = .error .reboot t := by
  have small' : (started boot).flash.capacity < 2 ^ 31 := by
    rw [started, flashImgInit_capacity]
    exact small
  rw [run_service_started fuel connections succeeded]
  rcases serve_ends ample connections small' with ⟨t, run, all⟩ | ⟨t, run⟩
  · refine Or.inl ⟨t, ?_, all⟩
    rw [run_bind_ok _ run]
    rfl
  · exact Or.inr ⟨t, run_bind_error _ run⟩

end Ends

theorem service_ends_uploads : ∃ result, (esphomeOtaService (2 ^ 32)
    [uploadByte 0xAA, uploadByte 0xBB]).run booted = result ∧ ∀ t, result ≠ .error .unfinished t := by
  refine ⟨_, rfl, ?_⟩
  intro t hangs
  rcases service_ends (Nat.le_refl _) [uploadByte 0xAA, uploadByte 0xBB]
    (show booted.flash.capacity < 2 ^ 31 by decide) (show ¬ booted.flash.flashImgInit.1 ≠ 0 by decide)
    with ⟨u, returned, -⟩ | ⟨u, rebooted⟩
  · rw [returned] at hangs
    cases hangs
  · rw [rebooted] at hangs
    cases hangs

end ZephyrEsphome.Ota.Slot
