/- Digest: Which requests leave the heap as they found it. -/

import ZephyrEsphome.Rpc.Handling
import ZephyrEsphome.Rpc.Reading
import ZephyrEsphome.Rpc.Turns

set_option autoImplicit false
set_option relaxedAutoImplicit false

namespace ZephyrEsphome.Rpc.PayloadBlocks

open Kernel
open Library.Exec
open Library.Resources (acquire acquire_ne release_acquire)
open Handling Reading Writing

def blocks (s : Node) : Finset Block := s.heap.outstanding

abbrev balanced : Guarantee Node := .returning (Guarantee.Same blocks)

theorem outstanding_refused {heap : Heap} (refused : heap.Refuses) (size : Nat) :
    (heap.kMalloc size).2.outstanding = heap.outstanding := by
  rw [Heap.kMalloc, if_pos refused]
  rfl

theorem outstanding_granted {heap : Heap} (granted : ¬ heap.Refuses) (size : Nat) :
    (heap.kMalloc size).2.outstanding = (acquire heap.ledger size).outstanding := by
  rw [Heap.kMalloc, if_neg granted]
  rfl

theorem balanced_packedWrite (message : Outgoing) (payload : Payload) :
    Keeps balanced (packedWrite message payload) := by
  apply keeps_packedWrite
  · intro s _
    rfl
  · intro s bytes granted
    show ((s.heap.kMalloc bytes.length).2.kFree _).outstanding = s.heap.outstanding
    rw [Heap.kMalloc, if_neg granted]
    exact release_acquire s.heap.ledger bytes.length
  · intro s size _
    trivial

theorem balanced_emptyWrite (message : Outgoing) : Keeps balanced (emptyWrite message) :=
  keeps_emptyWrite fun _ _ => rfl

theorem balanced_device (dev : Device) : KeepsDevice balanced dev :=
  keeps_device (fun _ _ _ => rfl) (fun _ _ => rfl) (fun _ _ => rfl) (fun _ _ => rfl)
    (fun _ _ => trivial) (fun _ _ => trivial)

theorem balanced_dispatch (pb : Protobuf) (msgId : UInt32) (data : List UInt8) :
    Keeps balanced (dispatch pb msgId data) := by
  apply keeps_dispatch
  intro type msg _
  exact keeps_callback (fun message => balanced_packedWrite message _) balanced_emptyWrite
    balanced_device type msg

theorem balanced_sample (pb : Protobuf) (entity : Entity) :
    Keeps balanced (Api.esphomeSensorSendState pb entity) := by
  apply keeps_bind
  · exact keeps_sensorRead (fun _ _ => rfl) (fun _ _ => rfl) (fun _ _ => trivial)
      (fun _ _ => trivial) entity.dev
  · intro read
    exact keeps_bind (balanced_packedWrite _ _) fun _ => keeps_pure _

theorem blocks_of_run {α : Type} {m : Exec Node α} (keeps : Keeps balanced m) {s t : Node} {a : α}
    (run : m.run s = .ok a t) : blocks t = blocks s := by
  have kept := keeps.run s
  rw [run] at kept
  exact kept

/-- The header on the stream is rejected or declares no payload, or the payload's block is
refused. -/
def TakesNoBlock (fuel : Nat) (s : Node) : Prop :=
  ∀ msgId len rx, (esphomeReadHeader fuel).run s.rx = .ok (.ok (msgId, len)) rx →
    len = 0 ∨ s.heap.Refuses

theorem run_onRx_inv {α : Type} {m : Exec Receiver α} {s t : Node} {a : α}
    (run : (onRx m).run s = .ok a t) : ∃ rx, m.run s.rx = .ok a rx ∧ t = { s with rx := rx } := by
  cases h : m.run s.rx with
  | ok b rx =>
    rw [run_onRx_ok h] at run
    obtain ⟨rfl, rfl⟩ := EStateM.Result.ok.inj run
    exact ⟨rx, rfl, rfl⟩
  | error e rx =>
    rw [run_onRx_error h] at run
    exact absurd run nofun

theorem receiveMessage_blocks {fuel : Nat} {s t : Node} {outcome : Except Int (UInt32 × List UInt8)}
    (run : (receiveMessage fuel).run s = .ok outcome t) :
    blocks t = blocks s ↔ TakesNoBlock fuel s := by
  obtain ⟨head, u, header, run⟩ := run_bind_inv run
  obtain ⟨rx, headerRun, rfl⟩ := run_onRx_inv header
  unfold TakesNoBlock
  rw [headerRun]
  cases head with
  | error ret =>
    obtain ⟨-, rfl⟩ := run_pure_inv run
    exact ⟨fun _ _ _ _ same => absurd same nofun, fun _ => rfl⟩
  | ok numbers =>
    obtain ⟨msgId, len⟩ := numbers
    have condition : (∀ msgId' len' rx', EStateM.Result.ok (Except.ok (msgId, len)) rx =
          (.ok (.ok (msgId', len')) rx' : EStateM.Result Stop Receiver (Except Int _)) →
        len' = 0 ∨ s.heap.Refuses) ↔ len = 0 ∨ s.heap.Refuses := by
      constructor
      · intro all
        exact all msgId len rx rfl
      · intro here msgId' len' rx' same
        obtain ⟨same, -⟩ := EStateM.Result.ok.inj same
        obtain ⟨-, rfl⟩ := Prod.mk.inj (Except.ok.inj same)
        exact here
    rw [condition]
    dsimp only at run
    by_cases zero : len = 0
    · rw [if_pos zero] at run
      obtain ⟨-, rfl⟩ := run_pure_inv run
      exact ⟨fun _ => Or.inl zero, fun _ => rfl⟩
    · rw [if_neg zero] at run
      obtain ⟨block, v, heap, run⟩ := run_bind_inv run
      rw [run_kMalloc] at heap
      obtain ⟨block_eq, rfl⟩ := EStateM.Result.ok.inj heap
      by_cases refused : s.heap.Refuses
      · have none : block = none := by
          rw [← block_eq, Heap.kMalloc, if_pos refused]
        subst none
        obtain ⟨-, rfl⟩ := run_pure_inv run
        exact ⟨fun _ => Or.inr refused, fun _ => outstanding_refused refused len.toNat⟩
      · have kept : blocks t = (acquire s.heap.ledger len.toNat).outstanding := by
          rw [← outstanding_granted refused]
          cases block with
          | none =>
            obtain ⟨-, rfl⟩ := run_pure_inv run
            rfl
          | some block =>
            obtain ⟨node, w, got, run⟩ := run_bind_inv run
            rw [run_get] at got
            obtain ⟨rfl, rfl⟩ := EStateM.Result.ok.inj got
            obtain ⟨⟨ret, bytes⟩, w, recv, run⟩ := run_bind_inv run
            obtain ⟨rx', -, rfl⟩ := run_onRx_inv recv
            dsimp only at run
            split at run
            · obtain ⟨-, rfl⟩ := run_pure_inv run
              rfl
            · obtain ⟨-, rfl⟩ := run_pure_inv run
              rfl
        constructor
        · intro same
          exact absurd (kept.symm.trans same) (acquire_ne s.heap.ledger len.toNat)
        · rintro (empty | refuses)
          · exact absurd empty zero
          · exact absurd refuses refused

theorem readRequest_blocks {pb : Protobuf} {fuel : Nat} {s t : Node} {ret : Int}
    (run : (esphomeReadRequest pb fuel).run s = .ok ret t) :
    blocks t = blocks s ↔ TakesNoBlock fuel s := by
  obtain ⟨outcome, u, received, run⟩ := run_bind_inv run
  rw [← receiveMessage_blocks received]
  cases outcome with
  | error ret =>
    obtain ⟨-, rfl⟩ := run_pure_inv run
    rfl
  | ok message =>
    rw [blocks_of_run (balanced_dispatch pb message.1 message.2) run]

/-- If the step is a request that returns, the same blocks are outstanding after it. -/
def Balanced (step : Step) : Prop :=
  step.turn = .request → ∀ t, step.result = .ok () t → blocks t = blocks step.before

section Runs

variable (pb : Protobuf) (fuel : Nat)

theorem balanced_step_iff {step : Step} (run : step.result = (step.turn.run pb fuel).run step.before)
    {t : Node} (request : step.turn = .request) (returned : step.result = .ok () t) :
    blocks t = blocks step.before ↔ TakesNoBlock fuel step.before := by
  rw [run, request] at returned
  obtain ⟨ret, u, first, finish⟩ := run_bind_inv returned
  obtain ⟨-, rfl⟩ := run_pure_inv finish
  exact readRequest_blocks first

theorem blocks_of_balanced (turns : List Turn) (s : Node)
    (balanced : ∀ step ∈ steps pb fuel turns s, Balanced step) :
    ∀ step ∈ steps pb fuel turns s, blocks step.before = blocks s := by
  apply steps_invariant pb fuel turns s (I := fun t => blocks t = blocks s) rfl
  intro step member before t returned
  obtain ⟨-, run⟩ := steps_made pb fuel turns s step member
  rw [← before]
  cases turn : step.turn with
  | request => exact balanced step member turn t returned
  | sample entity =>
    rw [run, turn] at returned
    exact blocks_of_run (balanced_sample pb entity) returned
  | accept connection =>
    rw [run, turn] at returned
    obtain ⟨-, rfl⟩ := EStateM.Result.ok.inj returned
    rfl

/-- In every run the requests that return are balanced exactly when none of them takes a block for
its payload, and then no step starts with less free space than the run did. -/
theorem heap_balanced_iff (capacity : Nat) (turns : List Turn) (s : Node) :
    ((∀ step ∈ steps pb fuel turns s, Balanced step) ↔
      ∀ step ∈ steps pb fuel turns s, step.turn = .request → (∃ t, step.result = .ok () t) →
        TakesNoBlock fuel step.before) ∧
    ((∀ step ∈ steps pb fuel turns s, Balanced step) →
      ∀ step ∈ steps pb fuel turns s,
        s.heap.free capacity ≤ step.before.heap.free capacity) := by
  constructor
  · constructor
    · rintro balanced step member request ⟨t, returned⟩
      obtain ⟨-, run⟩ := steps_made pb fuel turns s step member
      exact (balanced_step_iff pb fuel run request returned).mp
        (balanced step member request t returned)
    · intro condition step member request t returned
      obtain ⟨-, run⟩ := steps_made pb fuel turns s step member
      exact (balanced_step_iff pb fuel run request returned).mpr
        (condition step member request ⟨t, returned⟩)
  · intro balanced step member
    have same : step.before.heap.ledger.outstanding = s.heap.ledger.outstanding :=
      blocks_of_balanced pb fuel turns s balanced step member
    unfold Heap.free Library.Resources.weight
    rw [same]

end Runs

def unknownRequest : Node := freshNode none [] (header 127 1 ++ [0x55])

/-- A request is rejected after its payload was received, and the payload's block stays outstanding. -/
theorem payload_block_leaks :
    ¬ ∀ (pb : Protobuf) (fuel : Nat) (s t : Node) (ret : Int),
      (esphomeReadRequest pb fuel).run s = .ok ret t → blocks t = blocks s := by
  intro balanced
  have arrives : Arrives unknownRequest 127 [0x55] [] _ :=
    ⟨header 127 1, 1, isHeader_header 127 (by decide), rfl, rfl, fun _ => by decide, rfl⟩
  have received := receiveMessage_arrives rfl arrives 0
  have run : (esphomeReadRequest ⟨fun _ _ _ => none, fun _ => ⟨[], by decide⟩⟩ 1).run
      unknownRequest = .ok (-enotsup) _ := run_bind_ok _ received
  have none := (receiveMessage_blocks received).mp (balanced _ _ _ _ _ run)
  rcases none 127 1 _ (readHeader_accepts rfl rfl (isHeader_header 127 (by decide)) 0) with
    zero | refuses
  · exact absurd zero (by decide)
  · exact absurd refuses (by decide)

end ZephyrEsphome.Rpc.PayloadBlocks
