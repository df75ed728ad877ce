/- Digest: How many bytes of the heap a run of the device has used up. -/

import ZephyrEsphome.Rpc.PayloadBlocks
import ZephyrEsphome.Rpc.Release

set_option autoImplicit false
set_option relaxedAutoImplicit false

namespace ZephyrEsphome.Rpc.HeapUse

open Kernel
open Library.Exec
open Library.Resources (weight weight_acquire)
open PayloadBlocks Reading Writing

def used (s : Node) : Nat := weight id s.heap.ledger

def payloadBlock (fuel : Nat) (s : Node) : Nat :=
  match (esphomeReadHeader fuel).run s.rx with
  | .ok (.ok (_, len)) _ => if s.heap.Refuses then 0 else len.toNat
  | _ => 0

theorem used_of_blocks {s t : Node} (same : blocks t = blocks s) : used t = used s := by
  show ∑ block ∈ blocks t, id block.2 = ∑ block ∈ blocks s, id block.2
  rw [same]

theorem payloadBlock_header {fuel : Nat} {s : Node} {msgId len : UInt32} {rx : Receiver}
    (header : (esphomeReadHeader fuel).run s.rx = .ok (.ok (msgId, len)) rx) :
    payloadBlock fuel s = if s.heap.Refuses then 0 else len.toNat := by
  rw [payloadBlock, header]

theorem payloadBlock_none {fuel : Nat} {s : Node} (none : TakesNoBlock fuel s) :
    payloadBlock fuel s = 0 := by
  unfold payloadBlock
  split
  next msgId len rx header =>
    rcases none msgId len rx header with zero | refuses
    · rw [zero]
      exact ite_self 0
    · exact if_pos refuses
  next => rfl

theorem receiveMessage_granted {fuel : Nat} {s t : Node} {msgId len : UInt32} {rx : Receiver}
    {outcome : Except Int (UInt32 × List UInt8)}
    (header : (esphomeReadHeader fuel).run s.rx = .ok (.ok (msgId, len)) rx) (some : len ≠ 0)
    (run : (receiveMessage fuel).run s = .ok outcome t) : t.heap = (s.heap.kMalloc len.toNat).2 := by
  rw [receiveMessage, run_bind_ok _ (run_onRx_ok header)] at run
  dsimp only at run
  rw [if_neg some, run_bind_ok _ (run_kMalloc _ _)] at run
  dsimp only at run
  generalize (s.heap.kMalloc len.toNat).1 = granted at run
  cases granted with
  | none =>
    obtain ⟨-, rfl⟩ := run_pure_inv run
    rfl
  | some block =>
    obtain ⟨node, u, got, run⟩ := run_bind_inv run
    rw [run_get] at got
    obtain ⟨rfl, rfl⟩ := EStateM.Result.ok.inj got
    obtain ⟨⟨ret, bytes⟩, v, recv, run⟩ := run_bind_inv run
    obtain ⟨rx', -, rfl⟩ := run_onRx_inv recv
    dsimp only at run
    split at run
    · obtain ⟨-, rfl⟩ := run_pure_inv run
      rfl
    · obtain ⟨-, rfl⟩ := run_pure_inv run
      rfl

theorem receiveMessage_used {fuel : Nat} {s t : Node} {outcome : Except Int (UInt32 × List UInt8)}
    (run : (receiveMessage fuel).run s = .ok outcome t) :
    used t = used s + payloadBlock fuel s := by
  by_cases none : TakesNoBlock fuel s
  · rw [payloadBlock_none none]
    exact used_of_blocks ((receiveMessage_blocks run).mpr none)
  · simp only [TakesNoBlock, not_forall, not_or] at none
    obtain ⟨msgId, len, rx, header, more, granted⟩ := none
    rw [payloadBlock_header header, if_neg granted, used, receiveMessage_granted header more run,
      Heap.kMalloc, if_neg granted]
    exact weight_acquire id s.heap.ledger len.toNat

section Runs

variable (pb : Protobuf) (fuel : Nat)

def kept (step : Step) : Nat :=
  match step.turn with
  | .request => payloadBlock fuel step.before
  | .sample _ => 0
  | .accept _ => 0

theorem used_step {step : Step} (run : step.result = (step.turn.run pb fuel).run step.before)
    {t : Node} (returned : step.result = .ok () t) : used t = used step.before + kept fuel step := by
  rw [run] at returned
  unfold kept
  cases turn : step.turn with
  | request =>
    rw [turn] at returned
    obtain ⟨ret, u, request, finish⟩ := run_bind_inv returned
    obtain ⟨-, rfl⟩ := run_pure_inv finish
    obtain ⟨outcome, v, received, rest⟩ := run_bind_inv request
    dsimp only
    rw [← receiveMessage_used received]
    cases outcome with
    | error ret =>
      obtain ⟨-, rfl⟩ := run_pure_inv rest
      rfl
    | ok message =>
      exact used_of_blocks (blocks_of_run (balanced_dispatch pb message.1 message.2) rest)
  | sample entity =>
    rw [turn] at returned
    exact used_of_blocks (blocks_of_run (balanced_sample pb entity) returned)
  | accept connection =>
    rw [turn] at returned
    obtain ⟨-, rfl⟩ := EStateM.Result.ok.inj returned
    rfl

/-- Before any step of any run the heap has lost exactly the payloads of the requests until then:
nothing else keeps a byte, and no byte ever comes back. -/
theorem heap_used (capacity : Nat) (turns : List Turn) : ∀ (s : Node) {done later : List Step}
    {step : Step}, steps pb fuel turns s = done ++ step :: later →
    used step.before = used s + (done.map (kept fuel)).sum ∧
      step.before.heap.free capacity = s.heap.free capacity - (done.map (kept fuel)).sum := by
  intro s done later step split
  have exact_use : used step.before = used s + (done.map (kept fuel)).sum := by
    induction turns generalizing s done with
    | nil => exact absurd split (by simp [steps])
    | cons turn turns ih =>
      unfold steps at split
      cases done with
      | nil =>
        obtain ⟨rfl, -⟩ := List.cons.inj split
        rfl
      | cons first done =>
        obtain ⟨rfl, rest⟩ := List.cons.inj split
        cases run : (turn.run pb fuel).run s with
        | ok ret t =>
          rw [run] at rest
          rw [ih t rest, @used_step pb fuel ⟨turn, s, _⟩ rfl t run, List.map_cons, List.sum_cons,
            Nat.add_assoc]
          rfl
        | error e t =>
          rw [run] at rest
          exact absurd rest (by simp)
  refine ⟨exact_use, ?_⟩
  show capacity - used step.before = capacity - used s - _
  rw [exact_use, Nat.sub_add_eq]

end Runs

theorem heap_used_unknown :
    ∃ step ∈ steps Release.silent 1 [.request, .request] unknownRequest, used step.before = 1 := by
  have whole := isHeader_header 127 (show 1 < 2 ^ 32 by decide)
  have arrives : Arrives unknownRequest 127 [0x55] [] _ :=
    ⟨header 127 1, 1, whole, rfl, rfl, fun _ => by decide, rfl⟩
  obtain ⟨t, run⟩ : ∃ t, (Turn.run Release.silent 1 .request).run unknownRequest = .ok () t :=
    ⟨_, run_bind_ok _ (run_bind_ok _ (receiveMessage_arrives rfl arrives 0))⟩
  obtain ⟨later, split⟩ : ∃ later, steps Release.silent 1 [.request, .request] unknownRequest =
      [⟨.request, unknownRequest, .ok () t⟩] ++
        ⟨.request, t, (Turn.run Release.silent 1 .request).run t⟩ :: later := by
    rw [steps, run]
    exact ⟨_, rfl⟩
  have block : payloadBlock 1 unknownRequest = 1 := by
    rw [payloadBlock_header (readHeader_accepts rfl rfl whole 0)]
    decide
  refine ⟨⟨.request, t, (Turn.run Release.silent 1 .request).run t⟩, ?_, ?_⟩
  · rw [split]
    exact List.mem_cons_of_mem _ List.mem_cons_self
  · have use := (heap_used Release.silent 1 65536 [.request, .request] unknownRequest split).1
    rw [use]
    show 0 + (payloadBlock 1 unknownRequest + 0) = 1
    rw [block]

end ZephyrEsphome.Rpc.HeapUse
