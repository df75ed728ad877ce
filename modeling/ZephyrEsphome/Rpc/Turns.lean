/- Digest: Runs of the device: requests, sensor readings and new connections in any order. -/

import ZephyrEsphome.Rpc.Service

set_option autoImplicit false
set_option relaxedAutoImplicit false

namespace ZephyrEsphome.Rpc

open Api (esphomeSensorSendState)
open Kernel

inductive Turn
  /-- `esphome_read_request` on the current connection. -/
  | request
  /-- `esphome_sensor_send_state` of one entity. -/
  | sample (entity : Entity)
  /-- `zsock_accept` of a new connection. -/
  | accept (connection : Connection)

structure Step where
  turn : Turn
  before : Node
  result : EStateM.Result Stop Node Unit

section Runs

variable (pb : Protobuf) (fuel : Nat)

def Turn.run : Turn → Exec Node Unit
  | .request => do
    let _ ← esphomeReadRequest pb fuel
  | .sample entity => esphomeSensorSendState pb entity
  | .accept connection => modify (·.accept connection)

def steps : List Turn → Node → List Step
  | [], _ => []
  | turn :: turns, s =>
    ⟨turn, s, (turn.run pb fuel).run s⟩ ::
      match (turn.run pb fuel).run s with
      | .ok _ t => steps turns t
      | .error _ _ => []

theorem steps_invariant {I : Node → Prop} (turns : List Turn) : ∀ s : Node, I s →
    (∀ step ∈ steps pb fuel turns s, I step.before → ∀ t, step.result = .ok () t → I t) →
    ∀ step ∈ steps pb fuel turns s, I step.before := by
  induction turns with
  | nil =>
    intro s _ _ step member
    exact absurd member List.not_mem_nil
  | cons turn turns ih =>
    intro s inv kept step member
    unfold steps at member kept
    rcases List.mem_cons.mp member with rfl | later
    · exact inv
    · cases run : (turn.run pb fuel).run s with
      | ok ret t =>
        rw [run] at later kept
        have next : I t := kept _ List.mem_cons_self inv t rfl
        exact ih t next (fun other among => kept other (List.mem_cons_of_mem _ among)) step later
      | error e t =>
        rw [run] at later
        exact absurd later List.not_mem_nil

theorem steps_made (turns : List Turn) : ∀ s : Node, ∀ step ∈ steps pb fuel turns s,
    step.turn ∈ turns ∧ step.result = (step.turn.run pb fuel).run step.before := by
  induction turns with
  | nil =>
    intro s step member
    exact absurd member List.not_mem_nil
  | cons turn turns ih =>
    intro s step member
    unfold steps at member
    rcases List.mem_cons.mp member with rfl | later
    · exact ⟨List.mem_cons_self, rfl⟩
    · cases run : (turn.run pb fuel).run s with
      | ok ret t =>
        rw [run] at later
        obtain ⟨among, result⟩ := ih t step later
        exact ⟨List.mem_cons_of_mem turn among, result⟩
      | error e t =>
        rw [run] at later
        exact absurd later List.not_mem_nil

end Runs

end ZephyrEsphome.Rpc
