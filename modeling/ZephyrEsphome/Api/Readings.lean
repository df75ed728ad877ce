/- Digest: Which frames of the sensor thread carry a value that was read. -/

import ZephyrEsphome.Api.SensorSocket

set_option autoImplicit false
set_option relaxedAutoImplicit false

namespace ZephyrEsphome.Api.Readings

open Kernel
open Library.Exec
open Library.Transition
open Rpc
open Rpc.Writing (frameOf packedWrite_refused packedWrite_sends packedWrite_wraps)
open SensorSocket (System Move step sensors esphomeSensorRound run_sensorRead)

structure Sample where
  entity : Entity
  before : Node

section Samples

variable (pb : Protobuf)

def Sample.sent (sample : Sample) : List Event :=
  added Node.events sample.before ((esphomeSensorSendState pb sample.entity).run sample.before)

/-- The read callback of the entity returns `ret`, and stores `state` if anything. -/
def Sample.Reads (sample : Sample) (ret : Int) (state : Option UInt32) : Prop :=
  ∃ t, (sensorRead sample.entity.dev).run sample.before = .ok (ret, state) t

def samples : List Entity → Node → List Sample
  | [], _ => []
  | entity :: later, s =>
    ⟨entity, s⟩ ::
      match (esphomeSensorSendState pb entity).run s with
      | .ok _ t => samples later t
      | .error _ _ => []

structure Sample.Real (sample : Sample) : Prop where
  value : ∀ fd response frame ret, .sent fd (.sensorStateResponse response) frame ret ∈
    sample.sent pb → response.missingState = false →
      response.key = sample.entity.key ∧ sample.Reads 0 (some response.state)
  failure : ∀ failed state, sample.Reads failed state → failed ≠ 0 →
    ∀ fd message frame ret, .sent fd message frame ret ∈ sample.sent pb →
      ∃ response, message = .sensorStateResponse response ∧ response.missingState = true

def RealReadings (s : Node) : Prop :=
  ∀ sample ∈ samples pb (sensors s.entities) s, sample.Real pb

def Sendable (message : Outgoing) (s : Node) : Prop :=
  ¬ s.heap.Refuses ∧ (frameOf message (pb.pack message)).length < 2 ^ 32

def Sample.Covered (sample : Sample) : Prop :=
  ∀ failed state, sample.Reads failed state → failed ≠ 0 →
    ¬ Sendable pb (.sensorStateResponse ⟨sample.entity.key, 0, false⟩) sample.before

def CoveredReadings (s : Node) : Prop :=
  ∀ sample ∈ samples pb (sensors s.entities) s, sample.Covered pb

end Samples

section Rounds

variable (pb : Protobuf)

theorem round_sent (entities : List Entity) : ∀ s : Node,
    (final ((forM entities (esphomeSensorSendState pb) : Exec Node Unit).run s)).events =
      s.events ++ (samples pb entities s).flatMap (Sample.sent pb) := by
  induction entities with
  | nil =>
    intro s
    exact (List.append_nil _).symm
  | cons entity entities ih =>
    intro s
    obtain ⟨-, new, grown, -⟩ := (SensorSocket.aimed_sendState s.socket pb entity).final s rfl
    have first : Sample.sent pb ⟨entity, s⟩ = new := by
      rw [Sample.sent, added, grown, List.drop_left]
    rw [List.forM_cons]
    cases run : (esphomeSensorSendState pb entity).run s with
    | ok u t =>
      rw [run, final_ok] at grown
      rw [run_bind_ok _ run, ih t, samples, run, List.flatMap_cons, first, grown,
        List.append_assoc]
    | error e t =>
      rw [run] at grown
      rw [run_bind_error _ run, samples, run, List.flatMap_cons, first, List.flatMap_nil,
        List.append_nil]
      exact grown

theorem samples_sensor (entities : List Entity) : ∀ s : Node,
    (∀ entity ∈ entities, entity.dev.kind = .sensor) →
    ∀ sample ∈ samples pb entities s, sample.entity.dev.kind = .sensor := by
  induction entities with
  | nil =>
    intro s _ sample member
    exact absurd member List.not_mem_nil
  | cons entity entities ih =>
    intro s all sample member
    rw [samples] at member
    rcases List.mem_cons.mp member with rfl | member
    · exact all entity List.mem_cons_self
    · cases run : (esphomeSensorSendState pb entity).run s with
      | ok u t =>
        rw [run] at member
        exact ih t (fun other rest => all other (List.mem_cons_of_mem entity rest)) sample member
      | error e t =>
        rw [run] at member
        exact absurd member List.not_mem_nil

theorem run_sample {sample : Sample} (sensor : sample.entity.dev.kind = .sensor) :
    ∃ ret state, sample.Reads ret state ∧ (ret = 0 ↔ state.isSome) ∧
      (¬ Sendable pb (.sensorStateResponse ⟨sample.entity.key, state.getD 0, false⟩)
        sample.before → sample.sent pb = []) ∧
      (Sendable pb (.sensorStateResponse ⟨sample.entity.key, state.getD 0, false⟩)
        sample.before → ∃ fd frame ret', sample.sent pb =
          [.sent fd (.sensorStateResponse ⟨sample.entity.key, state.getD 0, false⟩) frame
            ret']) := by
  obtain ⟨ret, state, u, reading, stored, heap, events⟩ := run_sensorRead sensor sample.before
  refine ⟨ret, state, ⟨u, reading⟩, stored, ?_⟩
  generalize same : Outgoing.sensorStateResponse ⟨sample.entity.key, state.getD 0, false⟩ = message
  have start : (esphomeSensorSendState pb sample.entity).run sample.before =
      (do let _ ← packedWrite message (pb.pack message) : Exec Node Unit).run u := by
    rw [esphomeSensorSendState, run_bind_ok _ reading, ← same]
    rfl
  have sent : sample.sent pb =
      added Node.events u ((packedWrite message (pb.pack message)).run u) := by
    rw [Sample.sent, start, added, added, final_ignored, events]
  rw [sent]
  by_cases refused : u.heap.Refuses
  · have refused' : sample.before.heap.Refuses := by rwa [← heap]
    rw [packedWrite_refused _ _ _ refused]
    constructor
    · intro _
      exact List.drop_length
    · rintro ⟨granted, -⟩
      exact absurd refused' granted
  · have granted : ¬ sample.before.heap.Refuses := by rwa [← heap]
    by_cases fits : (frameOf message (pb.pack message)).length < 2 ^ 32
    · rw [packedWrite_sends _ _ _ refused fits]
      constructor
      · intro unsendable
        exact absurd ⟨granted, fits⟩ unsendable
      · intro _
        exact ⟨u.socket, frameOf message (pb.pack message),
          (u.tx.zsockSend (frameOf message (pb.pack message))).1, List.drop_left⟩
    · rw [packedWrite_wraps _ _ _ refused (Nat.not_lt.mp fits)]
      constructor
      · intro _
        exact List.drop_length
      · rintro ⟨-, fits'⟩
        exact absurd fits' fits

theorem reads_unique {sample : Sample} {ret ret' : Int} {state state' : Option UInt32}
    (reads : sample.Reads ret state) (reads' : sample.Reads ret' state') :
    ret = ret' ∧ state = state' := by
  obtain ⟨t, run⟩ := reads
  obtain ⟨t', run'⟩ := reads'
  rw [run] at run'
  exact Prod.mk.inj (EStateM.Result.ok.inj run').1

theorem real_iff {sample : Sample} (sensor : sample.entity.dev.kind = .sensor) :
    sample.Real pb ↔ sample.Covered pb := by
  obtain ⟨ret, state, reads, stored, silent, sends⟩ := run_sample pb sensor
  constructor
  · intro real failed state' reads' nonzero sendable
    obtain ⟨rfl, rfl⟩ := reads_unique reads reads'
    have none : state = none := by
      cases state with
      | none => rfl
      | some value => exact absurd (stored.mpr rfl) nonzero
    subst none
    obtain ⟨fd, frame, ret', sent⟩ := sends sendable
    obtain ⟨response, same, missing⟩ := real.failure ret none reads nonzero fd _ frame ret' (by
      rw [sent]
      exact List.mem_singleton_self _)
    cases same
    cases missing
  · intro covered
    by_cases zero : ret = 0
    · subst zero
      obtain ⟨value, rfl⟩ := Option.isSome_iff_exists.mp (stored.mp rfl)
      constructor
      · intro fd response frame ret' member _
        by_cases sendable : Sendable pb (.sensorStateResponse
            ⟨sample.entity.key, (some value).getD 0, false⟩) sample.before
        · obtain ⟨fd', frame', ret'', sent⟩ := sends sendable
          rw [sent] at member
          cases List.mem_singleton.mp member
          exact ⟨rfl, reads⟩
        · rw [silent sendable] at member
          exact absurd member List.not_mem_nil
      · intro failed state' reads' nonzero
        exact absurd (reads_unique reads reads').1.symm nonzero
    · have none : state = none := by
        cases state with
        | none => rfl
        | some value => exact absurd (stored.mpr rfl) zero
      subst none
      have nothing := silent (covered ret none reads zero)
      constructor
      · intro fd response frame ret' member _
        rw [nothing] at member
        exact absurd member List.not_mem_nil
      · intro failed state' _ _ fd message frame ret' member
        rw [nothing] at member
        exact absurd member List.not_mem_nil

theorem realReadings_iff (s : Node) : RealReadings pb s ↔ CoveredReadings pb s := by
  have sensor := samples_sensor pb (sensors s.entities) s fun entity member =>
    of_decide_eq_true (List.mem_filter.mp member).2
  constructor
  · intro real sample member
    exact (real_iff pb (sensor sample member)).mp (real sample member)
  · intro covered sample member
    exact (real_iff pb (sensor sample member)).mpr (covered sample member)

/-- In a run of the threads all frames of the sensor thread carry readings exactly when in every
tick each sensor whose reading fails gets no block for a frame of that length. -/
theorem readings_real_iff (fuel : Nat) (start : System) (moves : List Move) :
    (AtEach (step pb fuel) moves start fun s move => move = .tick → RealReadings pb s.node) ↔
      AtEach (step pb fuel) moves start fun s move =>
        move = .tick → CoveredReadings pb s.node := by
  constructor
  · intro real s move taken tick
    exact (realReadings_iff pb s.node).mp (real s move taken tick)
  · intro covered s move taken tick
    exact (realReadings_iff pb s.node).mpr (covered s move taken tick)

end Rounds

def unfetched : System :=
  { SensorSocket.booted with
    node := { freshNode none [Kinds.namesake .sensorTemperature] [] with
      sensorTemperature := fun _ => { fetches := [-eio], readings := [] } } }

theorem zero_for_failed_reading : ¬ ∀ (pb : Protobuf) (fuel : Nat) (start : System)
    (moves : List Move), AtEach (step pb fuel) moves start fun s move =>
      move = .tick → RealReadings pb s.node := by
  intro always
  have real := always Release.silent 0 unfetched [.tick] unfetched .tick ⟨[], [], rfl, rfl⟩ rfl
  have sample := real ⟨Kinds.namesake .sensorTemperature, unfetched.node⟩ List.mem_cons_self
  have covered := (real_iff Release.silent rfl).mp sample
  exact covered (-eio) none ⟨_, rfl⟩ (by decide) ⟨by decide, Release.silent_small _⟩

end ZephyrEsphome.Api.Readings
