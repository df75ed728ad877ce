/- Digest: What the peer can read of a connection on which both threads send. -/

import ZephyrEsphome.Api.Kinds
import ZephyrEsphome.Rpc.Conversation
import ZephyrEsphome.Rpc.RoundTrip
import ZephyrEsphome.Rpc.Turns

set_option autoImplicit false
set_option relaxedAutoImplicit false

namespace ZephyrEsphome.Rpc.Wire

open Api.Kinds (namesake)
open Kernel
open Library.Exec
open Library.Stream
open Conversation Handling RoundTrip Writing

def announced : Event → Option (UInt32 × List UInt8)
  | .sent _ message frame _ => some (message.rpcId, frame)
  | _ => none

def framed (message : Message) : UInt32 × List UInt8 :=
  (message.1, frame message.1 message.2)

def Carries (s t : Node) : Prop :=
  s.tx.schedule = [] → t.tx.schedule = [] ∧ ∃ new messages,
    t.events = s.events ++ new ∧ new.filterMap announced = messages.map framed ∧
    (∀ message ∈ messages, message.2.length < 2 ^ 32) ∧
    t.tx.accepted = s.tx.accepted ++ frames messages

theorem carries_quiet {s t : Node} {new : List Event} (events : t.events = s.events ++ new)
    (quiet : new.filterMap announced = []) (same : t.tx = s.tx) : Carries s t := by
  intro plain
  refine ⟨by rw [same, plain], new, [], events, quiet, nofun, ?_⟩
  rw [same]
  exact (List.append_nil _).symm

theorem carries_same {s t : Node} (events : t.events = s.events) (same : t.tx = s.tx) :
    Carries s t :=
  carries_quiet (events.trans (List.append_nil _).symm) rfl same

theorem carries_sending {s t : Node} {message : Outgoing} {payload : List UInt8}
    (small : payload.length < 2 ^ 32)
    (events : t.events = (sending message s (frame message.rpcId payload)).events)
    (same : t.tx = (sending message s (frame message.rpcId payload)).tx) : Carries s t := by
  intro plain
  have accepts := zsockSend_accepts plain (frame message.rpcId payload)
  refine ⟨?_, [_], [(message.rpcId, payload)], events, rfl, ?_, ?_⟩
  · rw [same, sending, accepts, plain]
  · intro other member
    obtain rfl := List.mem_singleton.mp member
    exact small
  · rw [same, sending, accepts, frames, List.flatMap_singleton]

instance isPreorder_carries : IsPreorder Node Carries where
  refl _ := carries_same rfl rfl
  trans s t u := by
    intro first second plain
    obtain ⟨plain', new, messages, events, announces, small, accepted⟩ := first plain
    obtain ⟨plain'', new', messages', events', announces', small', accepted'⟩ := second plain'
    refine ⟨plain'', new ++ new', messages ++ messages', ?_, ?_, ?_, ?_⟩
    · rw [events', events, List.append_assoc]
    · rw [List.filterMap_append, announces, announces', List.map_append]
    · intro message member
      rcases List.mem_append.mp member with early | late
      · exact small message early
      · exact small' message late
    · rw [accepted', accepted, frames, frames, frames, List.flatMap_append, List.append_assoc]

abbrev carrying : Guarantee Node := .always Carries

theorem carries_packedWrite (message : Outgoing) (payload : Payload) :
    Keeps carrying (packedWrite message payload) := by
  constructor
  intro s
  by_cases refuses : s.heap.Refuses
  · rw [packedWrite_refused message payload s refuses]
    exact carries_same rfl rfl
  · by_cases fits : (frameOf message payload).length < 2 ^ 32
    · rw [packedWrite_sends message payload s refuses fits]
      exact carries_sending payload.length_lt rfl rfl
    · rw [packedWrite_wraps message payload s refuses (Nat.le_of_not_lt fits)]
      exact carries_same rfl rfl

theorem carries_emptyWrite (message : Outgoing) : Keeps carrying (emptyWrite message) := by
  constructor
  intro s
  rw [emptyWrite_sends]
  exact @carries_sending _ _ message [] (Nat.two_pow_pos 32) rfl rfl

theorem carries_device (dev : Device) : KeepsDevice carrying dev := by
  apply keeps_device
  · intro s event callee
    refine @carries_quiet s { s with events := s.events ++ [event] } [event] rfl ?_ rfl
    cases event with
    | sent socket message frame ret => exact absurd callee nofun
    | setState dev state => rfl
    | getState dev => rfl
    | onPress dev => rfl
    | closed socket => rfl
  all_goals
    intro s devices
    exact carries_same rfl rfl

theorem carries_request (pb : Protobuf) (fuel : Nat) :
    Keeps carrying (esphomeReadRequest pb fuel) := by
  apply keeps_bind
  · exact keeps_receiveMessage (fun _ _ => carries_same rfl rfl) (fun _ _ => carries_same rfl rfl)
      (fun _ _ => carries_same rfl rfl) fuel
  · rintro (ret | ⟨msgId, data⟩)
    · exact keeps_pure _
    · apply keeps_dispatch
      intro type msg _
      exact keeps_callback (fun message => carries_packedWrite message _) carries_emptyWrite
        carries_device type msg

theorem carries_sample (pb : Protobuf) (entity : Entity) :
    Keeps carrying (Api.esphomeSensorSendState pb entity) := by
  apply keeps_bind
  · exact keeps_sensorRead (fun _ _ => carries_same rfl rfl) (fun _ _ => carries_same rfl rfl)
      (fun _ _ => carries_same rfl rfl) (fun _ _ => carries_same rfl rfl) entity.dev
  · intro read
    exact keeps_bind (carries_packedWrite _ _) fun _ => keeps_pure _

/-- Whoever reads the bytes of the connection gets the messages that were sent on it since `s`, one
after the other, and nothing is left. -/
def PeerReads (s t : Node) : Prop :=
  ∃ messages, (t.events.drop s.events.length).filterMap announced = messages.map framed ∧
    ∀ reader, Delivering reader → reader.rx.incoming = t.tx.accepted →
      ∀ rounds, ∃ left, (readMany (receiveMessage (rounds + 1)) messages.length).run reader =
          .ok (.ok messages) left ∧ left.rx.incoming = []

theorem peerReads_of_carries {s t : Node} (plain : s.tx.schedule = []) (start : s.tx.accepted = [])
    (carries : Carries s t) : PeerReads s t := by
  obtain ⟨-, new, messages, events, announces, small, accepted⟩ := carries plain
  refine ⟨messages, ?_, ?_⟩
  · rw [events, List.drop_left, announces]
  · intro reader delivering arrived rounds
    rw [accepted, start, List.nil_append, ← List.append_nil (frames messages)] at arrived
    obtain ⟨left, read, rest, -⟩ :=
      (reads_messages rounds).many messages [] reader small delivering arrived
    exact ⟨left, read, rest⟩

section Runs

variable (pb : Protobuf) (fuel : Nat)

theorem carries_turn {turn : Turn} (same : ∀ connection, turn ≠ .accept connection) :
    Keeps carrying (turn.run pb fuel) := by
  cases turn with
  | request => exact keeps_bind (carries_request pb fuel) fun _ => keeps_pure _
  | sample entity => exact carries_sample pb entity
  | accept connection => exact absurd rfl (same connection)

/-- On one connection, however the answers to requests and the readings of sensors follow each other:
the peer can cut the bytes it got into just the messages that were sent, in their order, and there is
nothing between them and nothing behind the last one. -/
theorem peer_reads_sent {turns : List Turn} {s : Node} (plain : s.tx.schedule = [])
    (start : s.tx.accepted = []) (same : ∀ turn ∈ turns, ∀ connection, turn ≠ .accept connection)
    {step : Step} (member : step ∈ steps pb fuel turns s) : PeerReads s step.before := by
  have carries : Carries s step.before := by
    apply steps_invariant pb fuel turns s (I := Carries s) (refl_of Carries s) _ step member
    intro other among inv t returned
    obtain ⟨made, run⟩ := steps_made pb fuel turns s other among
    have kept := (carries_turn pb fuel (same _ made)).final other.before
    rw [← run, returned] at kept
    exact trans_of Carries inv kept
  exact peerReads_of_carries plain start carries

end Runs

def pinged : Node := freshNode none [namesake .sensorTimestamp] (frame 7 [])

def pingedTurns : List Turn := [.request, .sample (namesake .sensorTimestamp), .request]

theorem peer_reads_sent_pong :
    ∃ step ∈ steps Release.silent 1 pingedTurns pinged,
      ∃ messages, [(8, frame 8 []), (25, frame 25 [])] = messages.map framed ∧
        ∃ left, (readMany (receiveMessage 1) messages.length).run
            (freshNode none [] step.before.tx.accepted) = .ok (.ok messages) left ∧
          left.rx.incoming = [] := by
  have third : (steps Release.silent 1 pingedTurns pinged)[2]?.map
      (fun step => step.before.events.filterMap announced) =
        some [(8, frame 8 []), (25, frame 25 [])] := by decide +kernel
  obtain ⟨step, here, sent⟩ := Option.map_eq_some_iff.mp third
  have single : ∀ turn ∈ pingedTurns, ∀ connection, turn ≠ .accept connection := by
    rintro turn among connection rfl
    simp [pingedTurns] at among
  have member : step ∈ steps Release.silent 1 pingedTurns pinged := List.mem_of_getElem? here
  obtain ⟨messages, announces, reads⟩ :=
    peer_reads_sent Release.silent 1 rfl rfl single member
  refine ⟨step, member, messages, ?_, reads _ ⟨rfl, rfl⟩ rfl 0⟩
  rw [← announces, ← sent]
  rfl

end ZephyrEsphome.Rpc.Wire
