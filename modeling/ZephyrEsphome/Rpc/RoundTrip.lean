/- Digest: A stream of frames is read back as the list of messages it was written from. -/

import ZephyrEsphome.Library.Stream
import ZephyrEsphome.Rpc.Reading

set_option autoImplicit false
set_option relaxedAutoImplicit false

namespace ZephyrEsphome.Rpc.RoundTrip

open Kernel
open Library.Exec
open Library.Stream
open Reading Writing

/-- The writer's kernel refuses nothing and takes every frame whole. -/
structure Accepting (s : Node) : Prop where
  allocates : s.heap.refusals = []
  accepts : s.tx.schedule = []

structure Delivering (s : Node) : Prop where
  allocates : s.heap.refusals = []
  delivers : s.rx.schedule = []

theorem not_refuses {heap : Heap} (allocates : heap.refusals = []) : ¬ heap.Refuses := by
  simp [Heap.Refuses, allocates]

theorem refusals_kMalloc {heap : Heap} (allocates : heap.refusals = []) (size : Nat) :
    (heap.kMalloc size).2.refusals = [] := by
  simp [Heap.kMalloc, not_refuses allocates, allocates]

theorem zsockSend_accepts {tx : Transmitter} (accepts : tx.schedule = []) (buf : List UInt8) :
    (tx.zsockSend buf).2 = { tx with accepted := tx.accepted ++ buf } := by
  simp [Transmitter.zsockSend, accepts]

/-- The header and the payload together are shorter than the address space. -/
def Fits (call : WriteCall) : Prop :=
  esphomeHeaderSize call.content.1 (UInt64.ofNat call.content.2.length) +
    call.content.2.length < 2 ^ 32

theorem fits_of_length_le {call : WriteCall} (h : call.content.2.length + 11 < 2 ^ 32) :
    Fits call := by
  have small := call.length_content_lt
  have short := @length_header_le call.content.1 _ small
  have whole := call.length_frame
  rw [WriteCall.frame, frame, List.length_append] at whole
  unfold Fits
  omega

theorem sends_calls :
    Sends Accepting Fits WriteCall.frame (fun s => s.tx.accepted) (0 : Int) WriteCall.run := by
  constructor
  intro call s fits accepting
  have short : call.frame.length < 2 ^ 32 := by
    rw [call.length_frame]
    exact fits
  have granted := not_refuses accepting.allocates
  cases call with
  | packed message payload =>
    refine ⟨_, packedWrite_sends message payload s granted short, ?_, ?_, ?_⟩
    · exact congrArg Transmitter.accepted (zsockSend_accepts accepting.accepts _)
    · exact refusals_kMalloc accepting.allocates _
    · exact (congrArg Transmitter.schedule (zsockSend_accepts accepting.accepts _)).trans
        accepting.accepts
  | empty message =>
    refine ⟨_, emptyWrite_sends message s, ?_, ?_, ?_⟩
    · exact congrArg Transmitter.accepted (zsockSend_accepts accepting.accepts _)
    · exact accepting.allocates
    · exact (congrArg Transmitter.schedule (zsockSend_accepts accepting.accepts _)).trans
        accepting.accepts

theorem reads_messages (fuel : Nat) :
    Reads Delivering (fun message : UInt32 × List UInt8 => message.2.length < 2 ^ 32)
      (fun message => frame message.1 message.2) (fun s => s.rx.incoming)
      (receiveMessage (fuel + 1)) := by
  constructor
  rintro ⟨msgId, payload⟩ rest s small delivering next
  have granted := not_refuses delivering.allocates
  have full : payload.length = (UInt32.ofNat payload.length).toNat := by
    rw [UInt32.toNat_ofNat']
    exact (Nat.mod_eq_of_lt small).symm
  have arrives : Arrives s msgId payload rest _ :=
    ⟨header msgId payload.length, UInt32.ofNat payload.length, isHeader_header msgId small, full,
      by rw [next, frame, List.append_assoc], fun _ => granted, rfl⟩
  refine ⟨_, receiveMessage_arrives delivering.delivers arrives fuel, rfl, ?_, ?_⟩
  · show Heap.refusals (if _ then _ else _) = []
    split
    · exact delivering.allocates
    · exact refusals_kMalloc delivering.allocates _
  · exact delivering.delivers

/-- All calls return 0, and a reader of the bytes they sent gets their messages one by one: each read
takes just its own frame and leaves those of the later messages. -/
def RoundTrips (fuel : Nat) (calls : List WriteCall) (writer : Node) : Prop :=
  ∃ written, (inOrder (calls.map WriteCall.run)).run writer = .ok (calls.map fun _ => 0) written ∧
    written.tx.accepted = calls.flatMap WriteCall.frame ∧
    ∀ reader, Delivering reader → reader.rx.incoming = written.tx.accepted →
      ∀ k ≤ calls.length, ∃ left,
        (readMany (receiveMessage fuel) k).run reader =
          .ok (.ok ((calls.take k).map WriteCall.content)) left ∧
        left.rx.incoming = (calls.drop k).flatMap WriteCall.frame

theorem frames_round_trip {fuel : Nat} (positive : 0 < fuel) {calls : List WriteCall}
    (fits : ∀ call ∈ calls, Fits call) {writer : Node} (accepting : Accepting writer)
    (start : writer.tx.accepted = []) : RoundTrips fuel calls writer := by
  obtain ⟨written, run, stream, -⟩ := sends_calls.many calls writer fits accepting
  rw [start, List.nil_append] at stream
  refine ⟨written, run, stream, ?_⟩
  intro reader delivering arrived k bound
  have frames : ∀ those : List WriteCall, those.flatMap WriteCall.frame =
      (those.map WriteCall.content).flatMap fun message => frame message.1 message.2 := by
    intro those
    rw [List.flatMap_map]
    rfl
  obtain ⟨rounds, rfl⟩ := Nat.exists_eq_add_of_lt positive
  rw [Nat.zero_add]
  have small : ∀ message ∈ calls.map WriteCall.content, message.2.length < 2 ^ 32 := by
    intro message member
    obtain ⟨call, -, rfl⟩ := List.mem_map.mp member
    exact call.length_content_lt
  rw [stream, frames] at arrived
  have early : k ≤ (calls.map WriteCall.content).length := by rwa [List.length_map]
  obtain ⟨left, read, rest⟩ := (reads_messages rounds).prefixes small delivering arrived early
  refine ⟨left, ?_, ?_⟩
  · rw [read, List.map_take]
  · rw [rest, frames, List.map_drop]

theorem frames_round_trip_two :
    ∃ written, (inOrder [packedWrite (.other 300) ⟨[1, 2, 3], by decide⟩,
        emptyWrite .pingResponse]).run (freshNode none [] []) = .ok [0, 0] written ∧
      ∃ left, (readMany (receiveMessage 1) 2).run (freshNode none [] written.tx.accepted) =
          .ok (.ok [(300, [1, 2, 3]), (8, [])]) left ∧
        left.rx.incoming = [] := by
  have fits : ∀ call ∈ [WriteCall.packed (.other 300) ⟨[1, 2, 3], by decide⟩,
      WriteCall.empty .pingResponse], Fits call := by
    intro call member
    apply fits_of_length_le
    rcases List.mem_cons.mp member with rfl | last
    · decide
    · obtain rfl := List.mem_singleton.mp last
      decide
  obtain ⟨written, run, -, reads⟩ :=
    @frames_round_trip 1 Nat.one_pos _ fits (freshNode none [] []) ⟨rfl, rfl⟩ rfl
  obtain ⟨left, read, rest⟩ :=
    reads (freshNode none [] written.tx.accepted) ⟨rfl, rfl⟩ rfl 2 (Nat.le_refl 2)
  exact ⟨written, run, left, read, rest⟩

def zeroPayload (n : Nat) (h : n < 2 ^ 32) : Payload where
  bytes := List.replicate n 0
  length_lt := by rwa [List.length_replicate]

theorem length_zeroPayload (n : Nat) (h : n < 2 ^ 32) : (zeroPayload n h).bytes.length = n :=
  List.length_replicate

theorem exists_huge : ∃ payload : Payload, payload.bytes.length = 2 ^ 32 - 1 :=
  ⟨zeroPayload (2 ^ 32 - 1) (by decide), length_zeroPayload _ _⟩

/-- The frame of 4 GiB less one byte is longer than the address space, and is stored beyond the
block that is allocated for it. -/
theorem huge_frame_lost :
    ¬ ∀ (fuel : Nat) (calls : List WriteCall) (writer : Node), 0 < fuel → Accepting writer →
      writer.tx.accepted = [] → RoundTrips fuel calls writer := by
  intro always
  obtain ⟨payload, length⟩ := exists_huge
  obtain ⟨written, run, -⟩ := always 1 [.packed (.other 1) payload] (freshNode none [] [])
    Nat.one_pos ⟨rfl, rfl⟩ rfl
  have wraps : 2 ^ 32 ≤ (frameOf (.other 1) payload).length := by
    have head := length_header_pos 1 payload.bytes.length
    have whole : (frameOf (.other 1) payload).length =
        (header 1 payload.bytes.length).length + payload.bytes.length :=
      List.length_append
    omega
  have stop := packedWrite_wraps (.other 1) payload (freshNode none [] []) (not_refuses rfl) wraps
  have failed := run_inOrder_stop (m := WriteCall.run (.packed (.other 1) payload)) stop []
  rw [List.map_singleton, failed] at run
  exact absurd run nofun

end ZephyrEsphome.Rpc.RoundTrip
