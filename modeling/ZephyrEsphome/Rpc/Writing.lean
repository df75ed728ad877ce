/- Digest: Each Write call sends one whole frame, or nothing, or leaves its buffer's bounds. -/

import ZephyrEsphome.Rpc.Frame

set_option autoImplicit false
set_option relaxedAutoImplicit false

namespace ZephyrEsphome.Rpc.Writing

open Kernel
open Library.Base128 (encode length_encode_pos length_encode_le_five)
open Library.Exec
open Varint (Store storeAt storesAt storesAt_eq varintEncode varintEncode_eq)

theorem storesAt_shift (p : Nat) (bytes : List UInt8) (i : Nat) :
    storesAt (some p) i bytes = storesAt (some 0) (p + i) bytes := by
  rw [storesAt_eq, storesAt_eq, Nat.zero_add]

theorem storesAt_append (out : Option Nat) (first second : List UInt8) : ∀ i : Nat,
    storesAt out i (first ++ second) =
      storesAt out i first ++ storesAt out (i + first.length) second := by
  induction first with
  | nil =>
    intro i
    rfl
  | cons byte first ih =>
    intro i
    simp only [List.cons_append, storesAt, ih (i + 1), List.append_assoc, List.length_cons]
    rw [show i + 1 + first.length = i + (first.length + 1) by omega]

theorem storeAll_storesAt (bytes : List UInt8) : ∀ pre old : List UInt8,
    storeAll (pre ++ old) (storesAt (some 0) pre.length bytes) =
      if bytes.length ≤ old.length then some (pre ++ bytes ++ old.drop bytes.length) else none := by
  induction bytes with
  | nil =>
    intro pre old
    simp [storesAt, storeAll]
  | cons byte bytes ih =>
    intro pre old
    simp only [storesAt, storeAt, storeAll, List.cons_append, List.nil_append, List.foldlM_cons,
      storeByte, Nat.zero_add, List.length_append]
    cases old with
    | nil => simp
    | cons first old =>
      have inside : pre.length < pre.length + (first :: old).length := by
        rw [List.length_cons]
        omega
      have stored : (pre ++ first :: old).set pre.length byte = pre ++ [byte] ++ old := by
        simp
      have rest := ih (pre ++ [byte]) old
      rw [List.length_append, List.length_singleton] at rest
      rw [if_pos inside, stored]
      show storeAll _ _ = _
      rw [rest]
      simp

def header (rpcId : UInt32) (len : Nat) : List UInt8 :=
  0 :: (encode len ++ encode rpcId.toNat)

def frame (rpcId : UInt32) (payload : List UInt8) : List UInt8 :=
  header rpcId payload.length ++ payload

theorem length_header_pos (rpcId : UInt32) (len : Nat) : 0 < (header rpcId len).length :=
  Nat.succ_pos _

theorem length_header_le {rpcId : UInt32} {len : Nat} (h : len < 2 ^ 32) :
    (header rpcId len).length ≤ 11 := by
  have first := length_encode_le_five h
  have second := length_encode_le_five rpcId.toNat_lt
  simp only [header, List.length_cons, List.length_append]
  omega

theorem length_header_empty (rpcId : UInt32) : (header rpcId 0).length ≤ 8 := by
  have small := length_encode_le_five rpcId.toNat_lt
  have first : (encode 0).length = 1 := by rw [Library.Base128.encode_small (by decide)]; rfl
  simp only [header, List.length_cons, List.length_append]
  omega

theorem esphomeHeaderSize_eq (rpcId : UInt32) (len : UInt64) :
    esphomeHeaderSize rpcId len = (header rpcId len.toNat).length := by
  simp only [esphomeHeaderSize, varintEncode_eq, header, List.length_cons, List.length_append,
    UInt32.toNat_toUInt64]
  omega

theorem esphomeEncodeHeader_at (rpcId : UInt32) (len : UInt64) (out : Nat) :
    (esphomeEncodeHeader rpcId len out).2 = storesAt (some out) 0 (header rpcId len.toNat) := by
  simp only [esphomeEncodeHeader, varintEncode_eq, header, storesAt, storesAt_append, storeAt,
    UInt32.toNat_toUInt64]
  rw [storesAt_shift (out + 1), storesAt_shift (out + (1 + _)), storesAt_shift out,
    storesAt_shift out]
  simp

theorem esphomeEncodeHeader_eq (rpcId : UInt32) (len : UInt64) :
    (esphomeEncodeHeader rpcId len 0).2 = storesAt (some 0) 0 (header rpcId len.toNat) :=
  esphomeEncodeHeader_at rpcId len 0

section Calls

variable (message : Outgoing) (payload : Payload) (s : Node)

def frameOf : List UInt8 := frame message.rpcId payload.bytes

def sending (bytes : List UInt8) : Node :=
  { s with
    tx := (s.tx.zsockSend bytes).2
    events := s.events ++ [.sent s.socket message bytes (s.tx.zsockSend bytes).1] }

theorem run_kMalloc (size : Nat) :
    (kMalloc size).run s =
      .ok (s.heap.kMalloc size).1 { s with heap := (s.heap.kMalloc size).2 } := rfl

theorem size_counted :
    (UInt32.ofNat payload.bytes.length).toUInt64.toNat = payload.bytes.length ∧
    (UInt32.ofNat (header message.rpcId payload.bytes.length).length).toNat =
      (header message.rpcId payload.bytes.length).length ∧
    (UInt32.ofNat payload.bytes.length +
        UInt32.ofNat (header message.rpcId payload.bytes.length).length).toNat =
      (frameOf message payload).length % 2 ^ 32 := by
  have bound := payload.length_lt
  have short := @length_header_le message.rpcId _ bound
  have whole : (frameOf message payload).length =
      (header message.rpcId payload.bytes.length).length + payload.bytes.length :=
    List.length_append
  refine ⟨?_, ?_, ?_⟩
  · rw [UInt32.toNat_toUInt64, UInt32.toNat_ofNat']
    exact Nat.mod_eq_of_lt bound
  · rw [UInt32.toNat_ofNat']
    exact Nat.mod_eq_of_lt (by omega)
  · rw [UInt32.toNat_add, UInt32.toNat_ofNat', UInt32.toNat_ofNat', whole]
    omega

theorem length_uninitialised (heap : Heap) (size : Nat) :
    (uninitialised heap size).length = size := by
  simp [uninitialised]

section Filling

variable {α : Type} (refused : Exec Node α) (filled : List UInt8 → Nat → Block → Exec Node α)

/-- The Write function of a message with fields, around what it does once the frame is in its
block. -/
def filling : Exec Node α := do
  let len := UInt32.ofNat payload.bytes.length
  let hdrLen := UInt32.ofNat (esphomeHeaderSize message.rpcId len.toUInt64)
  match ← kMalloc (len + hdrLen).toNat with
  | none => refused
  | some block =>
    let out := uninitialised (← get).heap (len + hdrLen).toNat
    let header := (esphomeEncodeHeader message.rpcId len.toUInt64 0).2
    match storeAll out (header ++ storesAt (some hdrLen.toNat) 0 payload.bytes) with
    | none => throw .undefined
    | some out => filled out (len + hdrLen).toNat block

theorem filling_eq :
    filling message payload refused filled = (do
      match ← kMalloc ((frameOf message payload).length % 2 ^ 32) with
      | none => refused
      | some block =>
        let out := uninitialised (← get).heap ((frameOf message payload).length % 2 ^ 32)
        match storeAll out (storesAt (some 0) 0 (frameOf message payload)) with
        | none => throw .undefined
        | some out => filled out ((frameOf message payload).length % 2 ^ 32) block) := by
  obtain ⟨len, hdrLen, size⟩ := size_counted message payload
  have stores : storesAt (some 0) 0 (frameOf message payload) =
      storesAt (some 0) 0 (header message.rpcId payload.bytes.length) ++
        storesAt (some (header message.rpcId payload.bytes.length).length) 0 payload.bytes := by
    rw [frameOf, frame, storesAt_append, storesAt_shift (List.length _), Nat.add_comm]
  have code := @filling.eq_def message payload α refused filled
  simp only [esphomeHeaderSize_eq, esphomeEncodeHeader_eq, len, hdrLen, size, ← stores] at code
  exact code

theorem filling_refused (refuses : s.heap.Refuses) :
    (filling message payload refused filled).run s =
      refused.run { s with heap := { s.heap with refusals := s.heap.refusals.tail } } := by
  have heap := run_kMalloc s ((frameOf message payload).length % 2 ^ 32)
  rw [Heap.kMalloc, if_pos refuses] at heap
  rw [filling_eq, run_bind_ok _ heap]

theorem filling_fits (granted : ¬ s.heap.Refuses)
    (fits : (frameOf message payload).length < 2 ^ 32) :
    (filling message payload refused filled).run s =
      (filled (frameOf message payload) (frameOf message payload).length
        (s.heap.ledger.next, (frameOf message payload).length)).run
          { s with heap := (s.heap.kMalloc (frameOf message payload).length).2 } := by
  have heap := run_kMalloc s ((frameOf message payload).length % 2 ^ 32)
  have stored : ∀ h : Heap, storeAll (uninitialised h (frameOf message payload).length)
      (storesAt (some 0) 0 (frameOf message payload)) = some (frameOf message payload) := by
    intro h
    have whole := storeAll_storesAt (frameOf message payload) []
      (uninitialised h (frameOf message payload).length)
    rw [length_uninitialised, if_pos (Nat.le_refl _)] at whole
    rw [List.nil_append, List.length_nil] at whole
    rw [whole, List.nil_append, List.drop_eq_nil_of_le (length_uninitialised _ _).le,
      List.append_nil]
  rw [Heap.kMalloc, if_neg granted] at heap
  rw [filling_eq, run_bind_ok _ heap]
  rw [Nat.mod_eq_of_lt fits]
  dsimp only
  rw [run_bind_ok _ (run_get _)]
  dsimp only
  rw [stored, Heap.kMalloc, if_neg granted]

theorem filling_wraps (granted : ¬ s.heap.Refuses)
    (wraps : 2 ^ 32 ≤ (frameOf message payload).length) :
    (filling message payload refused filled).run s = .error .undefined
      { s with heap := (s.heap.kMalloc ((frameOf message payload).length % 2 ^ 32)).2 } := by
  have heap := run_kMalloc s ((frameOf message payload).length % 2 ^ 32)
  have stored : ∀ h : Heap,
      storeAll (uninitialised h ((frameOf message payload).length % 2 ^ 32))
        (storesAt (some 0) 0 (frameOf message payload)) = none := by
    intro h
    have outside := storeAll_storesAt (frameOf message payload) []
      (uninitialised h ((frameOf message payload).length % 2 ^ 32))
    rw [length_uninitialised, if_neg (by omega)] at outside
    exact outside
  rw [Heap.kMalloc, if_neg granted] at heap ⊢
  rw [filling_eq, run_bind_ok _ heap]
  dsimp only
  rw [run_bind_ok _ (run_get _)]
  dsimp only
  rw [stored]
  rfl

end Filling

theorem packedWrite_eq :
    packedWrite message payload =
      filling message payload (pure (-enomem)) fun out len block => do
        let ret ← esphomeRpcSend message out len
        kFree block
        return ret := rfl

theorem packedWrite_refused (refused : s.heap.Refuses) :
    (packedWrite message payload).run s =
      .ok (-enomem) { s with heap := { s.heap with refusals := s.heap.refusals.tail } } := by
  rw [packedWrite_eq, filling_refused message payload s _ _ refused]
  rfl

theorem packedWrite_sends (granted : ¬ s.heap.Refuses)
    (fits : (frameOf message payload).length < 2 ^ 32) :
    (packedWrite message payload).run s =
      .ok 0 { sending message s (frameOf message payload) with
        heap := (s.heap.kMalloc (frameOf message payload).length).2.kFree
          (s.heap.ledger.next, (frameOf message payload).length) } := by
  rw [packedWrite_eq, filling_fits message payload s _ _ granted fits]
  dsimp only [esphomeRpcSend]
  rw [List.take_length]
  rfl

theorem packedWrite_wraps (granted : ¬ s.heap.Refuses)
    (wraps : 2 ^ 32 ≤ (frameOf message payload).length) :
    (packedWrite message payload).run s = .error .undefined
      { s with heap := (s.heap.kMalloc ((frameOf message payload).length % 2 ^ 32)).2 } := by
  rw [packedWrite_eq, filling_wraps message payload s _ _ granted wraps]

theorem emptyWrite_sends :
    (emptyWrite message).run s = .ok 0 (sending message s (frame message.rpcId [])) := by
  have short := length_header_empty message.rpcId
  have stored : storeAll (uninitialised s.heap 8) (storesAt (some 0) 0 (header message.rpcId 0)) =
      some (header message.rpcId 0 ++
        (uninitialised s.heap 8).drop (header message.rpcId 0).length) := by
    have whole := storeAll_storesAt (header message.rpcId 0) [] (uninitialised s.heap 8)
    rw [length_uninitialised, if_pos short] at whole
    exact whole
  have zero : (0 : UInt64).toNat = 0 := rfl
  simp only [emptyWrite, esphomeHeaderSize_eq, esphomeEncodeHeader_eq, zero]
  rw [run_bind_ok _ (show (get : Exec Node Node).run s = .ok s s from rfl), stored]
  dsimp only [esphomeRpcSend]
  rw [List.take_left, frame, List.append_nil]
  rfl

end Calls

inductive WriteCall
  | packed (message : Outgoing) (payload : Payload)
  | empty (message : Outgoing)

namespace WriteCall

def run : WriteCall → Exec Node Int
  | packed message payload => packedWrite message payload
  | empty message => emptyWrite message

def content : WriteCall → UInt32 × List UInt8
  | packed message payload => (message.rpcId, payload.bytes)
  | empty message => (message.rpcId, [])

def frame (call : WriteCall) : List UInt8 :=
  Writing.frame call.content.1 call.content.2

theorem length_content_lt (call : WriteCall) : call.content.2.length < 2 ^ 32 := by
  cases call with
  | packed message payload => exact payload.length_lt
  | empty message => exact Nat.two_pow_pos 32

theorem length_frame (call : WriteCall) :
    call.frame.length = esphomeHeaderSize call.content.1 (UInt64.ofNat call.content.2.length) +
      call.content.2.length := by
  have small := call.length_content_lt
  have len : (UInt64.ofNat call.content.2.length).toNat = call.content.2.length := by
    rw [UInt64.toNat_ofNat']
    omega
  rw [esphomeHeaderSize_eq, len, frame, Writing.frame, List.length_append]

end WriteCall

end ZephyrEsphome.Rpc.Writing
