/- Digest: The pass that sizes a header and the pass that writes it agree, byte for byte. -/

import ZephyrEsphome.Rpc.Writing

set_option autoImplicit false
set_option relaxedAutoImplicit false

namespace ZephyrEsphome.Rpc.TwoPasses

open Kernel
open Varint (Store storeAt storesAt storesAt_eq)
open Writing

theorem addresses_storesAt (out i : Nat) (bytes : List UInt8) :
    (storesAt (some out) i bytes).map Store.address = List.range' (out + i) bytes.length := by
  rw [storesAt_eq, List.map_map]
  exact List.map_fst_zip (Nat.le_of_eq List.length_range')

def frameStores (rpcId : UInt32) (len : UInt64) (payload : List UInt8) : List Store :=
  (esphomeEncodeHeader rpcId len 0).2 ++
    storesAt (some (esphomeHeaderSize rpcId len)) 0 payload

section Frame

variable (rpcId : UInt32) (len : UInt64) (payload : List UInt8)

theorem addresses_header (out : Nat) : (esphomeEncodeHeader rpcId len out).2.map Store.address =
    List.range' out (esphomeHeaderSize rpcId len) := by
  rw [esphomeEncodeHeader_at, addresses_storesAt, esphomeHeaderSize_eq, Nat.add_zero]

theorem addresses_frame : (frameStores rpcId len payload).map Store.address =
    List.range (esphomeHeaderSize rpcId len + payload.length) := by
  rw [frameStores, List.map_append, addresses_header, addresses_storesAt, Nat.add_zero,
    List.range_eq_range', ← List.range'_append_1, Nat.zero_add]

theorem frameStores_eq : frameStores rpcId len payload =
    storesAt (some 0) 0 (header rpcId len.toNat ++ payload) := by
  rw [frameStores, esphomeEncodeHeader_eq, storesAt_append, esphomeHeaderSize_eq,
    storesAt_shift (List.length _), Nat.add_comm]

theorem storeAll_frame {block : List UInt8}
    (size : block.length = esphomeHeaderSize rpcId len + payload.length) :
    storeAll block (frameStores rpcId len payload) =
      some (header rpcId len.toNat ++ payload) := by
  have whole : (header rpcId len.toNat ++ payload).length = block.length := by
    rw [size, esphomeHeaderSize_eq, List.length_append]
  have stored := storeAll_storesAt (header rpcId len.toNat ++ payload) [] block
  rw [List.nil_append, List.length_nil, List.nil_append, if_pos whole.le,
    List.drop_of_length_le whole.ge, List.append_nil] at stored
  rw [frameStores_eq]
  exact stored

end Frame

/-- How many bytes the Write function of a message with fields asks for, as a `size_t`. -/
def blockSize (message : Outgoing) (payload : Payload) : Nat :=
  let len := UInt32.ofNat payload.bytes.length
  (len + UInt32.ofNat (esphomeHeaderSize message.rpcId len.toUInt64)).toNat

theorem blockSize_eq (message : Outgoing) (payload : Payload) :
    blockSize message payload = (frameOf message payload).length % 2 ^ 32 := by
  obtain ⟨len, -, size⟩ := size_counted message payload
  rw [← size, blockSize, esphomeHeaderSize_eq, len]

theorem length_frameOf (message : Outgoing) (payload : Payload) : (frameOf message payload).length =
    esphomeHeaderSize message.rpcId (UInt64.ofNat payload.bytes.length) + payload.bytes.length :=
  (WriteCall.packed message payload).length_frame

/-- The header is stored on as many bytes as it was sized, each once and in order. Header and
payload take up a block of the size of both, and a header without payload fits into 8 bytes. -/
structure PassesAgree (rpcId : UInt32) (len : UInt64) : Prop where
  written : ∀ out, (esphomeEncodeHeader rpcId len out).2.map Store.address =
    List.range' out (esphomeHeaderSize rpcId len)
  filled : ∀ payload : List UInt8, payload.length = len.toNat →
    (frameStores rpcId len payload).map Store.address =
      List.range (esphomeHeaderSize rpcId len + len.toNat)
  stored : ∀ payload block : List UInt8, payload.length = len.toNat →
    block.length = esphomeHeaderSize rpcId len + len.toNat →
      ∃ front, front.length = esphomeHeaderSize rpcId len ∧
        storeAll block (frameStores rpcId len payload) = some (front ++ payload)
  allocated : ∀ (message : Outgoing) (payload : Payload) (s : Node), message.rpcId = rpcId →
    payload.bytes.length = len.toNat →
    blockSize message payload = esphomeHeaderSize rpcId len + len.toNat → ¬ s.heap.Refuses →
      ∃ t bytes ret, (packedWrite message payload).run s = .ok 0 t ∧
        t.events = s.events ++ [.sent s.socket message bytes ret] ∧
        bytes.length = esphomeHeaderSize rpcId len + len.toNat
  small : esphomeHeaderSize rpcId 0 ≤ 8
  array : ∀ out : List UInt8, out.length = 8 →
    (storeAll out (esphomeEncodeHeader rpcId 0 0).2).isSome

theorem passes_agree (rpcId : UInt32) (len : UInt64) : PassesAgree rpcId len := by
  have small : esphomeHeaderSize rpcId 0 ≤ 8 := by
    rw [esphomeHeaderSize_eq]
    exact length_header_empty rpcId
  constructor
  · exact addresses_header rpcId len
  · intro payload length
    rw [addresses_frame, length]
  · intro payload block length size
    rw [← length] at size
    exact ⟨header rpcId len.toNat, (esphomeHeaderSize_eq rpcId len).symm,
      storeAll_frame rpcId len payload size⟩
  · rintro message payload s rfl length size granted
    have whole : (frameOf message payload).length =
        esphomeHeaderSize message.rpcId len + len.toNat := by
      rw [length_frameOf, length, UInt64.ofNat_toNat]
    have fits : (frameOf message payload).length < 2 ^ 32 := by
      rw [whole, ← size, blockSize_eq]
      exact Nat.mod_lt _ (Nat.two_pow_pos 32)
    exact ⟨_, frameOf message payload, _, packedWrite_sends message payload s granted fits, rfl,
      whole⟩
  · exact small
  · intro out eight
    have room : (header rpcId 0).length ≤ out.length := by
      rw [eight]
      exact length_header_empty rpcId
    have stored := storeAll_storesAt (header rpcId 0) [] out
    rw [if_pos room] at stored
    rw [esphomeEncodeHeader_eq]
    exact Option.isSome_of_eq_some stored

end ZephyrEsphome.Rpc.TwoPasses
