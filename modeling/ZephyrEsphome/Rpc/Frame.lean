/- Digest: How messages are put into frames and sent, and how a frame's header is received. -/

import ZephyrEsphome.Rpc.Node
import ZephyrEsphome.Rpc.Varint

set_option autoImplicit false
set_option relaxedAutoImplicit false

namespace ZephyrEsphome.Rpc

open Kernel
open Library.Exec (loop)
open Varint (Store storesAt varintEncode readDecodeVarint)

/-- `esphome_header_size`. -/
def esphomeHeaderSize (rpcId : UInt32) (len : UInt64) : Nat :=
  let headerSize := 1
  let headerSize := headerSize + (varintEncode len none).1
  headerSize + (varintEncode rpcId.toUInt64 none).1

/-- `esphome_encode_header`: the return value, and what is stored from the address `out` on. -/
def esphomeEncodeHeader (rpcId : UInt32) (len : UInt64) (out : Nat) : Int × List Store :=
  let headerSize := 1
  let (lenSize, lenStores) := varintEncode len (some (out + headerSize))
  let headerSize := headerSize + lenSize
  let (_, idStores) := varintEncode rpcId.toUInt64 (some (out + headerSize))
  (0, ⟨out, 0x00⟩ :: (lenStores ++ idStores))

def uninitialised (heap : Heap) (size : Nat) : List UInt8 :=
  (List.range size).map heap.garbage

def storeByte (buffer : List UInt8) (store : Store) : Option (List UInt8) :=
  if store.address < buffer.length then some (buffer.set store.address store.byte) else none

def storeAll (buffer : List UInt8) (stores : List Store) : Option (List UInt8) :=
  stores.foldlM storeByte buffer

/-- `esphome_rpc_send`, which drops the result of the send. -/
def esphomeRpcSend (message : Outgoing) (out : List UInt8) (len : Nat) : Exec Node Int := do
  let _ ← zsockSend message (out.take len)
  return 0

/-- The Write function of a message with fields. The lengths are of type `size_t`. -/
def packedWrite (message : Outgoing) (payload : Payload) : Exec Node Int := do
  let len := UInt32.ofNat payload.bytes.length
  let hdrLen := UInt32.ofNat (esphomeHeaderSize message.rpcId len.toUInt64)
  match ← kMalloc (len + hdrLen).toNat with
  | none => return -enomem
  | some block =>
    let out := uninitialised (← get).heap (len + hdrLen).toNat
    let header := (esphomeEncodeHeader message.rpcId len.toUInt64 0).2
    match storeAll out (header ++ storesAt (some hdrLen.toNat) 0 payload.bytes) with
    | none => throw .undefined
    | some out =>
      let ret ← esphomeRpcSend message out (len + hdrLen).toNat
      kFree block
      return ret

/-- The Write function of a message without fields, whose buffer is the array `out[8]`. -/
def emptyWrite (message : Outgoing) : Exec Node Int := do
  let hdrLen := esphomeHeaderSize message.rpcId 0
  let out := uninitialised (← get).heap 8
  match storeAll out (esphomeEncodeHeader message.rpcId 0 0).2 with
  | none => throw .undefined
  | some out => esphomeRpcSend message out hdrLen

section Writes

variable (pb : Protobuf)

def pack (message : Outgoing) : Exec Node Int :=
  packedWrite message (pb.pack message)

def helloResponseWrite (response : HelloResponse) : Exec Node Int :=
  pack pb (.helloResponse response)

def connectResponseWrite (response : ConnectResponse) : Exec Node Int :=
  pack pb (.connectResponse response)

def disconnectResponseWrite : Exec Node Int :=
  emptyWrite .disconnectResponse

def pingResponseWrite : Exec Node Int :=
  emptyWrite .pingResponse

def deviceInfoResponseWrite (response : DeviceInfoResponse) : Exec Node Int :=
  pack pb (.deviceInfoResponse response)

def listEntitiesSensorResponseWrite (response : ListEntitiesResponse) : Exec Node Int :=
  pack pb (.listEntitiesSensorResponse response)

def listEntitiesSwitchResponseWrite (response : ListEntitiesResponse) : Exec Node Int :=
  pack pb (.listEntitiesSwitchResponse response)

def listEntitiesButtonResponseWrite (response : ListEntitiesResponse) : Exec Node Int :=
  pack pb (.listEntitiesButtonResponse response)

def listEntitiesDoneResponseWrite : Exec Node Int :=
  emptyWrite .listEntitiesDoneResponse

def sensorStateResponseWrite (response : SensorStateResponse) : Exec Node Int :=
  pack pb (.sensorStateResponse response)

def switchStateResponseWrite (response : SwitchStateResponse) : Exec Node Int :=
  pack pb (.switchStateResponse response)

end Writes

/-- The loop of `esphome_read_header`: the result and the byte of the last receive call. -/
def awaitByte (fuel : Nat) (byte : UInt8) : Exec Receiver (Int × UInt8) :=
  loop .unfinished (fun byte => do
    let (ret, got) ← zsockRecv 1
    let byte := got.headD byte
    if ret = 0 then
      return .inl byte
    return .inr (ret, byte)) fuel byte

def readVarint : Exec Receiver (Int × UInt64) :=
  modifyGet (readDecodeVarint 0)

/-- `esphome_read_header`: `rpc_id` and `len`, or the error it returns. -/
def esphomeReadHeader (fuel : Nat) : Exec Receiver (Except Int (UInt32 × UInt32)) := do
  let rx ← get
  let (ret, byte) ← awaitByte fuel (rx.residue rx.calls)
  if ret < 0 then
    return .error ret
  if byte ≠ 0x00 then
    return .error (-eio)
  let (ret, val) ← readVarint
  if ret ≠ 0 then
    return .error ret
  let len := val.toUInt32
  let (ret, val) ← readVarint
  if ret ≠ 0 then
    return .error ret
  return .ok (val.toUInt32, len)

/-- `esphome_read_request` up to its switch: the message's number and its payload, or the error it
returns. -/
def receiveMessage (fuel : Nat) : Exec Node (Except Int (UInt32 × List UInt8)) := do
  match ← onRx (esphomeReadHeader fuel) with
  | .error ret => return .error ret
  | .ok (msgId, len) =>
    if len = 0 then
      return .ok (msgId, [])
    match ← kMalloc len.toNat with
    | none => return .error (-enomem)
    | some _ =>
      let data := uninitialised (← get).heap len.toNat
      let (ret, got) ← onRx (zsockRecv len.toNat)
      -- The comparison is made on unsigned numbers.
      if UInt32.ofInt ret ≠ len then
        return .error (-eio)
      return .ok (msgId, got ++ data.drop got.length)

end ZephyrEsphome.Rpc
