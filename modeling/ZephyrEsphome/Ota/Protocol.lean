/- Digest: The over-the-air update session and the service that runs one session after another.

   The stages of a session. An output parameter is the second component of the result; it is only
   looked at after a return value of 0. -/

import Mathlib.Algebra.Group.Nat.Defs
import ZephyrEsphome.Kernel.Flash
import ZephyrEsphome.Kernel.Socket

set_option autoImplicit false
set_option relaxedAutoImplicit false

namespace ZephyrEsphome.Ota

open Kernel
open Library.Exec (loop)

def useOtaVersion : UInt8 := 2

def otaBlockSize : UInt32 := 8192

def magicBytes : List UInt8 := [0x6C, 0x26, 0xF7, 0x5C, 0x45]

/-- `enum OTAResponseTypes`. -/
inductive OtaResponseTypes
  | ok
  | requestAuth
  | headerOk
  | authOk
  | updatePrepareOk
  | binMd5Ok
  | receiveOk
  | updateEndOk
  | supportsCompression
  | chunkOk
  | errorMagic
  | errorUpdatePrepare
  | errorAuthInvalid
  | errorWritingFlash
  | errorUpdateEnd
  | errorInvalidBootstrapping
  | errorWrongCurrentFlashConfig
  | errorWrongNewFlashConfig
  | errorEsp8266NotEnoughSpace
  | errorEsp32NotEnoughSpace
  | errorNoUpdatePartition
  | errorMd5Mismatch
  | errorRp2040NotEnoughSpace
  | errorUnknown
  deriving DecidableEq

namespace OtaResponseTypes

def code : OtaResponseTypes → UInt8
  | ok => 0x00
  | requestAuth => 0x01
  | headerOk => 0x40
  | authOk => 0x41
  | updatePrepareOk => 0x42
  | binMd5Ok => 0x43
  | receiveOk => 0x44
  | updateEndOk => 0x45
  | supportsCompression => 0x46
  | chunkOk => 0x47
  | errorMagic => 0x80
  | errorUpdatePrepare => 0x81
  | errorAuthInvalid => 0x82
  | errorWritingFlash => 0x83
  | errorUpdateEnd => 0x84
  | errorInvalidBootstrapping => 0x85
  | errorWrongCurrentFlashConfig => 0x86
  | errorWrongNewFlashConfig => 0x87
  | errorEsp8266NotEnoughSpace => 0x88
  | errorEsp32NotEnoughSpace => 0x89
  | errorNoUpdatePartition => 0x8A
  | errorMd5Mismatch => 0x8B
  | errorRp2040NotEnoughSpace => 0x8C
  | errorUnknown => 0xFF

end OtaResponseTypes

open OtaResponseTypes (code)

inductive OtaEvent
  | received (requested : Nat) (ret : Int)
  | sent (buf : List UInt8) (ret : Int)
  | wrote (buf : List UInt8) (flush : Bool) (ret : Int)
  /-- `boot_request_upgrade`, with what the slot holds at that moment. -/
  | upgrade (slot : List UInt8) (ret : Int)
  deriving DecidableEq

structure OtaNode where
  rx : Receiver
  tx : Transmitter
  flash : FlashImg
  /-- What the next calls of `boot_request_upgrade` return. -/
  bootOutcomes : List Int
  events : List OtaEvent

def zsockRecv (len : Nat) : Exec OtaNode (Int × List UInt8) :=
  modifyGet fun node =>
    let ((ret, got), rx) := node.rx.zsockRecv len
    ((ret, got), { node with rx := rx, events := node.events ++ [.received len ret] })

def zsockSend (buf : List UInt8) : Exec OtaNode Int :=
  modifyGet fun node =>
    let (ret, tx) := node.tx.zsockSend buf
    (ret, { node with tx := tx, events := node.events ++ [.sent buf ret] })

def flashImgBufferedWrite (buf : List UInt8) (flush : Bool) : Exec OtaNode Int :=
  modifyGet fun node =>
    let (ret, flash) := node.flash.flashImgBufferedWrite buf
    (ret, { node with flash := flash, events := node.events ++ [.wrote buf flush ret] })

def bootRequestUpgrade : Exec OtaNode Int :=
  modifyGet fun node =>
    let ret := node.bootOutcomes.headD 0
    (ret, { node with
      bootOutcomes := node.bootOutcomes.tail
      events := node.events ++ [.upgrade node.flash.written ret] })

/-- `esphome_ota_read_magic`. -/
def esphomeOtaReadMagic : Exec OtaNode Int := do
  let (ret, received) ← zsockRecv magicBytes.length
  if ret ≠ magicBytes.length then
    return -eio
  if received ≠ magicBytes then
    let _ ← zsockSend [code .errorMagic]
    return -eio
  return 0

/-- `esphome_ota_send_version`. -/
def esphomeOtaSendVersion : Exec OtaNode Int := do
  let ret ← zsockSend [code .ok, useOtaVersion]
  if ret ≠ 2 then
    return -eio
  return 0

def sendAck (response : OtaResponseTypes) : Exec OtaNode Int := do
  let ret ← zsockSend [code response]
  if ret ≠ 1 then
    return -eio
  return 0

/-- `esphome_ota_read_features`. -/
def esphomeOtaReadFeatures : Exec OtaNode (Int × UInt8) := do
  let (ret, buf) ← zsockRecv 1
  if ret ≠ 1 then
    return (-eio, 0)
  let ret ← sendAck .headerOk
  return (ret, buf.headD 0)

/-- `esphome_ota_send_auth_ok`. -/
def esphomeOtaSendAuthOk : Exec OtaNode Int :=
  sendAck .authOk

/-- The loop of `esphome_ota_read_size`. -/
def decodeSize (buf : List UInt8) : UInt32 :=
  buf.foldl (fun otaSize byte => otaSize <<< 8 ||| (byte.toUInt32 &&& 0xFF)) 0

/-- `esphome_ota_read_size`. -/
def esphomeOtaReadSize : Exec OtaNode (Int × UInt32) := do
  let (ret, buf) ← zsockRecv 4
  if ret ≠ 4 then
    return (-eio, 0)
  return (0, decodeSize buf)

/-- `esphome_ota_send_prepare_ok`. -/
def esphomeOtaSendPrepareOk : Exec OtaNode Int :=
  sendAck .updatePrepareOk

/-- `esphome_ota_read_md5` with a buffer of `size` bytes; the digest is not looked at. -/
def esphomeOtaReadMd5 (size : Nat) : Exec OtaNode Int := do
  let (ret, _) ← zsockRecv (size - 1)
  if ret ≠ (size - 1 : Nat) then
    -- The variable `error_code` of the source is 0 here.
    let _ ← zsockSend [0]
    return -eio
  sendAck .binMd5Ok

/-- `esphome_ota_read_data`. -/
def esphomeOtaReadData (size : Nat) : Exec OtaNode (Int × List UInt8) := do
  let (ret, buf) ← zsockRecv size
  if ret ≠ size then
    let _ ← zsockSend [0]
    return (-eio, [])
  return (0, buf)

/-- `esphome_ota_read_ack`. -/
def esphomeOtaReadAck : Exec OtaNode Int := do
  let (ret, buf) ← zsockRecv 1
  if ret ≠ 1 then
    return -eio
  if buf.headD 0 ≠ code .ok then
    return -einval
  return 0

def AckDue (otaSize total sizeAcknowledged : UInt32) : Prop :=
  sizeAcknowledged + otaBlockSize ≤ total ∨ total = otaSize ∧ sizeAcknowledged < otaSize

instance (otaSize total sizeAcknowledged : UInt32) :
    Decidable (AckDue otaSize total sizeAcknowledged) := by
  unfold AckDue
  infer_instance

/-- One round of the inner loop; it is left with `size_acknowledged` or for the error label. -/
def ackRound (otaSize total sizeAcknowledged : UInt32) :
    Exec OtaNode (UInt32 ⊕ Except Int UInt32) := do
  if ¬ AckDue otaSize total sizeAcknowledged then
    return .inr (.ok sizeAcknowledged)
  let ret ← zsockSend [code .chunkOk]
  if ret ≠ 1 then
    return .inr (.error ret)
  return .inl (sizeAcknowledged + otaBlockSize)

/-- The size of the buffer `buf`. -/
def bufSize : UInt32 := 1024

/-- `MIN(sizeof(buf), ota_size - total)`. -/
def requestSize (otaSize total : UInt32) : UInt32 :=
  if bufSize < otaSize - total then bufSize else otaSize - total

structure Counters where
  total : UInt32
  sizeAcknowledged : UInt32
  deriving DecidableEq

/-- One round of the data loop; it is left with `none`, or for the error label with `ret`. -/
def dataRound (fuel : Nat) (otaSize : UInt32) (c : Counters) :
    Exec OtaNode (Counters ⊕ Option Int) := do
  if ¬ c.total < otaSize then
    return .inr none
  let requested := requestSize otaSize c.total
  let (ret, buf) ← esphomeOtaReadData requested.toNat
  if ret ≠ 0 then
    return .inr (some ret)
  let last := decide (otaSize - c.total ≤ bufSize)
  if (← flashImgBufferedWrite buf last) ≠ 0 then
    -- `ret` still is the 0 that reading the data returned.
    return .inr (some ret)
  let total := c.total + requested
  match ← loop .unfinished (ackRound otaSize total) fuel c.sizeAcknowledged with
  | .error ret => return .inr (some ret)
  | .ok sizeAcknowledged => return .inl ⟨total, sizeAcknowledged⟩

/-- `esphome_ota_run` up to its call of `boot_request_upgrade`: `none` when it gets there, and
otherwise what it returns. -/
def download (fuel : Nat) : Exec OtaNode (Option Int) := do
  let ret ← esphomeOtaReadMagic
  if ret ≠ 0 then
    return some ret
  let ret ← esphomeOtaSendVersion
  if ret ≠ 0 then
    return some ret
  let (ret, _) ← esphomeOtaReadFeatures
  if ret ≠ 0 then
    return some ret
  let ret ← esphomeOtaSendAuthOk
  if ret ≠ 0 then
    return some ret
  let (ret, otaSize) ← esphomeOtaReadSize
  if ret ≠ 0 then
    return some ret
  let ret ← esphomeOtaSendPrepareOk
  if ret ≠ 0 then
    return some ret
  let ret ← esphomeOtaReadMd5 (32 + 1)
  if ret ≠ 0 then
    return some ret
  match ← loop .unfinished (dataRound fuel otaSize) fuel ⟨0, 0⟩ with
  | some ret => return some ret
  | none =>
    let ret ← zsockSend [code .receiveOk]
    if ret ≠ 1 then
      return some ret
    return none

/-- `esphome_ota_run` from its call of `boot_request_upgrade` on, whose result it ignores. -/
def commit : Exec OtaNode Int := do
  let _ ← bootRequestUpgrade
  let ret ← zsockSend [code .updateEndOk]
  if ret ≠ 1 then
    return ret
  let ret ← esphomeOtaReadAck
  if ret ≠ 0 then
    return ret
  throw .reboot

/-- `esphome_ota_run`. -/
def esphomeOtaRun (fuel : Nat) : Exec OtaNode Int := do
  match ← download fuel with
  | some ret => return ret
  | none => commit

/-- A connection that `zsock_accept` gave out. -/
structure Connection where
  rx : Receiver
  tx : Transmitter

def OtaNode.accept (node : OtaNode) (connection : Connection) : OtaNode :=
  { node with rx := connection.rx, tx := connection.tx }

/-- The accept loop of `esphome_ota_service`, for as many connections as there are. -/
def serve (fuel : Nat) : List Connection → Exec OtaNode Unit
  | [] => return ()
  | connection :: connections => do
    modify (·.accept connection)
    let _ ← esphomeOtaRun fuel
    serve fuel connections

/-- `esphome_ota_service`, whose calls on the listening socket are taken to succeed. -/
def esphomeOtaService (fuel : Nat) (connections : List Connection) : Exec OtaNode Int := do
  let ret ← modifyGet fun node =>
    let (ret, flash) := node.flash.flashImgInit
    (ret, { node with flash := flash })
  if ret ≠ 0 then
    return ret
  serve fuel connections
  return 0

end ZephyrEsphome.Ota
