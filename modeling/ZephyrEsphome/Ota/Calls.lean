/- Digest: What the sessions keep, from what the single calls they make keep. -/

import ZephyrEsphome.Ota.Protocol

set_option autoImplicit false
set_option relaxedAutoImplicit false

namespace ZephyrEsphome.Ota.Calls

open Kernel
open Library.Exec
open OtaResponseTypes (code)

/-- What is sent before the upgrade request. -/
inductive IsEarly : List UInt8 → Prop
  | answer {response : OtaResponseTypes} (early : response ≠ .updateEndOk) :
      IsEarly [code response]
  | version : IsEarly [code .ok, useOtaVersion]

/-- The guarantee is kept by the calls that a session makes before its upgrade request. -/
structure KeepsEarly (G : Guarantee OtaNode) : Prop where
  recv : ∀ len, Keeps G (zsockRecv len)
  send : ∀ buf, IsEarly buf → Keeps G (zsockSend buf)
  write : ∀ buf flush, Keeps G (flashImgBufferedWrite buf flush)

structure KeepsCalls (G : Guarantee OtaNode) : Prop where
  recv : ∀ len, Keeps G (zsockRecv len)
  send : ∀ buf, Keeps G (zsockSend buf)
  write : ∀ buf flush, Keeps G (flashImgBufferedWrite buf flush)
  boot : Keeps G bootRequestUpgrade

theorem KeepsCalls.early {G : Guarantee OtaNode} (calls : KeepsCalls G) : KeepsEarly G :=
  ⟨calls.recv, fun buf _ => calls.send buf, calls.write⟩

theorem early_total : KeepsEarly (Guarantee.total OtaNode) where
  recv _ := keeps_modifyGet fun _ => trivial
  send _ _ := keeps_modifyGet fun _ => trivial
  write _ _ := keeps_modifyGet fun _ => trivial

section Download

variable {G : Guarantee OtaNode}

theorem ackRound_keeps (chunk : Keeps G (zsockSend [code .chunkOk]))
    (otaSize total acked : UInt32) : Keeps G (ackRound otaSize total acked) := by
  unfold ackRound
  apply keeps_ite (keeps_pure _)
  apply keeps_bind chunk
  intro ret
  exact keeps_ite (keeps_pure _) (keeps_pure _)

variable (early : KeepsEarly G)

include early

theorem answer_keeps {response : OtaResponseTypes} (other : response ≠ .updateEndOk) :
    Keeps G (zsockSend [code response]) :=
  early.send _ (.answer other)

theorem sendAck_keeps {response : OtaResponseTypes} (other : response ≠ .updateEndOk) :
    Keeps G (sendAck response) := by
  apply keeps_bind (answer_keeps early other)
  intro ret
  exact keeps_ite (keeps_pure _) (keeps_pure _)

theorem readMagic_keeps : Keeps G esphomeOtaReadMagic := by
  apply keeps_bind (early.recv _)
  rintro ⟨ret, received⟩
  apply keeps_ite (keeps_pure _)
  apply keeps_ite
  · exact keeps_bind (@answer_keeps G early .errorMagic (by decide)) fun _ => keeps_pure _
  · exact keeps_pure _

theorem sendVersion_keeps : Keeps G esphomeOtaSendVersion := by
  apply keeps_bind (early.send _ .version)
  intro ret
  exact keeps_ite (keeps_pure _) (keeps_pure _)

theorem readFeatures_keeps : Keeps G esphomeOtaReadFeatures := by
  apply keeps_bind (early.recv _)
  rintro ⟨ret, buf⟩
  apply keeps_ite (keeps_pure _)
  exact keeps_bind (sendAck_keeps early (by decide)) fun _ => keeps_pure _

theorem readSize_keeps : Keeps G esphomeOtaReadSize := by
  apply keeps_bind (early.recv _)
  rintro ⟨ret, buf⟩
  exact keeps_ite (keeps_pure _) (keeps_pure _)

theorem readMd5_keeps (size : Nat) : Keeps G (esphomeOtaReadMd5 size) := by
  apply keeps_bind (early.recv _)
  rintro ⟨ret, buf⟩
  apply keeps_ite
  · exact keeps_bind (@answer_keeps G early .ok (by decide)) fun _ => keeps_pure _
  · exact sendAck_keeps early (by decide)

theorem readData_keeps (size : Nat) : Keeps G (esphomeOtaReadData size) := by
  apply keeps_bind (early.recv _)
  rintro ⟨ret, buf⟩
  apply keeps_ite
  · exact keeps_bind (@answer_keeps G early .ok (by decide)) fun _ => keeps_pure _
  · exact keeps_pure _

/-- A round of the data loop once `esphome_ota_read_data` has returned. -/
def finishRound (fuel : Nat) (otaSize : UInt32) (c : Counters) :
    Int × List UInt8 → Exec OtaNode (Counters ⊕ Option Int)
  | (ret, buf) => do
    if ret ≠ 0 then
      return .inr (some ret)
    if (← flashImgBufferedWrite buf (decide (otaSize - c.total ≤ bufSize))) ≠ 0 then
      return .inr (some ret)
    let total := c.total + requestSize otaSize c.total
    match ← loop .unfinished (ackRound otaSize total) fuel c.sizeAcknowledged with
    | .error ret => return .inr (some ret)
    | .ok sizeAcknowledged => return .inl ⟨total, sizeAcknowledged⟩

omit early in
theorem dataRound_eq (fuel : Nat) (otaSize : UInt32) (c : Counters) :
    dataRound fuel otaSize c =
      if ¬ c.total < otaSize then return .inr none
      else esphomeOtaReadData (requestSize otaSize c.total).toNat >>= finishRound fuel otaSize c :=
  rfl

variable [Stoppable G]

theorem finishRound_keeps (fuel : Nat) (otaSize : UInt32) (c : Counters)
    (got : Int × List UInt8) : Keeps G (finishRound fuel otaSize c got) := by
  obtain ⟨ret, buf⟩ := got
  unfold finishRound
  dsimp only
  apply keeps_ite (keeps_pure _)
  apply keeps_bind (early.write _ _)
  intro wrote
  apply keeps_ite (keeps_pure _)
  have chunk : Keeps G (zsockSend [code .chunkOk]) := answer_keeps early (by decide)
  apply keeps_bind (keeps_loop (ackRound_keeps chunk _ _) fuel _)
  rintro (ret | acked)
  · exact keeps_pure _
  · exact keeps_pure _

theorem dataRound_keeps (fuel : Nat) (otaSize : UInt32) (c : Counters) :
    Keeps G (dataRound fuel otaSize c) := by
  rw [dataRound_eq]
  apply keeps_ite (keeps_pure _)
  exact keeps_bind (readData_keeps early _) (finishRound_keeps early fuel otaSize c)

theorem download_keeps (fuel : Nat) : Keeps G (download fuel) := by
  unfold download
  apply keeps_bind (readMagic_keeps early)
  intro ret
  apply keeps_ite (keeps_pure _)
  apply keeps_bind (sendVersion_keeps early)
  intro ret
  apply keeps_ite (keeps_pure _)
  apply keeps_bind (readFeatures_keeps early)
  rintro ⟨ret, feature⟩
  apply keeps_ite (keeps_pure _)
  apply keeps_bind (sendAck_keeps early (by decide))
  intro ret
  apply keeps_ite (keeps_pure _)
  apply keeps_bind (readSize_keeps early)
  rintro ⟨ret, otaSize⟩
  apply keeps_ite (keeps_pure _)
  apply keeps_bind (sendAck_keeps early (by decide))
  intro ret
  apply keeps_ite (keeps_pure _)
  apply keeps_bind (readMd5_keeps early _)
  intro ret
  apply keeps_ite (keeps_pure _)
  apply keeps_bind (keeps_loop (dataRound_keeps early fuel otaSize) fuel _)
  rintro (_ | ret)
  · apply keeps_bind (@answer_keeps G early .receiveOk (by decide))
    intro ret
    exact keeps_ite (keeps_pure _) (keeps_pure _)
  · exact keeps_pure _

end Download

/-- `commit` once `boot_request_upgrade` has returned. -/
def closing : Exec OtaNode Int := do
  let ret ← zsockSend [code .updateEndOk]
  if ret ≠ 1 then
    return ret
  let ret ← esphomeOtaReadAck
  if ret ≠ 0 then
    return ret
  throw .reboot

theorem commit_eq : commit = bootRequestUpgrade >>= fun _ => closing := rfl

section Session

variable {G : Guarantee OtaNode}

theorem readAck_keeps (recv : ∀ len, Keeps G (zsockRecv len)) : Keeps G esphomeOtaReadAck := by
  apply keeps_bind (recv _)
  rintro ⟨ret, buf⟩
  apply keeps_ite (keeps_pure _)
  exact keeps_ite (keeps_pure _) (keeps_pure _)

variable [Stoppable G]

theorem closing_keeps (recv : ∀ len, Keeps G (zsockRecv len))
    (send : ∀ buf, Keeps G (zsockSend buf)) : Keeps G closing := by
  apply keeps_bind (send _)
  intro ret
  apply keeps_ite (keeps_pure _)
  apply keeps_bind (readAck_keeps recv)
  intro ret
  exact keeps_ite (keeps_pure _) (keeps_throw _)

variable (calls : KeepsCalls G)

include calls

theorem esphomeOtaRun_keeps (fuel : Nat) : Keeps G (esphomeOtaRun fuel) := by
  apply keeps_bind (download_keeps calls.early fuel)
  rintro (_ | ret)
  · dsimp only
    rw [commit_eq]
    exact keeps_bind calls.boot fun _ => closing_keeps calls.recv calls.send
  · exact keeps_pure _

theorem serve_keeps (accept : ∀ s connection, G.onReturn s (OtaNode.accept s connection))
    (fuel : Nat) (connections : List Connection) : Keeps G (serve fuel connections) := by
  induction connections with
  | nil => exact keeps_pure _
  | cons connection connections ih =>
    apply keeps_bind (keeps_modify fun s => accept s connection)
    intro _
    exact keeps_bind (esphomeOtaRun_keeps calls fuel) fun _ => ih

end Session

end ZephyrEsphome.Ota.Calls
