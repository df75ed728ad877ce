/- Digest: One request of the peer, the loop over a connection, and the service that accepts them. -/

import ZephyrEsphome.Api.Handlers

set_option autoImplicit false
set_option relaxedAutoImplicit false

namespace ZephyrEsphome.Rpc

open Api (callback)
open Kernel
open Library.Exec (loop)

section Service

variable (pb : Protobuf)

def readMessage (type : MessageType) (data : List UInt8) : Exec Node Int := do
  match pb.unpack type data (← get).heap with
  | none => return -eio
  | some msg => callback pb type msg

/-- The switch of `esphome_read_request`. The callback of a message without fields is called with
none, whatever its payload was. -/
def dispatch (msgId : UInt32) (data : List UInt8) : Exec Node Int :=
  match MessageType.ofId msgId with
  | some .disconnectRequest => callback pb .disconnectRequest ()
  | some .disconnectResponse => callback pb .disconnectResponse ()
  | some .pingRequest => callback pb .pingRequest ()
  | some .pingResponse => callback pb .pingResponse ()
  | some .deviceInfoRequest => callback pb .deviceInfoRequest ()
  | some .listEntitiesRequest => callback pb .listEntitiesRequest ()
  | some .listEntitiesDoneResponse => callback pb .listEntitiesDoneResponse ()
  | some .subscribeStatesRequest => callback pb .subscribeStatesRequest ()
  | some .subscribeHomeassistantServicesRequest =>
    callback pb .subscribeHomeassistantServicesRequest ()
  | some .subscribeHomeAssistantStatesRequest =>
    callback pb .subscribeHomeAssistantStatesRequest ()
  | some .getTimeRequest => callback pb .getTimeRequest ()
  | some .subscribeBluetoothConnectionsFreeRequest =>
    callback pb .subscribeBluetoothConnectionsFreeRequest ()
  | some .unsubscribeBluetoothLEAdvertisementsRequest =>
    callback pb .unsubscribeBluetoothLEAdvertisementsRequest ()
  | some .voiceAssistantConfigurationRequest =>
    callback pb .voiceAssistantConfigurationRequest ()
  | some type => readMessage pb type data
  | none => return -enotsup

/-- `esphome_read_request`. -/
def esphomeReadRequest (fuel : Nat) : Exec Node Int := do
  match ← receiveMessage fuel with
  | .error ret => return ret
  | .ok (msgId, data) => dispatch pb msgId data

/-- One round of the inner loop of `esphome_rpc_service`. -/
def requestRound (fuel : Nat) : Unit → Exec Node (Unit ⊕ Int) := fun _ => do
  let ret ← esphomeReadRequest pb fuel
  if ret = 0 then
    return .inl ()
  return .inr ret

/-- The inner loop of `esphome_rpc_service`, and the close after it. -/
def serveConnection (fuel : Nat) : Exec Node Unit := do
  let _ ← loop .unfinished (requestRound pb fuel) fuel ()
  record (.closed (← get).socket)

/-- A connection that `zsock_accept` gave out. -/
structure Connection where
  socket : Int
  rx : Receiver
  tx : Transmitter

def Node.accept (node : Node) (connection : Connection) : Node :=
  { node with socket := connection.socket, rx := connection.rx, tx := connection.tx }

/-- The outer loop of `esphome_rpc_service`, for the given results of `zsock_accept`; a failed call
leaves -1 as the socket. -/
def esphomeRpcService (fuel : Nat) : List (Option Connection) → Exec Node Unit
  | [] => return ()
  | none :: later => do
    modify fun node => { node with socket := -1 }
    esphomeRpcService fuel later
  | some connection :: later => do
    modify (·.accept connection)
    serveConnection pb fuel
    esphomeRpcService fuel later

end Service

end ZephyrEsphome.Rpc
