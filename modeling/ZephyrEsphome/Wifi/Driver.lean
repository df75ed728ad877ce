/- Digest: The wifi component: what it asks of the network stack, and how it takes the results. -/

import ZephyrEsphome.Wifi.Credentials

set_option autoImplicit false
set_option relaxedAutoImplicit false

namespace ZephyrEsphome.Wifi

open Kernel
open Library.Exec (zoom)

/-- The requests of `net_mgmt`. -/
inductive NetRequest
  | wifiConnect (params : WifiConnectReqParams)
  | wifiDisconnect
  | wifiIfaceStatus
  deriving DecidableEq

inductive Action
  | netMgmt (request : NetRequest) (ret : Int)
  | onConnect
  | onDisconnect
  deriving DecidableEq

/-- `struct esphome_wifi_config` and `struct esphome_wifi_data`, and what they work on. -/
structure EsphomeWifi where
  /-- The configuration has an `on_connect`, and an `on_disconnect`. -/
  onConnect : Bool
  onDisconnect : Bool
  credentials : WifiCredentials
  /-- The delay the work was scheduled with, while it is scheduled. -/
  work : Option Nat
  /-- What the next requests return; once it is used up every request returns 0. -/
  answers : List Int
  log : List Action

def onCredentials {α : Type} (m : Exec WifiCredentials α) : Exec EsphomeWifi α :=
  zoom EsphomeWifi.credentials (fun credentials wifi => { wifi with credentials := credentials }) m

/-- `net_mgmt`. -/
def netMgmt (request : NetRequest) : Exec EsphomeWifi Int :=
  modifyGet fun wifi =>
    (wifi.answers.headD 0, { wifi with
      answers := wifi.answers.tail
      log := wifi.log ++ [.netMgmt request (wifi.answers.headD 0)] })

/-- `k_work_schedule`, which leaves a work alone that is scheduled already. -/
def kWorkSchedule (delay : Nat) : Exec EsphomeWifi Unit :=
  modify fun wifi => { wifi with work := some (wifi.work.getD delay) }

def call (callback : Action) : Exec EsphomeWifi Unit :=
  modify fun wifi => { wifi with log := wifi.log ++ [callback] }

/-- `wifi_status`, which only prints what it is told. -/
def wifiStatus : Exec EsphomeWifi Unit := do
  let _ ← netMgmt .wifiIfaceStatus

/-- `handle_wifi_connect_result`. -/
def handleWifiConnectResult (status : Int) : Exec EsphomeWifi Unit := do
  if status ≠ 0 then
    kWorkSchedule 15000
  else
    wifiStatus
    if (← get).onConnect then
      call .onConnect

/-- `handle_wifi_disconnect_result`. -/
def handleWifiDisconnectResult (status : Int) : Exec EsphomeWifi Unit := do
  if status ≠ 0 then
    kWorkSchedule 15000
  else
    if (← get).onDisconnect then
      call .onDisconnect

inductive MgmtEvent
  | connectResult
  | disconnectResult
  deriving DecidableEq

/-- `wifi_mgmt_event_handler`. -/
def wifiMgmtEventHandler (mgmtEvent : MgmtEvent) (status : Int) : Exec EsphomeWifi Unit :=
  match mgmtEvent with
  | .connectResult => handleWifiConnectResult status
  | .disconnectResult => handleWifiDisconnectResult status

/-- `wifi_connect`. -/
def wifiConnect : Exec EsphomeWifi Unit := do
  let params ← onCredentials wifiCredentialsGetNext
  let ret ← netMgmt (.wifiConnect params)
  if ret ≠ 0 then
    kWorkSchedule 15000

/-- `wifi_disconnect`. -/
def wifiDisconnect : Exec EsphomeWifi Unit := do
  let _ ← netMgmt .wifiDisconnect

/-- `wifi_connect_work_cb`. -/
def wifiConnectWorkCb : Exec EsphomeWifi Unit := do
  wifiDisconnect
  wifiConnect

/-- `esphome_wifi_init`. -/
def esphomeWifiInit : Exec EsphomeWifi Int := do
  modify fun wifi => { wifi with work := none }
  kWorkSchedule 1000
  return 0

end ZephyrEsphome.Wifi
