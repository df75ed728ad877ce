/- Digest: The table of the configured networks and the selection from it. -/

import ZephyrEsphome.Kernel.Basic
import ZephyrEsphome.Kernel.CString

set_option autoImplicit false
set_option relaxedAutoImplicit false

namespace ZephyrEsphome.Wifi

open Kernel

/-- A child of the devicetree node; the security type is the number of `WIFI_SECURITY_TYPE`. -/
structure NetworkConfig where
  ssid : CString
  password : CString
  security : Int
  deriving DecidableEq

/-- `sizeof` of a string literal. -/
def sizeofLiteral (literal : CString) : Nat := literal.bytes.length + 1

def wifiChannelAny : UInt8 := 255

def wifiFreqBand24GHz : UInt8 := 0

/-- `struct wifi_connect_req_params`; its lengths are of type `uint8_t`. -/
structure WifiConnectReqParams where
  ssid : CString
  ssidLength : UInt8
  psk : CString
  pskLength : UInt8
  security : Int
  channel : UInt8
  band : UInt8
  deriving DecidableEq

/-- `WIFI_CREDENTIALS`. -/
def wifiCredentials (network : NetworkConfig) : WifiConnectReqParams where
  ssid := network.ssid
  ssidLength := UInt8.ofNat (sizeofLiteral network.ssid)
  psk := network.password
  pskLength := UInt8.ofNat (sizeofLiteral network.password)
  security := network.security
  channel := wifiChannelAny
  band := wifiFreqBand24GHz

/-- `wifi_cfg` and `wifi_data`. -/
structure WifiCredentials where
  credentials : List WifiConnectReqParams
  count : UInt8
  selected : UInt8

def WifiCredentials.boot (networks : List NetworkConfig) : WifiCredentials where
  credentials := networks.map wifiCredentials
  count := UInt8.ofNat networks.length
  selected := 0

/-- `memcpy` from `&wifi_cfg.credentials[id]`; outside the table it has no defined behaviour. -/
def readCredentials (id : UInt8) : Exec WifiCredentials WifiConnectReqParams := do
  match (← get).credentials[id.toNat]? with
  | none => throw .undefined
  | some params => return params

/-- `wifi_credentials_get_current`. -/
def wifiCredentialsGetCurrent : Exec WifiCredentials WifiConnectReqParams := do
  readCredentials (← get).selected

/-- `wifi_credentials_get_next`. -/
def wifiCredentialsGetNext : Exec WifiCredentials WifiConnectReqParams := do
  let credentialId := (← get).selected
  modify fun data => { data with selected := data.selected + 1 }
  if (← get).selected ≥ (← get).count then
    modify fun data => { data with selected := 0 }
  readCredentials credentialId

end ZephyrEsphome.Wifi
