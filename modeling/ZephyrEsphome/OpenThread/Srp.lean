/- Digest: Announcing the device over OpenThread, and the ways an attempt can end. -/

import ZephyrEsphome.Kernel.Basic
import ZephyrEsphome.Kernel.Buffer

set_option autoImplicit false
set_option relaxedAutoImplicit false

namespace ZephyrEsphome.OpenThread

open Kernel
open Library.Exec

/-- `otError`. -/
abbrev OtError := Nat

def otErrorNone : OtError := 0

/-- `otSrpClientBuffersServiceEntry`, with the buffers of its strings. -/
structure ServiceEntry where
  port : UInt16
  instanceName : Buffer
  serviceName : Buffer
  deriving DecidableEq

inductive SrpCall
  | setCallback
  | setHostName (name : Buffer) (error : OtError)
  | enableAutoHostAddress (error : OtError)
  | allocateService (found : Bool)
  | addService (entry : ServiceEntry) (error : OtError)
  | enableAutoStartMode
  deriving DecidableEq

/-- What is announced of `struct esphome_config`. -/
structure EsphomeConfig where
  name : CString
  port : Int

/-- `ot_srp_init_done`, and the OpenThread instance behind it. -/
structure SrpClient where
  otSrpInitDone : Bool
  /-- Whether the next lookups find the instance; once it is used up every lookup does. -/
  instances : List Bool
  /-- What the next calls return; once it is used up every call succeeds. -/
  errors : List OtError
  hostName : Buffer
  /-- The entries that are left in the pool. -/
  pool : List ServiceEntry
  /-- How many entries were taken from it. -/
  taken : Nat
  /-- The entries that are registered. -/
  services : List ServiceEntry
  calls : List SrpCall

namespace SrpClient

def boot (instances : List Bool) (errors : List OtError) (hostName : Buffer)
    (pool : List ServiceEntry) : SrpClient where
  otSrpInitDone := false
  instances := instances
  errors := errors
  hostName := hostName
  pool := pool
  taken := 0
  services := []
  calls := []

def answer (client : SrpClient) : OtError := client.errors.headD otErrorNone

def asked (client : SrpClient) (call : OtError → SrpCall) : SrpClient :=
  { client with errors := client.errors.tail, calls := client.calls ++ [call client.answer] }

def told (client : SrpClient) (call : SrpCall) : SrpClient :=
  { client with calls := client.calls ++ [call] }

end SrpClient

def srpServiceName : CString :=
  .ofBytes [95, 101, 115, 112, 104, 111, 109, 101, 108, 105, 98, 46, 95, 116, 99, 112]

def ask (call : OtError → SrpCall) : Exec SrpClient OtError :=
  modifyGet fun client => (client.answer, client.asked call)

def tell (call : SrpCall) : Exec SrpClient Unit :=
  modify fun client => client.told call

/-- `openthread_get_default_instance`. -/
def openthreadGetDefaultInstance : Exec SrpClient Bool :=
  modifyGet fun client =>
    (client.instances.headD true, { client with instances := client.instances.tail })

/-- `otSrpClientSetCallback`. -/
def otSrpClientSetCallback : Exec SrpClient Unit := tell .setCallback

/-- `otSrpClientSetHostName`, for the buffer of the host name. -/
def otSrpClientSetHostName : Exec SrpClient OtError := do
  ask (.setHostName (← get).hostName)

/-- `otSrpClientEnableAutoHostAddress`. -/
def otSrpClientEnableAutoHostAddress : Exec SrpClient OtError := ask .enableAutoHostAddress

/-- `otSrpClientBuffersAllocateService`. -/
def otSrpClientBuffersAllocateService : Exec SrpClient (Option ServiceEntry) :=
  modifyGet fun client =>
    match client.pool with
    | [] => (none, client.told (.allocateService false))
    | entry :: pool =>
      (some entry,
        { client.told (.allocateService true) with pool := pool, taken := client.taken + 1 })

/-- `otSrpClientAddService`. -/
def otSrpClientAddService (entry : ServiceEntry) : Exec SrpClient OtError := do
  let error ← ask (.addService entry)
  if error = otErrorNone then
    modify fun client => { client with services := client.services ++ [entry] }
  return error

/-- `otSrpClientEnableAutoStartMode`. -/
def otSrpClientEnableAutoStartMode : Exec SrpClient Unit := tell .enableAutoStartMode

/-- `size = MIN(size, strlen(src) + 1)` for the size of `dest`, and the `memcpy` of so much. -/
def copyString (dest : Buffer) (src : CString) : Exec SrpClient Buffer := do
  let size := UInt16.ofNat (min dest.size.toNat (strlen src + 1))
  match dest.memcpy src.stored size.toNat with
  | some filled => return filled
  | none => throw .undefined

/-- `ot_srp_init`. -/
def otSrpInit (cfg : EsphomeConfig) : Exec SrpClient Int := do
  if (← get).otSrpInitDone then
    return 0
  let ot ← openthreadGetDefaultInstance
  if ot = false then
    return -enodev
  otSrpClientSetCallback
  let hostName ← copyString (← get).hostName cfg.name
  modify fun client => { client with hostName := hostName }
  let error ← otSrpClientSetHostName
  if error ≠ otErrorNone then
    return -1
  let error ← otSrpClientEnableAutoHostAddress
  if error ≠ otErrorNone then
    return -1
  match ← otSrpClientBuffersAllocateService with
  | none => return -1
  | some entry =>
    let instanceName ← copyString entry.instanceName cfg.name
    let serviceName ← copyString entry.serviceName srpServiceName
    let error ← otSrpClientAddService
      { port := UInt16.ofInt cfg.port, instanceName := instanceName, serviceName := serviceName }
    if error ≠ otErrorNone then
      -- The entry is not given back.
      return -1
    otSrpClientEnableAutoStartMode
    modify fun client => { client with otSrpInitDone := true }
    return 0

/-- `otDeviceRole`. -/
inductive DeviceRole
  | disabled
  | detached
  | child
  | router
  | leader
  deriving DecidableEq

def otChangedThreadRole : UInt32 := 4

structure StateChange where
  flags : UInt32
  role : DeviceRole
  deriving DecidableEq

/-- `on_thread_state_changed`. -/
def onThreadStateChanged (cfg : EsphomeConfig) (change : StateChange) : Exec SrpClient Unit := do
  if change.flags &&& otChangedThreadRole ≠ 0 then
    match change.role with
    | .child | .router | .leader =>
      let _ ← otSrpInit cfg
    | .disabled | .detached => return ()

namespace SrpClient

def hostError (client : SrpClient) : OtError := client.errors.headD otErrorNone

def addressError (client : SrpClient) : OtError := client.errors.tail.headD otErrorNone

def serviceError (client : SrpClient) : OtError := client.errors.tail.tail.headD otErrorNone

structure Attempts (client : SrpClient) : Prop where
  fresh : client.otSrpInitDone = false
  found : client.instances.headD true = true

structure Allocates (client : SrpClient) : Prop extends Attempts client where
  named : client.hostError = otErrorNone
  addressed : client.addressError = otErrorNone

def lookedUp (client : SrpClient) : SrpClient := { client with instances := client.instances.tail }

def hosted (client : SrpClient) (host : Buffer) : SrpClient :=
  { client.lookedUp.told .setCallback with hostName := host }.asked (.setHostName host)

def located (client : SrpClient) (host : Buffer) : SrpClient :=
  (client.hosted host).asked .enableAutoHostAddress

def allocated (client : SrpClient) (host : Buffer) (pool : List ServiceEntry) : SrpClient :=
  { (client.located host).told (.allocateService true) with
    pool := pool
    taken := client.taken + 1 }

def offered (client : SrpClient) (host : Buffer) (pool : List ServiceEntry)
    (entry : ServiceEntry) : SrpClient :=
  (client.allocated host pool).asked (.addService entry)

def announced (client : SrpClient) (host : Buffer) (pool : List ServiceEntry)
    (entry : ServiceEntry) : SrpClient :=
  { (client.offered host pool entry).told .enableAutoStartMode with
    services := client.services ++ [entry]
    otSrpInitDone := true }

section Calls

variable (client : SrpClient) (host : Buffer) (pool : List ServiceEntry) (entry : ServiceEntry)

theorem calls_hosted : (client.hosted host).calls =
    client.calls ++ [.setCallback, .setHostName host client.hostError] :=
  List.append_assoc _ _ _

theorem calls_located : (client.located host).calls =
    client.calls ++ [.setCallback, .setHostName host client.hostError,
      .enableAutoHostAddress client.addressError] := by
  have said : (client.located host).calls =
      (client.hosted host).calls ++ [.enableAutoHostAddress client.addressError] := rfl
  rw [said, calls_hosted, List.append_assoc]
  rfl

theorem calls_offered : (client.offered host pool entry).calls =
    client.calls ++ [.setCallback, .setHostName host client.hostError,
      .enableAutoHostAddress client.addressError, .allocateService true,
      .addService entry client.serviceError] := by
  have said : (client.offered host pool entry).calls =
      (client.located host).calls ++ [.allocateService true] ++
        [.addService entry client.serviceError] := rfl
  rw [said, calls_located, List.append_assoc, List.append_assoc]
  rfl

theorem calls_announced : (client.announced host pool entry).calls =
    client.calls ++ [.setCallback, .setHostName host client.hostError,
      .enableAutoHostAddress client.addressError, .allocateService true,
      .addService entry client.serviceError, .enableAutoStartMode] := by
  have said : (client.announced host pool entry).calls =
      (client.offered host pool entry).calls ++ [.enableAutoStartMode] := rfl
  rw [said, calls_offered, List.append_assoc]
  rfl

end Calls

end SrpClient

/-- `filled` is the entry with the port and the strings of the device. -/
structure Filled (cfg : EsphomeConfig) (entry filled : ServiceEntry) : Prop where
  port : filled.port = UInt16.ofInt cfg.port
  instanceName : entry.instanceName.Copied cfg.name filled.instanceName
  serviceName : entry.serviceName.Copied srpServiceName filled.serviceName

section Course

open SrpClient

variable (cfg : EsphomeConfig) (client : SrpClient)

/-- How `ot_srp_init` can end: its result, and the client that it leaves. -/
inductive Course : Int → SrpClient → Prop
  | already (done : client.otSrpInitDone = true) : Course 0 client
  | noInstance (fresh : client.otSrpInitDone = false)
      (missing : client.instances.headD true = false) : Course (-enodev) client.lookedUp
  | hostRefused {host : Buffer} (attempts : client.Attempts)
      (copied : client.hostName.Copied cfg.name host)
      (refused : client.hostError ≠ otErrorNone) : Course (-1) (client.hosted host)
  | addressRefused {host : Buffer} (attempts : client.Attempts)
      (copied : client.hostName.Copied cfg.name host) (named : client.hostError = otErrorNone)
      (refused : client.addressError ≠ otErrorNone) : Course (-1) (client.located host)
  | noEntry {host : Buffer} (allocates : client.Allocates)
      (copied : client.hostName.Copied cfg.name host) (empty : client.pool = []) :
      Course (-1) ((client.located host).told (.allocateService false))
  | serviceRefused {host : Buffer} {entry filled : ServiceEntry} {pool : List ServiceEntry}
      (allocates : client.Allocates) (copied : client.hostName.Copied cfg.name host)
      (left : client.pool = entry :: pool) (full : Filled cfg entry filled)
      (refused : client.serviceError ≠ otErrorNone) : Course (-1) (client.offered host pool filled)
  | announced {host : Buffer} {entry filled : ServiceEntry} {pool : List ServiceEntry}
      (allocates : client.Allocates) (copied : client.hostName.Copied cfg.name host)
      (left : client.pool = entry :: pool) (full : Filled cfg entry filled)
      (added : client.serviceError = otErrorNone) : Course 0 (client.announced host pool filled)

end Course

theorem run_copyString (dest : Buffer) (src : CString) (client : SrpClient) :
    ∃ filled, (copyString dest src).run client = .ok filled client ∧ dest.Copied src filled := by
  obtain ⟨filled, memcpy, copied⟩ := dest.memcpy_string src
  refine ⟨filled, ?_, copied⟩
  have fits : min dest.size.toNat (strlen src + 1) < 2 ^ 16 :=
    Nat.lt_of_le_of_lt (Nat.min_le_left _ _) dest.size.toNat_lt
  have size : (UInt16.ofNat (min dest.size.toNat (strlen src + 1))).toNat =
      min dest.bytes.length (strlen src + 1) := by
    rw [UInt16.toNat_ofNat', Nat.mod_eq_of_lt fits, dest.size_toNat]
  rw [copyString]
  rw [size, memcpy]
  rfl

theorem run_allocate_none {client : SrpClient} (empty : client.pool = []) :
    otSrpClientBuffersAllocateService.run client =
      .ok none (client.told (.allocateService false)) := by
  rw [otSrpClientBuffersAllocateService, EStateM.run_modifyGet, empty]

theorem run_allocate_some {client : SrpClient} {entry : ServiceEntry} {pool : List ServiceEntry}
    (left : client.pool = entry :: pool) :
    otSrpClientBuffersAllocateService.run client = .ok (some entry)
      { client.told (.allocateService true) with pool := pool, taken := client.taken + 1 } := by
  rw [otSrpClientBuffersAllocateService, EStateM.run_modifyGet, left]

theorem run_addService_refused {client : SrpClient} (entry : ServiceEntry)
    (refused : client.answer ≠ otErrorNone) :
    (otSrpClientAddService entry).run client =
      .ok client.answer (client.asked (.addService entry)) := by
  have asked : (ask (.addService entry)).run client =
      .ok client.answer (client.asked (.addService entry)) := rfl
  rw [otSrpClientAddService, run_bind_ok _ asked, if_neg refused]
  rfl

theorem run_addService_added {client : SrpClient} (entry : ServiceEntry)
    (added : client.answer = otErrorNone) :
    (otSrpClientAddService entry).run client = .ok client.answer
      { client.asked (.addService entry) with services := client.services ++ [entry] } := by
  have asked : (ask (.addService entry)).run client =
      .ok client.answer (client.asked (.addService entry)) := rfl
  rw [otSrpClientAddService, run_bind_ok _ asked, if_pos added]
  rfl

theorem otSrpInit_course (cfg : EsphomeConfig) (client : SrpClient) :
    ∃ ret next, (otSrpInit cfg).run client = .ok ret next ∧ Course cfg client ret next := by
  rw [otSrpInit, run_bind_ok _ (run_get client)]
  by_cases done : client.otSrpInitDone = true
  · rw [if_pos done]
    exact ⟨0, client, rfl, .already done⟩
  rw [if_neg done]
  have fresh : client.otSrpInitDone = false := Bool.eq_false_iff.mpr done
  have lookup : openthreadGetDefaultInstance.run client =
      .ok (client.instances.headD true) client.lookedUp := rfl
  rw [run_bind_ok _ lookup]
  by_cases missing : client.instances.headD true = false
  · rw [if_pos missing]
    exact ⟨-enodev, client.lookedUp, rfl, .noInstance fresh missing⟩
  rw [if_neg missing]
  have attempts : client.Attempts := ⟨fresh, Bool.ne_false_iff.mp missing⟩
  have callback : otSrpClientSetCallback.run client.lookedUp =
      .ok () (client.lookedUp.told .setCallback) := rfl
  obtain ⟨host, copies, copied⟩ := run_copyString (client.lookedUp.told .setCallback).hostName
    cfg.name (client.lookedUp.told .setCallback)
  rw [run_bind_ok _ callback, run_bind_ok _ (run_get _), run_bind_ok _ copies]
  have hosted : (modify fun client => { client with hostName := host } :
      Exec SrpClient PUnit).run (client.lookedUp.told .setCallback) =
      .ok () { client.lookedUp.told .setCallback with hostName := host } := rfl
  have asked : otSrpClientSetHostName.run
      { client.lookedUp.told .setCallback with hostName := host } =
      .ok client.hostError (client.hosted host) := rfl
  rw [run_bind_ok _ hosted, run_bind_ok _ asked]
  by_cases refused : client.hostError ≠ otErrorNone
  · rw [if_pos refused]
    exact ⟨-1, client.hosted host, rfl, .hostRefused attempts copied refused⟩
  rw [if_neg refused]
  have named : client.hostError = otErrorNone := Decidable.of_not_not refused
  have located : otSrpClientEnableAutoHostAddress.run (client.hosted host) =
      .ok client.addressError (client.located host) := rfl
  rw [run_bind_ok _ located]
  by_cases refused : client.addressError ≠ otErrorNone
  · rw [if_pos refused]
    exact ⟨-1, client.located host, rfl, .addressRefused attempts copied named refused⟩
  rw [if_neg refused]
  have allocates : client.Allocates := ⟨attempts, named, Decidable.of_not_not refused⟩
  cases left : client.pool with
  | nil =>
    have none : (client.located host).pool = [] := left
    rw [run_bind_ok _ (run_allocate_none none)]
    exact ⟨-1, _, rfl, .noEntry allocates copied left⟩
  | cons entry pool =>
    have allocate : otSrpClientBuffersAllocateService.run (client.located host) =
        .ok (some entry) (client.allocated host pool) := run_allocate_some left
    rw [run_bind_ok _ allocate]
    dsimp only
    obtain ⟨instanceName, copies, first⟩ :=
      run_copyString entry.instanceName cfg.name (client.allocated host pool)
    rw [run_bind_ok _ copies]
    obtain ⟨serviceName, copies, second⟩ :=
      run_copyString entry.serviceName srpServiceName (client.allocated host pool)
    rw [run_bind_ok _ copies]
    have full : Filled cfg entry ⟨UInt16.ofInt cfg.port, instanceName, serviceName⟩ :=
      ⟨rfl, first, second⟩
    have error : (client.allocated host pool).answer = client.serviceError := rfl
    by_cases refused : client.serviceError ≠ otErrorNone
    · rw [run_bind_ok _ (run_addService_refused _ (error ▸ refused)), error, if_pos refused]
      exact ⟨-1, _, rfl, .serviceRefused allocates copied left full refused⟩
    · have added : client.serviceError = otErrorNone := Decidable.of_not_not refused
      rw [run_bind_ok _ (run_addService_added _ (error ▸ added)), error, if_neg refused]
      exact ⟨0, _, rfl, .announced allocates copied left full added⟩

end ZephyrEsphome.OpenThread
