/- Digest: Which strings are handed to the SRP client with their terminators. -/

import ZephyrEsphome.OpenThread.Srp

set_option autoImplicit false
set_option relaxedAutoImplicit false

namespace ZephyrEsphome.OpenThread.Names

open Kernel
open Library.Exec
open SrpClient

def Terminated (cfg : EsphomeConfig) : SrpCall → Prop
  | .setHostName name _ => name.HoldsLongest cfg.name
  | .addService entry _ =>
    entry.instanceName.HoldsLongest cfg.name ∧ entry.serviceName.HoldsLongest srpServiceName
  | .setCallback | .enableAutoHostAddress _ | .allocateService _ | .enableAutoStartMode => True

/-- All calls of the initialisation hand over as much of each string as fits, with a terminator. -/
def StringsTerminated (cfg : EsphomeConfig) (client : SrpClient) : Prop :=
  ∀ call ∈ added SrpClient.calls client ((otSrpInit cfg).run client), Terminated cfg call

/-- The buffers that the initialisation gets to are longer than what it copies into them. -/
structure NamesFit (cfg : EsphomeConfig) (client : SrpClient) : Prop where
  hostName : client.Attempts → strlen cfg.name < client.hostName.bytes.length
  instanceName : client.Allocates → ∀ entry ∈ client.pool.head?,
    strlen cfg.name < entry.instanceName.bytes.length
  serviceName : client.Allocates → ∀ entry ∈ client.pool.head?,
    strlen srpServiceName < entry.serviceName.bytes.length

section Fitting

variable {cfg : EsphomeConfig} {client : SrpClient}

theorem namesFit_idle (idle : ¬ client.Attempts) : NamesFit cfg client where
  hostName attempts := absurd attempts idle
  instanceName allocates := absurd allocates.toAttempts idle
  serviceName allocates := absurd allocates.toAttempts idle

theorem namesFit_host (attempts : client.Attempts)
    (none : client.Allocates → client.pool.head? = none) :
    NamesFit cfg client ↔ strlen cfg.name < client.hostName.bytes.length := by
  have noEntry : client.Allocates → ∀ entry, entry ∉ client.pool.head? := by
    intro allocates entry head
    rw [none allocates] at head
    exact Option.not_mem_none entry head
  constructor
  · intro fit
    exact fit.hostName attempts
  · intro short
    exact
      { hostName := fun _ => short
        instanceName := fun allocates entry head => absurd head (noEntry allocates entry)
        serviceName := fun allocates entry head => absurd head (noEntry allocates entry) }

theorem namesFit_entry {entry : ServiceEntry} {pool : List ServiceEntry}
    (allocates : client.Allocates) (left : client.pool = entry :: pool) :
    NamesFit cfg client ↔ strlen cfg.name < client.hostName.bytes.length ∧
      strlen cfg.name < entry.instanceName.bytes.length ∧
      strlen srpServiceName < entry.serviceName.bytes.length := by
  have head : client.pool.head? = some entry := by rw [left, List.head?_cons]
  constructor
  · intro fit
    exact ⟨fit.hostName allocates.toAttempts, fit.instanceName allocates entry head,
      fit.serviceName allocates entry head⟩
  · rintro ⟨host, first, second⟩
    refine ⟨fun _ => host, ?_, ?_⟩
    · intro _ other head'
      obtain rfl := Option.some.inj (head.symm.trans head')
      exact first
    · intro _ other head'
      obtain rfl := Option.some.inj (head.symm.trans head')
      exact second

theorem terminated_setHostName {host : Buffer} (copied : client.hostName.Copied cfg.name host)
    (error : OtError) : Terminated cfg (.setHostName host error) ↔
      strlen cfg.name < client.hostName.bytes.length :=
  copied.holdsLongest_iff

theorem terminated_addService {entry filled : ServiceEntry} (full : Filled cfg entry filled)
    (error : OtError) : Terminated cfg (.addService filled error) ↔
      strlen cfg.name < entry.instanceName.bytes.length ∧
        strlen srpServiceName < entry.serviceName.bytes.length :=
  and_congr full.instanceName.holdsLongest_iff full.serviceName.holdsLongest_iff

end Fitting

/-- The strings are handed over with their terminators exactly if they are shorter than the buffers
that they are copied into. -/
theorem stringsTerminated_iff (cfg : EsphomeConfig) (client : SrpClient) :
    StringsTerminated cfg client ↔ NamesFit cfg client := by
  obtain ⟨ret, next, run, course⟩ := otSrpInit_course cfg client
  have news : ∀ new, next.calls = client.calls ++ new →
      (StringsTerminated cfg client ↔ ∀ call ∈ new, Terminated cfg call) := by
    intro new same
    rw [StringsTerminated, run, added, final_ok, same, List.drop_left]
  have silent : next.calls = client.calls → ¬ client.Attempts →
      (StringsTerminated cfg client ↔ NamesFit cfg client) := by
    intro same idle
    rw [news [] (same.trans (List.append_nil _).symm)]
    exact ⟨fun _ => namesFit_idle idle, fun _ call member => absurd member List.not_mem_nil⟩
  cases course with
  | already done =>
    exact silent rfl fun attempts => Bool.false_ne_true (attempts.fresh.symm.trans done)
  | noInstance fresh missing =>
    exact silent rfl fun attempts => Bool.false_ne_true (missing.symm.trans attempts.found)
  | @hostRefused host attempts copied refused =>
    have none : client.Allocates → client.pool.head? = none :=
      fun allocates => absurd allocates.named refused
    rw [news _ (client.calls_hosted host), namesFit_host attempts none,
      ← terminated_setHostName copied client.hostError]
    simp [Terminated]
  | @addressRefused host attempts copied named refused =>
    have none : client.Allocates → client.pool.head? = none :=
      fun allocates => absurd allocates.addressed refused
    rw [news _ (client.calls_located host), namesFit_host attempts none,
      ← terminated_setHostName copied client.hostError]
    simp [Terminated]
  | @noEntry host allocates copied empty =>
    have calls : ((client.located host).told (.allocateService false)).calls =
        client.calls ++ [.setCallback, .setHostName host client.hostError,
          .enableAutoHostAddress client.addressError, .allocateService false] := by
      rw [told, calls_located, List.append_assoc]
      rfl
    have none : client.Allocates → client.pool.head? = none := by
      intro _
      rw [empty, List.head?_nil]
    rw [news _ calls, namesFit_host allocates.toAttempts none,
      ← terminated_setHostName copied client.hostError]
    simp [Terminated]
  | @serviceRefused host entry filled pool allocates copied left full refused =>
    rw [news _ (client.calls_offered host pool filled), namesFit_entry allocates left,
      ← terminated_setHostName copied client.hostError,
      ← terminated_addService full client.serviceError]
    simp [Terminated]
  | @announced host entry filled pool allocates copied left full added =>
    rw [news _ (client.calls_announced host pool filled), namesFit_entry allocates left,
      ← terminated_setHostName copied client.hostError,
      ← terminated_addService full client.serviceError]
    simp [Terminated]

/-- A name that is as long as the buffer is handed over without a terminator. -/
theorem exact_fit_unterminated :
    ¬ ∀ (cfg : EsphomeConfig) (client : SrpClient), StringsTerminated cfg client := by
  intro always
  have terminated := always { name := .ofBytes [97], port := 6053 }
    (.boot [] [] (.single 0) []) (.setHostName (.single 97) otErrorNone) (by decide)
  exact absurd terminated.terminated (by decide)

end ZephyrEsphome.OpenThread.Names
