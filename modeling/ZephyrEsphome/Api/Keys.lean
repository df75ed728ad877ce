/- Digest: When the key of an entity leads back to the entity. -/

import ZephyrEsphome.Api.Kinds
import ZephyrEsphome.Rpc.Release

set_option autoImplicit false
set_option relaxedAutoImplicit false

namespace ZephyrEsphome.Api.Keys

open Kernel
open Library.Exec
open Rpc
open Kinds

structure LeadsBack (pb : Protobuf) (s : Node) (entity : Entity) : Prop where
  found : findDeviceEntityByKey s.entities (entityConfigToResponse entity).key = some entity.dev
  switched : ∀ request : SwitchCommandRequest, request.key = (entityConfigToResponse entity).key →
    .setState entity.dev request.state ∈
        added Node.events s ((switchCommandRequestCb pb request).run s) ∧
      ∀ event ∈ added Node.events s ((switchCommandRequestCb pb request).run s),
        OnlyCalls entity.dev event
  pressed : ∀ request : ButtonCommandRequest, request.key = (entityConfigToResponse entity).key →
    .onPress entity.dev ∈ added Node.events s ((buttonCommandRequestCb request).run s) ∧
      ∀ event ∈ added Node.events s ((buttonCommandRequestCb request).run s),
        OnlyCalls entity.dev event

/-- Every key leads back. -/
def AllLeadBack (pb : Protobuf) (s : Node) : Prop :=
  ∀ entity ∈ s.entities, LeadsBack pb s entity

theorem leadsBack_iff {pb : Protobuf} {s : Node} {entity : Entity} :
    LeadsBack pb s entity ↔ findDeviceEntityByKey s.entities entity.key = some entity.dev := by
  constructor
  · intro leads
    exact leads.found
  · intro found
    refine ⟨found, ?_, ?_⟩
    · intro request same
      apply switchCommand_present
      rw [same]
      exact found
    · intro request same
      apply buttonCommand_present
      rw [same]
      exact found

theorem all_found_iff (entities : List Entity) :
    (∀ entity ∈ entities, findDeviceEntityByKey entities entity.key = some entity.dev) ↔
      ∀ entity ∈ entities, ∀ other ∈ entities, entity.key = other.key → entity.dev = other.dev := by
  constructor
  · intro found entity member other member' same
    have first := found entity member
    have second := found other member'
    rw [← same, first] at second
    exact Option.some.inj second
  · intro apart entity member
    unfold findDeviceEntityByKey
    cases search : entities.find? (·.key = entity.key) with
    | none =>
      have absent := List.find?_eq_none.mp search entity member
      exact absurd (decide_eq_true rfl) absent
    | some other =>
      have there := List.mem_of_find?_eq_some search
      have same : other.key = entity.key := by simpa using List.find?_some search
      rw [Option.map_some, apart other there entity member same]

theorem entityInit_entities {charSigned : Bool} {boot s : Node} {ret : Int}
    (init : (esphomeEntityInit charSigned).run boot = .ok ret s) :
    s.entities = boot.entities.map fun entity =>
      { entity with key := fnv1Hash charSigned entity.config.objectId } := by
  obtain ⟨-, rfl⟩ := EStateM.Result.ok.inj init
  rfl

/-- After `esphome_entity_init` every key leads back to its entity exactly when no two entities of
different devices have names with the same hash. -/
theorem keys_lead_back_iff (pb : Protobuf) {charSigned : Bool} {boot s : Node}
    (init : (esphomeEntityInit charSigned).run boot = .ok 0 s) :
    AllLeadBack pb s ↔
      ∀ entity ∈ boot.entities, ∀ other ∈ boot.entities,
        fnv1Hash charSigned entity.config.objectId = fnv1Hash charSigned other.config.objectId →
        entity.dev = other.dev := by
  have found := all_found_iff s.entities
  rw [entityInit_entities init] at found
  simp only [AllLeadBack, leadsBack_iff, entityInit_entities init]
  rw [found]
  simp only [List.forall_mem_map]

/-- An entity of a switch, before `esphome_entity_init`. -/
def named (name : List UInt8) (inst : Nat) : Entity :=
  { namesake .switchGpio with
    dev := ⟨.switchGpio, inst⟩
    config := { (namesake .switchGpio).config with objectId := CString.ofBytes name } }

/-- `east_led_98` -/
def eastLed : Entity :=
  named [0x65, 0x61, 0x73, 0x74, 0x5F, 0x6C, 0x65, 0x64, 0x5F, 0x39, 0x38] 0

/-- `tv_relay_53` -/
def tvRelay : Entity :=
  named [0x74, 0x76, 0x5F, 0x72, 0x65, 0x6C, 0x61, 0x79, 0x5F, 0x35, 0x33] 1

theorem one_hash : fnv1Hash true eastLed.config.objectId = fnv1Hash true tvRelay.config.objectId ∧
    eastLed.config.objectId ≠ tvRelay.config.objectId := by
  decide +kernel

/-- A device with both of them leads the key of the second one to the first one. -/
theorem key_leads_astray :
    ¬ ∀ (pb : Protobuf) (charSigned : Bool) (boot s : Node),
      (boot.entities.map fun entity => entity.config.objectId).Nodup →
      (esphomeEntityInit charSigned).run boot = .ok 0 s → AllLeadBack pb s := by
  intro always
  have apart : ([eastLed, tvRelay].map fun entity => entity.config.objectId).Nodup := by
    simp [one_hash.2]
  let second : Entity := { tvRelay with key := fnv1Hash true tvRelay.config.objectId }
  have leads : LeadsBack Release.silent _ second :=
    always Release.silent true (freshNode none [eastLed, tvRelay] []) _ apart rfl second
      (List.mem_cons_of_mem _ List.mem_cons_self)
  have first : findDeviceEntityByKey
      [{ eastLed with key := fnv1Hash true eastLed.config.objectId }, second] second.key =
        some eastLed.dev := by
    have same : fnv1Hash true eastLed.config.objectId = second.key := one_hash.1
    rw [← same]
    exact find_first _ _
  exact absurd (first.symm.trans leads.found) (by decide)

theorem keys_lead_back_iff_apart :
    AllLeadBack Release.silent (final ((esphomeEntityInit true).run
      (freshNode none [named [0x61] 0, named [0x62] 1] []))) := by
  apply (keys_lead_back_iff Release.silent rfl).mpr
  decide +kernel

end ZephyrEsphome.Api.Keys
