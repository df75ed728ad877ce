/- Digest: Which commands reach an entity of their own kind. -/

import ZephyrEsphome.Rpc.Handling

set_option autoImplicit false
set_option relaxedAutoImplicit false

namespace ZephyrEsphome.Api.Kinds

open Kernel
open Library.Exec
open Rpc
open Rpc.Handling

/-- `dev` is the device of an entity of this kind with this key. -/
def Registered (s : Node) (kind : EntityKind) (key : UInt32) (dev : Device) : Prop :=
  ∃ entity ∈ s.entities, entity.dev = dev ∧ entity.key = key ∧ dev.kind = kind

/-- Handling the command with `handler` calls into devices of such entities only, makes the call
`call` on one of them when there is one, and returns -ENODEV when there is none. -/
structure ReachesKind (kind : EntityKind) (key : UInt32) (call : Device → Event) (s : Node)
    (handler : Exec Node Int) : Prop where
  only : ∀ event ∈ added Node.events s (handler.run s), ∀ dev, event.callee = some dev →
    Registered s kind key dev
  reached : (∃ dev, Registered s kind key dev) →
    ∃ dev, Registered s kind key dev ∧ call dev ∈ added Node.events s (handler.run s)
  refused : (¬ ∃ dev, Registered s kind key dev) →
    (∃ t, handler.run s = .ok (-enodev) t) ∧
      ∀ event ∈ added Node.events s (handler.run s), event.callee = none

/-- The search for the key ends at an entity of this kind, if it finds one at all. -/
def FirstIsOfKind (s : Node) (kind : EntityKind) (key : UInt32) : Prop :=
  ∀ entity, s.entities.find? (·.key = key) = some entity → entity.dev.kind = kind

section Lookup

variable {s : Node} {kind : EntityKind} {key : UInt32}

theorem key_of_find {entity : Entity} (found : s.entities.find? (·.key = key) = some entity) :
    entity ∈ s.entities ∧ entity.key = key :=
  ⟨List.mem_of_find?_eq_some found, by simpa using List.find?_some found⟩

theorem not_registered {dev : Device} (absent : s.entities.find? (·.key = key) = none) :
    ¬ Registered s kind key dev := by
  rintro ⟨entity, member, -, same, -⟩
  have other := List.find?_eq_none.mp absent entity member
  exact other (decide_eq_true same)

theorem reachesKind_iff {call : Device → Event} {handler : Exec Node Int}
    (callee : ∀ dev, (call dev).callee = some dev)
    (absent : s.entities.find? (·.key = key) = none → handler.run s = .ok (-enodev) s)
    (present : ∀ entity, s.entities.find? (·.key = key) = some entity →
      call entity.dev ∈ added Node.events s (handler.run s) ∧
        ∀ event ∈ added Node.events s (handler.run s), ∀ dev, event.callee = some dev →
          dev = entity.dev) :
    ReachesKind kind key call s handler ↔ FirstIsOfKind s kind key := by
  constructor
  · intro reaches entity found
    obtain ⟨called, -⟩ := present entity found
    obtain ⟨-, -, -, -, same⟩ := reaches.only _ called entity.dev (callee entity.dev)
    exact same
  · intro first
    cases search : s.entities.find? (·.key = key) with
    | none =>
      have nothing : added Node.events s (handler.run s) = [] := by
        rw [absent search]
        exact List.drop_length
      refine ⟨?_, ?_, ?_⟩
      · intro event member
        rw [nothing] at member
        exact absurd member List.not_mem_nil
      · rintro ⟨dev, registered⟩
        exact absurd registered (not_registered search)
      · intro _
        refine ⟨⟨s, absent search⟩, ?_⟩
        intro event member
        rw [nothing] at member
        exact absurd member List.not_mem_nil
    | some entity =>
      obtain ⟨member, same⟩ := key_of_find search
      obtain ⟨called, only⟩ := present entity search
      have registered : Registered s kind key entity.dev :=
        ⟨entity, member, rfl, same, first entity search⟩
      refine ⟨?_, ?_, ?_⟩
      · intro event among dev callee
        rcases only event among dev callee with rfl
        exact registered
      · intro _
        exact ⟨entity.dev, registered, called⟩
      · intro none
        exact absurd ⟨entity.dev, registered⟩ none

end Lookup

def OnlyCalls (dev : Device) (event : Event) : Prop :=
  ∀ other, event.callee = some other → other = dev

theorem onlyCalls_device (dev : Device) : KeepsDevice (recording (OnlyCalls dev)) dev := by
  apply recording_device
  intro event called other callee
  exact Option.some.inj (callee.symm.trans called)

theorem onlyCalls_pack (dev : Device) (pb : Protobuf) (message : Outgoing) :
    Keeps (recording (OnlyCalls dev)) (pack pb message) := by
  apply recording_packedWrite
  intro socket frame ret other callee
  exact absurd callee nofun

section Commands

variable (pb : Protobuf) (s : Node)

theorem switchCommand_present {request : SwitchCommandRequest} {dev : Device}
    (present : findDeviceEntityByKey s.entities request.key = some dev) :
    .setState dev request.state ∈
        added Node.events s ((switchCommandRequestCb pb request).run s) ∧
      ∀ event ∈ added Node.events s ((switchCommandRequestCb pb request).run s),
        OnlyCalls dev event := by
  have device := onlyCalls_device dev
  rw [switchCommandRequestCb, run_bind_ok _ (run_get s), present]
  dsimp only
  have rest : ∀ _ : Int, Keeps (recording (OnlyCalls dev)) (do
      let read ← switchGetState dev
      switchStateResponseWrite pb ⟨request.key, read.2⟩) := by
    intro _
    apply keeps_bind device.getState
    intro read
    exact onlyCalls_pack dev pb _
  constructor
  · exact added_bind_left rest (setState_added dev request.state s)
  · intro event member
    exact mem_added ((keeps_bind (device.setState _) rest).final s) member

theorem buttonCommand_present {request : ButtonCommandRequest} {dev : Device}
    (present : findDeviceEntityByKey s.entities request.key = some dev) :
    .onPress dev ∈ added Node.events s ((buttonCommandRequestCb request).run s) ∧
      ∀ event ∈ added Node.events s ((buttonCommandRequestCb request).run s),
        OnlyCalls dev event := by
  have device := onlyCalls_device dev
  rw [buttonCommandRequestCb, run_bind_ok _ (run_get s), present]
  constructor
  · exact onPress_added dev s
  · intro event member
    exact mem_added (device.onPress.final s) member

/-- A command reaches an entity of its own kind exactly when the first entity with its key is of that
kind. -/
theorem commands_reach_kind_iff (switch : SwitchCommandRequest) (button : ButtonCommandRequest) :
    (ReachesKind .switch switch.key (.setState · switch.state) s (switchCommandRequestCb pb switch) ↔
      FirstIsOfKind s .switch switch.key) ∧
    (ReachesKind .button button.key .onPress s (buttonCommandRequestCb button) ↔
      FirstIsOfKind s .button button.key) := by
  constructor
  · apply reachesKind_iff
    · intro dev
      rfl
    · intro absent
      apply switchCommand_absent
      rw [findDeviceEntityByKey, absent]
      rfl
    · intro entity found
      apply switchCommand_present
      rw [findDeviceEntityByKey, found]
      rfl
  · apply reachesKind_iff
    · intro dev
      rfl
    · intro absent
      apply buttonCommand_absent
      rw [findDeviceEntityByKey, absent]
      rfl
    · intro entity found
      apply buttonCommand_present
      rw [findDeviceEntityByKey, found]
      rfl

end Commands

/-- An entity named `r`, before `esphome_entity_init`. -/
def namesake (compatible : Compatible) : Entity where
  dev := ⟨compatible, 0⟩
  config :=
    { objectId := CString.ofBytes [0x72]
      name := CString.ofBytes [0x72]
      uniqueId := CString.ofBytes []
      icon := none
      disabledByDefault := false
      entityCategory := 0
      deviceClass := CString.ofBytes [] }
  key := 0

/-- A device with a switch and a button of one name, after `esphome_entity_init`. -/
def namesakes : Node :=
  final ((esphomeEntityInit true).run
    (freshNode none [namesake .switchGpio, namesake .buttonTemplate] []))

theorem find_first (entity : Entity) (later : List Entity) :
    findDeviceEntityByKey (entity :: later) entity.key = some entity.dev := by
  simp [findDeviceEntityByKey]

/-- Pressing the button calls into the switch. -/
theorem press_reaches_switch :
    ¬ ∀ (charSigned : Bool) (boot s : Node) (button : ButtonCommandRequest),
      (esphomeEntityInit charSigned).run boot = .ok 0 s →
      ReachesKind .button button.key .onPress s (buttonCommandRequestCb button) := by
  intro reaches
  have reached := reaches true _ namesakes ⟨fnv1Hash true (CString.ofBytes [0x72])⟩ rfl
  have found : findDeviceEntityByKey namesakes.entities (fnv1Hash true (CString.ofBytes [0x72])) =
      some ⟨.switchGpio, 0⟩ := find_first _ _
  obtain ⟨called, -⟩ := @buttonCommand_present namesakes ⟨_⟩ _ found
  obtain ⟨-, -, -, -, kind⟩ := reached.only _ called _ rfl
  exact absurd kind (by decide)

end ZephyrEsphome.Api.Kinds
