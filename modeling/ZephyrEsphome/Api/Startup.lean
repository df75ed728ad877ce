/- Digest: The init functions of the device, in whatever order the kernel runs them, and the service.

   All devices of the component are initialised at one level and with one priority, so the order of
   their init functions is that of the linker. The threads start after the last one. -/

import ZephyrEsphome.Api.Keys
import ZephyrEsphome.Api.Server
import ZephyrEsphome.Switch.Boot

set_option autoImplicit false
set_option relaxedAutoImplicit false

namespace ZephyrEsphome.Api.Startup

open Kernel
open Library.Exec
open Replies (held)
open Rpc
open Rpc.Conversation (Client)
open Sensor (deviceInitTemperature esphomeSensorInit)
open Server
open Switch
open Switch.Boot (gpioInit_low gpioInit_returns hbridgeInit_returns run_init)
open Switch.Holding (Clear gpioSwitchInit_unknown hbridgeInit_unknown)

/-- A device that the kernel initialises. -/
inductive Initialisable
  | api
  | component (dev : Device)
  deriving DecidableEq

section Initialisation

variable (charSigned : Bool) (ready : Nat → Bool)

/-- `esphome_init`. -/
def esphomeInit : Exec Node Int := do
  let _ ← esphomeEntityInit charSigned
  return 0

/-- The init function of the device; `ready` are the sensors under the temperature sensors. -/
def deviceInit : Initialisable → Exec Node Int
  | .api => esphomeInit charSigned
  | .component dev =>
    match dev.compatible with
    | .switchGpio => onSwitchGpio dev.inst GpioSwitch.esphomeGpioSwitchInit
    | .switchHbridge => onSwitchHbridge dev.inst Hbridge.esphomeSwitchHbridgeInit
    | .buttonTemplate => return 0
    | .sensorTemperature =>
      onSensorTemperature dev.inst (esphomeSensorInit (some (deviceInitTemperature (ready dev.inst))))
    | .sensorTimestamp => onSensorTimestamp dev.inst (esphomeSensorInit none)

def startup : List Initialisable → Exec Node (List Initialisable)
  | [] => return []
  | device :: later => do
    let ret ← deviceInit charSigned ready device
    let rest ← startup later
    return if ret = 0 then device :: rest else rest

def Succeeds (s : Node) : Initialisable → Prop
  | .api => True
  | .component dev =>
    match dev.compatible with
    | .switchGpio => Clear (s.switchGpio dev.inst).gpio.outcomes 1
    | .switchHbridge => Clear (s.switchHbridge dev.inst).gpio.outcomes 2
    | .sensorTemperature => ready dev.inst = true
    | _ => True

instance (s : Node) : (device : Initialisable) → Decidable (Succeeds ready s device)
  | .api => .isTrue trivial
  | .component ⟨.switchGpio, inst⟩ =>
    inferInstanceAs (Decidable (Clear (s.switchGpio inst).gpio.outcomes 1))
  | .component ⟨.switchHbridge, inst⟩ =>
    inferInstanceAs (Decidable (Clear (s.switchHbridge inst).gpio.outcomes 2))
  | .component ⟨.sensorTemperature, inst⟩ => inferInstanceAs (Decidable (ready inst = true))
  | .component ⟨.buttonTemplate, _⟩ => .isTrue trivial
  | .component ⟨.sensorTimestamp, _⟩ => .isTrue trivial

def keyed (entities : List Entity) : List Entity :=
  entities.map fun entity => { entity with key := fnv1Hash charSigned entity.config.objectId }

def started (devices : List Initialisable) (s : Node) : Node :=
  { s with
    entities := if .api ∈ devices then keyed charSigned s.entities else s.entities
    switchGpio := fun inst =>
      if .component ⟨.switchGpio, inst⟩ ∈ devices then
        final (GpioSwitch.esphomeGpioSwitchInit.run (s.switchGpio inst))
      else s.switchGpio inst
    switchHbridge := fun inst =>
      if .component ⟨.switchHbridge, inst⟩ ∈ devices then
        final (Hbridge.esphomeSwitchHbridgeInit.run (s.switchHbridge inst))
      else s.switchHbridge inst }

end Initialisation

section Order

variable (charSigned : Bool) (ready : Nat → Bool)

theorem started_ext {s : Node} {entities entities' : List Entity} {gpio gpio' : Nat → GpioSwitch}
    {hbridge hbridge' : Nat → Hbridge} (e : entities = entities') (g : gpio = gpio')
    (h : hbridge = hbridge') :
    ({ s with entities := entities, switchGpio := gpio, switchHbridge := hbridge } : Node) =
      { s with entities := entities', switchGpio := gpio', switchHbridge := hbridge' } := by
  subst e g h
  rfl

theorem started_cons {device : Initialisable} {later : List Initialisable} (other : device ∉ later)
    (s : Node) :
    started charSigned later (started charSigned [device] s) =
      started charSigned (device :: later) s := by
  unfold started
  apply started_ext
  · by_cases first : .api = device
    · subst first
      simp [other]
    · simp [first]
  · funext inst
    by_cases first : .component ⟨.switchGpio, inst⟩ = device
    · subst first
      simp [other]
    · simp [first]
  · funext inst
    by_cases first : .component ⟨.switchHbridge, inst⟩ = device
    · subst first
      simp [other]
    · simp [first]

theorem started_singleton {device : Initialisable} {s : Node} {entities : List Entity}
    {gpio : Nat → GpioSwitch} {hbridge : Nat → Hbridge}
    (e : entities = if .api = device then keyed charSigned s.entities else s.entities)
    (g : ∀ inst, gpio inst = if .component ⟨.switchGpio, inst⟩ = device then
      final (GpioSwitch.esphomeGpioSwitchInit.run (s.switchGpio inst)) else s.switchGpio inst)
    (h : ∀ inst, hbridge inst = if .component ⟨.switchHbridge, inst⟩ = device then
      final (Hbridge.esphomeSwitchHbridgeInit.run (s.switchHbridge inst)) else s.switchHbridge inst) :
    started charSigned [device] s =
      { s with entities := entities, switchGpio := gpio, switchHbridge := hbridge } := by
  obtain rfl := e
  obtain rfl := funext g
  obtain rfl := funext h
  simp only [started, List.mem_singleton]

theorem started_idle {compatible : Compatible} (gpio : compatible ≠ .switchGpio)
    (hbridge : compatible ≠ .switchHbridge) (inst : Nat) (s : Node) :
    started charSigned [.component ⟨compatible, inst⟩] s = s := by
  apply started_singleton
  · rw [if_neg nofun]
  · intro inst
    rw [if_neg]
    rintro ⟨⟩
    exact gpio rfl
  · intro inst
    rw [if_neg]
    rintro ⟨⟩
    exact hbridge rfl

theorem started_nil (s : Node) : started charSigned [] s = s := by
  simp only [started, List.not_mem_nil, if_false]

theorem run_deviceInit (device : Initialisable) (s : Node) :
    ∃ ret, (deviceInit charSigned ready device).run s = .ok ret (started charSigned [device] s) ∧
      (ret = 0 ↔ Succeeds ready s device) := by
  cases device with
  | api =>
    refine ⟨0, ?_, iff_of_true rfl trivial⟩
    rw [@started_singleton charSigned .api s (keyed charSigned s.entities) s.switchGpio
      s.switchHbridge (if_pos rfl).symm (fun _ => (if_neg nofun).symm)
      (fun _ => (if_neg nofun).symm)]
    rfl
  | component dev =>
    obtain ⟨compatible, inst⟩ := dev
    cases compatible with
    | switchGpio =>
      obtain ⟨ret, next, init, zero, -⟩ := gpioInit_returns (s.switchGpio inst)
      refine ⟨ret, ?_, zero⟩
      rw [@started_singleton charSigned (.component ⟨.switchGpio, inst⟩) s s.entities
        (Function.update s.switchGpio inst next) s.switchHbridge (if_neg nofun).symm ?_
        (fun _ => (if_neg (by rintro ⟨⟩)).symm)]
      · exact run_zoom_ok _ init
      · intro inst'
        by_cases same : inst' = inst
        · subst same
          rw [if_pos rfl, init, Function.update_self, final_ok]
        · rw [Function.update_of_ne same, if_neg]
          rintro ⟨⟩
          exact same rfl
    | switchHbridge =>
      obtain ⟨ret, next, init, zero, -⟩ := hbridgeInit_returns (s.switchHbridge inst)
      refine ⟨ret, ?_, zero⟩
      rw [@started_singleton charSigned (.component ⟨.switchHbridge, inst⟩) s s.entities
        s.switchGpio (Function.update s.switchHbridge inst next) (if_neg nofun).symm
        (fun _ => (if_neg (by rintro ⟨⟩)).symm) ?_]
      · exact run_zoom_ok _ init
      · intro inst'
        by_cases same : inst' = inst
        · subst same
          rw [if_pos rfl, init, Function.update_self, final_ok]
        · rw [Function.update_of_ne same, if_neg]
          rintro ⟨⟩
          exact same rfl
    | buttonTemplate =>
      refine ⟨0, ?_, iff_of_true rfl trivial⟩
      rw [started_idle charSigned (by decide) (by decide)]
      rfl
    | sensorTemperature =>
      rw [started_idle charSigned (by decide) (by decide)]
      have same : Function.update s.sensorTemperature inst (s.sensorTemperature inst) =
        s.sensorTemperature := Function.update_eq_self _ _
      cases known : ready inst with
      | true =>
        refine ⟨0, run_zoom_same ?_ ?_, iff_of_true rfl known⟩
        · rw [esphomeSensorInit, known]
          rfl
        · rw [same]
      | false =>
        refine ⟨-enodev, run_zoom_same ?_ ?_, iff_of_false (by decide) ?_⟩
        · rw [esphomeSensorInit, known]
          rfl
        · rw [same]
        · show ¬ ready inst = true
          rw [known]
          exact Bool.false_ne_true
    | sensorTimestamp =>
      rw [started_idle charSigned (by decide) (by decide)]
      have same : Function.update s.sensorTimestamp inst (s.sensorTimestamp inst) =
        s.sensorTimestamp := Function.update_eq_self _ _
      have init : (deviceInit charSigned ready (.component ⟨.sensorTimestamp, inst⟩)).run s = .ok 0
        { s with sensorTimestamp :=
            Function.update s.sensorTimestamp inst (s.sensorTimestamp inst) } := rfl
      rw [same] at init
      exact ⟨0, init, iff_of_true rfl trivial⟩

theorem succeeds_started {device other : Initialisable} (apart : other ≠ device) (s : Node) :
    Succeeds ready (started charSigned [device] s) other ↔ Succeeds ready s other := by
  cases other with
  | api => exact Iff.rfl
  | component dev =>
    obtain ⟨compatible, inst⟩ := dev
    cases compatible with
    | switchGpio =>
      simp only [Succeeds, started, List.mem_singleton, if_neg apart]
    | switchHbridge =>
      simp only [Succeeds, started, List.mem_singleton, if_neg apart]
    | buttonTemplate => exact Iff.rfl
    | sensorTemperature => exact Iff.rfl
    | sensorTimestamp => exact Iff.rfl

theorem run_startup {order : List Initialisable} (once : order.Nodup) : ∀ s : Node,
    (startup charSigned ready order).run s =
      .ok (order.filter fun device => Succeeds ready s device) (started charSigned order s) := by
  induction order with
  | nil =>
    intro s
    rw [started_nil]
    rfl
  | cons device later ih =>
    intro s
    obtain ⟨other, once'⟩ := List.nodup_cons.mp once
    obtain ⟨ret, init, zero⟩ := run_deviceInit charSigned ready device s
    have rest := ih once' (started charSigned [device] s)
    have same : (later.filter fun device' => Succeeds ready (started charSigned [device] s) device') =
        later.filter fun device' => Succeeds ready s device' := by
      apply List.filter_congr
      intro device' member
      rw [decide_eq_decide]
      exact succeeds_started charSigned ready (ne_of_mem_of_not_mem member other) s
    rw [same, started_cons charSigned other] at rest
    rw [startup, run_bind_ok _ init, run_bind_ok _ rest, List.filter_cons]
    by_cases done : ret = 0
    · rw [if_pos done, if_pos (decide_eq_true (zero.mp done))]
      rfl
    · rw [if_neg done, if_neg (by simpa using mt zero.mpr done)]
      rfl

def lowActive (dev : Device) (s : Node) : Bool :=
  match dev.compatible with
  | .switchGpio => (s.switchGpio dev.inst).gpio.activeLow ()
  | .switchHbridge =>
    (s.switchHbridge dev.inst).gpio.activeLow .onPin ||
      (s.switchHbridge dev.inst).gpio.activeLow .offPin
  | _ => false

theorem started_held {order : List Initialisable} {dev : Device} (switch : dev.kind = .switch)
    (member : .component dev ∈ order) (s : Node) :
    held dev (started charSigned order s) =
      if Succeeds ready s (.component dev) then -einval else held dev s := by
  obtain ⟨compatible, inst⟩ := dev
  rcases Replies.switch_cases switch with rfl | rfl
  · obtain ⟨ret, next, init, -, state⟩ := gpioInit_returns (s.switchGpio inst)
    have after : (started charSigned order s).switchGpio inst = next := by
      show (if _ then _ else _) = _
      rw [if_pos member, init, final_ok]
    show ((started charSigned order s).switchGpio inst).state = _
    rw [after, state]
    rfl
  · obtain ⟨ret, next, init, -, state⟩ := hbridgeInit_returns (s.switchHbridge inst)
    have after : (started charSigned order s).switchHbridge inst = next := by
      show (if _ then _ else _) = _
      rw [if_pos member, init, final_ok]
    show ((started charSigned order s).switchHbridge inst).state = _
    rw [after, state]
    rfl

theorem started_perm {order other : List Initialisable} (same : other.Perm order) (s : Node) :
    started charSigned other s = started charSigned order s := by
  unfold started
  simp only [same.mem_iff]

/-- The order of the init functions changes nothing. The entities have their keys; a switch is in no
known state, or it holds what it did before where its init function met an error. -/
theorem startup_any_order {order : List Initialisable} (once : order.Nodup) (s : Node) :
    ∃ t, (∀ other, other.Perm order → (startup charSigned ready other).run s =
        .ok (other.filter fun device => Succeeds ready s device) t) ∧
      (.api ∈ order → t.entities = keyed charSigned s.entities) ∧
      ∀ dev : Device, dev.kind = .switch → .component dev ∈ order →
        held dev t = if Succeeds ready s (.component dev) then -einval else held dev s := by
  refine ⟨started charSigned order s, ?_, ?_, ?_⟩
  · intro other same
    rw [run_startup charSigned ready (same.nodup_iff.mpr once), started_perm charSigned same]
  · exact fun member => if_pos member
  · exact fun _ switch member => started_held charSigned ready switch member s

end Order

/-- `lamp_wchgda5`, a name whose hash is the key of the lamp. -/
def namedLamp : Entity :=
  Keys.named [0x6C, 0x61, 0x6D, 0x70, 0x5F, 0x77, 0x63, 0x68, 0x67, 0x64, 0x61, 0x35] 0

def switchedOn (outcomes : List (Option Failure)) : Node :=
  { freshNode none [namedLamp] [] with
    switchGpio := fun _ =>
      { gpio := { active := fun _ => false, activeLow := fun _ => false, outcomes := [], log := [] }
        state := 0 }
    switchHbridge := fun _ =>
      { gpio :=
          { active := fun _ => false, activeLow := fun _ => false, outcomes := outcomes, log := [] }
        waitTime := 1
        state := 0 } }

theorem startup_any_order_hindered :
    ∃ t, (startup true (fun _ => true)
        [.component ⟨.switchHbridge, 0⟩, .component ⟨.switchGpio, 0⟩, .api]).run
          (switchedOn [none, some ⟨-eio, neg_eio_negative⟩]) =
        .ok [.component ⟨.switchGpio, 0⟩, .api] t ∧
      (startup true (fun _ => true)
        [.api, .component ⟨.switchGpio, 0⟩, .component ⟨.switchHbridge, 0⟩]).run
          (switchedOn [none, some ⟨-eio, neg_eio_negative⟩]) =
        .ok [.api, .component ⟨.switchGpio, 0⟩] t ∧
      held ⟨.switchHbridge, 0⟩ t = 0 ∧ held ⟨.switchGpio, 0⟩ t = -einval := by
  obtain ⟨t, run, -, known⟩ := @startup_any_order true (fun _ => true)
    [.component ⟨.switchHbridge, 0⟩, .component ⟨.switchGpio, 0⟩, .api] (by decide)
    (switchedOn [none, some ⟨-eio, neg_eio_negative⟩])
  refine ⟨t, ?_, ?_, ?_, ?_⟩
  · exact run _ (List.Perm.refl _)
  · exact run [.api, .component ⟨.switchGpio, 0⟩, .component ⟨.switchHbridge, 0⟩] (by decide)
  · exact known ⟨.switchHbridge, 0⟩ rfl (by decide)
  · exact known ⟨.switchGpio, 0⟩ rfl (by decide)

def startPanel (order : List Initialisable) (s : Node) : Panel where
  shown dev := if dev.kind = .switch ∧ .component dev ∈ order then -einval else held dev s
  powered dev := if .component dev ∈ order then lowActive dev s else output dev s
  presses := s.buttonTemplate

section Service

variable {charSigned : Bool} {ready : Nat → Bool} {order : List Initialisable} {s : Node}

theorem started_switchGpio (inst : Nat) : (started charSigned order s).switchGpio inst =
    if .component ⟨.switchGpio, inst⟩ ∈ order then
      final (GpioSwitch.esphomeGpioSwitchInit.run (s.switchGpio inst))
    else s.switchGpio inst := rfl

theorem started_switchHbridge (inst : Nat) : (started charSigned order s).switchHbridge inst =
    if .component ⟨.switchHbridge, inst⟩ ∈ order then
      final (Hbridge.esphomeSwitchHbridgeInit.run (s.switchHbridge inst))
    else s.switchHbridge inst := rfl

theorem gpio_free (faultless : Faultless s) (inst : Nat) :
    (s.switchGpio inst).gpio.obstacle = none := by
  rw [Gpio.obstacle, faultless.gpio]
  rfl

theorem hbridge_clear (faultless : Faultless s) (inst calls : Nat) :
    Clear (s.switchHbridge inst).gpio.outcomes calls := by
  rw [faultless.hbridge]
  simp [Clear]

theorem started_faultless (faultless : Faultless s) : Faultless (started charSigned order s) where
  allocates := faultless.allocates
  accepts := faultless.accepts
  gpio inst := by
    rw [started_switchGpio]
    split
    · obtain ⟨next, init, -, left⟩ := gpioInit_low (gpio_free faultless inst)
      rw [init, final_ok, left, faultless.gpio]
      rfl
    · exact faultless.gpio inst
  hbridge inst := by
    rw [started_switchHbridge]
    split
    · obtain ⟨next, init, started⟩ := run_init (hbridge_clear faultless inst 2)
      rw [init, final_ok, started.outcomes, faultless.hbridge]
      rfl
    · exact faultless.hbridge inst

theorem startPanel_other {dev : Device} (other : dev.kind ≠ .switch) :
    (startPanel order s).shown dev = held dev s :=
  if_neg (mt And.left other)

theorem started_shown (faultless : Faultless s) (dev : Device) :
    held dev (started charSigned order s) = (startPanel order s).shown dev := by
  obtain ⟨compatible, inst⟩ := dev
  cases compatible with
  | switchGpio =>
    show ((started charSigned order s).switchGpio inst).state = if _ ∧ _ then _ else _
    rw [started_switchGpio]
    by_cases member : .component ⟨.switchGpio, inst⟩ ∈ order
    · obtain ⟨next, init, -, -⟩ := gpioInit_low (gpio_free faultless inst)
      rw [if_pos member, if_pos ⟨rfl, member⟩, init, final_ok]
      exact gpioSwitchInit_unknown init
    · rw [if_neg member, if_neg (mt And.right member)]
      rfl
  | switchHbridge =>
    show ((started charSigned order s).switchHbridge inst).state = if _ ∧ _ then _ else _
    rw [started_switchHbridge]
    by_cases member : .component ⟨.switchHbridge, inst⟩ ∈ order
    · obtain ⟨next, init, -⟩ := run_init (hbridge_clear faultless inst 2)
      rw [if_pos member, if_pos ⟨rfl, member⟩, init, final_ok]
      exact hbridgeInit_unknown init
    · rw [if_neg member, if_neg (mt And.right member)]
      rfl
  | buttonTemplate =>
    have other : EntityKind.button ≠ .switch := by decide
    exact (@startPanel_other order s ⟨.buttonTemplate, inst⟩ other).symm
  | sensorTemperature =>
    have other : EntityKind.sensor ≠ .switch := by decide
    exact (@startPanel_other order s ⟨.sensorTemperature, inst⟩ other).symm
  | sensorTimestamp =>
    have other : EntityKind.sensor ≠ .switch := by decide
    exact (@startPanel_other order s ⟨.sensorTimestamp, inst⟩ other).symm

theorem started_powered (faultless : Faultless s) (dev : Device) :
    output dev (started charSigned order s) = (startPanel order s).powered dev := by
  obtain ⟨compatible, inst⟩ := dev
  cases compatible with
  | switchGpio =>
    show ((started charSigned order s).switchGpio inst).gpio.active () = if _ then _ else _
    rw [started_switchGpio]
    split
    · obtain ⟨next, init, low, -⟩ := gpioInit_low (gpio_free faultless inst)
      rw [init, final_ok, low]
      rfl
    · rfl
  | switchHbridge =>
    show (((started charSigned order s).switchHbridge inst).gpio.active .onPin ||
      ((started charSigned order s).switchHbridge inst).gpio.active .offPin) = if _ then _ else _
    rw [started_switchHbridge]
    split
    · obtain ⟨next, init, started⟩ := run_init (hbridge_clear faultless inst 2)
      rw [init, final_ok, started.active, started.active]
      rfl
    · rfl
  | buttonTemplate => exact (ite_self _).symm
  | sensorTemperature => exact (ite_self _).symm
  | sensorTimestamp => exact (ite_self _).symm

theorem started_panel (faultless : Faultless s) :
    panelOf (started charSigned order s) = startPanel order s := by
  have shown := funext (@started_shown charSigned order s faultless)
  have powered := funext (@started_powered charSigned order s faultless)
  rw [panelOf, shown, powered]
  rfl

variable {pb : Protobuf} {unpack : Unpacker}

def boot (pb : Protobuf) (charSigned : Bool) (ready : Nat → Bool) (order : List Initialisable)
    (fuel : Nat) (connections : List (Option Connection)) : Exec Node Unit := do
  let _ ← startup charSigned ready order
  esphomeRpcService pb fuel connections

/-- From the start of the device on, in whatever order its init functions run: the service serves its
clients by the keys that are hashed from the names, and every switch begins in no known state with
its output at the low voltage. -/
theorem boot_serves (unpacks : Unpacks pb unpack) (small : Small pb) {fuel : Nat}
    {clients : List (Option Client)}
    (enough : ∀ client ∈ clients, ∀ c ∈ client, c.messages.length < fuel)
    (whole : ∀ client ∈ clients, ∀ c ∈ client, c.connection.tx.schedule = [])
    (once : order.Nodup) (registers : .api ∈ order) (faultless : Faultless s)
    {noticed : List Notice} {panel : Panel}
    (talk : serveClients pb unpack s.config (keyed charSigned s.entities) (startPanel order s)
      clients = some (noticed, panel)) :
    ∃ t, (boot pb charSigned ready order fuel (clients.map (·.map Client.connection))).run s =
        .ok () t ∧
      notices t = notices s ++ noticed ∧ panelOf t = panel := by
  have keys : (started charSigned order s).entities = keyed charSigned s.entities :=
    if_pos registers
  have panels := @started_panel charSigned order s faultless
  rw [← keys, ← panels] at talk
  obtain ⟨t, served, -, told, last⟩ :=
    clients_served unpacks small enough whole (started_faultless faultless) talk
  refine ⟨t, ?_, told, last⟩
  rw [boot, run_bind_ok _ (run_startup charSigned ready once s)]
  exact served

end Service

theorem namedLamp_key : keyed true [namedLamp] = [{ namedLamp with key := 0x04030201 }] := by
  have key : fnv1Hash true namedLamp.config.objectId = 0x04030201 := by decide +kernel
  rw [keyed, List.map_singleton, key]

theorem boot_serves_lamp :
    ∃ t, (boot lampProtobuf true (fun _ => true) [.component ⟨.switchGpio, 0⟩, .api] 3
        ([some (lampClient 4)].map (·.map Client.connection))).run (switchedOn []) = .ok () t ∧
      notices t = lampTold 4 ∧
      panelOf t =
        (startPanel [.component ⟨.switchGpio, 0⟩, .api] (switchedOn [])).set ⟨.switchGpio, 0⟩ 1 := by
  refine @boot_serves true (fun _ => true) [.component ⟨.switchGpio, 0⟩, .api] (switchedOn [])
    lampProtobuf unpackLamp (fun _ _ _ _ => rfl) lamp_small 3 [some (lampClient 4)] ?_ ?_
    (by decide) (by decide) ⟨rfl, rfl, fun _ => rfl, fun _ => rfl⟩ (lampTold 4) _ ?_
  · simp [lampClient, lampMessages]
  · simp [lampClient]
  · show serveClients _ _ _ (keyed true [namedLamp]) _ _ = _
    rw [namedLamp_key]
    rfl

end ZephyrEsphome.Api.Startup
