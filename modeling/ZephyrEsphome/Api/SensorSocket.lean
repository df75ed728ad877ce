/- Digest: To which descriptors the sensor thread sends while connections come and go. -/

import ZephyrEsphome.Api.Kinds
import ZephyrEsphome.Library.Transition
import ZephyrEsphome.Rpc.Release

set_option autoImplicit false
set_option relaxedAutoImplicit false

namespace ZephyrEsphome.Api.SensorSocket

open Kernel
open Library.Exec
open Library.Transition
open Rpc
open Rpc.Handling
open Rpc.Writing (frameOf packedWrite_refused packedWrite_sends)
open Sensor (TemperatureSensor)

inductive Holder
  /-- A connection of `esphome_rpc_service`. -/
  | api
  /-- A connection of `esphome_ota_service`. -/
  | ota
  /-- A listening socket, or a file of the application. -/
  | other
  deriving DecidableEq

/-- Where `esphome_rpc_service` is: at `zsock_accept`, in its inner loop, or at the close after. -/
inductive Phase
  | accepting
  | serving
  | closing
  deriving DecidableEq

structure System where
  /-- The state of the device, with `rpc_data->socket`. -/
  node : Node
  phase : Phase
  /-- The variable `socket` of `esphome_ota_service` while its connection is open. -/
  ota : Option Int
  /-- The open descriptors. -/
  table : Int → Option Holder
  /-- The descriptor of the connection that `esphome_rpc_service` accepted last. -/
  latest : Option Int

inductive Move
  | accept (connection : Connection)
  | acceptFails
  | serve
  | close
  | otaAccept (socket : Int)
  | otaClose
  | tick

def System.Unused (s : System) (socket : Int) : Prop :=
  0 ≤ socket ∧ s.table socket = none

instance (s : System) (socket : Int) : Decidable (s.Unused socket) := by
  unfold System.Unused
  infer_instance

/-- The sensors, as `STRUCT_SECTION_FOREACH(esphome_sensor_entity, sensor)` goes through them. -/
def sensors (entities : List Entity) : List Entity :=
  entities.filter (·.dev.kind = .sensor)

section Moves

variable (pb : Protobuf) (fuel : Nat)

/-- One round of the loop of `esphome_sensor_service`. -/
def esphomeSensorRound : Exec Node Unit := do
  forM (sensors (← get).entities) (esphomeSensorSendState pb)

def step (s : System) : Move → Option System
  | .accept connection =>
    if s.phase = .accepting ∧ s.Unused connection.socket then
      some { s with
        node := s.node.accept connection
        phase := .serving
        table := Function.update s.table connection.socket (some .api)
        latest := some connection.socket }
    else none
  | .acceptFails =>
    if s.phase = .accepting then some { s with node := { s.node with socket := -1 } } else none
  | .serve =>
    if s.phase = .serving then
      match (esphomeReadRequest pb fuel).run s.node with
      | .ok ret node =>
        some { s with node := node, phase := if ret = 0 then .serving else .closing }
      | .error _ _ => none
    else none
  | .close =>
    if s.phase = .closing then
      some { s with
        node := { s.node with events := s.node.events ++ [.closed s.node.socket] }
        phase := .accepting
        table := Function.update s.table s.node.socket none }
    else none
  | .otaAccept socket =>
    if s.ota = none ∧ s.Unused socket then
      some { s with ota := some socket, table := Function.update s.table socket (some .ota) }
    else none
  | .otaClose =>
    match s.ota with
    | some socket => some { s with ota := none, table := Function.update s.table socket none }
    | none => none
  | .tick =>
    match (esphomeSensorRound pb).run s.node with
    | .ok _ node => some { s with node := node }
    | .error _ _ => none

/-- The data is zero-initialised, and no connection is open. -/
structure Boot (s : System) : Prop where
  socket : s.node.socket = 0
  phase : s.phase = .accepting
  ota : s.ota = none
  table : ∀ fd, s.table fd ≠ some .api

/-- The descriptor is open, and it is the connection that `esphome_rpc_service` accepted last. -/
def System.Live (s : System) (fd : Int) : Prop :=
  s.table fd = some .api ∧ s.latest = some fd

/-- Every frame that the sensor thread sends in this state goes to a live descriptor. -/
def FramesLive (s : System) : Prop :=
  ∀ fd message frame ret, .sent fd message frame ret ∈
    added Node.events s.node ((esphomeSensorRound pb).run s.node) → s.Live fd

end Moves

def Aimed (fd : Int) (s t : Node) : Prop :=
  s.socket = fd → t.socket = fd ∧ Guarantee.Grown Node.events
    (fun event => ∀ socket message frame ret, event = .sent socket message frame ret → socket = fd)
    s t

instance isPreorder_aimed (fd : Int) : IsPreorder Node (Aimed fd) where
  refl _ same := ⟨same, Guarantee.grown_none rfl⟩
  trans s t u first second same := by
    obtain ⟨same', early⟩ := first same
    obtain ⟨same'', late⟩ := second same'
    exact ⟨same'', trans_of (Guarantee.Grown Node.events _) early late⟩

section Kept

variable (fd : Int)

private theorem aimed_quiet {s t : Node} (socket : t.socket = s.socket)
    (events : t.events = s.events) : Aimed fd s t :=
  fun same => ⟨socket.trans same, Guarantee.grown_none events⟩

private theorem aimed_recorded {s t : Node} {event : Event} (socket : t.socket = s.socket)
    (events : t.events = s.events ++ [event])
    (sent : ∀ other message frame ret, event = .sent other message frame ret → other = s.socket) :
    Aimed fd s t := by
  intro same
  refine ⟨socket.trans same, Guarantee.grown_one events ?_⟩
  intro other message frame ret written
  exact (sent other message frame ret written).trans same

theorem aimed_packedWrite (message : Outgoing) (payload : Payload) :
    Keeps (.always (Aimed fd)) (packedWrite message payload) := by
  apply keeps_packedWrite
  · intro s _
    exact aimed_quiet fd rfl rfl
  · intro s bytes _
    refine aimed_recorded fd rfl rfl ?_
    rintro other _ _ _ ⟨⟩
    rfl
  · intro s size _
    exact aimed_quiet fd rfl rfl

theorem aimed_dispatch (pb : Protobuf) (msgId : UInt32) (data : List UInt8) :
    Keeps (.always (Aimed fd)) (dispatch pb msgId data) := by
  apply keeps_dispatch
  intro type msg _
  apply keeps_callback
  · intro message
    exact aimed_packedWrite fd message _
  · intro message
    apply keeps_emptyWrite
    intro s bytes
    refine aimed_recorded fd rfl rfl ?_
    rintro other _ _ _ ⟨⟩
    rfl
  · intro dev
    apply keeps_device
    · intro s event callee
      refine aimed_recorded fd rfl rfl ?_
      rintro other message frame ret rfl
      exact absurd callee nofun
    all_goals
      intro s devices
      exact aimed_quiet fd rfl rfl

theorem aimed_readRequest (pb : Protobuf) (fuel : Nat) :
    Keeps (.always (Aimed fd)) (esphomeReadRequest pb fuel) := by
  unfold esphomeReadRequest
  apply keeps_bind
  · apply keeps_receiveMessage
    all_goals
      intro s part
      exact aimed_quiet fd rfl rfl
  · rintro (ret | ⟨msgId, data⟩)
    · exact keeps_pure _
    · exact aimed_dispatch fd pb msgId data

theorem aimed_sendState (pb : Protobuf) (entity : Entity) :
    Keeps (.always (Aimed fd)) (esphomeSensorSendState pb entity) := by
  unfold esphomeSensorSendState
  apply keeps_bind
  · apply keeps_sensorRead
    all_goals
      intro s devices
      exact aimed_quiet fd rfl rfl
  · intro read
    apply keeps_bind (aimed_packedWrite fd _ _)
    intro _
    exact keeps_pure ()

theorem aimed_round (pb : Protobuf) : Keeps (.always (Aimed fd)) (esphomeSensorRound pb) := by
  apply keeps_bind keeps_get
  intro s
  apply keeps_forM
  intro entity _
  exact aimed_sendState fd pb entity

end Kept

section Service

variable (pb : Protobuf) (fuel : Nat)

theorem socket_readRequest {s t : Node} {ret : Int}
    (run : (esphomeReadRequest pb fuel).run s = .ok ret t) : t.socket = s.socket := by
  have kept := (aimed_readRequest s.socket pb fuel).final s rfl
  rw [run] at kept
  exact kept.1

theorem round_move {s : System} (serving : s.phase = .serving) {node : Node} {outcome : Unit ⊕ Int}
    (round : (requestRound pb fuel ()).run s.node = .ok outcome node) :
    step pb fuel s .serve =
        some { s with node := node, phase := if outcome.isLeft then .serving else .closing } ∧
      node.socket = s.node.socket := by
  obtain ⟨ret, t, request, later⟩ := run_bind_inv round
  have socket := socket_readRequest pb fuel request
  dsimp only [step]
  rw [if_pos serving, request]
  dsimp only
  by_cases zero : ret = 0
  · rw [if_pos zero] at later ⊢
    obtain ⟨rfl, rfl⟩ := EStateM.Result.ok.inj later
    exact ⟨rfl, socket⟩
  · rw [if_neg zero] at later ⊢
    obtain ⟨rfl, rfl⟩ := EStateM.Result.ok.inj later
    exact ⟨rfl, socket⟩

theorem rounds_moves {s : System} (serving : s.phase = .serving) {c : Unit} {node : Node}
    (rounds : Rounds (requestRound pb fuel) () s.node c node) :
    node.socket = s.node.socket ∧
      ∃ moves, leads (step pb fuel) moves s = some { s with node := node } := by
  induction rounds with
  | start => exact ⟨rfl, [], rfl⟩
  | @next c c' u v before round ih =>
    obtain ⟨socket, moves, reached⟩ := ih
    obtain ⟨move, socket'⟩ := round_move pb fuel (s := { s with node := u }) serving round
    refine ⟨socket'.trans socket, moves ++ [.serve], leads_trans _ reached ?_⟩
    rw [leads_cons _ move, leads_nil]
    simp [serving]

theorem service_moves (accepts : List (Option Connection)) : ∀ s : System, s.phase = .accepting →
    (∀ connection, some connection ∈ accepts → s.Unused connection.socket) →
    ∀ node, (esphomeRpcService pb fuel accepts).run s.node = .ok () node →
    ∃ moves t, leads (step pb fuel) moves s = some t ∧ t.node = node ∧ t.phase = .accepting := by
  induction accepts with
  | nil =>
    intro s accepting _ node run
    obtain ⟨-, rfl⟩ := EStateM.Result.ok.inj run
    exact ⟨[], s, rfl, rfl, accepting⟩
  | cons result later ih =>
    intro s accepting unused node run
    cases result with
    | none =>
      obtain ⟨moves, t, reached, same, phase⟩ :=
        ih { s with node := { s.node with socket := -1 } } accepting
          (fun connection member => unused connection (List.mem_cons_of_mem none member)) node run
      have move : step pb fuel s .acceptFails =
          some { s with node := { s.node with socket := -1 } } := if_pos accepting
      exact ⟨.acceptFails :: moves, t, by rw [leads_cons _ move, reached], same, phase⟩
    | some connection =>
      have free := unused connection List.mem_cons_self
      let opened : System := { s with
        node := s.node.accept connection
        phase := .serving
        table := Function.update s.table connection.socket (some .api)
        latest := some connection.socket }
      have accepted : step pb fuel s (.accept connection) = some opened :=
        if_pos ⟨accepting, free⟩
      obtain ⟨_, _, start, run⟩ := run_bind_inv run
      obtain ⟨-, rfl⟩ := EStateM.Result.ok.inj start
      obtain ⟨_, closed, serving, run⟩ := run_bind_inv run
      obtain ⟨ret, ended, looped, closing⟩ := run_bind_inv serving
      obtain ⟨-, rfl⟩ := EStateM.Result.ok.inj closing
      obtain ⟨_, last, rounds, ending⟩ := loop_ok_rounds .start looped
      obtain ⟨socket, served, reached⟩ := rounds_moves pb fuel (s := opened) rfl rounds
      obtain ⟨move, socket'⟩ := round_move pb fuel (s := { opened with node := last }) rfl ending
      have left : step pb fuel { opened with node := last } .serve =
          some { opened with node := ended, phase := .closing } := move
      have same : ended.socket = connection.socket := socket'.trans socket
      let closed : System := { opened with
        node := { ended with events := ended.events ++ [.closed ended.socket] }
        phase := .accepting
        table := Function.update opened.table ended.socket none }
      have close : step pb fuel { opened with node := ended, phase := .closing } .close =
          some closed := rfl
      have unused' : ∀ other, some other ∈ later → closed.Unused other.socket := by
        intro other member
        obtain ⟨valid, untaken⟩ := unused other (List.mem_cons_of_mem _ member)
        refine ⟨valid, ?_⟩
        show Function.update (Function.update s.table connection.socket (some .api)) ended.socket
          none other.socket = none
        rw [same]
        by_cases reused : other.socket = connection.socket
        · rw [reused, Function.update_self]
        · rw [Function.update_of_ne reused, Function.update_of_ne reused]
          exact untaken
      obtain ⟨moves, t, reached', node', phase⟩ := ih closed rfl unused' node run
      refine ⟨.accept connection :: (served ++ [.serve, .close] ++ moves), t, ?_, node', phase⟩
      rw [leads_cons _ accepted]
      refine leads_trans _ (leads_trans _ reached ?_) reached'
      rw [leads_cons _ left, leads_cons _ close, leads_nil]

end Service

structure Inv (s : System) : Prop where
  only : ∀ fd, s.table fd = some .api → s.phase ≠ .accepting ∧ fd = s.node.socket
  live : s.phase ≠ .accepting → s.Live s.node.socket
  ota : ∀ fd, s.ota = some fd → s.table fd = some .ota

theorem inv_boot {s : System} (boot : Boot s) : Inv s := by
  refine ⟨?_, ?_, ?_⟩
  · intro fd api
    exact absurd api (boot.table fd)
  · intro busy
    exact absurd boot.phase busy
  · intro fd held
    rw [boot.ota] at held
    exact absurd held nofun

section Interleavings

variable (pb : Protobuf) (fuel : Nat)

theorem socket_round {s t : Node} (run : (esphomeSensorRound pb).run s = .ok () t) :
    t.socket = s.socket := by
  have kept := (aimed_round s.socket pb).final s rfl
  rw [run] at kept
  exact kept.1

theorem inv_node {s : System} (inv : Inv s) {node : Node} {phase : Phase}
    (socket : node.socket = s.node.socket) (busy : phase = .accepting ↔ s.phase = .accepting) :
    Inv { s with node := node, phase := phase } := by
  refine ⟨?_, ?_, inv.ota⟩
  · intro fd api
    obtain ⟨serving, same⟩ := inv.only fd api
    exact ⟨fun accepting => serving (busy.mp accepting), same.trans socket.symm⟩
  · intro serving
    show System.Live _ node.socket
    rw [socket]
    exact inv.live fun accepting => serving (busy.mpr accepting)

section Table

variable {table : Int → Option Holder} {fd socket : Int} {holder held : Option Holder}

private theorem update_other (before : table fd = held) (other : table socket ≠ held) :
    Function.update table socket holder fd = held := by
  have apart : fd ≠ socket := by
    rintro rfl
    exact other before
  exact (Function.update_of_ne apart _ _).trans before

private theorem before_update (after : Function.update table socket holder fd = held)
    (other : holder ≠ held) : fd ≠ socket ∧ table fd = held := by
  have apart : fd ≠ socket := by
    intro same
    rw [same, Function.update_self] at after
    exact other after
  exact ⟨apart, (Function.update_of_ne apart _ _).symm.trans after⟩

end Table

theorem inv_accept {s : System} (inv : Inv s) (accepting : s.phase = .accepting)
    {connection : Connection} (unused : s.table connection.socket = none) :
    Inv { s with
      node := s.node.accept connection
      phase := .serving
      table := Function.update s.table connection.socket (some .api)
      latest := some connection.socket } := by
  refine ⟨?_, ?_, ?_⟩
  · intro fd api
    refine ⟨nofun, ?_⟩
    by_cases same : fd = connection.socket
    · exact same
    · have before : s.table fd = some .api := (Function.update_of_ne same _ _).symm.trans api
      exact absurd accepting (inv.only fd before).1
  · intro _
    exact ⟨Function.update_self _ _ _, rfl⟩
  · intro fd held
    apply update_other (inv.ota fd held)
    rw [unused]
    exact nofun

theorem inv_close {s : System} (inv : Inv s) (closing : s.phase = .closing) (node : Node) :
    Inv { s with
      node := node
      phase := .accepting
      table := Function.update s.table s.node.socket none } := by
  refine ⟨?_, ?_, ?_⟩
  · intro fd api
    obtain ⟨apart, before⟩ := before_update api nofun
    exact absurd (inv.only fd before).2 apart
  · intro busy
    exact absurd rfl busy
  · intro fd held
    apply update_other (inv.ota fd held)
    have busy : s.phase ≠ .accepting := by
      rw [closing]
      decide
    rw [(inv.live busy).1]
    decide

theorem inv_otaAccept {s : System} (inv : Inv s) {socket : Int} (unused : s.table socket = none) :
    Inv { s with ota := some socket, table := Function.update s.table socket (some .ota) } := by
  refine ⟨?_, ?_, ?_⟩
  · intro fd api
    exact inv.only fd (before_update api (by decide)).2
  · intro busy
    obtain ⟨api, latest⟩ := inv.live busy
    refine ⟨update_other api ?_, latest⟩
    rw [unused]
    exact nofun
  · intro fd held
    obtain rfl := Option.some.inj held
    exact Function.update_self _ _ _

theorem inv_otaClose {s : System} (inv : Inv s) {socket : Int} (held : s.ota = some socket) :
    Inv { s with ota := none, table := Function.update s.table socket none } := by
  refine ⟨?_, ?_, ?_⟩
  · intro fd api
    exact inv.only fd (before_update api nofun).2
  · intro busy
    obtain ⟨api, latest⟩ := inv.live busy
    refine ⟨update_other api ?_, latest⟩
    rw [inv.ota socket held]
    decide
  · intro fd held'
    exact absurd held' nofun

theorem inv_step (s : System) (move : Move) (t : System) (inv : Inv s)
    (taken : step pb fuel s move = some t) : Inv t := by
  unfold step at taken
  cases move with
  | accept connection =>
    dsimp only at taken
    split at taken
    · rename_i guard
      obtain ⟨accepting, -, unused⟩ := guard
      obtain rfl := Option.some.inj taken
      exact inv_accept inv accepting unused
    · exact absurd taken nofun
  | acceptFails =>
    dsimp only at taken
    split at taken
    · rename_i accepting
      obtain rfl := Option.some.inj taken
      refine ⟨?_, ?_, inv.ota⟩
      · intro fd api
        exact absurd accepting (inv.only fd api).1
      · intro busy
        exact absurd accepting busy
    · exact absurd taken nofun
  | serve =>
    dsimp only at taken
    split at taken
    · rename_i serving
      cases run : (esphomeReadRequest pb fuel).run s.node with
      | ok ret node =>
        rw [run] at taken
        obtain rfl := Option.some.inj taken
        apply inv_node inv (socket_readRequest pb fuel run)
        rw [serving]
        by_cases zero : ret = 0
        · rw [if_pos zero]
        · rw [if_neg zero]
          decide
      | error e node =>
        rw [run] at taken
        exact absurd taken nofun
    · exact absurd taken nofun
  | close =>
    dsimp only at taken
    split at taken
    · rename_i closing
      obtain rfl := Option.some.inj taken
      exact inv_close inv closing _
    · exact absurd taken nofun
  | otaAccept socket =>
    dsimp only at taken
    split at taken
    · rename_i guard
      obtain ⟨-, -, unused⟩ := guard
      obtain rfl := Option.some.inj taken
      exact inv_otaAccept inv unused
    · exact absurd taken nofun
  | otaClose =>
    dsimp only at taken
    cases held : s.ota with
    | none =>
      rw [held] at taken
      exact absurd taken nofun
    | some socket =>
      rw [held] at taken
      obtain rfl := Option.some.inj taken
      exact inv_otaClose inv held
  | tick =>
    dsimp only at taken
    cases run : (esphomeSensorRound pb).run s.node with
    | ok ret node =>
      rw [run] at taken
      obtain rfl := Option.some.inj taken
      exact inv_node inv (socket_round pb run) Iff.rfl
    | error e node =>
      rw [run] at taken
      exact absurd taken nofun

def RefusesNext : Nat → List Bool → Prop
  | 0, _ => True
  | blocks + 1, refusals => refusals.head? = some true ∧ RefusesNext blocks refusals.tail

instance decidableRefusesNext : ∀ (blocks : Nat) (refusals : List Bool),
    Decidable (RefusesNext blocks refusals)
  | 0, _ => .isTrue trivial
  | blocks + 1, refusals =>
    have := decidableRefusesNext blocks refusals.tail
    inferInstanceAs (Decidable (_ ∧ _))

theorem run_readTemperature (sensor : TemperatureSensor) :
    ∃ ret state next, Sensor.deviceReadTemperature.run sensor = .ok (ret, state) next ∧
      (ret = 0 ↔ state.isSome) := by
  let fetched : TemperatureSensor := { sensor with fetches := sensor.fetches.tail }
  let got : TemperatureSensor := { fetched with readings := fetched.readings.tail }
  have fetch : Sensor.sensorSampleFetch.run sensor = .ok (sensor.fetches.headD 0) fetched := rfl
  have get : Sensor.sensorChannelGet.run fetched = .ok (sensor.readings.headD (0, 0)) got := rfl
  rw [Sensor.deviceReadTemperature, run_bind_ok _ fetch]
  by_cases failed : sensor.fetches.headD 0 = 0
  · rw [if_neg (not_not_intro failed), run_bind_ok _ get]
    generalize sensor.readings.headD (0, 0) = reading
    obtain ⟨ret, value⟩ := reading
    dsimp only
    by_cases zero : ret = 0
    · rw [if_neg (not_not_intro zero)]
      exact ⟨ret, some value, got, rfl, fun _ => rfl, fun _ => zero⟩
    · rw [if_pos zero]
      exact ⟨ret, none, got, rfl, fun zero' => absurd zero' zero, nofun⟩
  · rw [if_pos failed]
    exact ⟨_, none, fetched, rfl, fun zero => absurd zero failed, nofun⟩

theorem run_sensorRead {dev : Device} (sensor : dev.kind = .sensor) (s : Node) :
    ∃ ret state t, (sensorRead dev).run s = .ok (ret, state) t ∧ (ret = 0 ↔ state.isSome) ∧
      t.heap = s.heap ∧ t.events = s.events := by
  rcases dev with ⟨binding, inst⟩
  cases binding with
  | switchGpio => exact absurd sensor nofun
  | switchHbridge => exact absurd sensor nofun
  | buttonTemplate => exact absurd sensor nofun
  | sensorTemperature =>
    obtain ⟨ret, state, next, run, stored⟩ := run_readTemperature (s.sensorTemperature inst)
    refine ⟨ret, state, { s with
      sensorTemperature := Function.update s.sensorTemperature inst next }, ?_, stored, rfl, rfl⟩
    show (onSensorTemperature inst Sensor.deviceReadTemperature).run s = _
    exact run_zoom_ok _ run
  | sensorTimestamp =>
    refine ⟨0, some ((s.sensorTimestamp inst).times.headD 0), { s with
      sensorTimestamp := Function.update s.sensorTimestamp inst
        { s.sensorTimestamp inst with times := (s.sensorTimestamp inst).times.tail } }, rfl,
      ⟨fun _ => rfl, fun _ => rfl⟩, rfl, rfl⟩

theorem run_sendState {entity : Entity} (sensor : entity.dev.kind = .sensor) (s : Node)
    (small : ∀ response, (frameOf (.sensorStateResponse response)
      (pb.pack (.sensorStateResponse response))).length < 2 ^ 32) :
    ∃ t, (esphomeSensorSendState pb entity).run s = .ok () t ∧
      t.heap.refusals = s.heap.refusals.tail ∧
      (s.heap.Refuses → t.events = s.events) ∧
      (¬ s.heap.Refuses → ∃ socket message frame ret,
        t.events = s.events ++ [.sent socket message frame ret]) := by
  obtain ⟨ret, state, u, reading, -, heap, events⟩ := run_sensorRead sensor s
  let message : Outgoing := .sensorStateResponse ⟨entity.key, state.getD 0, false⟩
  have start : (esphomeSensorSendState pb entity).run s =
      (do let _ ← packedWrite message (pb.pack message) : Exec Node Unit).run u := by
    rw [esphomeSensorSendState, run_bind_ok _ reading]
    rfl
  by_cases refused : s.heap.Refuses
  · have refused' : u.heap.Refuses := by rwa [heap]
    rw [start, run_bind_ok _ (packedWrite_refused message (pb.pack message) u refused')]
    refine ⟨_, rfl, ?_, fun _ => events, fun granted => absurd refused granted⟩
    show u.heap.refusals.tail = _
    rw [heap]
  · have granted : ¬ u.heap.Refuses := by rwa [heap]
    rw [start, run_bind_ok _ (packedWrite_sends message (pb.pack message) u granted (small _))]
    refine ⟨_, rfl, ?_, fun refuses => absurd refuses refused, fun _ =>
      ⟨u.socket, message, frameOf message (pb.pack message),
        (u.tx.zsockSend (frameOf message (pb.pack message))).1, ?_⟩⟩
    · show (u.heap.kMalloc _).2.refusals = _
      rw [Heap.kMalloc, if_neg granted, heap]
    · show u.events ++ [_] = _
      rw [events]

theorem round_sends_iff
    (small : ∀ response, (frameOf (.sensorStateResponse response)
      (pb.pack (.sensorStateResponse response))).length < 2 ^ 32)
    (entities : List Entity) : (∀ entity ∈ entities, entity.dev.kind = .sensor) → ∀ s : Node,
    ∃ t more, (forM entities (esphomeSensorSendState pb)).run s = .ok () t ∧
      t.events = s.events ++ more ∧
      ((∃ socket message frame ret, .sent socket message frame ret ∈ more) ↔
        ¬ RefusesNext entities.length s.heap.refusals) := by
  induction entities with
  | nil =>
    intro _ s
    refine ⟨s, [], rfl, (List.append_nil _).symm, ?_⟩
    simp [RefusesNext]
  | cons entity entities ih =>
    intro all s
    obtain ⟨t, run, left, passed, sent⟩ := run_sendState pb (all entity List.mem_cons_self) s small
    obtain ⟨u, more, later, events, sends⟩ :=
      ih (fun other member => all other (List.mem_cons_of_mem entity member)) t
    rw [List.forM_cons, run_bind_ok _ run]
    rw [left] at sends
    by_cases refused : s.heap.Refuses
    · refine ⟨u, more, later, by rw [events, passed refused], ?_⟩
      rw [sends]
      simp only [List.length_cons, RefusesNext, show s.heap.refusals.head? = some true from refused,
        true_and]
    · obtain ⟨socket, message, frame, ret, sent⟩ := sent refused
      refine ⟨u, .sent socket message frame ret :: more, later, ?_, ?_⟩
      · rw [events, sent, List.append_assoc, List.singleton_append]
      · constructor
        · rintro - ⟨first, -⟩
          exact refused first
        · intro _
          exact ⟨socket, message, frame, ret, List.mem_cons_self⟩

/-- An API connection is open, or no reading gets a block to be sent from. -/
def System.Attended (s : System) : Prop :=
  s.phase ≠ .accepting ∨
    RefusesNext (sensors s.node.entities).length s.node.heap.refusals

theorem framesLive_iff {s : System} (inv : Inv s)
    (small : ∀ response, (frameOf (.sensorStateResponse response)
      (pb.pack (.sensorStateResponse response))).length < 2 ^ 32) :
    FramesLive pb s ↔ s.Attended := by
  have kind : ∀ entity ∈ sensors s.node.entities, entity.dev.kind = .sensor := by
    intro entity member
    exact of_decide_eq_true (List.mem_filter.mp member).2
  obtain ⟨t, more, run, events, sends⟩ :=
    round_sends_iff pb small (sensors s.node.entities) kind s.node
  have round : (esphomeSensorRound pb).run s.node = .ok () t := by
    rw [esphomeSensorRound, run_bind_ok _ (run_get s.node)]
    exact run
  have sent : added Node.events s.node ((esphomeSensorRound pb).run s.node) = more := by
    rw [round, added, final_ok, events, List.drop_left]
  constructor
  · intro live
    by_cases busy : s.phase ≠ .accepting
    · exact Or.inl busy
    · right
      apply Decidable.byContradiction
      intro granted
      obtain ⟨fd, message, frame, ret, member⟩ := sends.mpr granted
      have reached := live fd message frame ret (by rw [sent]; exact member)
      exact busy (inv.only fd reached.1).1
  · rintro (busy | refused) fd message frame ret member
    · have aimed := (aimed_round s.node.socket pb).final s.node rfl
      have same : fd = s.node.socket := mem_added aimed.2 member fd message frame ret rfl
      rw [same]
      exact inv.live busy
    · rw [sent] at member
      exact absurd refused (sends.mp ⟨fd, message, frame, ret, member⟩)

/-- In a run from boot, the frames of the sensor thread all go to live descriptors exactly when
every tick finds an API connection open, or gets no block for a frame. -/
theorem frames_live_iff (small : ∀ response, (frameOf (.sensorStateResponse response)
      (pb.pack (.sensorStateResponse response))).length < 2 ^ 32)
    {boot : System} (fresh : Boot boot) (moves : List Move) :
    (AtEach (step pb fuel) moves boot fun s move => move = .tick → FramesLive pb s) ↔
      AtEach (step pb fuel) moves boot fun s move => move = .tick → s.Attended := by
  have reached : ∀ s move, Takes (step pb fuel) moves boot s move → Inv s := by
    intro s move taken
    exact takes_invariant (step pb fuel) (inv_step pb fuel) (inv_boot fresh) taken
  constructor
  · intro live s move taken tick
    exact (framesLive_iff pb (reached s move taken) small).mp (live s move taken tick)
  · intro attended s move taken tick
    exact (framesLive_iff pb (reached s move taken) small).mpr (attended s move taken tick)

end Interleavings

def booted : System where
  node := { freshNode none [Kinds.namesake .sensorTimestamp] [] with socket := 0 }
  phase := .accepting
  ota := none
  table := fun _ => none
  latest := none

theorem boot_booted : Boot booted := ⟨rfl, rfl, rfl, nofun⟩

/-- The first reading is sent before there is a client. -/
theorem sends_to_nobody :
    ¬ ∀ (pb : Protobuf) (fuel : Nat) (boot : System) (moves : List Move), Boot boot →
      AtEach (step pb fuel) moves boot fun s move => move = .tick → FramesLive pb s := by
  intro always
  have live := always Release.silent 0 booted [.tick] boot_booted booted .tick
    ⟨[], [], rfl, rfl⟩ rfl
  have attended := (framesLive_iff Release.silent (inv_boot boot_booted)
    fun _ => Release.silent_small _).mp live
  rcases attended with busy | refused
  · exact busy rfl
  · exact absurd refused (by decide)

def client : Connection where
  socket := 5
  rx := { incoming := [], schedule := [], calls := 0, residue := fun _ => 0 }
  tx := { accepted := [], schedule := [] }

theorem frames_live_iff_connected :
    AtEach (step Release.silent 0) [.accept client, .tick] booted fun s move =>
      move = .tick → FramesLive Release.silent s := by
  apply (frames_live_iff Release.silent 0 (fun _ => Release.silent_small _) boot_booted
    [.accept client, .tick]).mpr
  refine atEach_cons _ (fun other => by cases other) ?_
  intro u accepted
  obtain rfl := Option.some.inj accepted
  apply atEach_cons
  · intro _
    exact Or.inl nofun
  · exact fun u _ => atEach_nil _ u _

end ZephyrEsphome.Api.SensorSocket
