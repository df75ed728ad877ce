/- Digest: The sensor thread beside the service: what it sends, and nothing else, is due to it.

   The two threads share the connection, the heap and the registry. As long as the heap grants
   blocks and the connections take whole buffers, a client that skips the readings sees the service
   as if there were no sensor thread. -/

import ZephyrEsphome.Api.SensorSocket
import ZephyrEsphome.Api.Server
import ZephyrEsphome.Library.SideBySide

set_option autoImplicit false
set_option relaxedAutoImplicit false

namespace ZephyrEsphome.Api.Undisturbed

open Kernel
open Library.Exec
open Library.SideBySide
open Library.Transition
open Rpc
open Rpc.Handling
open Rpc.Writing (packedWrite_sends packedWrite_wraps emptyWrite_sends sending frameOf)
open SensorSocket (Move System esphomeSensorRound step)
open Server (Unpacker Unpacks)

def isReading : Event → Bool
  | .sent _ (.sensorStateResponse _) _ _ => true
  | _ => false

def service (s : Node) : List Event := s.events.filter fun event => !isReading event

structure Same (s t : Node) : Prop where
  config : s.config = t.config
  socket : s.socket = t.socket
  rx : s.rx = t.rx
  accepts : s.tx.schedule = [] ∧ t.tx.schedule = []
  grants : s.heap.refusals = [] ∧ t.heap.refusals = []
  garbage : s.heap.garbage = t.heap.garbage
  entities : s.entities = t.entities
  switchGpio : s.switchGpio = t.switchGpio
  switchHbridge : s.switchHbridge = t.switchHbridge
  buttonTemplate : s.buttonTemplate = t.buttonTemplate
  service : service s = service t

theorem same_refl {s : Node} (accepts : s.tx.schedule = []) (grants : s.heap.refusals = []) :
    Same s s :=
  ⟨rfl, rfl, rfl, ⟨accepts, accepts⟩, ⟨grants, grants⟩, rfl, rfl, rfl, rfl, rfl, rfl⟩

theorem Same.trans {s t u : Node} (first : Same s t) (second : Same t u) : Same s u where
  config := first.config.trans second.config
  socket := first.socket.trans second.socket
  rx := first.rx.trans second.rx
  accepts := ⟨first.accepts.1, second.accepts.2⟩
  grants := ⟨first.grants.1, second.grants.2⟩
  garbage := first.garbage.trans second.garbage
  entities := first.entities.trans second.entities
  switchGpio := first.switchGpio.trans second.switchGpio
  switchHbridge := first.switchHbridge.trans second.switchHbridge
  buttonTemplate := first.buttonTemplate.trans second.buttonTemplate
  service := first.service.trans second.service

theorem zsockSend_whole {tx : Transmitter} (accepts : tx.schedule = []) (bytes : List UInt8) :
    tx.zsockSend bytes = ((bytes.length : Int), { tx with accepted := tx.accepted ++ bytes }) := by
  simp [Transmitter.zsockSend, accepts]

theorem service_concat (s : Node) (event : Event) :
    (s.events ++ [event]).filter (fun event => !isReading event) =
      service s ++ [event].filter fun event => !isReading event :=
  List.filter_append ..

theorem Same.recorded {s t : Node} (same : Same s t) (event : Event) :
    Same { s with events := s.events ++ [event] } { t with events := t.events ++ [event] } :=
  { same with
    service := by
      show (s.events ++ [event]).filter _ = (t.events ++ [event]).filter _
      rw [service_concat, service_concat, same.service] }

theorem Same.sends {s t : Node} (same : Same s t) (message : Outgoing) (bytes : List UInt8) :
    Same (sending message s bytes) (sending message t bytes) := by
  have recorded := same.recorded (.sent s.socket message bytes bytes.length)
  refine { recorded with accepts := ?_, service := ?_ }
  · show (s.tx.zsockSend bytes).2.schedule = [] ∧ (t.tx.zsockSend bytes).2.schedule = []
    rw [zsockSend_whole same.accepts.1, zsockSend_whole same.accepts.2]
    exact same.accepts
  · show (s.events ++ [Event.sent s.socket message bytes (s.tx.zsockSend bytes).1]).filter _ =
      (t.events ++ [Event.sent t.socket message bytes (t.tx.zsockSend bytes).1]).filter _
    rw [zsockSend_whole same.accepts.1, zsockSend_whole same.accepts.2, ← same.socket]
    exact recorded.service

theorem garbage_kMalloc (heap : Heap) (size : Nat) :
    (heap.kMalloc size).2.garbage = heap.garbage := by
  unfold Heap.kMalloc
  split <;> rfl

theorem Same.allocates {s t : Node} (same : Same s t) (size : Nat) :
    Same { s with heap := (s.heap.kMalloc size).2 } { t with heap := (t.heap.kMalloc size).2 } := by
  refine { same with grants := ⟨?_, ?_⟩, garbage := ?_ }
  · exact RoundTrip.refusals_kMalloc same.grants.1 size
  · exact RoundTrip.refusals_kMalloc same.grants.2 size
  · show (s.heap.kMalloc size).2.garbage = (t.heap.kMalloc size).2.garbage
    rw [garbage_kMalloc, garbage_kMalloc, same.garbage]

theorem alike_packedWrite (message : Outgoing) (payload : Payload) :
    Alike Same Eq (packedWrite message payload) (packedWrite message payload) := by
  constructor
  intro s t same
  have left := RoundTrip.not_refuses same.grants.1
  have right := RoundTrip.not_refuses same.grants.2
  by_cases fits : (frameOf message payload).length < 2 ^ 32
  · rw [packedWrite_sends message payload s left fits, packedWrite_sends message payload t right fits]
    have heaps := same.allocates (frameOf message payload).length
    exact .ok rfl { same.sends message (frameOf message payload) with
      grants := heaps.grants
      garbage := heaps.garbage }
  · rw [packedWrite_wraps message payload s left (Nat.le_of_not_lt fits),
      packedWrite_wraps message payload t right (Nat.le_of_not_lt fits)]
    exact .error (same.allocates _)

theorem alike_emptyWrite (message : Outgoing) :
    Alike Same Eq (emptyWrite message) (emptyWrite message) := by
  constructor
  intro s t same
  rw [emptyWrite_sends, emptyWrite_sends]
  exact .ok rfl (same.sends message _)

theorem alike_record (event : Event) : Alike Same Eq (record event) (record event) :=
  alike_modify fun _ _ same => same.recorded event

theorem alike_onSwitch {α : Type} (dev : Device) (m : Exec Switch.GpioSwitch α)
    (m' : Exec Switch.Hbridge α) {n : Exec Node α} (call : n = match dev.compatible with
      | .switchGpio => onSwitchGpio dev.inst m
      | .switchHbridge => onSwitchHbridge dev.inst m'
      | _ => throw .undefined) : Alike Same Eq n n := by
  subst call
  cases dev.compatible with
  | switchGpio =>
    refine alike_zoom (fun s t same => congrFun same.switchGpio dev.inst) fun s t c same => ?_
    exact { same with switchGpio := congrArg (Function.update · dev.inst c) same.switchGpio }
  | switchHbridge =>
    refine alike_zoom (fun s t same => congrFun same.switchHbridge dev.inst) fun s t c same => ?_
    exact { same with switchHbridge := congrArg (Function.update · dev.inst c) same.switchHbridge }
  | buttonTemplate => exact alike_throw _ _
  | sensorTemperature => exact alike_throw _ _
  | sensorTimestamp => exact alike_throw _ _

theorem alike_switchSetState (dev : Device) (state : Int) :
    Alike Same Eq (switchSetState dev state) (switchSetState dev state) :=
  alike_bind (alike_record _) fun _ _ _ => alike_onSwitch dev _ _ rfl

theorem alike_switchGetState (dev : Device) :
    Alike Same Eq (switchGetState dev) (switchGetState dev) :=
  alike_bind (alike_record _) fun _ _ _ => alike_onSwitch dev _ _ rfl

theorem alike_buttonOnPress (dev : Device) :
    Alike Same Eq (buttonOnPress dev) (buttonOnPress dev) := by
  apply alike_bind (alike_record _)
  intro _ _ _
  cases dev.compatible with
  | switchGpio => exact alike_throw _ _
  | switchHbridge => exact alike_throw _ _
  | buttonTemplate =>
    refine alike_modifyGet (fun s t same => ?_) fun s t same => ?_
    · show (s.buttonTemplate dev.inst).headD 0 = (t.buttonTemplate dev.inst).headD 0
      rw [same.buttonTemplate]
    · refine { same with buttonTemplate := ?_ }
      show Function.update s.buttonTemplate dev.inst _ = Function.update t.buttonTemplate dev.inst _
      rw [same.buttonTemplate]
  | sensorTemperature => exact alike_throw _ _
  | sensorTimestamp => exact alike_throw _ _

section Service

variable {pb : Protobuf} {unpack : Unpacker}

theorem alike_listEntity (entity : Entity) :
    Alike Same Eq (listEntity pb entity) (listEntity pb entity) := by
  unfold listEntity
  cases entity.dev.kind with
  | switch => exact alike_bind (alike_packedWrite _ _) fun _ _ _ => alike_pure rfl
  | button => exact alike_bind (alike_packedWrite _ _) fun _ _ _ => alike_pure rfl
  | sensor => exact alike_bind (alike_packedWrite _ _) fun _ _ _ => alike_pure rfl

theorem alike_callback (type : MessageType) (msg : type.Fields) :
    Alike Same Eq (callback pb type msg) (callback pb type msg) := by
  unfold callback
  split
  · refine alike_get fun s t same => ?_
    rw [same.config]
    exact alike_packedWrite _ _
  · refine alike_get fun s t same => ?_
    rw [same.config]
    cases t.config.password with
    | none => exact alike_packedWrite _ _
    | some password => exact alike_packedWrite _ _
  · refine alike_get fun s t same => ?_
    rw [same.config]
    exact alike_packedWrite _ _
  · refine alike_get fun s t same => ?_
    rw [same.entities]
    apply alike_bind
    · apply alike_forM
      intro entity
      exact alike_bind (alike_listEntity entity) fun _ _ _ => alike_pure rfl
    · intro _ _ _
      exact alike_emptyWrite _
  · refine alike_get fun s t same => ?_
    rw [same.entities]
    cases findDeviceEntityByKey t.entities _ with
    | none => exact alike_pure rfl
    | some dev =>
      apply alike_bind (alike_switchSetState dev _)
      rintro _ _ -
      apply alike_bind (alike_switchGetState dev)
      rintro _ _ rfl
      exact alike_packedWrite _ _
  · refine alike_get fun s t same => ?_
    rw [same.entities]
    cases findDeviceEntityByKey t.entities _ with
    | none => exact alike_pure rfl
    | some dev => exact alike_buttonOnPress dev
  · exact alike_pure rfl
  · exact alike_pure rfl
  · exact alike_pure rfl
  · exact alike_pure rfl
  · exact alike_emptyWrite .pingResponse
  · exact alike_bind (alike_emptyWrite .disconnectResponse) fun _ _ _ => alike_pure rfl
  · exact alike_pure rfl

theorem alike_dispatch (unpacks : Unpacks pb unpack) (msgId : UInt32) (data : List UInt8) :
    Alike Same Eq (dispatch pb msgId data) (dispatch pb msgId data) := by
  rcases dispatch_cases pb msgId data with call | ⟨type, -, call | ⟨msg, -, call⟩⟩
  · rw [call]
    exact alike_pure rfl
  · rw [call]
    refine alike_get fun s t same => ?_
    rw [unpacks type data s.heap same.grants.1, unpacks type data t.heap same.grants.2]
    cases unpack type data with
    | none => exact alike_pure rfl
    | some msg => exact alike_callback type msg
  · rw [call]
    exact alike_callback type msg

theorem alike_onRx {α : Type} (m : Exec Receiver α) : Alike Same Eq (onRx m) (onRx m) :=
  alike_zoom (fun _ _ same => same.rx) fun _ _ _ same => { same with rx := rfl }

theorem alike_receiveMessage (fuel : Nat) :
    Alike Same Eq (receiveMessage fuel) (receiveMessage fuel) := by
  apply alike_bind (alike_onRx _)
  rintro (ret | ⟨msgId, len⟩) _ rfl
  · exact alike_pure rfl
  · apply alike_ite (alike_pure rfl)
    have blocks : Alike Same (fun a b => a.isSome = b.isSome) (kMalloc len.toNat)
        (kMalloc len.toNat) := by
      refine alike_modifyGet (fun s t same => ?_) fun s t same => same.allocates _
      have left := RoundTrip.not_refuses same.grants.1
      have right := RoundTrip.not_refuses same.grants.2
      show (s.heap.kMalloc len.toNat).1.isSome = (t.heap.kMalloc len.toNat).1.isSome
      rw [Heap.kMalloc, Heap.kMalloc, if_neg left, if_neg right]
      rfl
    apply alike_bind blocks
    rintro (_ | block) (_ | block') both
    · exact alike_pure rfl
    · cases both
    · cases both
    · refine alike_get fun s t same => ?_
      have data : uninitialised s.heap len.toNat = uninitialised t.heap len.toNat := by
        rw [uninitialised, uninitialised, same.garbage]
      rw [data]
      apply alike_bind (alike_onRx _)
      rintro ⟨ret, got⟩ _ rfl
      exact alike_ite (alike_pure rfl) (alike_pure rfl)

theorem alike_readRequest (unpacks : Unpacks pb unpack) (fuel : Nat) :
    Alike Same Eq (esphomeReadRequest pb fuel) (esphomeReadRequest pb fuel) := by
  apply alike_bind (alike_receiveMessage fuel)
  rintro (ret | ⟨msgId, data⟩) _ rfl
  · exact alike_pure rfl
  · exact alike_dispatch unpacks msgId data

end Service

def Quiet (s t : Node) : Prop := s.tx.schedule = [] → s.heap.refusals = [] → Same t s

instance isPreorder_quiet : IsPreorder Node Quiet where
  refl _ := same_refl
  trans s t u first second := by
    intro accepts grants
    have early := first accepts grants
    exact (second early.accepts.1 early.grants.1).trans early

theorem quiet_sendState (pb : Protobuf) (entity : Entity) :
    Keeps (.always Quiet) (esphomeSensorSendState pb entity) := by
  unfold esphomeSensorSendState
  apply keeps_bind
  · apply keeps_sensorRead
    all_goals
      intro s devices accepts grants
      exact { same_refl accepts grants with }
  · rintro ⟨ret, state⟩
    refine keeps_bind (keeps_packedWrite ?_ ?_ ?_) fun _ => keeps_pure ()
    · intro s refused accepts grants
      exact absurd refused (RoundTrip.not_refuses grants)
    · intro s bytes granted accepts grants
      refine { same_refl accepts grants with
        accepts := ⟨?_, accepts⟩, grants := ⟨?_, grants⟩, garbage := ?_, service := ?_ }
      · show (s.tx.zsockSend bytes).2.schedule = []
        rw [zsockSend_whole accepts]
        exact accepts
      · exact RoundTrip.refusals_kMalloc grants bytes.length
      · exact garbage_kMalloc s.heap bytes.length
      · show (s.events ++ [_]).filter _ = _
        rw [service_concat]
        exact List.append_nil _
    · intro s size granted accepts grants
      exact { same_refl accepts grants with
        grants := ⟨RoundTrip.refusals_kMalloc grants size, grants⟩
        garbage := garbage_kMalloc s.heap size }

theorem quiet_round (pb : Protobuf) : Keeps (.always Quiet) (esphomeSensorRound pb) := by
  apply keeps_bind keeps_get
  intro s
  apply keeps_forM
  intro entity _
  exact quiet_sendState pb entity

def isTick : Move → Bool
  | .tick => true
  | _ => false

/-- The two systems differ only in what the sensor thread did. -/
structure Beside (s t : System) : Prop where
  node : Same s.node t.node
  phase : s.phase = t.phase
  ota : s.ota = t.ota
  table : s.table = t.table
  latest : s.latest = t.latest

section Threads

variable {pb : Protobuf} {fuel : Nat}

theorem tick_same {s u : System} (accepts : s.node.tx.schedule = [])
    (grants : s.node.heap.refusals = []) (taken : step pb fuel s .tick = some u) :
    ∃ node, u = { s with node := node } ∧ Same node s.node := by
  have quiet := (quiet_round pb).final s.node accepts grants
  dsimp only [step] at taken
  cases run : (esphomeSensorRound pb).run s.node with
  | ok ret node =>
    rw [run] at taken quiet
    exact ⟨node, (Option.some.inj taken).symm, quiet⟩
  | error e node =>
    rw [run] at taken
    cases taken

theorem tick_quiet {s t u : System} (beside : Beside s t) (taken : step pb fuel s .tick = some u) :
    Beside u t := by
  obtain ⟨node, rfl, same⟩ := tick_same beside.node.accepts.1 beside.node.grants.1 taken
  exact { beside with node := same.trans beside.node }

theorem move_beside {unpack : Unpacker} (unpacks : Unpacks pb unpack) {s t u : System} {move : Move}
    (other : isTick move = false)
    (whole : ∀ connection, move = .accept connection → connection.tx.schedule = [])
    (beside : Beside s t) (taken : step pb fuel s move = some u) :
    ∃ v, step pb fuel t move = some v ∧ Beside u v := by
  have unused : ∀ socket, s.Unused socket ↔ t.Unused socket := by
    intro socket
    rw [System.Unused, System.Unused, beside.table]
  cases move with
  | accept connection =>
    dsimp only [step] at taken ⊢
    simp only [unused, beside.phase] at taken
    split at taken
    · rename_i can
      obtain rfl := Option.some.inj taken
      have accepts := whole connection rfl
      refine ⟨_, if_pos can, ?_, rfl, beside.ota, ?_, rfl⟩
      · exact { beside.node with socket := rfl, rx := rfl, accepts := ⟨accepts, accepts⟩ }
      · show Function.update s.table _ _ = Function.update t.table _ _
        rw [beside.table]
    · cases taken
  | acceptFails =>
    dsimp only [step] at taken ⊢
    rw [beside.phase] at taken
    split at taken
    · rename_i can
      obtain rfl := Option.some.inj taken
      exact ⟨_, if_pos can, { beside.node with socket := rfl }, rfl, beside.ota, beside.table,
        beside.latest⟩
    · cases taken
  | serve =>
    dsimp only [step] at taken ⊢
    rw [beside.phase] at taken
    split at taken
    · rename_i can
      rw [if_pos can]
      have ended := (alike_readRequest unpacks fuel).run s.node t.node beside.node
      cases left : (esphomeReadRequest pb fuel).run s.node with
      | ok ret node =>
        rw [left] at taken ended
        obtain rfl := Option.some.inj taken
        cases right : (esphomeReadRequest pb fuel).run t.node with
        | ok ret' node' =>
          rw [right] at ended
          cases ended with
          | ok equal same =>
            subst equal
            exact ⟨_, rfl, { beside with node := same, phase := rfl }⟩
        | error e node' =>
          rw [right] at ended
          cases ended
      | error e node =>
        rw [left] at taken
        cases taken
    · cases taken
  | close =>
    dsimp only [step] at taken ⊢
    rw [beside.phase] at taken
    split at taken
    · rename_i can
      obtain rfl := Option.some.inj taken
      refine ⟨_, if_pos can, { beside.node with service := ?_ }, rfl, beside.ota, ?_, beside.latest⟩
      · show (s.node.events ++ [Event.closed s.node.socket]).filter _ = _
        rw [beside.node.socket]
        exact (beside.node.recorded _).service
      · show Function.update s.table _ _ = Function.update t.table _ _
        rw [beside.table, beside.node.socket]
    · cases taken
  | otaAccept socket =>
    dsimp only [step] at taken ⊢
    simp only [unused, beside.ota] at taken
    split at taken
    · rename_i can
      obtain rfl := Option.some.inj taken
      refine ⟨_, if_pos can, beside.node, beside.phase, rfl, ?_, beside.latest⟩
      show Function.update s.table _ _ = Function.update t.table _ _
      rw [beside.table]
    · cases taken
  | otaClose =>
    dsimp only [step] at taken ⊢
    rw [beside.ota] at taken
    cases held : t.ota with
    | none =>
      rw [held] at taken
      cases taken
    | some socket =>
      rw [held] at taken
      obtain rfl := Option.some.inj taken
      refine ⟨_, rfl, beside.node, beside.phase, rfl, ?_, beside.latest⟩
      show Function.update s.table _ _ = Function.update t.table _ _
      rw [beside.table]
  | tick => cases other

/-- Take the rounds of the sensor thread out of any run of the threads: the service then answers every
request with the same replies on the same sockets, does the same to the switches and the buttons, and
accepts and closes the same connections. -/
theorem service_undisturbed {unpack : Unpacker} (unpacks : Unpacks pb unpack) {start t : System}
    (accepts : start.node.tx.schedule = []) (grants : start.node.heap.refusals = [])
    {moves : List Move}
    (whole : ∀ connection, .accept connection ∈ moves → connection.tx.schedule = [])
    (reached : leads (step pb fuel) moves start = some t) :
    ∃ u, leads (step pb fuel) (moves.filter fun move => !isTick move) start = some u ∧
      Beside t u := by
  refine leads_without ?_ moves ?_ ⟨same_refl accepts grants, rfl, rfl, rfl, rfl⟩ reached
  · intro s u v move tick beside taken
    cases move with
    | tick => exact tick_quiet beside taken
    | _ => cases tick
  · intro s u v move member other beside taken
    refine move_beside unpacks other ?_ beside taken
    rintro connection rfl
    exact whole connection member

end Threads

def lampAndSensor : System where
  node := freshNode none [Server.lamp, Kinds.namesake .sensorTemperature] []
  phase := .accepting
  ota := none
  table := fun _ => none
  latest := none

theorem service_undisturbed_lamp :
    ∃ t u, leads (step Server.lampProtobuf 3)
        [.tick, .accept (Server.lampClient 4).connection, .tick, .serve, .tick, .serve, .close]
        lampAndSensor = some t ∧
      leads (step Server.lampProtobuf 3)
        [.accept (Server.lampClient 4).connection, .serve, .serve, .close] lampAndSensor = some u ∧
      Beside t u := by
  have there : (leads (step Server.lampProtobuf 3)
    [.tick, .accept (Server.lampClient 4).connection, .tick, .serve, .tick, .serve, .close]
    lampAndSensor).isSome = true := by decide +kernel
  obtain ⟨t, reached⟩ := Option.isSome_iff_exists.mp there
  obtain ⟨u, without, beside⟩ := @service_undisturbed Server.lampProtobuf 3 Server.unpackLamp
    (fun _ _ _ _ => rfl) lampAndSensor t rfl rfl _ (by simp [Server.lampClient]) reached
  exact ⟨t, u, reached, without, beside⟩

end ZephyrEsphome.Api.Undisturbed
