/- Digest: What the clients notice of the running threads, and the specification of it.

   `observe` says what the threads are for, act by act: it has a panel, the messages that wait on
   the connection, and what the clients noticed. The threads of the device follow it in every
   interleaving. -/

import ZephyrEsphome.Api.Defined
import ZephyrEsphome.Api.Undisturbed

set_option autoImplicit false
set_option relaxedAutoImplicit false

namespace ZephyrEsphome.Api.Observed

open Defined (Misdirected ends_callback)
open Kernel
open Library.Exec
open Library.SideBySide
open Library.Transition
open Listing (listEntity_eq)
open Rpc
open Rpc.Conversation
open Rpc.Handling
open SensorSocket (Move Phase System step)
open Server
open Undisturbed (Same isReading service tick_same)

/-- A move of the threads; an accepted connection comes with the messages that it brings. -/
inductive Act
  | accept (client : Client)
  | acceptFails
  | serve
  | close
  | otaAccept (socket : Int)
  | otaClose
  | tick

def Act.move : Act → Move
  | .accept client => .accept client.connection
  | .acceptFails => .acceptFails
  | .serve => .serve
  | .close => .close
  | .otaAccept socket => .otaAccept socket
  | .otaClose => .otaClose
  | .tick => .tick

structure Watch where
  panel : Panel
  phase : Phase
  /-- The connection, and the messages that were not handled yet. -/
  socket : Int
  waiting : List Message
  noticed : List Notice

section Specification

variable (pb : Protobuf) (unpack : Unpacker) (config : EsphomeConfig) (entities : List Entity)

def observe (w : Watch) : Act → Option Watch
  | .accept client =>
    if w.phase = .accepting then
      some { w with
        phase := .serving
        socket := client.connection.socket
        waiting := client.messages }
    else none
  | .acceptFails => if w.phase = .accepting then some w else none
  | .serve =>
    if w.phase = .serving then
      match w.waiting with
      | [] => none
      | message :: later =>
        (respond unpack config entities w.panel message).map fun (a : Answer) =>
          { w with
            panel := a.panel
            phase := if a.ret = 0 then .serving else .closing
            waiting := later
            noticed := w.noticed ++ a.replies.map fun reply => .reply w.socket (wire pb reply) }
    else none
  | .close =>
    if w.phase = .closing then
      some { w with phase := .accepting, noticed := w.noticed ++ [.close w.socket] }
    else none
  | .otaAccept _ => some w
  | .otaClose => some w
  | .tick => some w

end Specification

def heard (s : Node) : List Notice := (service s).filterMap notice

def watch (s : System) : Watch := ⟨panelOf s.node, .accepting, s.node.socket, [], heard s.node⟩

section Unread

variable {pb : Protobuf}

abbrev Unread : Guarantee Node := recording fun event => isReading event = false

theorem unread_device (dev : Device) : KeepsDevice Unread dev := by
  apply recording_device
  intro event callee
  cases event with
  | sent socket message frame ret => cases callee
  | _ => rfl

theorem unread_listing (entity : Entity) : Keeps Unread (pack pb (Listing.listingMessage entity)) := by
  apply recording_packedWrite
  intro socket frame ret
  unfold Listing.listingMessage
  cases entity.dev.kind with
  | switch => rfl
  | button => rfl
  | sensor => rfl

theorem unread_answering (type : MessageType) (msg : type.Fields) (apart : ¬ UsesRegistry type) :
    Keeps Unread (callback pb type msg) := by
  apply keeps_answering
  · intro message answers
    apply recording_packedWrite
    intro socket frame ret
    cases answers <;> rfl
  · intro message answers
    apply recording_emptyWrite
    intro socket frame ret
    cases answers <;> rfl
  · exact apart

theorem unread_callback (type : MessageType) (msg : type.Fields) :
    Keeps Unread (callback pb type msg) := by
  by_cases uses : UsesRegistry type
  · cases uses with
    | list =>
      apply keeps_bind keeps_get
      intro s
      apply keeps_bind
      · apply keeps_forM
        intro entity _
        rw [listEntity_eq]
        apply keeps_bind
        · exact keeps_bind (unread_listing entity) fun _ => keeps_pure _
        · exact fun _ => keeps_pure _
      · exact fun _ => recording_emptyWrite fun _ _ _ => rfl
    | switch =>
      apply keeps_bind keeps_get
      intro s
      cases findDeviceEntityByKey s.entities msg.key with
      | none => exact keeps_pure _
      | some dev =>
        apply keeps_bind ((unread_device dev).setState _)
        intro _
        apply keeps_bind (unread_device dev).getState
        intro _
        exact recording_packedWrite fun _ _ _ => rfl
    | button =>
      apply keeps_bind keeps_get
      intro s
      cases findDeviceEntityByKey s.entities msg.key with
      | none => exact keeps_pure _
      | some dev => exact (unread_device dev).onPress
  · exact unread_answering type msg uses

theorem unread_readRequest (fuel : Nat) : Keeps Unread (esphomeReadRequest pb fuel) := by
  apply keeps_bind (recording_receiveMessage fuel)
  rintro (ret | ⟨msgId, data⟩)
  · exact keeps_pure _
  · exact keeps_dispatch (fun type msg _ => unread_callback type msg) data

end Unread

theorem heard_append {s t : Node} {told : List Notice} (unread : Unread.onReturn s t)
    (noticed : notices t = notices s ++ told) : heard t = heard s ++ told := by
  obtain ⟨more, events, others⟩ := unread
  have told' : more.filterMap notice = told := by
    apply @List.append_cancel_left _ (notices s)
    rw [← noticed, notices, notices, events, List.filterMap_append]
  have kept : more.filter (fun event => !isReading event) = more := by
    apply List.filter_eq_self.mpr
    intro event member
    rw [others event member]
    rfl
  rw [heard, heard, service, service, events, List.filter_append, List.filterMap_append, kept, told']

section Unanswered

variable {pb : Protobuf} {unpack : Unpacker} {s : Node}

theorem misdirected_of_unanswered {config : EsphomeConfig} {entities : List Entity} {panel : Panel}
    {type : MessageType} {fields : type.Fields}
    (unanswered : answer config entities panel type fields = none) :
    Misdirected entities type fields := by
  cases type with
  | switchCommandRequest =>
    dsimp only [answer] at unanswered
    cases found : findDeviceEntityByKey entities fields.key with
    | none =>
      rw [found] at unanswered
      cases unanswered
    | some dev =>
      rw [found] at unanswered
      refine .switch found fun switch => ?_
      dsimp only at unanswered
      rw [if_pos switch] at unanswered
      cases unanswered
  | buttonCommandRequest =>
    dsimp only [answer] at unanswered
    cases found : findDeviceEntityByKey entities fields.key with
    | none =>
      rw [found] at unanswered
      cases unanswered
    | some dev =>
      rw [found] at unanswered
      refine .button found fun button => ?_
      dsimp only at unanswered
      rw [if_pos button] at unanswered
      cases unanswered
  | _ => cases unanswered

variable (unpacks : Unpacks pb unpack) (small : Small pb)

include unpacks small

theorem dispatch_unanswered (faultless : Faultless s) {message : Message}
    (unanswered : respond unpack s.config s.entities (panelOf s) message = none) :
    ∃ t, (dispatch pb message.1 message.2).run s = .error .undefined t := by
  unfold respond at unanswered
  cases known : MessageType.ofId message.1 with
  | none =>
    rw [known] at unanswered
    cases unanswered
  | some type =>
    rw [known] at unanswered
    rw [run_dispatch s known, unpackerAt_eq unpacks faultless.allocates]
    dsimp only at unanswered
    cases read : content unpack type message.2 with
    | none =>
      rw [read] at unanswered
      cases unanswered
    | some fields =>
      rw [read] at unanswered
      exact (ends_callback small type fields).undefined (misdirected_of_unanswered unanswered)

theorem handle_unanswered (faultless : Faultless s) {message : Message}
    (unanswered : respond unpack s.config s.entities (panelOf s) message = none) :
    ∃ t, (handle pb message).run s = .error .undefined t := by
  obtain ⟨heap, allocates, run⟩ := @handle_faultless pb s faultless message
  rw [run]
  exact dispatch_unanswered unpacks small (s := { s with heap := heap })
    { faultless with allocates := allocates } unanswered

end Unanswered

structure Tracks (config : EsphomeConfig) (entities : List Entity) (s : System) (w : Watch) :
    Prop where
  faultless : Faultless s.node
  config : s.node.config = config
  entities : s.node.entities = entities
  phase : s.phase = w.phase
  panel : panelOf s.node = w.panel
  noticed : heard s.node = w.noticed
  socket : w.phase ≠ .accepting → s.node.socket = w.socket
  plain : w.phase = .serving → s.node.rx.schedule = []
  incoming : w.phase = .serving → s.node.rx.incoming = frames w.waiting
  sizes : w.phase = .serving → ∀ message ∈ w.waiting, message.2.length < 2 ^ 32

section Threads

variable {pb : Protobuf} {unpack : Unpacker} {config : EsphomeConfig} {entities : List Entity}
  {fuel : Nat} {s u : System} {w : Watch}

theorem tracks_watch (faultless : Faultless s.node) (accepting : s.phase = .accepting) :
    Tracks s.node.config s.node.entities s (watch s) where
  faultless := faultless
  config := rfl
  entities := rfl
  phase := accepting
  panel := rfl
  noticed := rfl
  socket waits := absurd rfl waits
  plain serves := nomatch serves
  incoming serves := nomatch serves
  sizes serves := nomatch serves

theorem same_faultless {s t : Node} (same : Same t s) (faultless : Faultless s) : Faultless t where
  allocates := same.grants.1
  accepts := same.accepts.1
  gpio := by rw [same.switchGpio]; exact faultless.gpio
  hbridge := by rw [same.switchHbridge]; exact faultless.hbridge

theorem same_panel {s t : Node} (same : Same t s) : panelOf t = panelOf s := by
  have shown : ∀ dev, Replies.held dev t = Replies.held dev s := by
    intro dev
    rw [Replies.held, Replies.held, same.switchGpio, same.switchHbridge]
  have powered : ∀ dev, output dev t = output dev s := by
    intro dev
    rw [output, output, same.switchGpio, same.switchHbridge]
  rw [panelOf, panelOf, same.buttonTemplate, funext shown, funext powered]

theorem tracks_tick (tracks : Tracks config entities s w)
    (taken : step pb fuel s .tick = some u) : Tracks config entities u w := by
  obtain ⟨node, rfl, same⟩ := tick_same tracks.faultless.accepts tracks.faultless.allocates taken
  exact {
    faultless := same_faultless same tracks.faultless
    config := same.config.trans tracks.config
    entities := same.entities.trans tracks.entities
    phase := tracks.phase
    panel := (same_panel same).trans tracks.panel
    noticed := (congrArg (List.filterMap notice) same.service).trans tracks.noticed
    socket := fun busy => same.socket.trans (tracks.socket busy)
    plain := fun serves => (congrArg Receiver.schedule same.rx).trans (tracks.plain serves)
    incoming := fun serves => (congrArg Receiver.incoming same.rx).trans (tracks.incoming serves)
    sizes := tracks.sizes }

theorem serve_matched (unpacks : Unpacks pb unpack) (small : Small pb)
    (tracks : Tracks config entities s w) :
    Option.Rel (Tracks config entities) (step pb (fuel + 1) s .serve)
      (observe pb unpack config entities w .serve) := by
  dsimp only [step, observe]
  rw [tracks.phase]
  by_cases serves : w.phase = .serving
  · rw [if_pos serves, if_pos serves]
    have incoming := tracks.incoming serves
    have sizes := tracks.sizes serves
    cases waiting : w.waiting with
    | nil =>
      -- The next header never comes.
      rw [waiting] at incoming
      have ended : (esphomeReadRequest pb (fuel + 1)).run s.node = .error .unfinished _ :=
        run_bind_error _ (Reading.receiveMessage_end (tracks.plain serves) incoming (fuel + 1))
      rw [ended]
      exact .none
    | cons message later =>
      rw [waiting] at incoming sizes
      have next : Next s.node message (frames later) :=
        ⟨tracks.plain serves, sizes message List.mem_cons_self, incoming⟩
      obtain ⟨rx, request, rest⟩ := @readRequest_next pb s.node message _ next fuel
      dsimp only
      cases answered : respond unpack config entities w.panel message with
      | none =>
        -- The command leads to a device of another kind, and the request has no behaviour.
        rw [← tracks.config, ← tracks.entities, ← tracks.panel] at answered
        obtain ⟨t, stops⟩ := handle_unanswered unpacks small tracks.faultless answered
        rw [request, stops]
        exact .none
      | some a =>
        rw [← tracks.config, ← tracks.entities, ← tracks.panel] at answered
        obtain ⟨t, run, replied, panel⟩ := handle_answers unpacks small tracks.faultless answered
        have unread := (@unread_readRequest pb (fuel + 1)).final s.node
        rw [request, run] at unread
        rw [request, run]
        have busy : s.node.socket = w.socket := tracks.socket (by rw [serves]; exact nofun)
        have zero : (if a.ret = 0 then Phase.serving else .closing) = .serving → a.ret = 0 := by
          intro goes
          by_contra other
          rw [if_neg other] at goes
          cases goes
        refine .some {
          faultless := { replied.faultless tracks.faultless with }
          config := replied.config.trans tracks.config
          entities := replied.entities.trans tracks.entities
          phase := rfl
          panel := panel
          noticed := ?_
          socket := fun _ => replied.socket.trans busy
          plain := fun goes => (rest t (run.trans (by rw [zero goes]))).1
          incoming := fun goes => (rest t (run.trans (by rw [zero goes]))).2
          sizes := fun _ other member => sizes other (List.mem_cons_of_mem _ member) }
        rw [← tracks.noticed, ← busy]
        exact heard_append unread replied.noticed
  · rw [if_neg serves, if_neg serves]
    exact .none

theorem act_tracked (unpacks : Unpacks pb unpack) (small : Small pb) {act : Act}
    (whole : ∀ client, act = .accept client → client.connection.tx.schedule = [])
    (tracks : Tracks config entities s w) (taken : step pb (fuel + 1) s act.move = some u) :
    ∃ v, observe pb unpack config entities w act = some v ∧ Tracks config entities u v := by
  cases act with
  | accept client =>
    dsimp only [step, Act.move] at taken
    split at taken
    · rename_i can
      obtain rfl := Option.some.inj taken
      refine ⟨_, if_pos (tracks.phase.symm.trans can.1), ?_⟩
      exact {
        faultless := { tracks.faultless with accepts := whole client rfl }
        config := tracks.config
        entities := tracks.entities
        phase := rfl
        panel := tracks.panel
        noticed := tracks.noticed
        socket := fun _ => rfl
        plain := fun _ => client.plain
        incoming := fun _ => client.incoming
        sizes := fun _ => client.small }
    · cases taken
  | acceptFails =>
    dsimp only [step, Act.move] at taken
    split at taken
    · rename_i can
      obtain rfl := Option.some.inj taken
      have waits := tracks.phase.symm.trans can
      refine ⟨w, if_pos waits, ?_⟩
      exact { tracks with
        faultless := { tracks.faultless with }
        socket := fun busy => absurd waits busy }
    · cases taken
  | serve =>
    have matched := @serve_matched pb unpack config entities fuel s w unpacks small tracks
    rw [show step pb (fuel + 1) s .serve = some u from taken] at matched
    cases answered : observe pb unpack config entities w .serve with
    | none =>
      rw [answered] at matched
      cases matched
    | some v =>
      rw [answered] at matched
      cases matched with
      | some tracks' => exact ⟨v, rfl, tracks'⟩
  | close =>
    dsimp only [step, Act.move] at taken
    split at taken
    · rename_i can
      obtain rfl := Option.some.inj taken
      have closing := tracks.phase.symm.trans can
      have busy : s.node.socket = w.socket := tracks.socket (by rw [closing]; exact nofun)
      refine ⟨_, if_pos closing, ?_⟩
      exact {
        faultless := { tracks.faultless with }
        config := tracks.config
        entities := tracks.entities
        phase := rfl
        panel := tracks.panel
        noticed := by
          rw [← tracks.noticed, ← busy]
          refine heard_append (Guarantee.grown_one rfl rfl) ?_
          exact List.filterMap_append
        socket := fun waits => absurd rfl waits
        plain := fun serves => nomatch serves
        incoming := fun serves => nomatch serves
        sizes := fun serves => nomatch serves }
    · cases taken
  | otaAccept socket =>
    dsimp only [step, Act.move] at taken
    split at taken
    · obtain rfl := Option.some.inj taken
      exact ⟨w, rfl, { tracks with }⟩
    · cases taken
  | otaClose =>
    dsimp only [step, Act.move] at taken
    cases held : s.ota with
    | none =>
      rw [held] at taken
      cases taken
    | some socket =>
      rw [held] at taken
      obtain rfl := Option.some.inj taken
      exact ⟨w, rfl, { tracks with }⟩
  | tick => exact ⟨w, rfl, tracks_tick tracks taken⟩

/-- In every interleaving the clients notice, but for the readings, just what the specification says,
and the devices hold what it says. The service gets on with a request exactly when the specification
has an answer to it. -/
theorem threads_observed (unpacks : Unpacks pb unpack) (small : Small pb) {start t : System}
    (faultless : Faultless start.node) (accepting : start.phase = .accepting) {acts : List Act}
    (whole : ∀ client, .accept client ∈ acts → client.connection.tx.schedule = [])
    (reached : leads (step pb (fuel + 1)) (acts.map Act.move) start = some t) :
    ∃ w, leads (observe pb unpack start.node.config start.node.entities) acts (watch start) =
        some w ∧
      heard t.node = w.noticed ∧ panelOf t.node = w.panel ∧
      ((∃ u, step pb (fuel + 1) t .serve = some u) ↔
        ∃ v, observe pb unpack start.node.config start.node.entities w .serve = some v) := by
  obtain ⟨w, led, tracks⟩ := leads_matched acts (fun s w u act member tracks taken =>
    act_tracked unpacks small (fun client same => whole client (same ▸ member)) tracks taken)
    (tracks_watch faultless accepting) reached
  refine ⟨w, led, tracks.noticed, tracks.panel, ?_⟩
  have matched := @serve_matched pb unpack start.node.config start.node.entities fuel t w unpacks
    small tracks
  constructor
  · rintro ⟨u, served⟩
    rw [served] at matched
    cases answered : observe pb unpack start.node.config start.node.entities w .serve with
    | none =>
      rw [answered] at matched
      cases matched
    | some v => exact ⟨v, rfl⟩
  · rintro ⟨v, answered⟩
    rw [answered] at matched
    cases served : step pb (fuel + 1) t .serve with
    | none =>
      rw [served] at matched
      cases matched
    | some u => exact ⟨u, rfl⟩

end Threads

def lampActs : List Act :=
  [.tick, .accept (lampClient 4), .tick, .serve, .otaAccept 9, .tick, .serve, .otaClose, .close]

theorem threads_observed_lamp :
    ∃ t, leads (step lampProtobuf 3) (lampActs.map Act.move) Undisturbed.lampAndSensor = some t ∧
      heard t.node = lampTold 4 := by
  have there : (leads (step lampProtobuf 3) (lampActs.map Act.move)
    Undisturbed.lampAndSensor).isSome = true := by decide +kernel
  obtain ⟨t, reached⟩ := Option.isSome_iff_exists.mp there
  obtain ⟨w, led, told, -⟩ := @threads_observed lampProtobuf unpackLamp 2 (fun _ _ _ _ => rfl)
    lamp_small Undisturbed.lampAndSensor t ⟨rfl, rfl, fun _ => rfl, fun _ => rfl⟩ rfl lampActs
    (by simp [lampActs, lampClient]) reached
  have noticed : (leads (observe lampProtobuf unpackLamp Undisturbed.lampAndSensor.node.config
    Undisturbed.lampAndSensor.node.entities) lampActs (watch Undisturbed.lampAndSensor)).map
      Watch.noticed = some (lampTold 4) := by decide +kernel
  refine ⟨t, reached, told.trans ?_⟩
  rw [led] at noticed
  exact Option.some.inj noticed

end ZephyrEsphome.Api.Observed
