/- Digest: The loop over a connection handles the messages on it one by one, and sees nothing else.

   At the level of messages a connection is a list of them. `handleAll` takes them one after the
   other and has no stream; the loop over the connection does the same to the rest of the state. -/

import ZephyrEsphome.Library.Framing
import ZephyrEsphome.Rpc.Release

set_option autoImplicit false
set_option relaxedAutoImplicit false

namespace ZephyrEsphome.Rpc.Conversation

open Api
open Kernel
open Library.Exec
open Library.Framing
open Handling Reading Writing

abbrev Message := UInt32 × List UInt8

def frames (messages : List Message) : List UInt8 :=
  messages.flatMap fun message => frame message.1 message.2

section Server

variable (pb : Protobuf)

/-- What `esphome_read_request` does with a message that is there as a whole. -/
def handle (message : Message) : Exec Node Int := do
  if message.2 = [] then
    dispatch pb message.1 []
  else
    match ← kMalloc message.2.length with
    | none => return -enomem
    | some _ => dispatch pb message.1 message.2

def handleAll : List Message → Exec Node (Option Int)
  | [] => return none
  | message :: later => do
    let ret ← handle pb message
    if ret = 0 then
      handleAll later
    else
      return some ret

end Server

def putRx (rx : Receiver) (node : Node) : Node := { node with rx := rx }

variable {pb : Protobuf}

theorem unseen_packedWrite (message : Outgoing) (payload : Payload) :
    Unseen putRx (packedWrite message payload) := by
  constructor
  intro s rx
  by_cases refused : s.heap.Refuses
  · rw [packedWrite_refused message payload s refused,
      packedWrite_refused message payload (putRx rx s) refused]
    rfl
  · by_cases fits : (frameOf message payload).length < 2 ^ 32
    · rw [packedWrite_sends message payload s refused fits,
        packedWrite_sends message payload (putRx rx s) refused fits]
      rfl
    · rw [packedWrite_wraps message payload s refused (Nat.le_of_not_lt fits),
        packedWrite_wraps message payload (putRx rx s) refused (Nat.le_of_not_lt fits)]
      rfl

theorem unseen_emptyWrite (message : Outgoing) : Unseen putRx (emptyWrite message) := by
  constructor
  intro s rx
  rw [emptyWrite_sends, emptyWrite_sends]
  rfl

theorem unseen_record (event : Event) : Unseen putRx (record event) :=
  unseen_modify fun _ _ => rfl

theorem unseen_kMalloc (size : Nat) : Unseen putRx (kMalloc size) :=
  unseen_modifyGet (fun _ _ => rfl) fun _ _ => rfl

theorem unseen_onSwitch {α : Type} (dev : Device) (m : Exec Switch.GpioSwitch α)
    (m' : Exec Switch.Hbridge α) :
    Unseen putRx (match dev.compatible with
      | .switchGpio => onSwitchGpio dev.inst m
      | .switchHbridge => onSwitchHbridge dev.inst m'
      | _ => throw .undefined) := by
  cases dev.compatible with
  | switchGpio => exact unseen_zoom (fun _ _ => rfl) fun _ _ _ => rfl
  | switchHbridge => exact unseen_zoom (fun _ _ => rfl) fun _ _ _ => rfl
  | buttonTemplate => exact unseen_throw _
  | sensorTemperature => exact unseen_throw _
  | sensorTimestamp => exact unseen_throw _

theorem unseen_switchSetState (dev : Device) (state : Int) :
    Unseen putRx (switchSetState dev state) :=
  unseen_bind (unseen_record _) fun _ => unseen_onSwitch dev _ _

theorem unseen_switchGetState (dev : Device) : Unseen putRx (switchGetState dev) :=
  unseen_bind (unseen_record _) fun _ => unseen_onSwitch dev _ _

theorem unseen_buttonOnPress (dev : Device) : Unseen putRx (buttonOnPress dev) := by
  apply unseen_bind (unseen_record _)
  intro _
  cases dev.compatible with
  | switchGpio => exact unseen_throw _
  | switchHbridge => exact unseen_throw _
  | buttonTemplate => exact unseen_modifyGet (fun _ _ => rfl) fun _ _ => rfl
  | sensorTemperature => exact unseen_throw _
  | sensorTimestamp => exact unseen_throw _

theorem unseen_listEntity (entity : Entity) : Unseen putRx (listEntity pb entity) := by
  unfold listEntity
  cases entity.dev.kind with
  | switch => exact unseen_bind (unseen_packedWrite _ _) fun _ => unseen_pure _
  | button => exact unseen_bind (unseen_packedWrite _ _) fun _ => unseen_pure _
  | sensor => exact unseen_bind (unseen_packedWrite _ _) fun _ => unseen_pure _

theorem unseen_callback (type : MessageType) (msg : type.Fields) :
    Unseen putRx (callback pb type msg) := by
  unfold callback
  split
  · exact unseen_get (fun _ _ => rfl) fun _ => unseen_packedWrite _ _
  · refine unseen_get (fun _ _ => rfl) fun s => ?_
    cases s.config.password with
    | none => exact unseen_packedWrite _ _
    | some password => exact unseen_packedWrite _ _
  · exact unseen_get (fun _ _ => rfl) fun _ => unseen_packedWrite _ _
  · refine unseen_get (fun _ _ => rfl) fun s => ?_
    apply unseen_bind
    · exact unseen_forM fun entity => unseen_bind (unseen_listEntity entity) fun _ => unseen_pure _
    · intro _
      exact unseen_emptyWrite _
  · refine unseen_get (fun _ _ => rfl) fun s => ?_
    cases findDeviceEntityByKey s.entities _ with
    | none => exact unseen_pure _
    | some dev =>
      apply unseen_bind (unseen_switchSetState dev _)
      intro _
      exact unseen_bind (unseen_switchGetState dev) fun _ => unseen_packedWrite _ _
  · refine unseen_get (fun _ _ => rfl) fun s => ?_
    cases findDeviceEntityByKey s.entities _ with
    | none => exact unseen_pure _
    | some dev => exact unseen_buttonOnPress dev
  · exact unseen_pure _
  · exact unseen_pure _
  · exact unseen_pure _
  · exact unseen_pure _
  · exact unseen_emptyWrite .pingResponse
  · exact unseen_bind (unseen_emptyWrite .disconnectResponse) fun _ => unseen_pure _
  · exact unseen_pure _

theorem unseen_dispatch (msgId : UInt32) (data : List UInt8) :
    Unseen putRx (dispatch pb msgId data) := by
  rcases dispatch_cases pb msgId data with same | ⟨type, -, same | ⟨msg, -, same⟩⟩
  · rw [same]
    exact unseen_pure _
  · rw [same]
    refine unseen_get (fun _ _ => rfl) fun s => ?_
    cases pb.unpack type data s.heap with
    | none => exact unseen_pure _
    | some msg => exact unseen_callback type msg
  · rw [same]
    exact unseen_callback type msg

theorem unseen_handle (message : Message) : Unseen putRx (handle pb message) := by
  apply unseen_ite (unseen_dispatch _ _)
  apply unseen_bind (unseen_kMalloc _)
  rintro (_ | block)
  · exact unseen_pure _
  · exact unseen_dispatch _ _

theorem unseen_handleAll (messages : List Message) : Unseen putRx (handleAll pb messages) := by
  induction messages with
  | nil => exact unseen_pure _
  | cons message later ih =>
    apply unseen_bind (unseen_handle message)
    intro ret
    exact unseen_ite ih (unseen_pure _)

theorem handle_bare (msgId : UInt32) : handle pb (msgId, []) = dispatch pb msgId [] :=
  if_pos rfl

theorem handle_refused {s : Node} {message : Message} (more : message.2 ≠ [])
    (refused : s.heap.Refuses) : (handle pb message).run s =
      .ok (-enomem) { s with heap := (s.heap.kMalloc message.2.length).2 } := by
  have heap := run_kMalloc s message.2.length
  rw [show (s.heap.kMalloc message.2.length).1 = none by rw [Heap.kMalloc, if_pos refused]] at heap
  rw [handle, if_neg more, run_bind_ok _ heap]
  rfl

theorem handle_granted {s : Node} {message : Message} (more : message.2 ≠ [])
    (granted : ¬ s.heap.Refuses) : (handle pb message).run s =
      (dispatch pb message.1 message.2).run
        { s with heap := (s.heap.kMalloc message.2.length).2 } := by
  have heap := run_kMalloc s message.2.length
  rw [show (s.heap.kMalloc message.2.length).1 = some (s.heap.ledger.next, message.2.length) by
    rw [Heap.kMalloc, if_neg granted]] at heap
  rw [handle, if_neg more, run_bind_ok _ heap]

structure Next (s : Node) (message : Message) (rest : List UInt8) : Prop where
  plain : s.rx.schedule = []
  small : message.2.length < 2 ^ 32
  incoming : s.rx.incoming = frame message.1 message.2 ++ rest

section Frame

variable {s : Node} {message : Message} {rest : List UInt8}

theorem Next.length (next : Next s message rest) :
    message.2.length = (UInt32.ofNat message.2.length).toNat := by
  rw [UInt32.toNat_ofNat']
  exact (Nat.mod_eq_of_lt next.small).symm

theorem Next.empty_iff (next : Next s message rest) :
    UInt32.ofNat message.2.length = 0 ↔ message.2 = [] := by
  rw [← UInt32.toNat_inj, ← next.length]
  exact List.length_eq_zero_iff

theorem Next.arrives (next : Next s message rest) (granted : message.2 ≠ [] → ¬ s.heap.Refuses) :
    ∃ rx, rx.schedule = [] ∧ rx.incoming = rest ∧ Arrives s message.1 message.2 rest (putRx rx
      { s with heap := if message.2 = [] then s.heap else (s.heap.kMalloc message.2.length).2 }) := by
  refine ⟨took s.rx rest ((header message.1 message.2.length).length +
    if UInt32.ofNat message.2.length = 0 then 0 else 1), next.plain, rfl,
    header message.1 message.2.length, UInt32.ofNat message.2.length,
    isHeader_header message.1 next.small, next.length, ?_, ?_, ?_⟩
  · rw [next.incoming, frame, List.append_assoc]
  · intro nonzero
    exact granted (mt next.empty_iff.mpr nonzero)
  · simp only [putRx, next.empty_iff, ← next.length]

theorem Next.refused (next : Next s message rest) (more : message.2 ≠ [])
    (refused : s.heap.Refuses) (fuel : Nat) :
    ∃ rx, (receiveMessage (fuel + 1)).run s = .ok (.error (-enomem))
      (putRx rx { s with heap := (s.heap.kMalloc message.2.length).2 }) := by
  have split : s.rx.incoming = header message.1 message.2.length ++ (message.2 ++ rest) := by
    rw [next.incoming, frame, List.append_assoc]
  have headerRun := run_onRx_ok
    (readHeader_accepts next.plain split (isHeader_header message.1 next.small) fuel)
  have heap := run_kMalloc { s with
    rx := took s.rx (message.2 ++ rest) (header message.1 message.2.length).length }
    (UInt32.ofNat message.2.length).toNat
  rw [show (s.heap.kMalloc (UInt32.ofNat message.2.length).toNat).1 = none by
    rw [Heap.kMalloc, if_pos refused]] at heap
  refine ⟨took s.rx (message.2 ++ rest) (header message.1 message.2.length).length, ?_⟩
  rw [receiveMessage, run_bind_ok _ headerRun]
  simp only [if_neg (mt next.empty_iff.mp more)]
  rw [run_bind_ok _ heap, ← next.length]
  rfl

theorem readRequest_next (next : Next s message rest) (fuel : Nat) :
    ∃ rx, (esphomeReadRequest pb (fuel + 1)).run s = replaced putRx rx ((handle pb message).run s) ∧
      ∀ t, (handle pb message).run s = .ok 0 t → rx.schedule = [] ∧ rx.incoming = rest := by
  obtain ⟨msgId, payload⟩ := message
  by_cases bare : payload = []
  · subst bare
    obtain ⟨rx, plain, left, arrives⟩ := next.arrives fun more => absurd rfl more
    refine ⟨rx, ?_, fun _ _ => ⟨plain, left⟩⟩
    rw [esphomeReadRequest, run_bind_ok _ (receiveMessage_arrives next.plain arrives fuel),
      handle_bare]
    exact (unseen_dispatch msgId []).run s rx
  · by_cases refused : s.heap.Refuses
    · obtain ⟨rx, fails⟩ := next.refused bare refused fuel
      refine ⟨rx, ?_, ?_⟩
      · rw [esphomeReadRequest, run_bind_ok _ fails, handle_refused bare refused]
        rfl
      · intro t answered
        rw [handle_refused bare refused] at answered
        exact absurd (EStateM.Result.ok.inj answered).1 (by decide)
    · obtain ⟨rx, plain, left, arrives⟩ := next.arrives fun _ => refused
      refine ⟨rx, ?_, fun _ _ => ⟨plain, left⟩⟩
      rw [esphomeReadRequest, run_bind_ok _ (receiveMessage_arrives next.plain arrives fuel),
        handle_granted bare refused, if_neg bare]
      exact (unseen_dispatch msgId payload).run _ rx

end Frame

def Follows (pb : Protobuf) (fuel count : Nat) (rest : List UInt8) (s : Node) :
    EStateM.Result Stop Node (Option Int) → Prop
  | .ok none t => ∃ rx, rx.schedule = [] ∧ rx.incoming = rest ∧ ∀ rounds,
    (loop .unfinished (requestRound pb fuel) (count + rounds) ()).run s =
      (loop .unfinished (requestRound pb fuel) rounds ()).run (putRx rx t)
  | .ok (some ret) t => ∃ rx, ∀ rounds,
    (loop .unfinished (requestRound pb fuel) (count + rounds) ()).run s = .ok ret (putRx rx t)
  | .error e t => ∃ rx, ∀ rounds,
    (loop .unfinished (requestRound pb fuel) (count + rounds) ()).run s = .error e (putRx rx t)

theorem Follows.next {fuel count : Nat} {rest : List UInt8} {s t : Node} {rx : Receiver}
    {r : EStateM.Result Stop Node (Option Int)}
    (round : (requestRound pb fuel ()).run s = .ok (.inl ()) (putRx rx t))
    (follows : Follows pb fuel count rest (putRx rx t) (replaced putRx rx r)) :
    Follows pb fuel (count + 1) rest s r := by
  have further : ∀ rounds,
      (loop .unfinished (requestRound pb fuel) (count + 1 + rounds) ()).run s =
        (loop .unfinished (requestRound pb fuel) (count + rounds) ()).run (putRx rx t) := by
    intro rounds
    rw [show count + 1 + rounds = count + rounds + 1 by omega]
    exact loop_next round _
  cases r with
  | ok ended u =>
    cases ended with
    | none =>
      obtain ⟨rx', plain, left, after⟩ := follows
      exact ⟨rx', plain, left, fun rounds => (further rounds).trans (after rounds)⟩
    | some ret =>
      obtain ⟨rx', after⟩ := follows
      exact ⟨rx', fun rounds => (further rounds).trans (after rounds)⟩
  | error e u =>
    obtain ⟨rx', after⟩ := follows
    exact ⟨rx', fun rounds => (further rounds).trans (after rounds)⟩

theorem loop_follows (fuel : Nat) (rest : List UInt8) (messages : List Message) : ∀ s : Node,
    s.rx.schedule = [] → (∀ message ∈ messages, message.2.length < 2 ^ 32) →
    s.rx.incoming = frames messages ++ rest →
    Follows pb (fuel + 1) messages.length rest s ((handleAll pb messages).run s) := by
  induction messages with
  | nil =>
    intro s plain _ incoming
    refine ⟨s.rx, plain, incoming, ?_⟩
    intro rounds
    rw [List.length_nil, Nat.zero_add]
    rfl
  | cons message later ih =>
    intro s plain small incoming
    have next : Next s message (frames later ++ rest) := by
      refine ⟨plain, small message List.mem_cons_self, ?_⟩
      rw [incoming, frames, List.flatMap_cons, List.append_assoc]
      rfl
    obtain ⟨rx, request, left⟩ := @readRequest_next pb s message _ next fuel
    cases run : (handle pb message).run s with
    | error e t =>
      rw [run] at request
      rw [handleAll, run_bind_error _ run]
      refine ⟨rx, ?_⟩
      intro rounds
      rw [show (message :: later).length + rounds = later.length + rounds + 1 by
        rw [List.length_cons]; omega]
      exact loop_stop (run_bind_error _ request) _
    | ok ret t =>
      rw [run] at request
      have request : (esphomeReadRequest pb (fuel + 1)).run s = .ok ret (putRx rx t) := request
      rw [handleAll, run_bind_ok _ run]
      by_cases zero : ret = 0
      · subst zero
        obtain ⟨plain', incoming'⟩ := left t run
        have round : (requestRound pb (fuel + 1) ()).run s = .ok (.inl ()) (putRx rx t) := by
          rw [requestRound, run_bind_ok _ request]
          rfl
        rw [if_pos rfl]
        apply Follows.next round
        rw [← (unseen_handleAll later).run t rx]
        exact ih (putRx rx t) plain' (fun m member => small m (List.mem_cons_of_mem _ member))
          incoming'
      · rw [if_neg zero]
        refine ⟨rx, ?_⟩
        intro rounds
        rw [show (message :: later).length + rounds = later.length + rounds + 1 by
          rw [List.length_cons]; omega]
        apply loop_done
        rw [requestRound, run_bind_ok _ request, if_neg zero]
        rfl

structure Client where
  connection : Connection
  messages : List Message
  plain : connection.rx.schedule = []
  small : ∀ message ∈ messages, message.2.length < 2 ^ 32
  incoming : connection.rx.incoming = frames messages

section Server

variable (pb : Protobuf)

def attend (messages : List Message) : Exec Node Unit := do
  match ← handleAll pb messages with
  | none => throw .unfinished
  | some _ => record (.closed (← get).socket)

def attendAll : List (Option Client) → Exec Node Unit
  | [] => return ()
  | none :: later => do
    modify fun node => { node with socket := -1 }
    attendAll later
  | some client :: later => do
    modify fun node =>
      { node with socket := client.connection.socket, tx := client.connection.tx }
    attend pb client.messages
    attendAll later

end Server

theorem unseen_attend (messages : List Message) : Unseen putRx (attend pb messages) := by
  apply unseen_bind (unseen_handleAll messages)
  rintro (_ | ret)
  · exact unseen_throw _
  · exact unseen_get (fun _ _ => rfl) fun _ => unseen_record _

theorem unseen_attendAll (clients : List (Option Client)) : Unseen putRx (attendAll pb clients) := by
  induction clients with
  | nil => exact unseen_pure _
  | cons client later ih =>
    cases client with
    | none => exact unseen_bind (unseen_modify fun _ _ => rfl) fun _ => ih
    | some client =>
      refine unseen_bind (unseen_modify fun _ _ => rfl) fun _ => ?_
      exact unseen_bind (unseen_attend client.messages) fun _ => ih

theorem serveConnection_attends {messages : List Message} {s : Node} (plain : s.rx.schedule = [])
    (small : ∀ message ∈ messages, message.2.length < 2 ^ 32)
    (incoming : s.rx.incoming = frames messages) {fuel : Nat} (enough : messages.length < fuel) :
    ∃ rx, (serveConnection pb fuel).run s = replaced putRx rx ((attend pb messages).run s) := by
  obtain ⟨spare, rfl⟩ := Nat.exists_eq_add_of_lt enough
  have follows := @loop_follows pb (messages.length + spare) [] messages s plain small
    (by rw [incoming, List.append_nil])
  have rounds : messages.length + spare + 1 = messages.length + (spare + 1) := by omega
  cases run : (handleAll pb messages).run s with
  | error e t =>
    rw [run] at follows
    obtain ⟨rx, ends⟩ := follows
    have ended := ends (spare + 1)
    rw [← rounds] at ended
    exact ⟨rx, by rw [serveConnection, attend, run_bind_error _ ended, run_bind_error _ run]; rfl⟩
  | ok ended t =>
    rw [run] at follows
    rw [attend, run_bind_ok _ run]
    cases ended with
    | some ret =>
      obtain ⟨rx, ends⟩ := follows
      have ended := ends (spare + 1)
      rw [← rounds] at ended
      exact ⟨rx, by rw [serveConnection, run_bind_ok _ ended]; rfl⟩
    | none =>
      obtain ⟨rx, plain', left, goes⟩ := follows
      have goes := goes (spare + 1)
      rw [← rounds] at goes
      -- Nothing is left on the stream, and the next round never comes to an end.
      have waits : (requestRound pb (messages.length + spare + 1) ()).run (putRx rx t) =
          .error .unfinished (putRx (took rx [] (messages.length + spare + 1)) t) :=
        run_bind_error _ (run_bind_error _
          (receiveMessage_end plain' left (messages.length + spare + 1)))
      rw [loop_stop waits] at goes
      exact ⟨_, by rw [serveConnection, run_bind_error _ goes]; rfl⟩

/-- The service does to everything but the stream what attending its clients does: each message is
handled once, in the order of the frames, and none after one that is not answered with 0. -/
theorem service_attends {fuel : Nat} {clients : List (Option Client)}
    (enough : ∀ client ∈ clients, ∀ c ∈ client, c.messages.length < fuel) (s : Node) :
    ∃ rx, (esphomeRpcService pb fuel (clients.map (·.map Client.connection))).run s =
      replaced putRx rx ((attendAll pb clients).run s) := by
  induction clients generalizing s with
  | nil => exact ⟨s.rx, rfl⟩
  | cons client later ih =>
    have enough' : ∀ other ∈ later, ∀ c ∈ other, c.messages.length < fuel :=
      fun other member => enough other (List.mem_cons_of_mem _ member)
    cases client with
    | none => exact ih enough' { s with socket := -1 }
    | some client =>
      have served := @serveConnection_attends pb client.messages (s.accept client.connection)
        client.plain client.small client.incoming fuel
        (enough _ List.mem_cons_self client rfl)
      obtain ⟨rx, connection⟩ := served
      -- Attending the messages does not see the stream of the accepted connection.
      have apart := (@unseen_attend pb client.messages).run
        { s with socket := client.connection.socket, tx := client.connection.tx }
        client.connection.rx
      have connection : (serveConnection pb fuel).run (s.accept client.connection) =
          replaced putRx rx ((attend pb client.messages).run
            { s with socket := client.connection.socket, tx := client.connection.tx }) := by
        rw [connection]
        refine (congrArg (replaced putRx rx) apart).trans ?_
        cases (attend pb client.messages).run _ with
        | ok _ _ => rfl
        | error _ _ => rfl
      have accepted : (esphomeRpcService pb fuel
            ((some client :: later).map (·.map Client.connection))).run s =
          (serveConnection pb fuel >>= fun _ =>
            esphomeRpcService pb fuel (later.map (·.map Client.connection))).run
              (s.accept client.connection) := rfl
      have attended : (attendAll pb (some client :: later)).run s =
          (attend pb client.messages >>= fun _ => attendAll pb later).run
            { s with socket := client.connection.socket, tx := client.connection.tx } := rfl
      rw [accepted, attended]
      cases run : (attend pb client.messages).run
          { s with socket := client.connection.socket, tx := client.connection.tx } with
      | error e t =>
        rw [run] at connection
        exact ⟨rx, by rw [run_bind_error _ connection, run_bind_error _ run]; rfl⟩
      | ok _ t =>
        rw [run] at connection
        rw [run_bind_ok _ connection, run_bind_ok _ run]
        obtain ⟨rx', rest⟩ := ih enough' (putRx rx t)
        refine ⟨rx', ?_⟩
        rw [rest, (unseen_attendAll later).run t rx]
        cases (attendAll pb later).run t with
        | ok _ _ => rfl
        | error _ _ => rfl

def impatient : Client where
  connection :=
    { socket := 5
      rx := ⟨frames [(7, []), (5, []), (7, [])], [], 0, fun _ => 0⟩
      tx := ⟨[], []⟩ }
  messages := [(7, []), (5, []), (7, [])]
  plain := rfl
  small := by decide
  incoming := rfl

theorem service_attends_impatient :
    ∃ rx, (esphomeRpcService Release.silent 4 [some impatient.connection, none]).run
        (freshNode none [] []) =
      replaced putRx rx
        ((attendAll Release.silent [some impatient, none]).run (freshNode none [] [])) := by
  refine @service_attends Release.silent 4 [some impatient, none] ?_ (freshNode none [] [])
  intro client member c here
  rcases List.mem_cons.mp member with rfl | last
  · obtain rfl := Option.mem_some_iff.mp here
    decide
  · obtain rfl := List.mem_singleton.mp last
    exact absurd here (Option.not_mem_none c)

end ZephyrEsphome.Rpc.Conversation
