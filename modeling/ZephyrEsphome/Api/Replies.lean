/- Digest: When the replies to switch commands tell the state that was set last. -/

import ZephyrEsphome.Api.Kinds
import ZephyrEsphome.Rpc.Release
import ZephyrEsphome.Switch.Holding

set_option autoImplicit false
set_option relaxedAutoImplicit false

namespace ZephyrEsphome.Api.Replies

open Kernel
open Library.Exec
open Rpc
open Rpc.Handling
open Rpc.Writing (frameOf packedWrite_refused packedWrite_sends packedWrite_wraps)
open Switch (GpioSwitch Hbridge)
open Switch.Holding

/-- `data->state` of the device. -/
def held (dev : Device) (s : Node) : Int :=
  match dev.compatible with
  | .switchGpio => (s.switchGpio dev.inst).state
  | .switchHbridge => (s.switchHbridge dev.inst).state
  | _ => 0

/-- None of the writes that a call of `set_state` makes would fail. -/
def Unhindered (dev : Device) (s : Node) : Prop :=
  match dev.compatible with
  | .switchGpio => Clear (s.switchGpio dev.inst).gpio.outcomes 1
  | .switchHbridge => Clear (s.switchHbridge dev.inst).gpio.outcomes 4
  | _ => False

instance (dev : Device) (s : Node) : Decidable (Unhindered dev s) := by
  unfold Unhindered
  split <;> infer_instance

/-- The device's driver has just been initialised. -/
def Initialised (dev : Device) (s : Node) : Prop :=
  match dev.compatible with
  | .switchGpio =>
    ∃ boot, GpioSwitch.esphomeGpioSwitchInit.run boot = .ok 0 (s.switchGpio dev.inst)
  | .switchHbridge =>
    ∃ boot, Hbridge.esphomeSwitchHbridgeInit.run boot = .ok 0 (s.switchHbridge dev.inst)
  | _ => False

theorem switch_cases {dev : Device} (switch : dev.kind = .switch) :
    dev.compatible = .switchGpio ∨ dev.compatible = .switchHbridge := by
  unfold Device.kind at switch
  cases binding : dev.compatible with
  | switchGpio => exact Or.inl rfl
  | switchHbridge => exact Or.inr rfl
  | buttonTemplate =>
    rw [binding] at switch
    exact absurd switch (by decide)
  | sensorTemperature =>
    rw [binding] at switch
    exact absurd switch (by decide)
  | sensorTimestamp =>
    rw [binding] at switch
    exact absurd switch (by decide)

theorem initialised_switch {dev : Device} {s : Node} (init : Initialised dev s) :
    dev.kind = .switch := by
  unfold Initialised at init
  unfold Device.kind
  split at init
  · rename_i binding
    rw [binding]
    rfl
  · rename_i binding
    rw [binding]
    rfl
  · exact init.elim

theorem initialised_held {dev : Device} {s : Node} (init : Initialised dev s) :
    held dev s = -einval := by
  unfold Initialised at init
  unfold held
  split at init
  · obtain ⟨boot, run⟩ := init
    exact gpioSwitchInit_unknown run
  · obtain ⟨boot, run⟩ := init
    exact hbridgeInit_unknown run
  · exact init.elim

structure Others (dev : Device) (s t : Node) : Prop where
  heap : t.heap = s.heap
  entities : t.entities = s.entities
  held : ∀ other, other ≠ dev → Replies.held other t = Replies.held other s

theorem run_switchSetState {dev : Device} (switch : dev.kind = .switch) (state : Int) (s : Node) :
    ∃ ret t, (switchSetState dev state).run s = .ok ret t ∧
      t.events = s.events ++ [.setState dev state] ∧ Others dev s t ∧
      Settled (Unhindered dev s) state (held dev s) ret (held dev t) := by
  have recorded : (record (.setState dev state)).run s =
      .ok () { s with events := s.events ++ [.setState dev state] } := rfl
  rcases dev with ⟨binding, inst⟩
  rcases switch_cases switch with rfl | rfl
  · obtain ⟨ret, next, run, settled⟩ := run_gpioSwitchSetState (s.switchGpio inst) state
    refine ⟨ret, { s with
      events := s.events ++ [.setState ⟨.switchGpio, inst⟩ state]
      switchGpio := Function.update s.switchGpio inst next }, ?_, rfl, ⟨rfl, rfl, ?_⟩, ?_⟩
    · rw [switchSetState, run_bind_ok _ recorded]
      exact run_zoom_ok _ run
    · rintro ⟨binding', inst'⟩ other
      cases binding' with
      | switchGpio =>
        have apart : inst' ≠ inst := by
          rintro rfl
          exact other rfl
        simp only [held, Function.update_of_ne apart]
      | _ => rfl
    · simpa only [held, Unhindered, Function.update_self] using settled
  · obtain ⟨ret, next, run, settled⟩ := run_hbridgeSetState (s.switchHbridge inst) state
    refine ⟨ret, { s with
      events := s.events ++ [.setState ⟨.switchHbridge, inst⟩ state]
      switchHbridge := Function.update s.switchHbridge inst next }, ?_, rfl, ⟨rfl, rfl, ?_⟩, ?_⟩
    · rw [switchSetState, run_bind_ok _ recorded]
      exact run_zoom_ok _ run
    · rintro ⟨binding', inst'⟩ other
      cases binding' with
      | switchHbridge =>
        have apart : inst' ≠ inst := by
          rintro rfl
          exact other rfl
        simp only [held, Function.update_of_ne apart]
      | _ => rfl
    · simpa only [held, Unhindered, Function.update_self] using settled

theorem run_switchGetState {dev : Device} (switch : dev.kind = .switch) (s : Node) :
    (switchGetState dev).run s = .ok (if held dev s < 0 then held dev s else 0, held dev s)
      { s with events := s.events ++ [.getState dev] } := by
  have recorded : (record (.getState dev)).run s =
      .ok () { s with events := s.events ++ [.getState dev] } := rfl
  rcases dev with ⟨binding, inst⟩
  rcases switch_cases switch with rfl | rfl
  · rw [switchGetState, run_bind_ok _ recorded]
    apply run_zoom_same
    · rfl
    · rw [Function.update_eq_self]
  · rw [switchGetState, run_bind_ok _ recorded]
    apply run_zoom_same
    · rfl
    · rw [Function.update_eq_self]

/-- What is sent in reply to a command for `key`. -/
def reply (key : UInt32) (state : Int) : Outgoing := .switchStateResponse ⟨key, state⟩

section Commands

variable (pb : Protobuf)

theorem run_switchCommand {request : SwitchCommandRequest} {dev : Device} {s : Node}
    (found : findDeviceEntityByKey s.entities request.key = some dev)
    (switch : dev.kind = .switch) :
    ∃ u, (switchCommandRequestCb pb request).run s =
        (pack pb (reply request.key (held dev u))).run u ∧
      u.events = s.events ++ [.setState dev request.state, .getState dev] ∧ Others dev s u ∧
      held dev u = if Unhindered dev s then request.state else held dev s := by
  obtain ⟨ret, t, setting, events, others, settled⟩ := run_switchSetState switch request.state s
  have reading := run_switchGetState switch t
  refine ⟨{ t with events := t.events ++ [.getState dev] }, ?_, ?_, ?_, ?_⟩
  · rw [switchCommandRequestCb, run_bind_ok _ (run_get s), found]
    dsimp only
    rw [run_bind_ok _ setting, run_bind_ok _ reading]
    rfl
  · show t.events ++ [.getState dev] = _
    rw [events, List.append_assoc]
    rfl
  · exact ⟨others.heap, others.entities, others.held⟩
  · show held dev t = _
    by_cases free : Unhindered dev s
    · rw [if_pos free]
      exact (settled.success free).2
    · rw [if_neg free]
      exact (settled.failure free).2

theorem stops_switchCommand {request : SwitchCommandRequest} {dev : Device} {s : Node}
    (found : findDeviceEntityByKey s.entities request.key = some dev)
    (other : dev.kind ≠ .switch) :
    ∃ t, (switchCommandRequestCb pb request).run s = .error .undefined t := by
  have recorded : (record (.setState dev request.state)).run s =
      .ok () { s with events := s.events ++ [.setState dev request.state] } := rfl
  have stopped : ∃ t, (switchSetState dev request.state).run s = .error .undefined t := by
    rcases dev with ⟨binding, inst⟩
    rw [switchSetState, run_bind_ok _ recorded]
    cases binding with
    | switchGpio => exact absurd rfl other
    | switchHbridge => exact absurd rfl other
    | buttonTemplate => exact ⟨_, rfl⟩
    | sensorTemperature => exact ⟨_, rfl⟩
    | sensorTimestamp => exact ⟨_, rfl⟩
  obtain ⟨t, stopped⟩ := stopped
  refine ⟨t, ?_⟩
  rw [switchCommandRequestCb, run_bind_ok _ (run_get s), found]
  dsimp only
  rw [run_bind_error _ stopped]

theorem kept_pack (message : Outgoing) :
    Keeps (.always (Guarantee.Same fun s : Node => (s.entities, (held · s)))) (pack pb message) :=
  keeps_packedWrite (fun _ _ => rfl) (fun _ _ _ => rfl) (fun _ _ _ => rfl)

theorem held_command {request : SwitchCommandRequest} {dev : Device} {s t : Node} {ret : Int}
    (switch : dev.kind = .switch)
    (run : (switchCommandRequestCb pb request).run s = .ok ret t) :
    t.entities = s.entities ∧
      held dev t = if findDeviceEntityByKey s.entities request.key = some dev ∧ Unhindered dev s
        then request.state else held dev s := by
  cases found : findDeviceEntityByKey s.entities request.key with
  | none =>
    rw [switchCommand_absent pb s request found] at run
    obtain ⟨-, rfl⟩ := EStateM.Result.ok.inj run
    refine ⟨rfl, ?_⟩
    rw [if_neg (by simp)]
  | some reached =>
    by_cases kind : reached.kind = .switch
    · obtain ⟨u, sending, -, others, after⟩ := run_switchCommand pb found kind
      rw [sending] at run
      have same := (kept_pack pb (reply request.key (held reached u))).final u
      rw [run] at same
      obtain ⟨entities, helds⟩ := Prod.mk.inj same
      refine ⟨entities.trans others.entities, ?_⟩
      rw [show held dev t = held dev u from congrFun helds dev]
      by_cases aimed : reached = dev
      · subst aimed
        rw [after]
        simp
      · rw [if_neg (by simp [aimed]), others.held dev (Ne.symm aimed)]
    · obtain ⟨t', stopped⟩ := stops_switchCommand pb found kind
      exact absurd (stopped.symm.trans run) nofun

theorem reply_key {request : SwitchCommandRequest} {s : Node} {socket : Int} {key : UInt32}
    {state : Int} {frame : List UInt8} {ret : Int}
    (sent : .sent socket (reply key state) frame ret ∈
      added Node.events s ((switchCommandRequestCb pb request).run s)) : key = request.key := by
  let P : Event → Prop := fun event => ∀ socket key state frame ret,
    event = .sent socket (reply key state) frame ret → key = request.key
  have device : ∀ dev, KeepsDevice (recording P) dev := by
    intro dev
    apply recording_device
    rintro _ called socket key state frame ret rfl
    exact absurd called nofun
  have keeps : Keeps (recording P) (switchCommandRequestCb pb request) := by
    apply keeps_bind keeps_get
    intro s
    cases findDeviceEntityByKey s.entities request.key with
    | none => exact keeps_pure _
    | some dev =>
      apply keeps_bind ((device dev).setState _)
      intro _
      apply keeps_bind (device dev).getState
      intro read
      apply recording_packedWrite
      rintro socket frame ret _ key state _ _ same
      cases same
      rfl
  exact mem_added (keeps.final s) sent socket key state frame ret rfl

theorem added_pack (message : Outgoing) (s : Node) :
    added Node.events s ((pack pb message).run s) =
      if ¬ s.heap.Refuses ∧ (frameOf message (pb.pack message)).length < 2 ^ 32 then
        [.sent s.socket message (frameOf message (pb.pack message))
          (s.tx.zsockSend (frameOf message (pb.pack message))).1]
      else [] := by
  have unfolded : (pack pb message).run s =
      (packedWrite message (pb.pack message)).run s := rfl
  rw [unfolded]
  by_cases refused : s.heap.Refuses
  · rw [packedWrite_refused message _ s refused, if_neg (fun both => both.1 refused)]
    exact List.drop_length
  · by_cases fits : (frameOf message (pb.pack message)).length < 2 ^ 32
    · rw [packedWrite_sends message _ s refused fits, if_pos ⟨refused, fits⟩]
      exact List.drop_left
    · rw [packedWrite_wraps message _ s refused (Nat.not_lt.mp fits),
        if_neg (fun both => fits both.2)]
      exact List.drop_length

theorem reply_iff {request : SwitchCommandRequest} {dev : Device} {s : Node}
    (found : findDeviceEntityByKey s.entities request.key = some dev)
    (switch : dev.kind = .switch) (state : Int) :
    (∃ socket frame ret, .sent socket (reply request.key state) frame ret ∈
        added Node.events s ((switchCommandRequestCb pb request).run s)) ↔
      (¬ s.heap.Refuses ∧ (frameOf (reply request.key state)
        (pb.pack (reply request.key state))).length < 2 ^ 32) ∧
        state = if Unhindered dev s then request.state else held dev s := by
  obtain ⟨u, sending, events, others, after⟩ := run_switchCommand pb found switch
  have grown : Guarantee.Grown Node.events (fun _ => True) u
      (final ((pack pb (reply request.key (held dev u))).run u)) :=
    (recording_packedWrite fun _ _ _ => trivial).final u
  have whole := added_after grown events
  rw [added_pack, others.heap, ← sending] at whole
  rw [whole, ← after]
  constructor
  · rintro ⟨socket, frame, ret, member⟩
    split at member
    · rename_i answered
      simp only [List.cons_append, List.nil_append, List.mem_cons, List.not_mem_nil, or_false,
        reduceCtorEq, false_or] at member
      cases member
      exact ⟨answered, rfl⟩
    · simp at member
  · rintro ⟨answered, rfl⟩
    rw [if_pos answered]
    exact ⟨_, _, _, List.mem_append_right _ (List.mem_singleton_self _)⟩

structure Command where
  request : SwitchCommandRequest
  before : Node
  result : EStateM.Result Stop Node Int

/-- The call of `set_state` on the device that the command makes, if it makes one, succeeds. -/
def Command.succeeded (dev : Device) (c : Command) : Bool :=
  findDeviceEntityByKey c.before.entities c.request.key = some dev &&
    match (switchSetState dev c.request.state).run c.before with
    | .ok ret _ => ret == 0
    | .error _ _ => false

theorem succeeded_iff {dev : Device} (switch : dev.kind = .switch) (c : Command) :
    c.succeeded dev = true ↔
      findDeviceEntityByKey c.before.entities c.request.key = some dev ∧
        Unhindered dev c.before := by
  obtain ⟨ret, t, run, -, -, settled⟩ := run_switchSetState switch c.request.state c.before
  unfold Command.succeeded
  rw [run]
  simp only [Bool.and_eq_true, decide_eq_true_eq, beq_iff_eq, settled.zero_iff]

def commands : List SwitchCommandRequest → Node → List Command
  | [], _ => []
  | request :: requests, s =>
    ⟨request, s, (switchCommandRequestCb pb request).run s⟩ ::
      match (switchCommandRequestCb pb request).run s with
      | .ok _ t => commands requests t
      | .error _ _ => []

def noting (dev : Device) (last : Option Int) (c : Command) : Option Int :=
  if c.succeeded dev then some c.request.state else last

/-- The state that the last successful call of `set_state` on the device asked for. -/
def lastSet (dev : Device) (done : List Command) : Option Int :=
  done.foldl (noting dev) none

theorem lastSet_concat (dev : Device) (done : List Command) (c : Command) :
    lastSet dev (done ++ [c]) = noting dev (lastSet dev done) c := by
  unfold lastSet
  rw [List.foldl_append]
  rfl

theorem lastSet_isSome (dev : Device) (done : List Command) :
    (lastSet dev done).isSome ↔ ∃ c ∈ done, c.succeeded dev = true := by
  induction done using List.reverseRecOn with
  | nil => simp [lastSet]
  | append_singleton done c ih =>
    rw [lastSet_concat, noting]
    by_cases succeeded : c.succeeded dev = true
    · rw [if_pos succeeded]
      constructor
      · intro _
        exact ⟨c, by simp, succeeded⟩
      · intro _
        rfl
    · rw [if_neg succeeded, ih]
      constructor
      · rintro ⟨earlier, member, holds⟩
        exact ⟨earlier, List.mem_append_left _ member, holds⟩
      · rintro ⟨earlier, member, holds⟩
        rcases List.mem_append.mp member with before | same
        · exact ⟨earlier, before, holds⟩
        · rw [List.mem_singleton.mp same] at holds
          exact absurd holds succeeded

theorem held_commands {dev : Device} (switch : dev.kind = .switch)
    (requests : List SwitchCommandRequest) : ∀ (s : Node) (earlier : List Command),
    held dev s = (lastSet dev earlier).getD (-einval) → ∀ done c later,
    commands pb requests s = done ++ c :: later →
      held dev c.before = (lastSet dev (earlier ++ done)).getD (-einval) ∧
      c.before.entities = s.entities ∧
      c.result = (switchCommandRequestCb pb c.request).run c.before := by
  induction requests with
  | nil =>
    intro s earlier _ done c later split
    cases done with
    | nil => exact absurd split nofun
    | cons first done => exact absurd split nofun
  | cons request requests ih =>
    intro s earlier holds done c later split
    unfold commands at split
    cases done with
    | nil =>
      obtain ⟨rfl, -⟩ := List.cons.inj split
      rw [List.append_nil]
      exact ⟨holds, rfl, rfl⟩
    | cons first done =>
      obtain ⟨rfl, rest⟩ := List.cons.inj split
      cases run : (switchCommandRequestCb pb request).run s with
      | ok ret t =>
        rw [run] at rest
        obtain ⟨entities, after⟩ := held_command pb switch run
        have holds' : held dev t =
            (lastSet dev (earlier ++ [⟨request, s, .ok ret t⟩])).getD (-einval) := by
          rw [lastSet_concat, noting, after]
          have succeeded := succeeded_iff switch ⟨request, s, .ok ret t⟩
          by_cases both : findDeviceEntityByKey s.entities request.key = some dev ∧
              Unhindered dev s
          · rw [if_pos both, if_pos (succeeded.mpr both)]
            rfl
          · rw [if_neg both, if_neg (fun h => both (succeeded.mp h))]
            exact holds
        obtain ⟨state, entities', result⟩ := ih t _ holds' done c later rest
        rw [List.append_assoc] at state
        exact ⟨state, entities'.trans entities, result⟩
      | error e t =>
        rw [run] at rest
        cases done with
        | nil => exact absurd rest nofun
        | cons second done => exact absurd rest nofun

def booleanPack (value : Int) : Bool := value != 0

/-- Every reply about the switch reports true exactly when the state that was set last was true. -/
def Truthful (entity : Entity) (requests : List SwitchCommandRequest) (s : Node) : Prop :=
  ∀ done c later, commands pb requests s = done ++ c :: later →
    ∀ socket state frame ret,
      .sent socket (reply entity.key state) frame ret ∈ added Node.events c.before c.result →
      booleanPack state = (lastSet entity.dev (done ++ [c])).any booleanPack

/-- The reply that tells the state of the init gets its block and fits into the address space. -/
def Answers (key : UInt32) (s : Node) : Prop :=
  ¬ s.heap.Refuses ∧
    (frameOf (reply key (-einval)) (pb.pack (reply key (-einval)))).length < 2 ^ 32

theorem booleanPack_iff (last : Option Int) :
    booleanPack (last.getD (-einval)) = last.any booleanPack ↔ last.isSome := by
  cases last with
  | none => decide
  | some state => simp

theorem find_unique {entity : Entity} {s : Node} (registered : entity ∈ s.entities)
    (unique : ∀ other ∈ s.entities, other.key = entity.key → other = entity) :
    findDeviceEntityByKey s.entities entity.key = some entity.dev := by
  unfold findDeviceEntityByKey
  cases search : s.entities.find? (·.key = entity.key) with
  | none =>
    have other := List.find?_eq_none.mp search entity registered
    exact absurd (decide_eq_true rfl) other
  | some found =>
    obtain ⟨member, key⟩ := Kinds.key_of_find search
    rw [unique found member key]
    rfl

theorem lastSet_isSome_iff {dev : Device} (switch : dev.kind = .switch) (done : List Command) :
    (lastSet dev done).isSome ↔ ∃ set ∈ done,
      findDeviceEntityByKey set.before.entities set.request.key = some dev ∧
        Unhindered dev set.before := by
  rw [lastSet_isSome]
  constructor
  · rintro ⟨set, member, succeeded⟩
    exact ⟨set, member, (succeeded_iff switch set).mp succeeded⟩
  · rintro ⟨set, member, both⟩
    exact ⟨set, member, (succeeded_iff switch set).mpr both⟩

theorem replies_iff {entity : Entity} {s : Node} (registered : entity ∈ s.entities)
    (unique : ∀ other ∈ s.entities, other.key = entity.key → other = entity)
    (init : Initialised entity.dev s) {requests : List SwitchCommandRequest}
    {done later : List Command} {c : Command}
    (split : commands pb requests s = done ++ c :: later) (aimed : c.request.key = entity.key)
    (state : Int) :
    (∃ socket frame ret, .sent socket (reply entity.key state) frame ret ∈
        added Node.events c.before c.result) ↔
      (¬ c.before.heap.Refuses ∧ (frameOf (reply entity.key state)
        (pb.pack (reply entity.key state))).length < 2 ^ 32) ∧
        state = (lastSet entity.dev (done ++ [c])).getD (-einval) := by
  have switch := initialised_switch init
  have start : held entity.dev s = (lastSet entity.dev []).getD (-einval) :=
    initialised_held init
  obtain ⟨before, entities, result⟩ :=
    held_commands pb switch requests s [] start done c later split
  have found : findDeviceEntityByKey c.before.entities c.request.key = some entity.dev := by
    rw [entities, aimed]
    exact find_unique registered unique
  have after : (if Unhindered entity.dev c.before then c.request.state
      else held entity.dev c.before) = (lastSet entity.dev (done ++ [c])).getD (-einval) := by
    rw [lastSet_concat, noting]
    by_cases free : Unhindered entity.dev c.before
    · rw [if_pos free, if_pos ((succeeded_iff switch c).mpr ⟨found, free⟩)]
      rfl
    · rw [if_neg free, if_neg (fun h => free ((succeeded_iff switch c).mp h).2)]
      exact before
  have sent := reply_iff pb found switch state
  rw [after, aimed, ← result] at sent
  exact sent

/-- The replies about a switch are truthful exactly when none is sent before one of the commands
found all the writes that it makes free of errors. -/
theorem truthful_iff {entity : Entity} {s : Node} (registered : entity ∈ s.entities)
    (unique : ∀ other ∈ s.entities, other.key = entity.key → other = entity)
    (init : Initialised entity.dev s) (requests : List SwitchCommandRequest) :
    Truthful pb entity requests s ↔
      ∀ done c later, commands pb requests s = done ++ c :: later →
        c.request.key = entity.key → Answers pb entity.key c.before →
        ∃ set ∈ done ++ [c],
          findDeviceEntityByKey set.before.entities set.request.key = some entity.dev ∧
            Unhindered entity.dev set.before := by
  have switch := initialised_switch init
  constructor
  · intro truthful done c later split aimed answers
    apply (lastSet_isSome_iff switch (done ++ [c])).mp
    cases last : lastSet entity.dev (done ++ [c]) with
    | some state => rfl
    | none =>
      have sent := replies_iff pb registered unique init split aimed (-einval)
      rw [last] at sent
      obtain ⟨socket, frame, ret, member⟩ := sent.mpr ⟨answers, rfl⟩
      have told := truthful done c later split socket (-einval) frame ret member
      rw [last] at told
      exact absurd told (by decide)
  · intro always done c later split socket state frame ret member
    obtain ⟨-, -, result⟩ :=
      held_commands pb switch requests s [] (initialised_held init) done c later split
    have aimed : c.request.key = entity.key := by
      rw [result] at member
      exact (reply_key pb member).symm
    obtain ⟨answered, rfl⟩ :=
      (replies_iff pb registered unique init split aimed state).mp ⟨_, _, _, member⟩
    rw [booleanPack_iff]
    cases last : lastSet entity.dev (done ++ [c]) with
    | some state => rfl
    | none =>
      rw [last] at answered
      have set := (lastSet_isSome_iff switch (done ++ [c])).mpr
        (always done c later split aimed answered)
      rw [last] at set
      exact set

end Commands

def unwritten : Node :=
  let node := freshNode none [Kinds.namesake .switchGpio] []
  { node with
    switchGpio := fun _ =>
      { gpio :=
          { active := fun _ => false
            activeLow := fun _ => false
            outcomes := [some ⟨-eio, neg_eio_negative⟩]
            log := [] }
        state := -einval } }

private theorem alone (other : Entity) (member : other ∈ [Kinds.namesake .switchGpio])
    (_ : other.key = (Kinds.namesake .switchGpio).key) : other = Kinds.namesake .switchGpio :=
  List.mem_singleton.mp member

/-- The switch is asked to turn off, cannot be, and reports true. -/
theorem false_report :
    ¬ ∀ (pb : Protobuf) (entity : Entity) (s : Node) (requests : List SwitchCommandRequest),
      entity ∈ s.entities → (∀ other ∈ s.entities, other.key = entity.key → other = entity) →
      Initialised entity.dev s → Truthful pb entity requests s := by
  intro always
  have truthful := always Release.silent (Kinds.namesake .switchGpio) unwritten [⟨0, 0⟩]
    (List.mem_singleton_self _) alone (gpioSwitchInit_reaches rfl)
  have told := truthful [] _ _ rfl
  have sent := @reply_iff Release.silent ⟨0, 0⟩ ⟨.switchGpio, 0⟩ unwritten rfl rfl (-einval)
  obtain ⟨socket, frame, ret, member⟩ :=
    sent.mpr ⟨⟨by decide, Release.silent_small _⟩, by decide⟩
  exact absurd (told socket (-einval) frame ret member) (by decide)

/-- A device with one switch, whose output cannot be written the second time. -/
def writtenOnce : Node :=
  { unwritten with
    switchGpio := fun _ =>
      { gpio :=
          { active := fun _ => false
            activeLow := fun _ => false
            outcomes := [none, some ⟨-eio, neg_eio_negative⟩]
            log := [] }
        state := -einval } }

theorem truthful_iff_written :
    Truthful Release.silent (Kinds.namesake .switchGpio) [⟨0, 1⟩, ⟨0, 0⟩, ⟨0, 0⟩] writtenOnce := by
  have init : Initialised (Kinds.namesake .switchGpio).dev writtenOnce := gpioSwitchInit_reaches rfl
  apply (truthful_iff Release.silent (List.mem_singleton_self _) alone init
    [⟨0, 1⟩, ⟨0, 0⟩, ⟨0, 0⟩]).mpr
  -- The first command turns the switch on, and every later reply is about it.
  intro done c later split _ _
  cases done with
  | nil =>
    obtain ⟨rfl, -⟩ := List.cons.inj split
    exact ⟨_, List.mem_singleton_self _, by decide⟩
  | cons first done =>
    obtain ⟨rfl, -⟩ := List.cons.inj split
    exact ⟨_, List.mem_cons_self, by decide⟩

end ZephyrEsphome.Api.Replies
