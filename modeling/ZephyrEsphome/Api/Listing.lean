/- Digest: When the listing of the entities is complete, and when it hides that one is missing. -/

import ZephyrEsphome.Api.Kinds
import ZephyrEsphome.Rpc.Release

set_option autoImplicit false
set_option relaxedAutoImplicit false

namespace ZephyrEsphome.Api.Listing

open Kernel
open Library.Exec
open Rpc
open Rpc.Writing (frame frameOf sending packedWrite_refused packedWrite_sends packedWrite_wraps
  emptyWrite_sends)

def heard (refusals : List Bool) : List Entity → List Entity
  | [] => []
  | entity :: entities =>
    if refusals.head? = some true then heard refusals.tail entities
    else entity :: heard refusals.tail entities

theorem length_heard_le (entities : List Entity) : ∀ refusals : List Bool,
    (heard refusals entities).length ≤ entities.length := by
  induction entities with
  | nil =>
    intro refusals
    exact Nat.le_refl 0
  | cons entity entities ih =>
    intro refusals
    have shorter := ih refusals.tail
    unfold heard
    split
    · rw [List.length_cons]
      omega
    · rw [List.length_cons, List.length_cons]
      omega

theorem heard_all_iff (entities : List Entity) : ∀ refusals : List Bool,
    heard refusals entities = entities ↔ true ∉ refusals.take entities.length := by
  induction entities with
  | nil =>
    intro refusals
    simp [heard]
  | cons entity entities ih =>
    intro refusals
    unfold heard
    cases refusals with
    | nil =>
      rw [if_neg (by simp)]
      simpa using ih []
    | cons refused later =>
      rw [List.length_cons, List.take_succ_cons]
      cases refused with
      | true =>
        rw [if_pos List.head?_cons]
        constructor
        · intro all
          have shorter := length_heard_le entities later
          have length := congrArg List.length all
          rw [List.tail_cons, List.length_cons] at length
          omega
        · intro none
          exact absurd List.mem_cons_self none
      | false =>
        rw [if_neg (by simp), List.tail_cons]
        simpa using ih later

section Listing

variable (pb : Protobuf)

def listingMessage (entity : Entity) : Outgoing :=
  match entity.dev.kind with
  | .switch => .listEntitiesSwitchResponse (entityConfigToResponse entity)
  | .button => .listEntitiesButtonResponse (entityConfigToResponse entity)
  | .sensor => .listEntitiesSensorResponse (entityConfigToResponse entity)

def listingFrame (entity : Entity) : List UInt8 :=
  frameOf (listingMessage entity) (pb.pack (listingMessage entity))

theorem listEntity_eq (entity : Entity) :
    listEntity pb entity = do
      let _ ← pack pb (listingMessage entity)
      return 0 := by
  unfold listEntity listingMessage
  cases entity.dev.kind with
  | switch => rfl
  | button => rfl
  | sensor => rfl

def listed (socket : Int) (entity : Entity) : Event :=
  .sent socket (listingMessage entity) (listingFrame pb entity) (listingFrame pb entity).length

private def listOne (entity : Entity) : Exec Node PUnit := do
  let _ ← listEntity pb entity

section One

variable (entity : Entity) (s : Node)

private theorem listOne_ok {ret : Int} {t : Node}
    (run : (pack pb (listingMessage entity)).run s = .ok ret t) :
    (listOne pb entity).run s = .ok () t := by
  have ended : (listEntity pb entity).run s = .ok 0 t := by
    rw [listEntity_eq, run_bind_ok _ run]
    rfl
  rw [listOne, run_bind_ok _ ended]
  rfl

private theorem listOne_error {e : Stop} {t : Node}
    (run : (pack pb (listingMessage entity)).run s = .error e t) :
    (listOne pb entity).run s = .error e t := by
  have ended : (listEntity pb entity).run s = .error e t := by
    rw [listEntity_eq, run_bind_error _ run]
  rw [listOne, run_bind_error _ ended]

private theorem listOne_refused (refused : s.heap.Refuses) :
    (listOne pb entity).run s =
      .ok () { s with heap := { s.heap with refusals := s.heap.refusals.tail } } :=
  listOne_ok pb entity s
    (packedWrite_refused (listingMessage entity) (pb.pack (listingMessage entity)) s refused)

private theorem listOne_sends (granted : ¬ s.heap.Refuses) (whole : s.tx.schedule = [])
    (fits : (listingFrame pb entity).length < 2 ^ 32) :
    ∃ t, (listOne pb entity).run s = .ok () t ∧ t.socket = s.socket ∧ t.tx.schedule = [] ∧
      t.tx.accepted = s.tx.accepted ++ listingFrame pb entity ∧
      t.events = s.events ++ [listed pb s.socket entity] ∧
      t.heap.refusals = s.heap.refusals.tail := by
  have sent := packedWrite_sends (listingMessage entity) (pb.pack (listingMessage entity)) s
    granted fits
  have took : s.tx.zsockSend (listingFrame pb entity) =
      (((listingFrame pb entity).length : Int),
        { s.tx with accepted := s.tx.accepted ++ listingFrame pb entity }) := by
    simp [Transmitter.zsockSend, whole]
  refine ⟨_, listOne_ok pb entity s sent, rfl, ?_, ?_, ?_, ?_⟩
  · show (s.tx.zsockSend (listingFrame pb entity)).2.schedule = []
    rw [took]
    exact whole
  · show (s.tx.zsockSend (listingFrame pb entity)).2.accepted = _
    rw [took]
  · show s.events ++ [.sent s.socket (listingMessage entity) (listingFrame pb entity)
      (s.tx.zsockSend (listingFrame pb entity)).1] = _
    rw [took]
    rfl
  · show (s.heap.kMalloc _).2.refusals = _
    rw [Heap.kMalloc, if_neg granted]

private theorem listOne_wraps (granted : ¬ s.heap.Refuses)
    (wraps : 2 ^ 32 ≤ (listingFrame pb entity).length) :
    ∃ t, (listOne pb entity).run s = .error .undefined t :=
  ⟨_, listOne_error pb entity s
    (packedWrite_wraps (listingMessage entity) (pb.pack (listingMessage entity)) s granted wraps)⟩

end One

private theorem loop_lists (entities : List Entity) : ∀ s : Node, s.tx.schedule = [] →
    (∀ entity ∈ heard s.heap.refusals entities, (listingFrame pb entity).length < 2 ^ 32) →
    ∃ t, (forM entities (listOne pb)).run s = .ok () t ∧ t.socket = s.socket ∧
      t.tx.schedule = [] ∧
      t.tx.accepted = s.tx.accepted ++
        ((heard s.heap.refusals entities).map (listingFrame pb)).flatten ∧
      t.events = s.events ++ (heard s.heap.refusals entities).map (listed pb s.socket) := by
  induction entities with
  | nil =>
    intro s whole _
    exact ⟨s, rfl, rfl, whole, by simp [heard], by simp [heard]⟩
  | cons entity entities ih =>
    intro s whole fits
    rw [List.forM_cons]
    unfold heard at fits ⊢
    by_cases refused : s.heap.refusals.head? = some true
    · rw [if_pos refused] at fits ⊢
      rw [run_bind_ok _ (listOne_refused pb entity s refused)]
      exact ih { s with heap := { s.heap with refusals := s.heap.refusals.tail } } whole fits
    · rw [if_neg refused] at fits ⊢
      obtain ⟨t, run, socket, whole', accepted, events, refusals⟩ :=
        listOne_sends pb entity s refused whole (fits entity List.mem_cons_self)
      obtain ⟨u, later, socket', whole'', accepted', events'⟩ := ih t whole' (by
        rw [refusals]
        intro other member
        exact fits other (List.mem_cons_of_mem entity member))
      rw [run_bind_ok _ run]
      refine ⟨u, later, socket'.trans socket, whole'', ?_, ?_⟩
      · rw [accepted', accepted, refusals, List.map_cons, List.flatten_cons, List.append_assoc]
      · rw [events', events, refusals, socket, List.map_cons, List.append_assoc,
          List.singleton_append]

private theorem loop_wraps (entities : List Entity) : ∀ s : Node, s.tx.schedule = [] →
    (∃ entity ∈ heard s.heap.refusals entities, 2 ^ 32 ≤ (listingFrame pb entity).length) →
    ∃ t, (forM entities (listOne pb)).run s = .error .undefined t := by
  induction entities with
  | nil =>
    rintro s _ ⟨entity, member, -⟩
    exact absurd member List.not_mem_nil
  | cons entity entities ih =>
    intro s whole wraps
    rw [List.forM_cons]
    unfold heard at wraps
    by_cases refused : s.heap.refusals.head? = some true
    · rw [if_pos refused] at wraps
      rw [run_bind_ok _ (listOne_refused pb entity s refused)]
      exact ih { s with heap := { s.heap with refusals := s.heap.refusals.tail } } whole wraps
    · rw [if_neg refused] at wraps
      by_cases fits : (listingFrame pb entity).length < 2 ^ 32
      · obtain ⟨t, run, -, whole', -, -, refusals⟩ := listOne_sends pb entity s refused whole fits
        rw [run_bind_ok _ run]
        apply ih t whole'
        obtain ⟨other, member, long⟩ := wraps
        rw [refusals]
        rcases List.mem_cons.mp member with rfl | later
        · exact absurd fits (Nat.not_lt.mpr long)
        · exact ⟨other, later, long⟩
      · obtain ⟨t, run⟩ := listOne_wraps pb entity s refused (Nat.not_lt.mp fits)
        exact ⟨t, by rw [run_bind_error _ run]⟩

theorem run_listEntities {s : Node} (whole : s.tx.schedule = [])
    (fits : ∀ entity ∈ heard s.heap.refusals s.entities,
      (listingFrame pb entity).length < 2 ^ 32) :
    ∃ t, (listEntitiesRequestCb pb).run s = .ok 0 t ∧
      t.tx.accepted = s.tx.accepted ++
        ((heard s.heap.refusals s.entities).map (listingFrame pb)).flatten ++ frame 19 [] ∧
      ∃ ret, t.events = s.events ++ (heard s.heap.refusals s.entities).map (listed pb s.socket) ++
        [.sent s.socket .listEntitiesDoneResponse (frame 19 []) ret] := by
  obtain ⟨u, loop, socket, whole', accepted, events⟩ := loop_lists pb s.entities s whole fits
  have done := emptyWrite_sends .listEntitiesDoneResponse u
  have took : u.tx.zsockSend (frame 19 []) =
      (((frame 19 []).length : Int), { u.tx with accepted := u.tx.accepted ++ frame 19 [] }) := by
    simp [Transmitter.zsockSend, whole']
  refine ⟨sending .listEntitiesDoneResponse u (frame 19 []), ?_, ?_, (frame 19 []).length, ?_⟩
  · have start : (get : Exec Node Node).run s = .ok s s := rfl
    have rounds : (forM s.entities fun entity => do
        let _ ← listEntity pb entity).run s = .ok () u := loop
    rw [listEntitiesRequestCb, run_bind_ok _ start, run_bind_ok _ rounds]
    exact done
  · show (u.tx.zsockSend (frame 19 [])).2.accepted = _
    rw [took, accepted]
  · show u.events ++ [.sent u.socket .listEntitiesDoneResponse (frame 19 [])
      (u.tx.zsockSend (frame 19 [])).1] = _
    rw [took, events, socket]

theorem wraps_listEntities {s : Node} (whole : s.tx.schedule = [])
    (wraps : ∃ entity ∈ heard s.heap.refusals s.entities,
      2 ^ 32 ≤ (listingFrame pb entity).length) :
    ∃ t, (listEntitiesRequestCb pb).run s = .error .undefined t := by
  obtain ⟨t, loop⟩ := loop_wraps pb s.entities s whole wraps
  refine ⟨t, ?_⟩
  have start : (get : Exec Node Node).run s = .ok s s := rfl
  have rounds : (forM s.entities fun entity => do
      let _ ← listEntity pb entity).run s = .error .undefined t := loop
  rw [listEntitiesRequestCb, run_bind_ok _ start, run_bind_error _ rounds]

def messages (events : List Event) : List Outgoing :=
  events.filterMap fun
    | .sent _ message _ _ => some message
    | _ => none

inductive Lists (entity : Entity) : Outgoing → Prop
  | switch {response : ListEntitiesResponse} (kind : entity.dev.kind = .switch)
      (key : response.key = entity.key) (objectId : response.objectId = entity.config.objectId) :
      Lists entity (.listEntitiesSwitchResponse response)
  | button {response : ListEntitiesResponse} (kind : entity.dev.kind = .button)
      (key : response.key = entity.key) (objectId : response.objectId = entity.config.objectId) :
      Lists entity (.listEntitiesButtonResponse response)
  | sensor {response : ListEntitiesResponse} (kind : entity.dev.kind = .sensor)
      (key : response.key = entity.key) (objectId : response.objectId = entity.config.objectId) :
      Lists entity (.listEntitiesSensorResponse response)

theorem lists_listingMessage (entity : Entity) : Lists entity (listingMessage entity) := by
  unfold listingMessage
  cases kind : entity.dev.kind with
  | switch => exact .switch kind rfl rfl
  | button => exact .button kind rfl rfl
  | sensor => exact .sensor kind rfl rfl

/-- A listing that returns 0 has sent one response for each entity, in order, and then the end of
the list; one that is refused a block fails, and does not send the end of the list. -/
structure CompleteOrFails (s : Node) : Prop where
  complete : ∀ t, (listEntitiesRequestCb pb).run s = .ok 0 t →
    ∃ responses, List.Forall₂ Lists s.entities responses ∧
      messages (t.events.drop s.events.length) = responses ++ [.listEntitiesDoneResponse] ∧
      t.tx.accepted = s.tx.accepted ++
        (responses.map fun message => frameOf message (pb.pack message)).flatten ++ frame 19 []
  fails : true ∈ s.heap.refusals.take s.entities.length → ∀ ret t,
    (listEntitiesRequestCb pb).run s = .ok ret t →
      ret ≠ 0 ∧ .listEntitiesDoneResponse ∉ messages (t.events.drop s.events.length)

theorem messages_listed (socket : Int) (entities : List Entity) :
    messages (entities.map (listed pb socket)) = entities.map listingMessage := by
  induction entities with
  | nil => rfl
  | cons entity entities ih =>
    rw [List.map_cons, List.map_cons, ← ih]
    rfl

theorem lists_all (entities : List Entity) :
    List.Forall₂ Lists entities (entities.map listingMessage) := by
  induction entities with
  | nil => exact .nil
  | cons entity entities ih => exact .cons (lists_listingMessage entity) ih

/-- A listing is complete or fails exactly when none of its entities is refused its block, or a
response is too long for the address space. -/
theorem completeOrFails_iff {s : Node} (whole : s.tx.schedule = []) :
    CompleteOrFails pb s ↔ true ∉ s.heap.refusals.take s.entities.length ∨
      ∃ entity ∈ heard s.heap.refusals s.entities, 2 ^ 32 ≤ (listingFrame pb entity).length := by
  by_cases wraps : ∃ entity ∈ heard s.heap.refusals s.entities,
      2 ^ 32 ≤ (listingFrame pb entity).length
  · obtain ⟨u, stopped⟩ := wraps_listEntities pb whole wraps
    refine ⟨fun _ => Or.inr wraps, fun _ => ⟨?_, ?_⟩⟩
    · intro t run
      exact absurd (stopped.symm.trans run) nofun
    · intro _ ret t run
      exact absurd (stopped.symm.trans run) nofun
  · have fits : ∀ entity ∈ heard s.heap.refusals s.entities,
        (listingFrame pb entity).length < 2 ^ 32 := by
      intro entity member
      apply Nat.not_le.mp
      intro long
      exact wraps ⟨entity, member, long⟩
    obtain ⟨u, run, accepted, ret, events⟩ := run_listEntities pb whole fits
    have sent : messages (u.events.drop s.events.length) =
        (heard s.heap.refusals s.entities).map listingMessage ++ [.listEntitiesDoneResponse] := by
      rw [events, List.append_assoc, List.drop_left, messages, List.filterMap_append]
      exact congrArg (· ++ _) (messages_listed pb s.socket _)
    constructor
    · intro holds
      left
      intro refused
      obtain ⟨nonzero, -⟩ := holds.fails refused 0 u run
      exact nonzero rfl
    · rintro (none | wraps')
      · have all := (heard_all_iff s.entities s.heap.refusals).mpr none
        constructor
        · intro t run'
          obtain ⟨-, rfl⟩ := EStateM.Result.ok.inj (run.symm.trans run')
          rw [all] at sent accepted
          refine ⟨s.entities.map listingMessage, lists_all s.entities, sent, ?_⟩
          rw [accepted, List.map_map]
          rfl
        · intro refused
          exact absurd refused none
      · exact absurd wraps' wraps

end Listing

def halfListed : Node :=
  let node := freshNode none [Kinds.namesake .switchGpio, Kinds.namesake .switchHbridge] []
  { node with heap := { node.heap with refusals := [false, true] } }

/-- The list ends after the first switch, and the callback returns 0. -/
theorem list_hides_entity :
    ¬ ∀ (pb : Protobuf) (s : Node), s.tx.schedule = [] → CompleteOrFails pb s := by
  intro always
  have fits : ∀ entity ∈ heard halfListed.heap.refusals halfListed.entities,
      (listingFrame Release.silent entity).length < 2 ^ 32 := by
    intro entity _
    exact Release.silent_small (listingMessage entity)
  obtain ⟨t, run, -⟩ :=
    run_listEntities Release.silent (show halfListed.tx.schedule = [] from rfl) fits
  have refused : true ∈ halfListed.heap.refusals.take halfListed.entities.length := by decide
  exact ((always Release.silent halfListed rfl).fails refused 0 t run).1 rfl

theorem completeOrFails_iff_granted :
    CompleteOrFails Release.silent (freshNode none
      [Kinds.namesake .switchGpio, Kinds.namesake .switchHbridge] []) :=
  (completeOrFails_iff Release.silent rfl).mpr (Or.inl (by decide))

end ZephyrEsphome.Api.Listing
