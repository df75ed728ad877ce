/- Digest: Which entries of the pool are taken and not registered, over any run. -/

import ZephyrEsphome.Library.Transition
import ZephyrEsphome.OpenThread.Srp

set_option autoImplicit false
set_option relaxedAutoImplicit false

namespace ZephyrEsphome.OpenThread.Entries

open Kernel
open Library.Exec
open Library.Transition
open SrpClient

structure Attaches (change : StateChange) : Prop where
  changed : change.flags &&& otChangedThreadRole ≠ 0
  attached : change.role = .child ∨ change.role = .router ∨ change.role = .leader

def step (cfg : EsphomeConfig) (client : SrpClient) (change : StateChange) : Option SrpClient :=
  match (onThreadStateChanged cfg change).run client with
  | .ok () next => some next
  | .error _ _ => none

section Steps

variable {cfg : EsphomeConfig} {client next : SrpClient} {change : StateChange}

theorem run_attaches (attaches : Attaches change) {ret : Int}
    (run : (otSrpInit cfg).run client = .ok ret next) :
    (onThreadStateChanged cfg change).run client = .ok () next := by
  have ignored : (do let _ ← otSrpInit cfg : Exec SrpClient Unit).run client = .ok () next := by
    rw [run_bind_ok _ run]
    rfl
  rw [onThreadStateChanged, if_pos attaches.changed]
  rcases attaches.attached with role | role | role
  all_goals
    rw [role]
    exact ignored

theorem run_other (other : ¬ Attaches change) :
    (onThreadStateChanged cfg change).run client = .ok () client := by
  rw [onThreadStateChanged]
  by_cases changed : change.flags &&& otChangedThreadRole ≠ 0
  · rw [if_pos changed]
    cases role : change.role with
    | disabled => rfl
    | detached => rfl
    | child => exact absurd ⟨changed, .inl role⟩ other
    | router => exact absurd ⟨changed, .inr (.inl role)⟩ other
    | leader => exact absurd ⟨changed, .inr (.inr role)⟩ other
  · rw [if_neg changed]
    rfl

theorem step_total (cfg : EsphomeConfig) (client : SrpClient) (change : StateChange) :
    ∃ next, step cfg client change = some next ∧
      (¬ Attaches change ∧ next = client ∨
        Attaches change ∧ ∃ ret, Course cfg client ret next) := by
  by_cases attaches : Attaches change
  · obtain ⟨ret, next, run, course⟩ := otSrpInit_course cfg client
    refine ⟨next, ?_, .inr ⟨attaches, ret, course⟩⟩
    rw [step, run_attaches attaches run]
  · refine ⟨client, ?_, .inl ⟨attaches, rfl⟩⟩
    rw [step, run_other attaches]

theorem step_cases (taken : step cfg client change = some next) :
    next = client ∨ Attaches change ∧ ∃ ret, Course cfg client ret next := by
  obtain ⟨next', taken', ⟨-, same⟩ | attempt⟩ := step_total cfg client change
  · rw [← Option.some.inj (taken'.symm.trans taken)]
    exact .inl same
  · rw [← Option.some.inj (taken'.symm.trans taken)]
    exact .inr attempt

end Steps

def AddedWhenDone (client : SrpClient) : Prop :=
  client.services.length = if client.otSrpInitDone then 1 else 0

/-- The service was added at most once, no entry was taken and not registered, and no attempt ever
lacked an entry, unless there was none to begin with. -/
structure Balanced (pool : List ServiceEntry) (client : SrpClient) : Prop where
  once : client.services.length ≤ 1
  registered : client.taken = client.services.length
  supplied : pool ≠ [] → .allocateService false ∉ client.calls

/-- The attempt gets an entry, and the SRP client refuses to add its service. -/
structure ServiceRefused (client : SrpClient) (change : StateChange) : Prop where
  attaches : Attaches change
  allocates : client.Allocates
  left : client.pool ≠ []
  refused : client.serviceError ≠ otErrorNone

structure Intact (pool : List ServiceEntry) (client : SrpClient) : Prop where
  added : AddedWhenDone client
  registered : client.taken = client.services.length
  untouched : client.otSrpInitDone = false → client.pool = pool
  supplied : pool ≠ [] → .allocateService false ∉ client.calls

section Runs

variable {cfg : EsphomeConfig} {client next : SrpClient} {change : StateChange} {ret : Int}
  {pool : List ServiceEntry}

theorem AddedWhenDone.le_one (added : AddedWhenDone client) : client.services.length ≤ 1 := by
  rw [added]
  split
  · exact Nat.le_refl 1
  · exact Nat.zero_le 1

theorem AddedWhenDone.none (added : AddedWhenDone client) (fresh : client.otSrpInitDone = false) :
    client.services = [] := by
  rw [AddedWhenDone, fresh] at added
  exact List.length_eq_zero_iff.mp added

theorem added_course (course : Course cfg client ret next) (added : AddedWhenDone client) :
    AddedWhenDone next := by
  cases course with
  | already => exact added
  | noInstance => exact added
  | hostRefused => exact added
  | addressRefused => exact added
  | noEntry => exact added
  | serviceRefused => exact added
  | @announced host entry filled pool allocates copied left full accepted =>
    have services : (client.announced host pool filled).services = [filled] := by
      rw [announced, added.none allocates.fresh, List.nil_append]
    rw [AddedWhenDone, services]
    rfl

theorem short_course (course : Course cfg client ret next)
    (short : .allocateService false ∈ next.calls) :
    .allocateService false ∈ client.calls ∨
      client.otSrpInitDone = false ∧ client.pool = [] := by
  cases course with
  | already => exact .inl short
  | noInstance => exact .inl short
  | @hostRefused host =>
    rw [calls_hosted] at short
    exact .inl (by simpa using short)
  | @addressRefused host =>
    rw [calls_located] at short
    exact .inl (by simpa using short)
  | noEntry allocates _ empty => exact .inr ⟨allocates.fresh, empty⟩
  | @serviceRefused host entry filled pool =>
    rw [calls_offered] at short
    exact .inl (by simpa using short)
  | @announced host entry filled pool =>
    rw [calls_announced] at short
    exact .inl (by simpa using short)

theorem intact_step (client : SrpClient) (change : StateChange) (next : SrpClient)
    (intact : Intact pool client) (kept : ¬ ServiceRefused client change)
    (taken : step cfg client change = some next) : Intact pool next := by
  rcases step_cases taken with rfl | ⟨attaches, ret, course⟩
  · exact intact
  have supplied : pool ≠ [] → .allocateService false ∉ next.calls := by
    intro some short
    rcases short_course course short with early | ⟨fresh, empty⟩
    · exact intact.supplied some early
    -- Before the service is added no attempt has taken anything, so the pool is as it was.
    · exact some ((intact.untouched fresh).symm.trans empty)
  have added : AddedWhenDone next := added_course course intact.added
  cases course with
  | already => exact ⟨added, intact.registered, intact.untouched, supplied⟩
  | noInstance => exact ⟨added, intact.registered, intact.untouched, supplied⟩
  | hostRefused => exact ⟨added, intact.registered, intact.untouched, supplied⟩
  | addressRefused => exact ⟨added, intact.registered, intact.untouched, supplied⟩
  | noEntry => exact ⟨added, intact.registered, intact.untouched, supplied⟩
  | serviceRefused allocates _ left _ refused =>
    exact absurd ⟨attaches, allocates, left ▸ List.cons_ne_nil _ _, refused⟩ kept
  | @announced host entry filled rest allocates _ _ _ accepted =>
    refine ⟨added, ?_, nofun, supplied⟩
    have one : (client.announced host rest filled).services.length = client.services.length + 1 :=
      List.length_append
    rw [one, ← intact.registered]
    rfl

theorem conserved_course (course : Course cfg client ret next) :
    next.taken + next.pool.length = client.taken + client.pool.length := by
  have moved : ∀ {entry : ServiceEntry} {rest : List ServiceEntry}, client.pool = entry :: rest →
      client.taken + 1 + rest.length = client.taken + client.pool.length := by
    intro entry rest left
    rw [left, List.length_cons]
    omega
  cases course with
  | already => rfl
  | noInstance => rfl
  | hostRefused => rfl
  | addressRefused => rfl
  | noEntry => rfl
  | serviceRefused _ _ left => exact moved left
  | announced _ _ left => exact moved left

theorem refused_course (refused : ServiceRefused client change)
    (course : Course cfg client ret next) :
    next.taken = client.taken + 1 ∧ next.services = client.services := by
  cases course with
  | already done =>
    exact absurd (refused.allocates.fresh.symm.trans done) Bool.false_ne_true
  | noInstance _ missing =>
    exact absurd (missing.symm.trans refused.allocates.found) Bool.false_ne_true
  | hostRefused _ _ other => exact absurd refused.allocates.named other
  | addressRefused _ _ _ other => exact absurd refused.allocates.addressed other
  | noEntry _ _ empty => exact absurd empty refused.left
  | serviceRefused => exact ⟨rfl, rfl⟩
  | announced _ _ _ _ accepted => exact absurd accepted refused.refused

theorem intact_boot (instances : List Bool) (errors : List OtError) (hostName : Buffer) :
    Intact pool (.boot instances errors hostName pool) :=
  ⟨rfl, rfl, fun _ => rfl, fun _ => List.not_mem_nil⟩

end Runs

section Always

variable (cfg : EsphomeConfig) (instances : List Bool) (errors : List OtError) (hostName : Buffer)
  (pool : List ServiceEntry) (changes : List StateChange)

theorem added_once : Throughout (step cfg) changes (.boot instances errors hostName pool)
    fun client => client.services.length ≤ 1 := by
  have kept : ∀ client change next, AddedWhenDone client → step cfg client change = some next →
      AddedWhenDone next := by
    intro client change next added taken
    rcases step_cases taken with rfl | ⟨-, ret, course⟩
    · exact added
    · exact added_course course added
  have start : AddedWhenDone (.boot instances errors hostName pool) := rfl
  have added := throughout_of_step (step cfg) kept start changes
  exact added.imp (step cfg) fun _ added => added.le_one

end Always

/-- In a run from the boot the service is added at most once and no entry is lost exactly if no
attempt that got an entry is refused its service. -/
theorem balanced_iff (cfg : EsphomeConfig) (instances : List Bool) (errors : List OtError)
    (hostName : Buffer) (pool : List ServiceEntry) (changes : List StateChange) :
    Throughout (step cfg) changes (.boot instances errors hostName pool) (Balanced pool) ↔
      AtEach (step cfg) changes (.boot instances errors hostName pool)
        fun client change => ¬ ServiceRefused client change := by
  constructor
  · intro balanced client change reached refused
    obtain ⟨next, taken, ⟨idle, -⟩ | ⟨-, ret, course⟩⟩ := step_total cfg client change
    · exact absurd refused.attaches idle
    · obtain ⟨before, after⟩ := balanced.around (step cfg) reached taken
      obtain ⟨lost, same⟩ := refused_course refused course
      have more : client.taken + 1 = client.services.length := by
        rw [← lost, after.registered, same]
      have equal : client.taken = client.services.length := before.registered
      omega
  · intro kept
    have intact := throughout_invariant (step cfg) intact_step
      (intact_boot instances errors hostName) kept
    exact intact.imp (step cfg) fun _ intact =>
      ⟨intact.added.le_one, intact.registered, intact.supplied⟩

def smallPool : List ServiceEntry :=
  [{ port := 0, instanceName := .single 0, serviceName := .single 0 }]

/-- After one refused service the next attempt finds no entry. -/
theorem refused_entry_lost : ¬ ∀ (cfg : EsphomeConfig) (instances : List Bool)
    (errors : List OtError) (hostName : Buffer) (pool : List ServiceEntry)
    (changes : List StateChange),
    Throughout (step cfg) changes (.boot instances errors hostName pool) (Balanced pool) := by
  intro always
  have balanced := always { name := .ofBytes [], port := 6053 } [] [0, 0, 1] (.single 0) smallPool
    [⟨otChangedThreadRole, .child⟩, ⟨otChangedThreadRole, .router⟩]
    [⟨otChangedThreadRole, .child⟩, ⟨otChangedThreadRole, .router⟩] [] _ rfl rfl
  exact balanced.supplied (by decide) (by decide)

end ZephyrEsphome.OpenThread.Entries
