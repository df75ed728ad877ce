/- Digest: What every run leaves of the pool of entries, and which runs announce the device. -/

import ZephyrEsphome.OpenThread.Entries

set_option autoImplicit false
set_option relaxedAutoImplicit false

namespace ZephyrEsphome.OpenThread.Announcing

open Library.Transition
open Entries SrpClient

def refusal : SrpCall → Option OtError
  | .addService _ error => if error = otErrorNone then none else some error
  | _ => none

def accepted : SrpCall → Option ServiceEntry
  | .addService entry error => if error = otErrorNone then some entry else none
  | _ => none

def refusals (client : SrpClient) : Nat := (client.calls.filterMap refusal).length

/-- Each entry that is gone from the pool is registered or was refused; those that are registered are
the accepted ones, each with one start; and an attempt lacks an entry only after as many refusals as
there were entries. -/
structure Account (pool : List ServiceEntry) (client : SrpClient) : Prop where
  added : AddedWhenDone client
  left : client.taken + client.pool.length = pool.length
  gone : client.taken = client.services.length + refusals client
  registered : client.services = client.calls.filterMap accepted
  started : client.calls.count .enableAutoStartMode = client.services.length
  starved : .allocateService false ∈ client.calls → refusals client = pool.length

section Course

variable {cfg : EsphomeConfig} {client next : SrpClient} {ret : Int} {pool : List ServiceEntry}

theorem counted_of_calls {made : List SrpCall} (calls : next.calls = client.calls ++ made) :
    refusals next = refusals client + (made.filterMap refusal).length ∧
      next.calls.filterMap accepted = client.calls.filterMap accepted ++ made.filterMap accepted ∧
      next.calls.count .enableAutoStartMode =
        client.calls.count .enableAutoStartMode + made.count .enableAutoStartMode := by
  rw [refusals, refusals, calls, List.filterMap_append, List.filterMap_append, List.length_append,
    List.count_append]
  exact ⟨rfl, rfl, rfl⟩

theorem account_same {made : List SrpCall} (account : Account pool client)
    (added : AddedWhenDone next) (left : next.taken + next.pool.length = pool.length)
    (calls : next.calls = client.calls ++ made)
    (same : next.taken = client.taken ∧ next.services = client.services)
    (refused : made.filterMap refusal = []) (taken : made.filterMap accepted = [])
    (started : made.count .enableAutoStartMode = 0)
    (starved : .allocateService false ∈ next.calls → refusals client = pool.length) :
    Account pool next := by
  obtain ⟨count, entries, starts⟩ := counted_of_calls calls
  obtain ⟨taken', services⟩ := same
  rw [refused, List.length_nil, Nat.add_zero] at count
  rw [taken, List.append_nil] at entries
  rw [started, Nat.add_zero] at starts
  refine ⟨added, left, ?_, ?_, ?_, ?_⟩
  · rw [taken', services, count, account.gone]
  · rw [services, entries, account.registered]
  · rw [services, starts, account.started]
  · intro short
    rw [count, starved short]

theorem Account.supplied (account : Account pool client) {entry : ServiceEntry}
    {rest : List ServiceEntry} (left : client.pool = entry :: rest) :
    .allocateService false ∉ client.calls := by
  intro short
  have all := account.starved short
  have conserved := account.left
  have gone := account.gone
  rw [left, List.length_cons] at conserved
  omega

theorem account_course (course : Course cfg client ret next) (account : Account pool client) :
    Account pool next := by
  have added := added_course course account.added
  have conserved := (conserved_course course).trans account.left
  cases course with
  | already => exact account
  | noInstance => exact ⟨added, conserved, account.gone, account.registered, account.started,
      account.starved⟩
  | @hostRefused host =>
    refine account_same account added conserved (calls_hosted client host) ⟨rfl, rfl⟩ rfl rfl
      (by simp) ?_
    rw [calls_hosted]
    intro short
    exact account.starved (by simpa using short)
  | @addressRefused host =>
    refine account_same account added conserved (calls_located client host) ⟨rfl, rfl⟩ rfl rfl
      (by simp) ?_
    rw [calls_located]
    intro short
    exact account.starved (by simpa using short)
  | @noEntry host allocates _ empty =>
    have calls : ((client.located host).told (.allocateService false)).calls =
        client.calls ++ [.setCallback, .setHostName host client.hostError,
          .enableAutoHostAddress client.addressError, .allocateService false] := by
      have said : ((client.located host).told (.allocateService false)).calls =
          (client.located host).calls ++ [.allocateService false] := rfl
      rw [said, calls_located, List.append_assoc]
      rfl
    refine account_same account added conserved calls ⟨rfl, rfl⟩ rfl rfl (by simp) ?_
    intro _
    have gone := account.gone
    have before := account.left
    rw [account.added.none allocates.fresh, List.length_nil] at gone
    rw [empty, List.length_nil] at before
    omega
  | @serviceRefused host entry filled rest allocates _ left _ refused =>
    obtain ⟨count, entries, starts⟩ := counted_of_calls (calls_offered client host rest filled)
    have one : refusals (client.offered host rest filled) = refusals client + 1 := by
      rw [count]
      simp [List.filterMap_cons, refusal, refused]
    have none : (client.offered host rest filled).calls.filterMap accepted =
        client.calls.filterMap accepted := by
      rw [entries]
      simp [List.filterMap_cons, accepted, refused]
    have moved : (client.offered host rest filled).taken = client.taken + 1 := rfl
    refine ⟨added, conserved, ?_, ?_, ?_, ?_⟩
    · have gone := account.gone
      rw [one, moved, gone]
      exact Nat.add_assoc _ _ 1
    · exact account.registered.trans none.symm
    · rw [starts, account.started]
      simp [offered, allocated, located, hosted, lookedUp, told, asked]
    · rw [calls_offered]
      intro short
      exact absurd (by simpa using short) (account.supplied left)
  | @announced host entry filled rest allocates _ left _ agreed =>
    obtain ⟨count, entries, starts⟩ := counted_of_calls (calls_announced client host rest filled)
    have services : (client.announced host rest filled).services = client.services ++ [filled] := rfl
    have one : (client.announced host rest filled).services.length = client.services.length + 1 := by
      rw [services, List.length_append, List.length_singleton]
    have same : refusals (client.announced host rest filled) = refusals client := by
      rw [count]
      simp [List.filterMap_cons, refusal, agreed]
    have moved : (client.announced host rest filled).taken = client.taken + 1 := rfl
    refine ⟨added, conserved, ?_, ?_, ?_, ?_⟩
    · have gone := account.gone
      omega
    · rw [entries, services, account.registered]
      simp [List.filterMap_cons, accepted, agreed]
    · rw [starts, one, account.started]
      simp
    · rw [calls_announced]
      intro short
      exact absurd (by simpa using short) (account.supplied left)

theorem account_step (client : SrpClient) (change : StateChange) (next : SrpClient)
    (account : Account pool client) (taken : step cfg client change = some next) :
    Account pool next := by
  rcases step_cases taken with rfl | ⟨-, ret, course⟩
  · exact account
  · exact account_course course account

end Course

structure Hopeless (client : SrpClient) : Prop where
  fresh : client.otSrpInitDone = false
  empty : client.pool = []
  unregistered : client.services = []

theorem hopeless_course {cfg : EsphomeConfig} {client next : SrpClient} {ret : Int}
    (course : Course cfg client ret next) (hopeless : Hopeless client) : Hopeless next := by
  have none : ∀ {entry : ServiceEntry} {rest : List ServiceEntry}, client.pool ≠ entry :: rest := by
    intro entry rest left
    exact absurd (hopeless.empty.symm.trans left) nofun
  cases course with
  | already => exact hopeless
  | noInstance => exact ⟨hopeless.fresh, hopeless.empty, hopeless.unregistered⟩
  | hostRefused => exact ⟨hopeless.fresh, hopeless.empty, hopeless.unregistered⟩
  | addressRefused => exact ⟨hopeless.fresh, hopeless.empty, hopeless.unregistered⟩
  | noEntry => exact ⟨hopeless.fresh, hopeless.empty, hopeless.unregistered⟩
  | serviceRefused _ _ left => exact absurd left none
  | announced _ _ left => exact absurd left none

theorem hopeless_step {cfg : EsphomeConfig} (client : SrpClient) (change : StateChange)
    (next : SrpClient) (hopeless : Hopeless client)
    (taken : step cfg client change = some next) : Hopeless next := by
  rcases step_cases taken with rfl | ⟨-, ret, course⟩
  · exact hopeless
  · exact hopeless_course course hopeless

/-- The attempt meets no failure. -/
structure Announces (client : SrpClient) (change : StateChange) : Prop where
  attaches : Attaches change
  allocates : client.Allocates
  left : client.pool ≠ []
  agreed : client.serviceError = otErrorNone

section Steps

variable {cfg : EsphomeConfig} {client next : SrpClient} {change : StateChange} {ret : Int}

theorem step_done (done : client.otSrpInitDone = true) : step cfg client change = some client := by
  obtain ⟨next, taken, ⟨-, rfl⟩ | ⟨-, ret, course⟩⟩ := step_total cfg client change
  · exact taken
  · have fresh : client.otSrpInitDone ≠ false := by simp [done]
    cases course with
    | already => exact taken
    | noInstance here => exact absurd here fresh
    | hostRefused attempts => exact absurd attempts.fresh fresh
    | addressRefused attempts => exact absurd attempts.fresh fresh
    | noEntry allocates => exact absurd allocates.fresh fresh
    | serviceRefused allocates => exact absurd allocates.fresh fresh
    | announced allocates => exact absurd allocates.fresh fresh

theorem done_course (course : Course cfg client ret next) (attaches : Attaches change) :
    next.otSrpInitDone = true ↔ client.otSrpInitDone = true ∨ Announces client change := by
  cases course with
  | already done => exact ⟨Or.inl, fun _ => done⟩
  | noInstance _ missing =>
    refine ⟨Or.inl, ?_⟩
    rintro (done | announces)
    · exact done
    · exact absurd (missing.symm.trans announces.allocates.found) Bool.false_ne_true
  | hostRefused _ _ refused =>
    refine ⟨Or.inl, ?_⟩
    rintro (done | announces)
    · exact done
    · exact absurd announces.allocates.named refused
  | addressRefused _ _ _ refused =>
    refine ⟨Or.inl, ?_⟩
    rintro (done | announces)
    · exact done
    · exact absurd announces.allocates.addressed refused
  | noEntry _ _ empty =>
    refine ⟨Or.inl, ?_⟩
    rintro (done | announces)
    · exact done
    · exact absurd empty announces.left
  | serviceRefused _ _ _ _ refused =>
    refine ⟨Or.inl, ?_⟩
    rintro (done | announces)
    · exact done
    · exact absurd announces.agreed refused
  | announced allocates _ left _ agreed =>
    refine ⟨fun _ => Or.inr ⟨attaches, allocates, ?_, agreed⟩, fun _ => rfl⟩
    rw [left]
    exact List.cons_ne_nil _ _

theorem done_step (taken : step cfg client change = some next) :
    next.otSrpInitDone = true ↔ client.otSrpInitDone = true ∨ Announces client change := by
  obtain ⟨next', taken', ⟨idle, same⟩ | ⟨attaches, ret, course⟩⟩ := step_total cfg client change
  · obtain rfl := Option.some.inj (taken'.symm.trans taken)
    rw [same]
    exact ⟨Or.inl, fun either => either.resolve_right fun announces => idle announces.attaches⟩
  · obtain rfl := Option.some.inj (taken'.symm.trans taken)
    exact done_course course attaches

end Steps

section Always

variable (cfg : EsphomeConfig) (instances : List Bool) (errors : List OtError)
  (hostName : Kernel.Buffer) (pool : List ServiceEntry)

/-- In every run the pool is accounted for, and as soon as as many services were refused as there
were entries the device is never announced. -/
theorem pool_accounted (changes : List StateChange) :
    Throughout (step cfg) changes (.boot instances errors hostName pool) (Account pool) ∧
      ∀ early late client, changes = early ++ late →
        leads (step cfg) early (.boot instances errors hostName pool) = some client →
        pool.length ≤ refusals client →
        Throughout (step cfg) late client fun client => client.services = [] := by
  have start : Account pool (.boot instances errors hostName pool) :=
    ⟨rfl, Nat.zero_add _, rfl, rfl, rfl, nofun⟩
  have always := throughout_of_step (step cfg) (@account_step cfg pool) start changes
  refine ⟨always, ?_⟩
  intro early late client split reached all
  have account := always early late client split reached
  have left := account.left
  have gone := account.gone
  have unregistered : client.services = [] := List.length_eq_zero_iff.mp (by omega)
  have fresh : client.otSrpInitDone = false := by
    by_contra done
    have added := account.added
    rw [AddedWhenDone, if_pos (Bool.not_eq_false _ ▸ done), unregistered] at added
    exact absurd added (by decide)
  have hopeless : Hopeless client :=
    ⟨fresh, List.length_eq_zero_iff.mp (by omega), unregistered⟩
  exact (throughout_of_step (step cfg) hopeless_step hopeless late).imp (step cfg)
    fun _ hopeless => hopeless.unregistered

/-- A run announces the device exactly when one of its attempts meets no failure, and nothing changes
after that attempt. -/
theorem announced_iff (changes : List StateChange) :
    ∃ client, leads (step cfg) changes (.boot instances errors hostName pool) = some client ∧
      (client.otSrpInitDone = true ↔ ∃ t change,
        Takes (step cfg) changes (.boot instances errors hostName pool) t change ∧
          Announces t change) ∧
      ∀ t change, Takes (step cfg) changes (.boot instances errors hostName pool) t change →
        Announces t change → step cfg t change = some client := by
  induction changes using List.reverseRecOn with
  | nil =>
    refine ⟨_, rfl, ⟨nofun, ?_⟩, ?_⟩
    · rintro ⟨t, change, taken, -⟩
      exact absurd taken (not_takes_nil _)
    · intro t change taken
      exact absurd taken (not_takes_nil _)
  | append_singleton changes change ih =>
    obtain ⟨before, reached, done, last⟩ := ih
    obtain ⟨client, taken, -⟩ := step_total cfg before change
    have whole : leads (step cfg) (changes ++ [change]) (.boot instances errors hostName pool) =
        some client := leads_trans _ reached (by rw [leads_cons _ taken, leads_nil])
    refine ⟨client, whole, ?_, ?_⟩
    · rw [done_step taken, done]
      constructor
      · rintro (⟨t, earlier, takes, announces⟩ | announces)
        · exact ⟨t, earlier, takes_append _ [change] takes, announces⟩
        · exact ⟨before, change, (takes_concat_iff _).mpr (Or.inr ⟨reached, rfl⟩), announces⟩
      · rintro ⟨t, either, takes, announces⟩
        rcases (takes_concat_iff _).mp takes with earlier | ⟨reached', rfl⟩
        · exact Or.inl ⟨t, either, earlier, announces⟩
        · obtain rfl := Option.some.inj (reached.symm.trans reached')
          exact Or.inr announces
    · intro t either takes announces
      rcases (takes_concat_iff _).mp takes with earlier | ⟨reached', rfl⟩
      · have same := last t either earlier announces
        have finished : before.otSrpInitDone = true := done.mpr ⟨t, either, earlier, announces⟩
        rw [step_done finished] at taken
        rwa [← Option.some.inj taken]
      · obtain rfl := Option.some.inj (reached.symm.trans reached')
        exact taken

end Always

end ZephyrEsphome.OpenThread.Announcing
