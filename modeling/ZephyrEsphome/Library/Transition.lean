/- Digest: Systems that take one action at a time, their runs, and what holds along a run.

   A system is given by what an action makes of a state, if it can be taken there. A run is the list
   of its actions; `leads` is where it leads, and `Takes` says which action is taken in which state.
   `Throughout` speaks of the states that a run reaches, `AtEach` of the actions it takes. -/

import Mathlib.Data.List.Induction

set_option autoImplicit false
set_option relaxedAutoImplicit false

namespace ZephyrEsphome.Library.Transition

variable {σ α : Type}

section Runs

variable (step : σ → α → Option σ)

def leads (actions : List α) (s : σ) : Option σ := actions.foldlM step s

theorem leads_nil (s : σ) : leads step [] s = some s := rfl

theorem leads_append (early late : List α) (s : σ) :
    leads step (early ++ late) s = (leads step early s).bind (leads step late) := by
  unfold leads
  rw [List.foldlM_append]
  rfl

theorem leads_cons {a : α} {s t : σ} (taken : step s a = some t) (actions : List α) :
    leads step (a :: actions) s = leads step actions t := by
  unfold leads
  rw [List.foldlM_cons, taken]
  rfl

theorem leads_trans {early late : List α} {s t u : σ} (first : leads step early s = some t)
    (second : leads step late t = some u) : leads step (early ++ late) s = some u := by
  rw [leads_append, first]
  exact second

theorem leads_concat_inv {actions : List α} {a : α} {s u : σ}
    (reached : leads step (actions ++ [a]) s = some u) :
    ∃ t, leads step actions s = some t ∧ step t a = some u := by
  rw [leads_append] at reached
  obtain ⟨t, first, last⟩ := Option.bind_eq_some_iff.mp reached
  refine ⟨t, first, ?_⟩
  cases taken : step t a with
  | none =>
    unfold leads at last
    rw [List.foldlM_cons, taken] at last
    exact absurd last nofun
  | some t' =>
    rw [leads_cons step taken] at last
    rw [← Option.some.inj last]

/-- The run takes the action in the state `t`. -/
def Takes (actions : List α) (s t : σ) (a : α) : Prop :=
  ∃ done later, actions = done ++ a :: later ∧ leads step done s = some t

theorem takes_cons_inv {actions : List α} {a b : α} {s t : σ}
    (taken : Takes step (a :: actions) s t b) :
    (t = s ∧ b = a) ∨ ∃ u, step s a = some u ∧ Takes step actions u t b := by
  obtain ⟨done, later, split, reached⟩ := taken
  cases done with
  | nil =>
    obtain ⟨rfl, -⟩ := List.cons.inj split
    exact Or.inl ⟨(Option.some.inj reached).symm, rfl⟩
  | cons first done =>
    obtain ⟨rfl, rest⟩ := List.cons.inj split
    cases next : step s a with
    | none =>
      unfold leads at reached
      rw [List.foldlM_cons, next] at reached
      exact absurd reached nofun
    | some u =>
      rw [leads_cons step next] at reached
      exact Or.inr ⟨u, rfl, done, later, rest, reached⟩

theorem not_takes_nil {a : α} {s t : σ} : ¬ Takes step [] s t a := by
  rintro ⟨done, later, split, -⟩
  cases done with
  | nil => exact absurd split nofun
  | cons first done => exact absurd split nofun

theorem takes_append {early : List α} {s t : σ} {a : α} (late : List α)
    (taken : Takes step early s t a) : Takes step (early ++ late) s t a := by
  obtain ⟨done, later, rfl, reached⟩ := taken
  exact ⟨done, later ++ late, by rw [List.append_assoc, List.cons_append], reached⟩

theorem takes_concat_iff {actions : List α} {a b : α} {s t : σ} :
    Takes step (actions ++ [a]) s t b ↔
      Takes step actions s t b ∨ leads step actions s = some t ∧ b = a := by
  constructor
  · rintro ⟨done, later, split, reached⟩
    rcases List.eq_nil_or_concat later with rfl | ⟨early, last, rfl⟩
    · obtain ⟨rfl, same⟩ := List.append_inj' split rfl
      obtain ⟨rfl, -⟩ := List.cons.inj same
      exact Or.inr ⟨reached, rfl⟩
    · rw [List.concat_eq_append, ← List.cons_append, ← List.append_assoc] at split
      obtain ⟨rfl, -⟩ := List.append_inj' split rfl
      exact Or.inl ⟨done, early, rfl, reached⟩
  · rintro (taken | ⟨reached, rfl⟩)
    · exact takes_append step [a] taken
    · exact ⟨actions, [], rfl, reached⟩

/-- `P` holds in every state that the run reaches. -/
def Throughout (actions : List α) (s : σ) (P : σ → Prop) : Prop :=
  ∀ done later t, actions = done ++ later → leads step done s = some t → P t

/-- `P` holds of every action of the run and the state in which it is taken. -/
def AtEach (actions : List α) (s : σ) (P : σ → α → Prop) : Prop :=
  ∀ t a, Takes step actions s t a → P t a

theorem atEach_nil (s : σ) (P : σ → α → Prop) : AtEach step [] s P := by
  intro t a taken
  exact absurd taken (not_takes_nil step)

theorem atEach_cons {actions : List α} {a : α} {s : σ} {P : σ → α → Prop} (first : P s a)
    (later : ∀ u, step s a = some u → AtEach step actions u P) :
    AtEach step (a :: actions) s P := by
  intro t b taken
  rcases takes_cons_inv step taken with ⟨rfl, rfl⟩ | ⟨u, next, rest⟩
  · exact first
  · exact later u next t b rest

theorem atEach_append {early late : List α} {s : σ} {P : σ → α → Prop}
    (met : AtEach step (early ++ late) s P) : AtEach step early s P :=
  fun t a taken => met t a (takes_append step late taken)

theorem leads_invariant {I : σ → Prop} {P : σ → α → Prop}
    (kept : ∀ s a t, I s → P s a → step s a = some t → I t) {s : σ} (start : I s)
    (actions : List α) : AtEach step actions s P →
    ∀ t, leads step actions s = some t → I t := by
  induction actions using List.reverseRecOn with
  | nil =>
    intro _ t reached
    rw [← Option.some.inj reached]
    exact start
  | append_singleton actions a ih =>
    intro met u reached
    obtain ⟨t, before, taken⟩ := leads_concat_inv step reached
    have inv : I t := ih (atEach_append step met) t before
    exact kept t a u inv (met t a ⟨actions, [], rfl, before⟩) taken

theorem throughout_invariant {I : σ → Prop} {P : σ → α → Prop}
    (kept : ∀ s a t, I s → P s a → step s a = some t → I t) {s : σ} (start : I s)
    {actions : List α} (met : AtEach step actions s P) : Throughout step actions s I := by
  rintro done later t rfl reached
  exact leads_invariant step kept start done (atEach_append step met) t reached

theorem throughout_of_step {I : σ → Prop} (kept : ∀ s a t, I s → step s a = some t → I t) {s : σ}
    (start : I s) (actions : List α) : Throughout step actions s I :=
  throughout_invariant step (P := fun _ _ => True) (fun s a t inv _ => kept s a t inv) start
    fun _ _ _ => trivial

theorem takes_invariant {I : σ → Prop} (kept : ∀ s a t, I s → step s a = some t → I t) {s : σ}
    (start : I s) {actions : List α} {t : σ} {a : α} (taken : Takes step actions s t a) : I t := by
  obtain ⟨done, later, split, reached⟩ := taken
  exact throughout_of_step step kept start actions done (a :: later) t split reached

theorem Throughout.imp {actions : List α} {s : σ} {P Q : σ → Prop}
    (holds : Throughout step actions s P) (weaker : ∀ t, P t → Q t) :
    Throughout step actions s Q :=
  fun done later t split reached => weaker t (holds done later t split reached)

theorem Throughout.around {actions : List α} {s t u : σ} {a : α} {P : σ → Prop}
    (holds : Throughout step actions s P) (taken : Takes step actions s t a)
    (next : step t a = some u) : P t ∧ P u := by
  obtain ⟨done, later, split, reached⟩ := taken
  have last : leads step [a] t = some u := by
    rw [leads_cons step next, leads_nil]
  have whole : actions = (done ++ [a]) ++ later := by
    rw [split, List.append_assoc, List.singleton_append]
  exact ⟨holds done (a :: later) t split reached,
    holds (done ++ [a]) later u whole (leads_trans step reached last)⟩

end Runs

end ZephyrEsphome.Library.Transition
