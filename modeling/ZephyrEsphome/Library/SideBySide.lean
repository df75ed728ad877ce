/- Digest: Two runs side by side, from states that an observer cannot tell apart.

   Two programs are alike when they end alike from all states that are related: both return, with
   values that correspond, or both stop for the same reason, and the states they leave are related
   again. The rules follow the programs step by step. For a system whose silent actions keep every
   state related to where it was, a run and the run without its silent actions lead to related
   states. -/

import ZephyrEsphome.Library.Exec
import ZephyrEsphome.Library.Transition

set_option autoImplicit false
set_option relaxedAutoImplicit false

namespace ZephyrEsphome.Library.SideBySide

open Exec Transition

variable {ε σ τ α β α' β' γ ι : Type}

inductive Agree (R : σ → σ → Prop) (V : α → β → Prop) :
    EStateM.Result ε σ α → EStateM.Result ε σ β → Prop
  | ok {a : α} {b : β} {s t : σ} : V a b → R s t → Agree R V (.ok a s) (.ok b t)
  | error {e : ε} {s t : σ} : R s t → Agree R V (.error e s) (.error e t)

structure Alike (R : σ → σ → Prop) (V : α → β → Prop) (m : EStateM ε σ α) (n : EStateM ε σ β) :
    Prop where
  run : ∀ s t, R s t → Agree R V (m.run s) (n.run t)

section Rules

variable {R : σ → σ → Prop}

theorem alike_pure {V : α → β → Prop} {a : α} {b : β} (same : V a b) :
    Alike R V (pure a : EStateM ε σ α) (pure b) where
  run _ _ related := .ok same related

theorem alike_throw (V : α → β → Prop) (e : ε) :
    Alike R V (throw e : EStateM ε σ α) (throw e) where
  run _ _ related := .error related

theorem alike_bind {V : α → β → Prop} {W : α' → β' → Prop} {m : EStateM ε σ α}
    {n : EStateM ε σ β} {f : α → EStateM ε σ α'} {g : β → EStateM ε σ β'} (first : Alike R V m n)
    (rest : ∀ a b, V a b → Alike R W (f a) (g b)) : Alike R W (m >>= f) (n >>= g) := by
  constructor
  intro s t related
  have ended := first.run s t related
  cases left : m.run s with
  | ok a u =>
    cases right : n.run t with
    | ok b v =>
      rw [left, right] at ended
      cases ended with
      | ok same related' =>
        rw [run_bind_ok f left, run_bind_ok g right]
        exact (rest a b same).run u v related'
    | error e v =>
      rw [left, right] at ended
      cases ended
  | error e u =>
    cases right : n.run t with
    | ok b v =>
      rw [left, right] at ended
      cases ended
    | error e' v =>
      rw [left, right] at ended
      cases ended with
      | error related' =>
        rw [run_bind_error f left, run_bind_error g right]
        exact .error related'

theorem alike_get {V : α → β → Prop} {f : σ → EStateM ε σ α} {g : σ → EStateM ε σ β}
    (rest : ∀ s t, R s t → Alike R V (f s) (g t)) : Alike R V (get >>= f) (get >>= g) := by
  constructor
  intro s t related
  rw [run_bind_ok f (run_get s), run_bind_ok g (run_get t)]
  exact (rest s t related).run s t related

theorem alike_modify {f g : σ → σ} (kept : ∀ s t, R s t → R (f s) (g t)) :
    Alike R Eq (modify f : EStateM ε σ PUnit) (modify g) where
  run s t related := .ok rfl (kept s t related)

theorem alike_modifyGet {V : α → β → Prop} {f : σ → α × σ} {g : σ → β × σ}
    (value : ∀ s t, R s t → V (f s).1 (g t).1) (kept : ∀ s t, R s t → R (f s).2 (g t).2) :
    Alike R V (modifyGet f : EStateM ε σ α) (modifyGet g) where
  run s t related := .ok (value s t related) (kept s t related)

theorem alike_ite {V : α → β → Prop} {p : Prop} [Decidable p] {m n : EStateM ε σ α}
    {m' n' : EStateM ε σ β} (holds : Alike R V m m') (fails : Alike R V n n') :
    Alike R V (if p then m else n) (if p then m' else n') := by
  split
  · exact holds
  · exact fails

theorem alike_forM {items : List ι} {f g : ι → EStateM ε σ PUnit}
    (each : ∀ i, Alike R Eq (f i) (g i)) : Alike R Eq (forM items f) (forM items g) := by
  induction items with
  | nil => exact alike_pure rfl
  | cons i items ih =>
    rw [List.forM_cons, List.forM_cons]
    exact alike_bind (each i) fun _ _ _ => ih

theorem alike_zoom {part : σ → τ} {put : τ → σ → σ} {m : EStateM ε τ α}
    (same : ∀ s t, R s t → part s = part t) (kept : ∀ s t c, R s t → R (put c s) (put c t)) :
    Alike R Eq (zoom part put m) (zoom part put m) := by
  constructor
  intro s t related
  have there := same s t related
  cases run : m.run (part s) with
  | ok a c =>
    rw [run_zoom_ok put run, run_zoom_ok put (there ▸ run)]
    exact .ok rfl (kept s t c related)
  | error e c =>
    rw [run_zoom_error put run, run_zoom_error put (there ▸ run)]
    exact .error (kept s t c related)

end Rules

theorem leads_matched {R : σ → τ → Prop} {step : σ → α → Option σ} {spec : τ → ι → Option τ}
    {act : ι → α} (actions : List ι)
    (follows : ∀ s t u i, i ∈ actions → R s t → step s (act i) = some u →
      ∃ v, spec t i = some v ∧ R u v) : ∀ {s : σ} {t : τ} {u : σ}, R s t →
      leads step (actions.map act) s = some u → ∃ v, leads spec actions t = some v ∧ R u v := by
  induction actions with
  | nil =>
    intro s t u related reached
    obtain rfl := Option.some.inj reached
    exact ⟨t, rfl, related⟩
  | cons i later ih =>
    intro s t u related reached
    cases taken : step s (act i) with
    | none =>
      rw [List.map_cons, leads, List.foldlM_cons, taken] at reached
      cases reached
    | some s' =>
      rw [List.map_cons, leads_cons step taken] at reached
      obtain ⟨t', taken', related'⟩ := follows s t s' i List.mem_cons_self related taken
      rw [leads_cons spec taken']
      exact ih (fun s t u j member => follows s t u j (List.mem_cons_of_mem _ member)) related'
        reached

theorem leads_filter {step : σ → α → Option σ} {silent : α → Bool} (actions : List α) (t : σ) :
    leads (fun t a => if silent a = true then some t else step t a) actions t =
      leads step (actions.filter fun a => !silent a) t := by
  induction actions generalizing t with
  | nil => rfl
  | cons a later ih =>
    cases kind : silent a with
    | true =>
      rw [List.filter_cons_of_neg (by simp [kind]), ← ih]
      exact leads_cons _ (if_pos kind) later
    | false =>
      rw [List.filter_cons_of_pos (by simp [kind])]
      have other : ¬ silent a = true := by simp [kind]
      cases taken : step t a with
      | none =>
        rw [leads, leads, List.foldlM_cons, List.foldlM_cons, if_neg other, taken]
        rfl
      | some u =>
        rw [leads_cons step taken, ← ih]
        exact leads_cons _ ((if_neg other).trans taken) later

theorem leads_without {R : σ → σ → Prop} {step : σ → α → Option σ} {silent : α → Bool}
    (quiet : ∀ s t u a, silent a = true → R s t → step s a = some u → R u t)
    (actions : List α)
    (follows : ∀ s t u a, a ∈ actions → silent a = false → R s t → step s a = some u →
      ∃ v, step t a = some v ∧ R u v) {s t u : σ} (related : R s t)
    (reached : leads step actions s = some u) :
    ∃ v, leads step (actions.filter fun a => !silent a) t = some v ∧ R u v := by
  rw [← List.map_id actions] at reached
  rw [← leads_filter]
  refine leads_matched actions ?_ related reached
  intro s t u a member related taken
  cases kind : silent a with
  | true => exact ⟨t, if_pos rfl, quiet s t u a kind related taken⟩
  | false =>
    obtain ⟨v, taken', related'⟩ := follows s t u a member kind related taken
    exact ⟨v, (if_neg Bool.false_ne_true).trans taken', related'⟩

end ZephyrEsphome.Library.SideBySide
