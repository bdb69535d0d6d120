import Mathlib.Data.List.Basic

/-!
# Labelled machines

A machine is a set of initial states together with a guarded, executable step function: `step s a`
is `some s'` when action `a` is enabled in `s`, and `none` otherwise. A run is a list of actions, all
of them enabled one after the other. Every component of the server that takes step after step is an
instance, and the safety results about it are obtained from the two induction rules of this file:
`Machine.invariant` for every run, and `Machine.invariant_along` for the runs whose steps all meet a
condition.
-/

namespace MeowFrp.Lib

universe u v
variable {σ : Type u} {α : Type v}

/-- A labelled transition system with an executable step. -/
structure Machine (σ : Type u) (α : Type v) where
  Init : σ → Prop
  step : σ → α → Option σ

namespace Machine

/-- The state after a list of actions, if each of them is enabled in its turn. -/
def run (M : Machine σ α) (s : σ) (as : List α) : Option σ :=
  as.foldlM M.step s

variable {M : Machine σ α} {G : σ → α → Prop}

@[simp]
lemma run_nil {s} : M.run s [] = some s := rfl

@[simp]
lemma run_cons {s a as} :
    M.run s (a :: as) = (M.step s a).bind fun s' => M.run s' as := rfl

lemma run_cons_some {s a as t} :
    M.run s (a :: as) = some t ↔ ∃ s', M.step s a = some s' ∧ M.run s' as = some t := by
  rw [run_cons, Option.bind_eq_some_iff]

/-- A run in two parts. -/
lemma run_append {s as bs} :
    M.run s (as ++ bs) = (M.run s as).bind fun s' => M.run s' bs := by
  induction as generalizing s with
  | nil => rfl
  | cons _ _ ih =>
    rw [List.cons_append, run_cons, run_cons, Option.bind_assoc]
    congr 1
    funext s'
    exact ih

/-- The condition `G` holds before each of the steps `as` taken from `s`. -/
def Along (M : Machine σ α) (G : σ → α → Prop) : σ → List α → Prop
  | _, [] => True
  | s, a :: as => G s a ∧ ∀ s', M.step s a = some s' → M.Along G s' as

lemma Along.cons {s a s' as} (st : M.step s a = some s')
    (now : G s a) (later : M.Along G s' as) : M.Along G s (a :: as) := by
  refine ⟨now, fun t e => ?_⟩
  cases st.symm.trans e
  exact later

/-- A condition on the actions alone holds along a run that meets it. -/
lemma Along.of_forall {P : α → Prop} {s as} (all : ∀ a ∈ as, P a) :
    M.Along (fun _ a => P a) s as := by
  induction as generalizing s with
  | nil => trivial
  | cons _ _ ih =>
    obtain ⟨now, later⟩ := List.forall_mem_cons.mp all
    exact ⟨now, fun _ _ => ih later⟩

/-- Two runs one after the other. -/
lemma Along.append {s t as bs} (first : M.Along G s as)
    (run : M.run s as = some t) (later : M.Along G t bs) : M.Along G s (as ++ bs) := by
  induction as generalizing s with
  | nil =>
    cases run
    exact later
  | cons _ _ ih =>
    obtain ⟨s', st, run'⟩ := run_cons_some.mp run
    exact .cons st first.1 (ih (first.2 s' st) run')

/-- Two conditions that hold along a run hold along it together. -/
lemma Along.and {H : σ → α → Prop} {s as} (g : M.Along G s as)
    (h : M.Along H s as) : M.Along (fun s a => G s a ∧ H s a) s as := by
  induction as generalizing s with
  | nil => trivial
  | cons _ _ ih => exact ⟨⟨g.1, h.1⟩, fun s' st => ih (g.2 s' st) (h.2 s' st)⟩

/-- Evaluation of `Along` for a decidable condition. -/
def along (M : Machine σ α) (G : σ → α → Prop) [∀ s a, Decidable (G s a)] : σ → List α → Bool
  | _, [] => true
  | s, a :: as => decide (G s a) && (M.step s a).all fun s' => M.along G s' as

/-- The check finds runs along the condition. -/
lemma Along.of_along [∀ s a, Decidable (G s a)] {s as}
    (e : M.along G s as = true) : M.Along G s as := by
  induction as generalizing s with
  | nil => trivial
  | cons _ _ ih =>
    obtain ⟨now, later⟩ := (Bool.and_eq_true _ _).mp e
    refine ⟨of_decide_eq_true now, fun s' st => ih ?_⟩
    rw [st] at later
    exact later

/-- A predicate that every step keeps is kept by every run whose steps all meet `G`. -/
theorem invariant_along {M : Machine σ α} {G : σ → α → Prop} {I : σ → Prop}
    (keep : ∀ s a s', I s → G s a → M.step s a = some s' → I s')
    {s t as} (along : M.Along G s as) (inv : I s) (run : M.run s as = some t) : I t := by
  induction as generalizing s with
  | nil =>
    cases run
    exact inv
  | cons a _ ih =>
    obtain ⟨s', st, run'⟩ := run_cons_some.mp run
    exact ih (along.2 s' st) (keep s a s' inv along.1 st) run'

/-- A predicate that every step keeps is kept by every run. -/
theorem invariant {M : Machine σ α} {I : σ → Prop}
    (keep : ∀ s a s', I s → M.step s a = some s' → I s')
    {s t as} (inv : I s) (run : M.run s as = some t) : I t := by
  induction as generalizing s with
  | nil =>
    cases run
    exact inv
  | cons a _ ih =>
    obtain ⟨s', st, run'⟩ := run_cons_some.mp run
    exact ih (keep s a s' inv st) run'

/-- `s` is the state after some run from an initial state. -/
def Reachable (M : Machine σ α) (s : σ) : Prop :=
  ∃ s₀ as, M.Init s₀ ∧ M.run s₀ as = some s

/-- `s` is reached from an initial state by steps that meet `G`. -/
def ReachableAlong (M : Machine σ α) (G : σ → α → Prop) (s : σ) : Prop :=
  ∃ s₀ as, M.Init s₀ ∧ M.Along G s₀ as ∧ M.run s₀ as = some s

/-- Invariant rule for reachable states. -/
theorem Reachable.inv {M : Machine σ α} {I : σ → Prop}
    (init : ∀ s, M.Init s → I s)
    (keep : ∀ s a s', I s → M.step s a = some s' → I s')
    {s} (r : M.Reachable s) : I s := by
  obtain ⟨s₀, _, i, run⟩ := r
  exact invariant keep (init s₀ i) run

/-- Invariant rule for the states reached by runs whose steps all meet `G`. -/
theorem ReachableAlong.inv {M : Machine σ α} {G : σ → α → Prop} {I : σ → Prop}
    (init : ∀ s, M.Init s → I s)
    (keep : ∀ s a s', I s → G s a → M.step s a = some s' → I s')
    {s} (r : M.ReachableAlong G s) : I s := by
  obtain ⟨s₀, _, i, along, run⟩ := r
  exact invariant_along keep along (init s₀ i) run

/-- A run from a reachable state. -/
lemma Reachable.append {s as t} (r : M.Reachable s) (run : M.run s as = some t) : M.Reachable t := by
  obtain ⟨s₀, before, i, run₀⟩ := r
  refine ⟨s₀, before ++ as, i, ?_⟩
  rw [run_append, run₀]
  exact run

/-- One more step from a reachable state. -/
lemma Reachable.snoc {s a s'} (r : M.Reachable s) (st : M.step s a = some s') : M.Reachable s' :=
  r.append (run_cons_some.mpr ⟨s', st, run_nil⟩)

end Machine

end MeowFrp.Lib
