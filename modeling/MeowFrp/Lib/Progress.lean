import MeowFrp.Lib.Machine

/-!
# What a machine can still do

`M.CanReach G s P` says that some run from `s` whose actions meet `G` ends in a state with `P`. Rounds that
bring a measure down are put together by `CanReach.of_measure`.
-/

namespace MeowFrp.Lib.Machine

universe u v
variable {σ : Type u} {α : Type v} {M : Machine σ α} {G : σ → α → Prop} {s s' : σ} {a : α} {P Q : σ → Prop}

/-- Some run from `s` whose actions meet `G` ends in a state with `P`. -/
def CanReach (M : Machine σ α) (G : σ → α → Prop) (s : σ) (P : σ → Prop) : Prop :=
  ∃ as t, M.Along G s as ∧ M.run s as = some t ∧ P t

/-- No step is needed. -/
lemma CanReach.here (p : P s) : M.CanReach G s P := ⟨[], s, trivial, rfl, p⟩

/-- One step first. -/
lemma CanReach.step (st : M.step s a = some s') (now : G s a) (later : M.CanReach G s' P) : M.CanReach G s P := by
  obtain ⟨as, t, along, run, p⟩ := later
  exact ⟨a :: as, t, along.cons st now, run_cons_some.mpr ⟨s', st, run⟩, p⟩

/-- One run after the other. -/
lemma CanReach.trans (first : M.CanReach G s P) (later : ∀ t, P t → M.CanReach G t Q) : M.CanReach G s Q := by
  obtain ⟨as, t, along, run, p⟩ := first
  obtain ⟨bs, u, along', run', q⟩ := later t p
  refine ⟨as ++ bs, u, along.append run along', ?_, q⟩
  rw [run_append, run]
  exact run'

/-- Rounds that bring a measure down, as long as the goal is not reached, reach it. -/
theorem CanReach.of_measure {I : σ → Prop} (f : σ → Nat)
    (round : ∀ s, I s → M.CanReach G s fun t => P t ∨ (I t ∧ f t < f s)) (inv : I s) : M.CanReach G s P := by
  induction h : f s using Nat.strongRecOn generalizing s with
  | ind _ ih =>
    refine (round s inv).trans fun t reached => ?_
    obtain done | ⟨inv', lt⟩ := reached
    · exact .here done
    · exact ih (f t) (h ▸ lt) inv' rfl

end MeowFrp.Lib.Machine
