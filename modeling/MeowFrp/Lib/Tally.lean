import Mathlib.Data.List.Nodup
import Mathlib.Logic.Function.Basic

/-!
# Counters over keyed entries

A registry is a list of entries with one entry for each key, and a counter map says how many of its
entries fall into each class. The source keeps such counters beside the registry and moves them by one
at each insertion and removal; `tally` is what they have to be, and `tally_cons` and `tally_remove`
say that moving the counter of one class by one is exactly right. Counting is by a function of the
entry's value, so the same two lemmas serve several counters over one registry.
-/

namespace MeowFrp.Lib

open List Function

universe u v w
variable {κ : Type u} {ν : Type v} {γ : Type w}

/-- One entry for each key. -/
def Keyed (entries : List (κ × ν)) : Prop := (entries.map Prod.fst).Nodup

/-- The number of entries whose value falls into a class. -/
def tally [DecidableEq γ] (f : ν → γ) (entries : List (κ × ν)) (g : γ) : Nat := entries.countP (f ·.2 = g)

variable {entries : List (κ × ν)} {f : ν → γ} {k : κ} {v : ν}

lemma Keyed.filter {p} (keyed : Keyed entries) : Keyed (entries.filter p) :=
  keyed.sublist (filter_sublist.map Prod.fst)

lemma tally_cons [DecidableEq γ] : tally f ((k, v) :: entries) =
    update (tally f entries) (f v) (tally f entries (f v) + 1) := by
  funext g
  by_cases same : f v = g
  · subst same
    rw [update_self, tally, countP_cons_of_pos (by simp)]
    rfl
  · rw [update_of_ne (Ne.symm same), tally, countP_cons_of_neg (by simpa using same)]
    rfl

/-- Entries under other keys are not counted away. -/
lemma filter_key_ne_self [DecidableEq κ] (no : k ∉ entries.map Prod.fst) : entries.filter (·.1 ≠ k) = entries := by
  refine filter_eq_self.mpr fun e me => decide_eq_true fun same => no ?_
  exact mem_map.mpr ⟨e, me, same⟩

/-- The entry of a key and the others are all there is. -/
lemma Keyed.perm_remove [DecidableEq κ] (keyed : Keyed entries) (m : (k, v) ∈ entries) :
    entries.Perm ((k, v) :: entries.filter (·.1 ≠ k)) := by
  induction entries with
  | nil => cases m
  | cons e entries ih =>
    obtain ⟨new, keyed⟩ := nodup_cons.mp keyed
    by_cases same : e.1 = k
    · have is : e = (k, v) := by
        rcases mem_cons.mp m with is | other
        · exact is.symm
        · exact absurd (mem_map.mpr ⟨_, other, same.symm⟩) new
      subst is
      rw [filter_cons_of_neg (by simp), filter_key_ne_self new]
    · have other : (k, v) ∈ entries := by
        rcases mem_cons.mp m with is | other
        · exact absurd (congrArg Prod.fst is).symm same
        · exact other
      rw [filter_cons_of_pos (by simpa using same)]
      exact ((ih keyed other).cons e).trans (List.Perm.swap _ _ _)

/-- Removing an entry lowers the counter of its class by one. -/
lemma tally_remove [DecidableEq κ] [DecidableEq γ] (keyed : Keyed entries) (m : (k, v) ∈ entries) :
    tally f (entries.filter (·.1 ≠ k)) =
      update (tally f entries) (f v) (tally f entries (f v) - 1) := by
  have whole : tally f entries = tally f ((k, v) :: entries.filter (·.1 ≠ k)) := by
    funext g
    exact (keyed.perm_remove m).countP_eq _
  rw [whole, tally_cons, update_self, Nat.add_sub_cancel, update_idem,
    update_eq_self]

end MeowFrp.Lib
