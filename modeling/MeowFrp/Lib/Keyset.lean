import Mathlib.Data.List.Sort
import Mathlib.Data.List.Basic

/-!
# Keyset pagination

Reading a relation in key order, a bounded number of rows at a time, with the largest key read so far
as the cursor. `rest c` stands for the query "the rows with a key above `c`, in key order".
`Query.rest_lastKey` is the induction step of every loop over such pages: the query at the cursor that
a full page returns answers exactly the rows that the page left.
-/

namespace MeowFrp.Lib.Keyset

open List

variable {V : Type} {key : V → Nat}

/-- Rows in strictly ascending key order. -/
def Ascending (key : V → Nat) (rows : List V) : Prop := rows.Pairwise fun a b => key a < key b

/-- Ascending lists with the same rows are equal. -/
lemma Ascending.eq_of_mem_iff {l l' : List V} (asc : Ascending key l) (asc' : Ascending key l')
    (same : ∀ v, v ∈ l ↔ v ∈ l') : l = l' := by
  have irrefl : Std.Irrefl fun a b => key a < key b := ⟨fun _ => Nat.lt_irrefl _⟩
  have antisymm : Std.Antisymm fun a b => key a < key b :=
    ⟨fun _ _ lt gt => absurd lt (Nat.lt_asymm gt)⟩
  exact List.Pairwise.eq_of_mem_iff asc asc' same

/-- The largest key of an ascending page, `c` when it is empty. -/
def lastKey (key : V → Nat) (c : Nat) (page : List V) : Nat := (page.getLast?.map key).getD c

/-- The rows after a full page are the rows above its last key. -/
lemma Ascending.drop_iff {rows : List V} (asc : Ascending key rows) {c k v} (pos : 0 < k)
    (le : k ≤ rows.length) :
    v ∈ rows.drop k ↔ v ∈ rows ∧ lastKey key c (rows.take k) < key v := by
  obtain ⟨n, rfl⟩ : ∃ n, k = n + 1 := ⟨k - 1, by omega⟩
  have lt : n < rows.length := by omega
  have last : lastKey key c (rows.take (n + 1)) = key rows[n] := by
    rw [lastKey, List.getLast?_eq_getElem?, length_take, Nat.min_eq_left le,
      Nat.add_sub_cancel, List.getElem?_take_of_lt (Nat.lt_succ_self n),
      List.getElem?_eq_getElem lt]
    rfl
  rw [last]
  have split : rows = rows.take n ++ rows[n] :: rows.drop (n + 1) := by
    rw [getElem_cons_drop, take_append_drop]
  have asc' := asc
  rw [Ascending, split, pairwise_append, pairwise_cons] at asc'
  obtain ⟨_, ⟨above, _⟩, below⟩ := asc'
  constructor
  · intro m
    exact ⟨mem_of_mem_drop m, above v m⟩
  · rintro ⟨m, gt⟩
    rw [split, mem_append, mem_cons] at m
    rcases m with m | rfl | m
    · exact absurd gt (Nat.lt_asymm (below v m _ mem_cons_self))
    · exact absurd gt (Nat.lt_irrefl _)
    · exact m

/-- The query of a keyset read: a lower cursor only adds rows below. -/
structure Query (key : V → Nat) (rest : Nat → List V) : Prop where
  ascending : ∀ c, Ascending key (rest c)
  mem_iff : ∀ {c c' v}, c ≤ c' → (v ∈ rest c' ↔ v ∈ rest c ∧ c' < key v)
  above : ∀ {c v}, v ∈ rest c → c < key v

/-- Reading on after a full page gives what the page left. -/
lemma Query.rest_lastKey {rest : Nat → List V} (q : Query key rest) {c limit} (pos : 1 ≤ limit)
    (more : limit < (rest c).length) :
    rest (lastKey key c ((rest c).take limit)) = (rest c).drop limit := by
  have asc := q.ascending c
  apply (q.ascending _).eq_of_mem_iff (List.Pairwise.sublist (drop_sublist limit _) asc)
  intro v
  rw [asc.drop_iff pos more.le]
  apply q.mem_iff
  -- the cursor only moves up: the last row read lies above it
  rw [lastKey]
  cases e : ((rest c).take limit).getLast? with
  | none => exact Nat.le_refl c
  | some =>
    have mw := mem_of_mem_take (mem_of_getLast? e)
    exact (q.above mw).le

end MeowFrp.Lib.Keyset
