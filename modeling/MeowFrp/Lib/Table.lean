import Mathlib.Data.List.Pairwise
import Mathlib.Data.List.Perm.Subperm
import Mathlib.Data.List.Basic

/-!
# Relational tables

A table is a list of rows no two of which clash, where `Schema.clash` states the uniqueness
constraints of the relation (primary and unique keys). The constraint is a field of the table, so a
table that violates it cannot be built: `insert` and `alter` fail instead, as the statement of an SQL
transaction does, while `delete` and `update` keep it by construction.

Each operation comes with its membership lemma (`mem_*`), and proofs about tables go through these
only. `insertAll` is a whole `INSERT` loop; `insertAll_eq_some_iff` says that it succeeds exactly when
the rows can be appended, which is what makes two loops over the same rows comparable.
-/

namespace MeowFrp.Lib

open List

universe u

/-- Delete the elements with `q` from a list, but not the first `n` with `p`. -/
def trimFirst {V : Type u} (q p : V → Bool) : Nat → List V → List V
  | _, [] => []
  | n, v :: vs =>
    if p v && 0 < n then v :: trimFirst q p (n - 1) vs
    else if q v then trimFirst q p n vs
    else v :: trimFirst q p n vs

section

variable {V : Type u} {q p : V → Bool} {n : Nat} {v : V} {vs : List V}

/-- Trimming keeps the order. -/
lemma trimFirst_sublist : (trimFirst q p n vs).Sublist vs := by
  induction vs generalizing n with
  | nil => exact .slnil
  | cons v _ ih =>
    unfold trimFirst
    split
    · exact ih.cons_cons v
    · split
      · exact ih.cons v
      · exact ih.cons_cons v

/-- Elements without `q` stay. -/
lemma mem_trimFirst_of_not (m : v ∈ vs) (stays : q v = false) : v ∈ trimFirst q p n vs := by
  induction vs generalizing n with
  | nil => cases m
  | cons _ _ ih =>
    unfold trimFirst
    rcases mem_cons.mp m with rfl | m
    · rw [stays]
      split
      · exact mem_cons_self
      · exact mem_cons_self
    · split
      · exact mem_cons_of_mem _ (ih m)
      · split
        · exact ih m
        · exact mem_cons_of_mem _ (ih m)

/-- The first elements with `p` stay. -/
lemma trimFirst_append {first : List V} (all : ∀ v ∈ first, p v = true) :
    trimFirst q p (first.length + n) (first ++ vs) = first ++ trimFirst q p n vs := by
  induction first with
  | nil => rw [length_nil, Nat.zero_add, nil_append, nil_append]
  | cons _ _ ih =>
    obtain ⟨now, later⟩ := forall_mem_cons.mp all
    rw [length_cons, cons_append, trimFirst, if_pos, cons_append, ← ih later]
    · congr 2
      omega
    · rw [now, Bool.true_and]
      exact decide_eq_true (by omega)

/-- An element is left out only after `n` elements with `p`. -/
lemma mem_trimFirst_or (implies : ∀ v, q v = true → p v = true) (m : v ∈ vs) :
    v ∈ trimFirst q p n vs ∨
      q v = true ∧ ∃ first rest, vs = first ++ v :: rest ∧ n ≤ first.countP p := by
  induction vs generalizing n with
  | nil => cases m
  | cons w vs ih =>
    unfold trimFirst
    rcases mem_cons.mp m with rfl | m
    · split
      · exact .inl mem_cons_self
      · rename_i full
        split
        · rename_i gone
          rw [implies v gone, Bool.true_and, decide_eq_true_iff] at full
          exact .inr ⟨gone, [], vs, rfl, Nat.le_of_not_lt full⟩
        · exact .inl mem_cons_self
    · have later : ∀ {k}, (p w = true ∧ n ≤ k + 1 ∨ n ≤ k) →
          v ∈ trimFirst q p k vs ∨
            q v = true ∧ ∃ first rest, w :: vs = first ++ v :: rest ∧ n ≤ first.countP p := by
        intro k enough
        refine (ih m).imp_right ?_
        rintro ⟨gone, first, rest, rfl, _⟩
        refine ⟨gone, w :: first, rest, rfl, ?_⟩
        rw [countP_cons]
        rcases enough with ⟨counted, _⟩ | _
        · rw [if_pos counted]
          omega
        · omega
      split
      · rename_i counts
        rw [Bool.and_eq_true] at counts
        exact (later (.inl ⟨counts.1, by omega⟩)).imp_left (mem_cons_of_mem _)
      · split
        · exact later (.inr (Nat.le_refl n))
        · exact (later (.inr (Nat.le_refl n))).imp_left (mem_cons_of_mem _)

/-- With nothing to keep, no element with `q` is left. -/
lemma not_mem_trimFirst_zero (gone : q v = true) : v ∉ trimFirst q p 0 vs := by
  induction vs with
  | nil => exact not_mem_nil
  | cons _ _ ih =>
    rw [trimFirst, if_neg (by simp)]
    split
    · exact ih
    · rename_i stays
      intro m
      rcases mem_cons.mp m with rfl | m
      · exact stays gone
      · exact ih m

end

/-- The uniqueness constraints: rows that clash cannot both be stored. -/
class Schema (V : Type u) where
  clash : V → V → Prop
  symm : ∀ {a b}, clash a b → clash b a
  dec : DecidableRel clash

instance {V : Type u} [Schema V] : DecidableRel (Schema.clash (V := V)) := Schema.dec

/-- A set of rows that meets the constraints of its schema. -/
structure Table (V : Type u) [Schema V] where
  rows : List V
  unique : rows.Pairwise fun a b => ¬ Schema.clash a b

namespace Table

variable {V : Type u} [Schema V] {t t' : Table V} {v w : V} {vs : List V}

instance : Membership V (Table V) := ⟨fun t v => v ∈ t.rows⟩

lemma mem_rows : v ∈ t.rows ↔ v ∈ t := Iff.rfl

instance [DecidableEq V] : Decidable (v ∈ t) := inferInstanceAs (Decidable (v ∈ t.rows))

/-- The empty table. -/
def empty : Table V := ⟨[], List.Pairwise.nil⟩

instance : EmptyCollection (Table V) := ⟨empty⟩

instance : Inhabited (Table V) := ⟨empty⟩

@[simp]
lemma rows_empty : (∅ : Table V).rows = [] := rfl

@[simp]
lemma not_mem_empty : v ∉ (∅ : Table V) := not_mem_nil

@[ext]
lemma ext_rows (e : t.rows = t'.rows) : t = t' := by
  cases t
  cases t'
  cases e
  rfl

/-- Two stored rows that clash are the same row. -/
lemma eq_of_clash (mv : v ∈ t) (mw : w ∈ t) (c : Schema.clash v w) : v = w := by
  by_contra ne
  have sym : Std.Symm fun a b : V => ¬ Schema.clash a b := ⟨fun _ _ h c => h (Schema.symm c)⟩
  exact t.unique.forall mv mw ne c

/-- `SELECT ... WHERE p`, the first row. -/
def find? (t : Table V) (p : V → Bool) : Option V := t.rows.find? p

/-- A row that is found is stored. -/
lemma mem_of_find? {p} (e : t.find? p = some v) : v ∈ t := mem_of_find?_eq_some e

/-- A row that is found has the property. -/
lemma find?_prop {p} (e : t.find? p = some v) : p v = true := List.find?_some e

lemma find?_none {p} : t.find? p = none ↔ ∀ w ∈ t, p w = false := by
  unfold find?
  rw [List.find?_eq_none]
  exact forall₂_congr fun w _ => by simp

variable {p q : V → Bool}

/-- The row with a property that only clashing rows share. -/
lemma find?_eq_some (key : ∀ a b, p a = true → p b = true → Schema.clash a b) :
    t.find? p = some v ↔ v ∈ t ∧ p v = true := by
  constructor
  · intro e
    exact ⟨mem_of_find? e, find?_prop e⟩
  · rintro ⟨m, pv⟩
    cases e : t.find? p with
    | none => exact absurd pv (by simp [find?_none.mp e v m])
    | some w =>
      have c := key w v (find?_prop e) pv
      rw [eq_of_clash (mem_of_find? e) m c]

/-- Some row satisfies `p` (`SELECT COUNT(*) > 0`, `EXISTS`). -/
def any (t : Table V) (p : V → Bool) : Bool := t.rows.any p

/-- Some row has the property. -/
lemma any_eq_true {p} : t.any p = true ↔ ∃ v ∈ t, p v = true := List.any_eq_true

lemma isSome_find? {p} : (t.find? p).isSome = t.any p := List.isSome_find?

/-- `DELETE ... WHERE p`. -/
def delete (t : Table V) (p : V → Bool) : Table V :=
  ⟨t.rows.filter fun v => !p v, t.unique.filter _⟩

/-- The rows that are not deleted. -/
@[simp]
lemma mem_delete {p} : v ∈ t.delete p ↔ v ∈ t ∧ p v = false := by
  change v ∈ t.rows.filter _ ↔ _
  rw [mem_filter]
  simp [mem_rows]

/-- `DELETE ... WHERE key = k`. -/
lemma mem_delete_key {K : Type*} [DecidableEq K] {key : V → K} {k : K} :
    v ∈ t.delete (fun v => key v = k) ↔ v ∈ t ∧ key v ≠ k := by
  rw [mem_delete, decide_eq_false_iff_not]

/-- A row that is deleted leaves room. -/
lemma length_delete_lt {p} (m : v ∈ t) (gone : p v = true) : (t.delete p).rows.length < t.rows.length := by
  refine length_filter_lt_length_iff_exists.mpr ⟨v, m, ?_⟩
  rw [gone]
  exact Bool.false_ne_true

/-- The assignment `f` of an update leaves the keys of a row alone. -/
abbrev KeepsKeys (f : V → V) : Prop := ∀ v w, Schema.clash (f v) w ↔ Schema.clash v w

/-- Rewrite the rows that satisfy `p`. -/
def rewrite (p : V → Bool) (f : V → V) (v : V) : V := if p v then f v else v

/-- A conditional assignment keeps the keys, too. -/
lemma KeepsKeys.rewrite {f : V → V} (keeps : KeepsKeys f) :
    KeepsKeys (rewrite p f) := by
  intro v w
  unfold Table.rewrite
  split
  · exact keeps v w
  · exact Iff.rfl

/-- `UPDATE ... SET f WHERE p` for an assignment that leaves the keys alone. -/
def update (t : Table V) (p : V → Bool) (f : V → V)
    (keeps : KeepsKeys f := by exact fun _ _ => Iff.rfl) : Table V :=
  ⟨t.rows.map (rewrite p f), by
    rw [pairwise_map]
    refine t.unique.imp fun {a b} no c => no ?_
    have c' := Schema.symm ((keeps.rewrite _ _).mp c)
    exact Schema.symm ((keeps.rewrite _ _).mp c')⟩

/-- The rows after an `UPDATE`. -/
lemma mem_update {p f} {keeps : KeepsKeys f} :
    v ∈ t.update p f keeps ↔ ∃ w ∈ t, rewrite p f w = v := by
  change v ∈ t.rows.map _ ↔ _
  rw [mem_map]
  rfl

/-- An `UPDATE` that brings no row into a count does not raise it. -/
lemma countP_update_le {p q f} (keeps : KeepsKeys f) (into : ∀ v ∈ t, q (rewrite p f v) → q v) :
    (t.update p f keeps).rows.countP q ≤ t.rows.countP q := by
  change (t.rows.map (rewrite p f)).countP q ≤ _
  rw [countP_map]
  exact countP_mono_left into

/-- An `UPDATE` that matches no row changes nothing. -/
lemma update_eq_self {p f} {keeps : KeepsKeys f} (no : ∀ v ∈ t, p v = false) :
    t.update p f keeps = t := by
  apply ext_rows
  change t.rows.map (rewrite p f) = t.rows
  rw [map_congr_left (g := id), map_id]
  intro v m
  rw [rewrite, no v m]
  rfl

/-- `UPDATE` of columns that fails when a constraint would be violated. -/
def alter (t : Table V) (p : V → Bool) (f : V → V) : Option (Table V) :=
  if h : (t.rows.map (rewrite p f)).Pairwise fun a b => ¬ Schema.clash a b then
    some ⟨t.rows.map (rewrite p f), h⟩
  else none

/-- The rows after an `UPDATE` that succeeds. -/
lemma mem_alter {p f} (e : t.alter p f = some t') : v ∈ t' ↔ ∃ w ∈ t, rewrite p f w = v := by
  unfold alter at e
  split at e
  · cases e
    change v ∈ t.rows.map _ ↔ _
    rw [mem_map]
    rfl
  · cases e

/-- `INSERT`: fails when the new row clashes with a stored one. -/
def insert (t : Table V) (v : V) : Option (Table V) :=
  if h : ∀ w ∈ t.rows, ¬ Schema.clash w v then
    some ⟨t.rows ++ [v], by
      rw [pairwise_append]
      refine ⟨t.unique, pairwise_singleton _ _, ?_⟩
      intro a ma b mb
      cases mem_singleton.mp mb
      exact h a ma⟩
  else none

/-- A new row comes last. -/
lemma insert_eq_some_iff : t.insert v = some t' ↔ t'.rows = t.rows ++ [v] := by
  unfold insert
  split
  case isTrue h =>
    constructor
    · intro e
      cases e
      rfl
    · intro e
      exact congrArg some (ext_rows e.symm)
  case isFalse h =>
    refine ⟨nofun, fun e => ?_⟩
    have u := t'.unique
    rw [e, pairwise_append] at u
    exact absurd (fun w m => u.2.2 w m v (mem_singleton_self v)) h

/-- The rows after an `INSERT`. -/
lemma mem_insert (e : t.insert v = some t') : w ∈ t' ↔ w ∈ t ∨ w = v := by
  rw [← mem_rows, insert_eq_some_iff.mp e, mem_append, mem_singleton, mem_rows]

/-- An `INSERT` succeeds when the new row clashes with no stored one. -/
lemma insert_of_fresh (fresh : ∀ w ∈ t, ¬ Schema.clash w v) : ∃ t', t.insert v = some t' :=
  ⟨_, dif_pos fresh⟩

/-- An inserted row clashes with no earlier one. -/
lemma fresh_of_insert (e : t.insert v = some t') (m : w ∈ t) : ¬ Schema.clash w v := by
  have u := t'.unique
  rw [insert_eq_some_iff.mp e, pairwise_append] at u
  exact u.2.2 w m v (mem_singleton_self v)

/-- A loop of `INSERT`s in one transaction. -/
def insertAll (t : Table V) (vs : List V) : Option (Table V) := vs.foldlM Table.insert t

/-- The loop succeeds exactly when the rows can be appended. -/
lemma insertAll_eq_some_iff : t.insertAll vs = some t' ↔ t'.rows = t.rows ++ vs := by
  induction vs generalizing t with
  | nil =>
    rw [append_nil]
    exact ⟨fun e => by cases e; rfl, fun e => congrArg some (ext_rows e.symm)⟩
  | cons v vs ih =>
    change (t.insert v).bind (fun s => s.insertAll vs) = some t' ↔ _
    rw [Option.bind_eq_some_iff]
    constructor
    · rintro ⟨_, e, e'⟩
      rw [ih.mp e', insert_eq_some_iff.mp e, append_assoc, singleton_append]
    · intro e
      have u : (t.rows ++ [v]).Pairwise fun a b => ¬ Schema.clash a b := by
        have u' := t'.unique
        rw [e, ← singleton_append, ← append_assoc] at u'
        exact (pairwise_append.mp u').1
      refine ⟨⟨t.rows ++ [v], u⟩, insert_eq_some_iff.mpr rfl, ih.mpr ?_⟩
      rw [e, append_assoc, singleton_append]

/-- The rows after several inserts. -/
lemma mem_insertAll (e : t.insertAll vs = some t') : w ∈ t' ↔ w ∈ t ∨ w ∈ vs := by
  rw [← mem_rows, insertAll_eq_some_iff.mp e, mem_append, mem_rows]

/-- Overwriting upsert: the stored rows that clash with `v` are replaced by it. -/
def put (t : Table V) (v : V) : Table V :=
  ⟨t.rows.filter (fun w => !decide (Schema.clash w v)) ++ [v], by
    rw [pairwise_append]
    refine ⟨t.unique.filter _, pairwise_singleton _ _, ?_⟩
    intro a ma b mb
    cases mem_singleton.mp mb
    simpa using (mem_filter.mp ma).2⟩

/-- The rows after an overwriting upsert. -/
@[simp]
lemma mem_put : w ∈ t.put v ↔ (w ∈ t ∧ ¬ Schema.clash w v) ∨ w = v := by
  change w ∈ t.rows.filter _ ++ [v] ↔ _
  rw [mem_append, mem_filter, mem_singleton]
  simp [mem_rows]

/-- A row after overwriting upserts was stored before or is new. -/
lemma mem_foldl_put (m : w ∈ vs.foldl put t) : w ∈ t ∨ w ∈ vs := by
  induction vs generalizing t with
  | nil => exact .inl m
  | cons _ _ ih =>
    rcases ih m with put | new
    · rcases mem_put.mp put with ⟨old, _⟩ | rfl
      · exact .inl old
      · exact .inr mem_cons_self
    · exact .inr (mem_cons_of_mem _ new)

/-- After overwriting upserts of rows that do not clash: the new rows, and the old ones that clash with
none. -/
lemma mem_foldl_put_iff (apart : vs.Pairwise fun a b => ¬ Schema.clash a b) :
    w ∈ vs.foldl put t ↔ w ∈ vs ∨ w ∈ t ∧ ∀ v ∈ vs, ¬ Schema.clash w v := by
  induction vs generalizing t with
  | nil => simp
  | cons _ _ ih =>
    obtain ⟨first, rest⟩ := pairwise_cons.mp apart
    rw [foldl_cons, ih rest, mem_put, mem_cons, forall_mem_cons]
    constructor
    · rintro (new | ⟨⟨old, no⟩ | rfl, none⟩)
      · exact .inl (.inr new)
      · exact .inr ⟨old, no, none⟩
      · exact .inl (.inl rfl)
    · rintro ((rfl | new) | ⟨old, no, none⟩)
      · exact .inr ⟨.inr rfl, first⟩
      · exact .inl new
      · exact .inr ⟨.inl ⟨old, no⟩, none⟩

/-- An overwriting upsert adds at most its row to a count. -/
lemma countP_put_le :
    (t.put v).rows.countP p ≤ t.rows.countP p + if p v then 1 else 0 := by
  change (t.rows.filter _ ++ [v]).countP p ≤ _
  rw [countP_append, countP_singleton]
  exact Nat.add_le_add_right (filter_sublist.countP_le) _

/-- An upsert adds at most one row. -/
lemma length_put_le : (t.put v).rows.length ≤ t.rows.length + 1 := by
  change (t.rows.filter _ ++ [v]).length ≤ _
  rw [length_append]
  exact Nat.add_le_add_right (length_filter_le _ _) _

/-- An upsert that overwrites a row needs no room. -/
lemma length_put_of_clash (m : w ∈ t) (c : Schema.clash w v) : (t.put v).rows.length ≤ t.rows.length := by
  change (t.rows.filter _ ++ [v]).length ≤ _
  rw [length_append]
  refine length_filter_lt_length_iff_exists.mpr ⟨w, m, ?_⟩
  rw [decide_eq_true c]
  exact Bool.false_ne_true

/-- A table with some of the rows of another counts no more. -/
lemma countP_le_of_subset (self : ∀ v : V, Schema.clash v v) (sub : ∀ v ∈ t, v ∈ t') :
    t.rows.countP p ≤ t'.rows.countP p := by
  have nodup : t.rows.Nodup := by
    refine t.unique.imp fun {a b} no same => no ?_
    rw [same]
    exact self b
  exact (subperm_of_subset nodup sub).countP_le p

/-- `INSERT ... ON DUPLICATE KEY UPDATE`: a stored row that clashes with `v` becomes `f` of it. -/
def merge (t : Table V) (v : V) (f : V → V) : Table V :=
  t.put (((t.find? fun w => decide (Schema.clash w v)).map f).getD v)

/-- The row under the key of `v` is `f` of the stored one, or `v` if there is none; the other rows stay. -/
lemma mem_merge {f : V → V} (keeps : KeepsKeys f)
    (trans : ∀ a b c : V, Schema.clash a b → Schema.clash b c → Schema.clash a c) :
    w ∈ t.merge v f ↔ (w ∈ t ∧ ¬ Schema.clash w v) ∨
      (∃ old ∈ t, Schema.clash old v ∧ w = f old) ∨
      ((∀ old ∈ t, ¬ Schema.clash old v) ∧ w = v) := by
  unfold merge
  rw [mem_put]
  cases e : t.find? fun w => decide (Schema.clash w v) with
  | none =>
    have new : ∀ old ∈ t, ¬ Schema.clash old v := fun old m =>
      of_decide_eq_false (find?_none.mp e old m)
    constructor
    · exact Or.imp_right fun is => .inr ⟨new, is⟩
    · rintro (stay | ⟨old, m, c, _⟩ | ⟨_, is⟩)
      · exact .inl stay
      · exact absurd c (new old m)
      · exact .inr is
  | some old =>
    have stored : old ∈ t := mem_of_find? e
    have same : Schema.clash old v := by simpa using find?_prop e
    have iff : Schema.clash w (f old) ↔ Schema.clash w v := by
      constructor
      · intro c
        exact trans _ _ _ (Schema.symm ((keeps old w).mp (Schema.symm c))) same
      · intro c
        exact Schema.symm ((keeps old w).mpr (trans _ _ _ same (Schema.symm c)))
    change (w ∈ t ∧ ¬ Schema.clash w (f old)) ∨ w = f old ↔ _
    rw [iff]
    constructor
    · exact Or.imp_right fun is => .inl ⟨old, stored, same, is⟩
    · rintro (stay | ⟨_, m, c, is⟩ | ⟨new, _⟩)
      · exact .inl stay
      · rw [eq_of_clash m stored (trans _ _ _ c (Schema.symm same))] at is
        exact .inr is
      · exact absurd same (new old stored)

/-- `DELETE ... WHERE q AND id NOT IN (SELECT id ... WHERE p ORDER BY id DESC LIMIT n)`, where the ids
ascend in the order of the rows. -/
def trim (t : Table V) (q p : V → Bool) (n : Nat) : Table V :=
  ⟨(trimFirst q p n t.rows.reverse).reverse, by
    refine t.unique.sublist (reverse_sublist.mp ?_)
    rw [reverse_reverse]
    exact trimFirst_sublist⟩

/-- Trimming keeps the order of the rows. -/
lemma trim_sublist {n} : (t.trim q p n).rows.Sublist t.rows := by
  refine reverse_sublist.mp ?_
  unfold trim
  rw [reverse_reverse]
  exact trimFirst_sublist

/-- Trimming adds no row. -/
lemma mem_of_mem_trim {n} (m : v ∈ t.trim q p n) : v ∈ t := trim_sublist.subset m

/-- A row is deleted only before `n` rows with `p`. -/
lemma mem_trim_or {n} (implies : ∀ v, q v = true → p v = true) (m : v ∈ t) :
    v ∈ t.trim q p n ∨
      q v = true ∧ ∃ older newer, t.rows = older ++ v :: newer ∧ n ≤ newer.countP p := by
  refine (mem_trimFirst_or implies (mem_reverse.mpr m)).imp mem_reverse.mpr ?_
  rintro ⟨gone, first, rest, rows, many⟩
  refine ⟨gone, rest.reverse, first.reverse, ?_, ?_⟩
  · rw [← reverse_reverse t.rows, rows, reverse_append, reverse_cons, append_assoc,
      singleton_append]
  · rw [countP_reverse]
    exact many

/-- Rows without `q` stay. -/
lemma mem_trim_of_not {n} (m : v ∈ t) (stays : q v = false) : v ∈ t.trim q p n :=
  mem_reverse.mpr (mem_trimFirst_of_not (mem_reverse.mpr m) stays)

/-- The tables have the same rows, in whatever order. -/
def Same (t t' : Table V) : Prop := ∀ v, v ∈ t ↔ v ∈ t'

lemma Same.refl : t.Same t := fun _ => Iff.rfl

lemma Same.symm (same : t.Same t') : t'.Same t := fun v => (same v).symm

lemma Same.trans {t'' : Table V} (same : t.Same t') (same' : t'.Same t'') : t.Same t'' :=
  fun v => (same v).trans (same' v)

/-- Deletions do not depend on the order. -/
lemma Same.delete (same : t.Same t') : (t.delete p).Same (t'.delete p) := by
  intro v
  rw [mem_delete, mem_delete, same v]

/-- Upserts do not depend on the order. -/
lemma Same.foldl_put (same : t.Same t') : (vs.foldl put t).Same (vs.foldl put t') := by
  induction vs generalizing t t' with
  | nil => exact same
  | cons _ _ ih =>
    refine ih fun w => ?_
    rw [mem_put, mem_put, same w]

end Table

end MeowFrp.Lib
