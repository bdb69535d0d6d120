import MeowFrp.Lib.Machine

/-!
# The catalog of the edge nodes

The controller keeps the registered nodes in memory (Go `nodeCatalog`), so that it can authorise streams
while the database is away, and the deleted ones as tombstones (Go `forgottenNodes`). The functions of
`cluster/fault.go` hold the mutex for sections of their bodies only; each section and each database query
is a step here, and the calls of all kinds interleave. A call that has read something keeps it in its
slot.

`log` is a history variable, the latest event first. A deletion request has the number of its slot.
-/

namespace MeowFrp.Cluster

open Lib List Function

/-- Go `db.EdgeNode`, as far as authorisation reads it. -/
structure NodeRow where
  nodeId : String
  certificateSerial : String
  /-- the status is `active` -/
  active : Bool
  deriving DecidableEq, Repr

/-- The table `edge_nodes` and what the control server keeps of it. -/
structure Directory where
  rows : String → Option NodeRow := fun _ => none
  nodeCatalog : String → Option NodeRow := fun _ => none
  forgottenNodes : String → Bool := fun _ => false
  databaseSuspect : Bool := false

/-- A call of Go `authorizedNode` between two of its sections. -/
inductive NodeLookup where
  /-- before the query -/
  | reading (id : String)
  /-- the query returned a row -/
  | read (id : String) (row : NodeRow)
  /-- the query failed, with `ErrNotFound` or otherwise -/
  | failed (id : String) (notFound : Bool)
  /-- before the return -/
  | decided (id : String) (result : Option NodeRow)
  deriving DecidableEq, Repr

namespace Directory

/-- The first section of Go `authorizedNode`. -/
def authorizedNode (d : Directory) (id : String) : NodeLookup :=
  if d.forgottenNodes id then .decided id none
  else if d.databaseSuspect then .decided id (d.nodeCatalog id)
  else .reading id

/-- What Go `authorizedNode` does next; `fault` makes its query fail. -/
def advance (d : Directory) (fault : Bool) : NodeLookup → Directory × NodeLookup
  | .reading id =>
    if fault then (d, .failed id false)
    else
      match d.rows id with
      | some row => (d, .read id row)
      | none => (d, .failed id true)
  | .read id row =>
    if d.forgottenNodes id then (d, .decided id none)
    else ({ d with nodeCatalog := update d.nodeCatalog id (some row) }, .decided id (some row))
  | .failed id notFound =>
    -- the tombstone is not looked at again
    (d, .decided id (if d.databaseSuspect && !notFound then d.nodeCatalog id else none))
  | .decided id result => (d, .decided id result)

/-- Go `ReplaceNodeCatalog` with a list read before. -/
def replaceNodeCatalog (d : Directory) (nodes : String → Option NodeRow) : Directory :=
  { d with nodeCatalog := fun id => if d.forgottenNodes id then none else nodes id }

/-- The section of Go `RememberEnrolledNode`. -/
def rememberEnrolledNode (d : Directory) (id : String) (row : NodeRow) : Directory :=
  { d with
    forgottenNodes := update d.forgottenNodes id false
    nodeCatalog := update d.nodeCatalog id (some row) }

/-- The first section of Go `ForgetNode`. -/
def forgetNode (d : Directory) (id : String) : Directory :=
  { d with
    forgottenNodes := update d.forgottenNodes id true
    nodeCatalog := update d.nodeCatalog id none }

/-- Write a row (Go `UpsertEdgeNode`, or an update of the other columns). -/
def writeRow (d : Directory) (row : NodeRow) : Directory :=
  { d with rows := update d.rows row.nodeId (some row) }

/-- Go `DeleteEdgeNode`. -/
def deleteEdgeNode (d : Directory) (id : String) : Directory :=
  { d with rows := update d.rows id none }

variable {d d' : Directory} {id id' : String} {row : NodeRow} {l l' : NodeLookup} {fault : Bool}

/-- A forgotten node is not in the catalog. -/
def Buried (d : Directory) : Prop := ∀ id, d.forgottenNodes id = true → d.nodeCatalog id = none

/-- A new catalog leaves forgotten nodes out. -/
lemma Buried.replace {nodes : String → Option NodeRow} : (d.replaceNodeCatalog nodes).Buried :=
  fun _ forgotten => if_pos forgotten

/-- A node that is enrolled has no tombstone. -/
lemma Buried.remember (buried : d.Buried) : (d.rememberEnrolledNode id row).Buried := by
  intro i forgotten
  unfold rememberEnrolledNode at forgotten ⊢
  dsimp only at forgotten ⊢
  by_cases this : i = id
  · rw [this, update_self] at forgotten
    cases forgotten
  · rw [update_of_ne this] at forgotten ⊢
    exact buried i forgotten

/-- A forgotten node is not in the catalog. -/
lemma Buried.forget (buried : d.Buried) : (d.forgetNode id).Buried := by
  intro i forgotten
  unfold forgetNode at forgotten ⊢
  dsimp only at forgotten ⊢
  by_cases this : i = id
  · rw [this, update_self]
  · rw [update_of_ne this] at forgotten ⊢
    exact buried i forgotten

/-- A section of a lookup may store a node that is not forgotten. -/
lemma advance_dir (e : d.advance fault l = (d', l')) :
    d' = d ∨ ∃ id row, d.forgottenNodes id = false ∧
      d' = { d with nodeCatalog := update d.nodeCatalog id (some row) } := by
  cases l with
  | reading =>
    simp only [advance] at e
    split at e
    · cases e
      exact .inl rfl
    · split at e <;> cases e <;> exact .inl rfl
  | read id row =>
    simp only [advance] at e
    split at e
    · cases e
      exact .inl rfl
    · rename_i present
      cases e
      exact .inr ⟨id, row, Bool.not_eq_true _ ▸ present, rfl⟩
  | failed | decided =>
    cases e
    exact .inl rfl

/-- A lookup keeps forgotten nodes out. -/
lemma Buried.advance (buried : d.Buried) (e : d.advance fault l = (d', l')) : d'.Buried := by
  rcases advance_dir e with rfl | ⟨id, _, present, rfl⟩
  · exact buried
  · intro i forgotten
    have other : i ≠ id := by
      rintro rfl
      rw [present] at forgotten
      cases forgotten
    dsimp only
    rw [update_of_ne other]
    exact buried i forgotten

/-- A node that is found at once is not forgotten. -/
lemma authorizedNode_found (e : d.authorizedNode id = .decided id' (some row)) :
    id' = id ∧ d.forgottenNodes id = false := by
  unfold authorizedNode at e
  split at e
  · cases e
  · rename_i present
    split at e
    · obtain ⟨rfl, _⟩ := NodeLookup.decided.inj e
      exact ⟨rfl, Bool.not_eq_true _ ▸ present⟩
    · cases e

/-- A section finds no forgotten node, though it does not check the tombstone. -/
lemma advance_found (buried : d.Buried) (undecided : ∀ id result, l ≠ .decided id result)
    (e : d.advance fault l = (d', .decided id (some row))) : d.forgottenNodes id = false := by
  cases l with
  | reading =>
    simp only [Directory.advance] at e
    split at e
    · cases e
    · split at e <;> cases e
  | read =>
    simp only [Directory.advance] at e
    split at e
    · cases e
    · rename_i present
      cases e
      exact Bool.not_eq_true _ ▸ present
  | failed =>
    simp only [Directory.advance] at e
    obtain ⟨_, decided⟩ := Prod.mk.inj e
    obtain ⟨rfl, found⟩ := NodeLookup.decided.inj decided
    split at found
    · by_contra forgotten
      rw [buried _ (Bool.not_eq_false _ ▸ forgotten)] at found
      cases found
    · cases found
  | decided id result => exact absurd rfl (undecided id result)

end Directory

/-! ## The calls -/

/-- A deletion request: Go `deleteEdgeNode`. -/
inductive Deletion where
  | none
  /-- the row is deleted -/
  | deleted (id : String)
  /-- Go `ForgetNode` has set the tombstone -/
  | buried (id : String)
  /-- Go `ForgetNode` has returned -/
  | forgotten (id : String)
  deriving DecidableEq, Repr

inductive CatalogEvent where
  /-- an enrollment wrote the row -/
  | enrolled (id : String)
  | deleted (id : String) (request : Nat)
  /-- `ForgetNode` returned -/
  | forgot (id : String) (request : Nat)
  /-- `authorizedNode` returned the node -/
  | returned (id : String)
  deriving DecidableEq, Repr

/-- The calls in progress; those of a kind by their slots. -/
structure Catalog where
  dir : Directory := {}
  lookups : Nat → Option NodeLookup := fun _ => none
  /-- lists read for `ReplaceNodeCatalog` -/
  refreshes : Nat → Option (String → Option NodeRow) := fun _ => none
  /-- rows read by `RememberEnrolledNode`; was the node deleted since? -/
  remembers : Nat → Option (String × NodeRow × Bool) := fun _ => none
  deletions : Nat → Deletion := fun _ => .none
  log : List CatalogEvent := []

inductive CatalogAction where
  | look (slot : Nat) (id : String)
  | advance (slot : Nat) (fault : Bool)
  | answer (slot : Nat)
  /-- Go `ListEdgeNodes` -/
  | list (slot : Nat)
  | replace (slot : Nat)
  /-- the query of `RememberEnrolledNode` -/
  | readEnrolled (slot : Nat) (id : String)
  | remember (slot : Nat)
  | setDatabaseSuspect (suspect : Bool)
  | enroll (row : NodeRow)
  /-- another column of a row changes, or its status -/
  | update (row : NodeRow)
  | delete (slot : Nat) (id : String)
  | bury (slot : Nat)
  | forget (slot : Nat)

namespace Catalog

/-- The pending rows of `RememberEnrolledNode` after a deletion. -/
def outdate (id : String) : Option (String × NodeRow × Bool) → Option (String × NodeRow × Bool)
  | some (i, row, stale) => some (i, row, stale || i = id)
  | none => none

/-- One step. -/
def step (s : Catalog) : CatalogAction → Option Catalog
  | .look slot id =>
    match s.lookups slot with
    | none => some { s with lookups := update s.lookups slot (some (s.dir.authorizedNode id)) }
    | some _ => none
  | .advance slot fault =>
    match s.lookups slot with
    | some l =>
      some { s with
        dir := (s.dir.advance fault l).1
        lookups := update s.lookups slot (some (s.dir.advance fault l).2) }
    | none => none
  | .answer slot =>
    match s.lookups slot with
    | some (.decided id result) =>
      some { s with
        lookups := update s.lookups slot none
        log := if result.isSome then .returned id :: s.log else s.log }
    | _ => none
  | .list slot => some { s with refreshes := update s.refreshes slot (some s.dir.rows) }
  | .replace slot =>
    match s.refreshes slot with
    | some nodes =>
      some { s with
        dir := s.dir.replaceNodeCatalog nodes, refreshes := update s.refreshes slot none }
    | none => none
  | .readEnrolled slot id =>
    match s.dir.rows id with
    | some row => some { s with remembers := update s.remembers slot (some (id, row, false)) }
    | none => none
  | .remember slot =>
    match s.remembers slot with
    | some (id, row, _) =>
      some { s with
        dir := s.dir.rememberEnrolledNode id row, remembers := update s.remembers slot none }
    | none => none
  | .setDatabaseSuspect suspect => some { s with dir := { s.dir with databaseSuspect := suspect } }
  | .enroll row => some { s with dir := s.dir.writeRow row, log := .enrolled row.nodeId :: s.log }
  | .update row => if (s.dir.rows row.nodeId).isSome then some { s with dir := s.dir.writeRow row } else none
  | .delete slot id =>
    if s.deletions slot = .none && (s.dir.rows id).isSome then
      some { s with
        dir := s.dir.deleteEdgeNode id
        remembers := fun i => outdate id (s.remembers i)
        deletions := update s.deletions slot (.deleted id)
        log := .deleted id slot :: s.log }
    else none
  | .bury slot =>
    match s.deletions slot with
    | .deleted id =>
      some { s with
        dir := s.dir.forgetNode id, deletions := update s.deletions slot (.buried id) }
    | _ => none
  | .forget slot =>
    match s.deletions slot with
    | .buried id =>
      some { s with
        deletions := update s.deletions slot (.forgotten id), log := .forgot id slot :: s.log }
    | _ => none

/-- The machine, from any table with a catalog of its rows. -/
def machine : Machine Catalog CatalogAction where
  Init s := s.dir.forgottenNodes = (fun _ => false) ∧ s.lookups = (fun _ => none) ∧
    s.refreshes = (fun _ => none) ∧ s.remembers = (fun _ => none) ∧ s.deletions = (fun _ => .none) ∧
    s.log = []
  step := step

/-- The row was written again after the deletion. -/
def EnrolledAfter (id : String) (request : Nat) (log : List CatalogEvent) : Prop :=
  ∃ later earlier, log = later ++ .deleted id request :: earlier ∧ .enrolled id ∈ later

/-- Before the step: a row that `RememberEnrolledNode` stores was read after every deletion of the node, and
no call that has found the node has yet to return when `ForgetNode` sets the tombstone. -/
def Orderly (s : Catalog) : CatalogAction → Prop
  | .remember slot => ∀ id row stale, s.remembers slot = some (id, row, stale) → stale = false
  | .bury slot => ∀ id i row, s.deletions slot = .deleted id → s.lookups i ≠ some (.decided id (some row))
  | _ => True

variable {s s' : Catalog} {id : String} {request : Nat} {log : List CatalogEvent}

/-! ## The log -/

variable {e : CatalogEvent} {slot : Nat} {row : NodeRow}

/-- An enrollment stays in the log. -/
lemma EnrolledAfter.cons (ok : EnrolledAfter id request log) :
    EnrolledAfter id request (e :: log) := by
  obtain ⟨later, earlier, rfl, enrolled⟩ := ok
  exact ⟨e :: later, earlier, rfl, mem_cons_of_mem _ enrolled⟩

/-- A new enrollment comes after what was deleted. -/
lemma EnrolledAfter.enrolled (deleted : .deleted id request ∈ log) :
    EnrolledAfter id request (.enrolled id :: log) := by
  obtain ⟨later, earlier, rfl⟩ := append_of_mem deleted
  exact ⟨.enrolled id :: later, earlier, rfl, mem_cons_self⟩

/-- A node that `authorizedNode` returned was enrolled after each finished deletion. -/
def Final (log : List CatalogEvent) : Prop :=
  ∀ later id earlier, log = later ++ .returned id :: earlier →
    ∀ request, .forgot id request ∈ earlier → EnrolledAfter id request earlier

/-- An answer needs an enrollment, other events do not. -/
lemma Final.cons (old : Final log)
    (now : ∀ id, e = .returned id → ∀ request, .forgot id request ∈ log → EnrolledAfter id request log) :
    Final (e :: log) := by
  intro later id earlier split request forgot
  cases later with
  | nil =>
    obtain ⟨rfl, rfl⟩ := List.cons.inj split
    exact now id rfl request forgot
  | cons _ later => exact old later id earlier (List.cons.inj split).2 request forgot

/-! ## The invariant -/

/-- The tombstone of the deletion has been set. -/
def Tombed (s : Catalog) (request : Nat) (id : String) : Prop :=
  s.deletions request = .buried id ∨ s.deletions request = .forgotten id

/-- Where a node is present (its row, a row read for an enrollment, a missing tombstone, an answer), it was
enrolled again. -/
structure Justified (s : Catalog) : Prop where
  buried : s.dir.Buried
  logged : ∀ request id, s.deletions request = .deleted id ∨ s.Tombed request id →
    .deleted id request ∈ s.log
  forgot : ∀ request id, .forgot id request ∈ s.log → s.deletions request = .forgotten id
  rows : ∀ id row, s.dir.rows id = some row → ∀ request, .deleted id request ∈ s.log →
    EnrolledAfter id request s.log
  remembers : ∀ slot id row, s.remembers slot = some (id, row, false) →
    ∀ request, .deleted id request ∈ s.log → EnrolledAfter id request s.log
  present : ∀ id, s.dir.forgottenNodes id = false → ∀ request, s.Tombed request id →
    EnrolledAfter id request s.log
  decided : ∀ slot id row, s.lookups slot = some (.decided id (some row)) →
    ∀ request, s.Tombed request id → EnrolledAfter id request s.log
  final : Final s.log

/-- A step that logs nothing and keeps the table and the deletions. -/
lemma Justified.dir {dir : Directory} {lookups} (old : Justified s) (buried : dir.Buried)
    (rows : dir.rows = s.dir.rows)
    (present : ∀ id, dir.forgottenNodes id = false → s.dir.forgottenNodes id = false)
    (decided : ∀ slot id row, lookups slot = some (.decided id (some row)) →
      ∀ request, s.Tombed request id → EnrolledAfter id request s.log) :
    Justified { s with dir, lookups } where
  buried := buried
  logged := old.logged
  forgot := old.forgot
  rows := fun id row e => old.rows id row (rows ▸ e)
  remembers := old.remembers
  present := fun id e => old.present id (present id e)
  decided := decided
  final := old.final

/-- A lookup moves on, to an answer only if the node is not forgotten. -/
lemma Justified.update_lookup {l : Option NodeLookup} (old : Justified s)
    (found : ∀ id row, l = some (.decided id (some row)) → ∀ request, s.Tombed request id →
      EnrolledAfter id request s.log) :
    ∀ i id row, update s.lookups slot l i = some (.decided id (some row)) →
      ∀ request, s.Tombed request id → EnrolledAfter id request s.log :=
  (Function.forall_update_iff s.lookups fun _ l => ∀ id row, l = some (.decided id (some row)) →
    ∀ request, s.Tombed request id → EnrolledAfter id request s.log).mpr
      ⟨found, fun i _ => old.decided i⟩

/-- A call of `RememberEnrolledNode` moves on. -/
lemma Justified.update_remember {r : Option (String × NodeRow × Bool)} (old : Justified s)
    (read : ∀ id row, r = some (id, row, false) → ∀ request, .deleted id request ∈ s.log →
      EnrolledAfter id request s.log) :
    ∀ i id row, update s.remembers slot r i = some (id, row, false) →
      ∀ request, .deleted id request ∈ s.log → EnrolledAfter id request s.log :=
  (Function.forall_update_iff s.remembers fun _ r => ∀ id row, r = some (id, row, false) →
    ∀ request, .deleted id request ∈ s.log → EnrolledAfter id request s.log).mpr
      ⟨read, fun i _ => old.remembers i⟩

/-- A section of a lookup runs. -/
lemma Justified.advance {fault : Bool} {l l' : NodeLookup} {dir : Directory} (old : Justified s)
    (at_ : s.lookups slot = some l) (e : s.dir.advance fault l = (dir, l')) :
    Justified { s with dir, lookups := update s.lookups slot (some l') } := by
  obtain ⟨rows, forgotten⟩ : dir.rows = s.dir.rows ∧ dir.forgottenNodes = s.dir.forgottenNodes := by
    rcases Directory.advance_dir e with rfl | ⟨id, row, _, rfl⟩
    · exact ⟨rfl, rfl⟩
    · exact ⟨rfl, rfl⟩
  refine old.dir (old.buried.advance e) rows (fun id e => forgotten ▸ e) (old.update_lookup ?_)
  rintro id row ⟨⟩
  by_cases before : ∃ id result, l = .decided id result
  · -- the answer was there before
    obtain ⟨_, result, rfl⟩ := before
    cases e
    exact old.decided slot id row at_
  · exact old.present id (Directory.advance_found old.buried (fun id result e => before ⟨id, result, e⟩) e)

/-- No event but the end of a `ForgetNode` needs a justification. -/
lemma Justified.note (old : Justified s) (notForgot : ∀ id request, e ≠ .forgot id request)
    (notDeleted : ∀ id request, e ≠ .deleted id request)
    (now : ∀ id, e = .returned id → ∀ request, .forgot id request ∈ s.log →
      EnrolledAfter id request s.log) : Justified { s with log := e :: s.log } where
  buried := old.buried
  logged := fun request id d => mem_cons_of_mem _ (old.logged request id d)
  forgot := fun request id m =>
    old.forgot request id ((mem_cons.mp m).resolve_left (notForgot id request).symm)
  rows := fun id row r request m =>
    (old.rows id row r request ((mem_cons.mp m).resolve_left (notDeleted id request).symm)).cons
  remembers := fun slot id row r request m =>
    (old.remembers slot id row r request ((mem_cons.mp m).resolve_left (notDeleted id request).symm)).cons
  present := fun id p request t => (old.present id p request t).cons
  decided := fun slot id row l request t => (old.decided slot id row l request t).cons
  final := old.final.cons now

/-- A lookup returns. -/
lemma Justified.answer {result : Option NodeRow} (old : Justified s)
    (at_ : s.lookups slot = some (.decided id result)) :
    Justified { s with
      lookups := update s.lookups slot none
      log := if result.isSome then .returned id :: s.log else s.log } := by
  have quiet : Justified { s with lookups := update s.lookups slot none } :=
    old.dir old.buried rfl (fun _ e => e) (old.update_lookup nofun)
  cases result with
  | none => exact quiet
  | some row =>
    refine quiet.note nofun nofun ?_
    rintro _ ⟨⟩ request forgot
    exact old.decided slot id row at_ request (.inr (old.forgot request id forgot))

/-- A current row is stored. -/
lemma Justified.remember (old : Justified s)
    (at_ : s.remembers slot = some (id, row, false)) :
    Justified { s with
      dir := s.dir.rememberEnrolledNode id row, remembers := update s.remembers slot none } := by
  refine { old with buried := old.buried.remember, remembers := ?_, present := ?_ }
  · refine old.update_remember fun _ _ e => ?_
    cases e
  · intro id' present request tombed
    by_cases this : id' = id
    · subst this
      exact old.remembers slot id' row at_ request (old.logged request id' (.inr tombed))
    · refine old.present id' ?_ request tombed
      rw [← present]
      exact (update_of_ne this ..).symm

/-- A node is enrolled. -/
lemma Justified.enroll (old : Justified s) :
    Justified { s with dir := s.dir.writeRow row, log := .enrolled row.nodeId :: s.log } := by
  have logged : Justified { s with log := .enrolled row.nodeId :: s.log } := old.note nofun nofun nofun
  refine { logged with rows := ?_ }
  intro id row' present request deleted
  have before := (mem_cons.mp deleted).resolve_left nofun
  by_cases this : id = row.nodeId
  · subst this
    exact .enrolled before
  · refine (old.rows id row' ?_ request before).cons
    rw [← present]
    exact (update_of_ne this ..).symm

/-- The row of a node is updated. -/
lemma Justified.update (old : Justified s) (present : (s.dir.rows row.nodeId).isSome = true) :
    Justified { s with dir := s.dir.writeRow row } := by
  refine { old with rows := ?_ }
  intro id row' present'
  by_cases this : id = row.nodeId
  · subst this
    obtain ⟨before, e⟩ := Option.isSome_iff_exists.mp present
    exact old.rows _ before e
  · refine old.rows id row' ?_
    rw [← present']
    exact (update_of_ne this ..).symm

/-- A deletion moves on: what is tombed was before, or is that one. -/
lemma tombed_update {deletion : Deletion} {dir remembers log}
    (t : Tombed { s with
      deletions := update s.deletions slot deletion, dir := dir, remembers := remembers
      log := log } request id) :
    s.Tombed request id ∨ request = slot ∧ (deletion = .buried id ∨ deletion = .forgotten id) := by
  unfold Tombed at t
  dsimp only at t
  by_cases this : request = slot
  · rw [this, update_self] at t
    exact .inr ⟨this, t⟩
  · rw [update_of_ne this] at t
    exact .inl t

/-- The row of a node is deleted. -/
lemma Justified.delete (old : Justified s) (unused : s.deletions slot = .none) :
    Justified { s with
      dir := s.dir.deleteEdgeNode id
      remembers := fun i => outdate id (s.remembers i)
      deletions := Function.update s.deletions slot (.deleted id)
      log := .deleted id slot :: s.log } := by
  -- other nodes have the deletions they had
  have others : ∀ {id' : String} {request : Nat}, id' ≠ id →
      CatalogEvent.deleted id' request ∈ CatalogEvent.deleted id slot :: s.log →
      CatalogEvent.deleted id' request ∈ s.log := by
    intro id' request other m
    refine (List.mem_cons.mp m).resolve_left ?_
    rintro ⟨⟩
    exact other rfl
  -- this request has set no tombstone
  have tombed : ∀ {request id'}, Tombed { s with
      dir := s.dir.deleteEdgeNode id
      remembers := fun i => outdate id (s.remembers i)
      deletions := Function.update s.deletions slot (.deleted id)
      log := .deleted id slot :: s.log } request id' → s.Tombed request id' := by
    intro request id' t
    rcases tombed_update t with t | ⟨_, e | e⟩
    · exact t
    · cases e
    · cases e
  refine ⟨old.buried, ?_, ?_, ?_, ?_, ?_, ?_, old.final.cons nofun⟩
  · intro request id' d
    by_cases this : request = slot
    · subst this
      have started : Function.update s.deletions request (.deleted id) request = .deleted id :=
        Function.update_self ..
      rcases d with d | d | d
      · cases started.symm.trans d
        exact List.mem_cons_self
      · cases started.symm.trans d
      · cases started.symm.trans d
    · refine List.mem_cons_of_mem _ (old.logged request id' ?_)
      unfold Tombed at d ⊢
      dsimp only at d
      rw [Function.update_of_ne this] at d
      exact d
  · intro request id' m
    have done := old.forgot request id' ((List.mem_cons.mp m).resolve_left nofun)
    have other : request ≠ slot := by
      rintro rfl
      cases unused.symm.trans done
    exact (Function.update_of_ne other ..).trans done
  · intro id' row present request m
    have other : id' ≠ id := by
      rintro rfl
      cases (Function.update_self ..).symm.trans present
    refine (old.rows id' row ?_ request (others other m)).cons
    exact (Function.update_of_ne other ..).symm.trans present
  · intro i id' row e request m
    dsimp only at e
    cases r : s.remembers i with
    | none =>
      rw [r] at e
      cases e
    | some v =>
      obtain ⟨id₀, row₀, _⟩ := v
      rw [r] at e
      simp only [outdate, Option.some.injEq, Prod.mk.injEq, Bool.or_eq_false_iff,
        decide_eq_false_iff_not] at e
      obtain ⟨rfl, rfl, rfl, other⟩ := e
      exact (old.remembers i id₀ row₀ r request (others other m)).cons
  · intro id' present request t
    exact (old.present id' present request (tombed t)).cons
  · intro i id' row l request t
    exact (old.decided i id' row l request (tombed t)).cons

/-- `ForgetNode` sets the tombstone. -/
lemma Justified.bury (old : Justified s) (at_ : s.deletions slot = .deleted id)
    (answered : ∀ i row, s.lookups i ≠ some (.decided id (some row))) :
    Justified { s with
      dir := s.dir.forgetNode id, deletions := Function.update s.deletions slot (.buried id) } := by
  -- what is tombed now was before, or is this deletion
  have tombed : ∀ {request id'}, Tombed { s with
      dir := s.dir.forgetNode id, deletions := Function.update s.deletions slot (.buried id) } request id' →
      s.Tombed request id' ∨ request = slot ∧ id' = id := by
    intro request id' t
    rcases tombed_update t with t | ⟨this, e | e⟩
    · exact .inl t
    · cases e
      exact .inr ⟨this, rfl⟩
    · cases e
  refine { old with
    buried := old.buried.forget, logged := ?_, forgot := ?_, present := ?_, decided := ?_ }
  · intro request id' d
    rcases d with d | d
    · have other : request ≠ slot := by
        rintro rfl
        cases (Function.update_self ..).symm.trans d
      exact old.logged request id' (.inl ((Function.update_of_ne other ..).symm.trans d))
    · rcases tombed d with t | ⟨rfl, rfl⟩
      · exact old.logged request id' (.inr t)
      · exact old.logged request id' (.inl at_)
  · intro request id' m
    have done := old.forgot request id' m
    have other : request ≠ slot := by
      rintro rfl
      cases at_.symm.trans done
    exact (Function.update_of_ne other ..).trans done
  · intro id' present request t
    have other : id' ≠ id := by
      rintro rfl
      cases (Function.update_self ..).symm.trans present
    have before := (tombed t).resolve_right fun this => other this.2
    exact old.present id' ((Function.update_of_ne other ..).symm.trans present) request before
  · intro i id' row l request t
    rcases tombed t with before | ⟨_, rfl⟩
    · exact old.decided i id' row l request before
    · exact absurd l (answered i row)

/-- `ForgetNode` returns. -/
lemma Justified.forget (old : Justified s) (at_ : s.deletions slot = .buried id) :
    Justified { s with
      deletions := Function.update s.deletions slot (.forgotten id), log := .forgot id slot :: s.log } := by
  have tombed : ∀ {request id'}, Tombed { s with
      deletions := Function.update s.deletions slot (.forgotten id), log := .forgot id slot :: s.log }
      request id' → s.Tombed request id' := by
    intro request id' t
    rcases tombed_update t with t | ⟨rfl, e | e⟩
    · exact t
    · cases e
    · cases e
      exact .inl at_
  refine ⟨old.buried, ?_, ?_, ?_, ?_, ?_, ?_, old.final.cons nofun⟩
  · intro request id' d
    refine List.mem_cons_of_mem _ (old.logged request id' ?_)
    rcases d with d | d
    · have other : request ≠ slot := by
        rintro rfl
        cases (Function.update_self ..).symm.trans d
      exact .inl ((Function.update_of_ne other ..).symm.trans d)
    · exact .inr (tombed d)
  · intro request id' m
    rcases List.mem_cons.mp m with e | m
    · cases e
      exact Function.update_self ..
    · have done := old.forgot request id' m
      have other : request ≠ slot := by
        rintro rfl
        cases at_.symm.trans done
      exact (Function.update_of_ne other ..).trans done
  · exact fun id' row r request m =>
      (old.rows id' row r request ((List.mem_cons.mp m).resolve_left nofun)).cons
  · exact fun i id' row r request m =>
      (old.remembers i id' row r request ((List.mem_cons.mp m).resolve_left nofun)).cons
  · exact fun id' present request t => (old.present id' present request (tombed t)).cons
  · exact fun i id' row l request t => (old.decided i id' row l request (tombed t)).cons

/-- Every orderly step is justified. -/
lemma Justified.step {a : CatalogAction} (old : Justified s) (orderly : Orderly s a)
    (st : s.step a = some s') : Justified s' := by
  cases a with
  | look =>
    simp only [Catalog.step] at st
    split at st
    · cases st
      refine old.dir old.buried rfl (fun _ e => e) (old.update_lookup ?_)
      rintro id' row e
      obtain ⟨rfl, present⟩ := Directory.authorizedNode_found (Option.some.inj e)
      exact old.present id' present
    · cases st
  | advance =>
    simp only [Catalog.step] at st
    split at st
    · rename_i l at_
      cases st
      exact old.advance at_ rfl
    · cases st
  | answer =>
    simp only [Catalog.step] at st
    split at st
    · rename_i id result at_
      cases st
      exact old.answer at_
    · cases st
  | list | setDatabaseSuspect =>
    cases st
    exact { old with }
  | replace =>
    simp only [Catalog.step] at st
    split at st
    · cases st
      exact { old with buried := Directory.Buried.replace }
    · cases st
  | readEnrolled _ id =>
    simp only [Catalog.step] at st
    split at st
    · rename_i row present
      cases st
      refine { old with remembers := ?_ }
      refine old.update_remember fun _ _ e => ?_
      cases e
      exact old.rows id row present
    · cases st
  | remember =>
    simp only [Catalog.step] at st
    split at st
    · rename_i id row stale at_
      cases st
      cases orderly id row stale at_
      exact old.remember at_
    · cases st
  | enroll =>
    cases st
    exact old.enroll
  | update =>
    simp only [Catalog.step, Option.ite_none_right_eq_some, Option.some.injEq] at st
    obtain ⟨present, rfl⟩ := st
    exact old.update present
  | delete =>
    simp only [Catalog.step, Option.ite_none_right_eq_some, Option.some.injEq, Bool.and_eq_true,
      decide_eq_true_eq] at st
    obtain ⟨⟨unused, _⟩, rfl⟩ := st
    exact old.delete unused
  | bury =>
    simp only [Catalog.step] at st
    split at st
    · rename_i id at_
      cases st
      exact old.bury at_ fun i row => orderly id i row at_
    · cases st
  | forget =>
    simp only [Catalog.step] at st
    split at st
    · rename_i id at_
      cases st
      exact old.forget at_
    · cases st

/-- Every orderly run is justified. -/
lemma Justified.of_reachable (r : machine.ReachableAlong Orderly s) : Justified s := by
  refine r.inv ?_ fun s a s' old orderly st => old.step orderly st
  rintro s ⟨forgotten, _, _, remembers, deletions, log⟩
  have unused : ∀ request, s.deletions request = .none := fun request => congrFun deletions request
  have untombed : ∀ request id, ¬ s.Tombed request id := by
    rintro request id (t | t)
    · cases (unused request).symm.trans t
    · cases (unused request).symm.trans t
  refine ⟨?_, ?_, ?_, ?_, ?_, ?_, ?_, ?_⟩
  · intro id present
    rw [forgotten] at present
    cases present
  · rintro request id (d | t)
    · cases (unused request).symm.trans d
    · exact absurd t (untombed request id)
  · intro request id m
    rw [log] at m
    cases m
  · intro id row _ request m
    rw [log] at m
    cases m
  · intro slot id row e
    rw [remembers] at e
    cases e
  · exact fun id _ request t => absurd t (untombed request id)
  · exact fun slot id row _ request t => absurd t (untombed request id)
  · intro later id earlier e
    rw [log] at e
    cases later <;> cases e

/-- A deleted node is not authorised again unless it has been enrolled again. -/
theorem deletion_is_final (s : Catalog) (r : machine.ReachableAlong Orderly s)
    (later : List CatalogEvent) (id : String) (earlier : List CatalogEvent)
    (returned : s.log = later ++ .returned id :: earlier) (request : Nat)
    (forgot : .forgot id request ∈ earlier) : EnrolledAfter id request earlier :=
  (Justified.of_reachable r).final later id earlier returned request forgot

def sampleNode : NodeRow := ⟨"edge", "1f", true⟩

/-- Deleted, enrolled again, remembered, and returned from the catalog while the database is away. -/
theorem deletion_is_final_reenrolled :
    ∃ s, machine.ReachableAlong Orderly s ∧
      s.log = [.returned "edge", .enrolled "edge", .forgot "edge" 0, .deleted "edge" 0, .enrolled "edge"] ∧
      EnrolledAfter "edge" 0 [.enrolled "edge", .forgot "edge" 0, .deleted "edge" 0, .enrolled "edge"] := by
  let acts : List CatalogAction :=
    [.enroll sampleNode, .delete 0 "edge", .bury 0, .forget 0, .enroll sampleNode, .readEnrolled 0 "edge",
      .remember 0, .setDatabaseSuspect true, .look 0 "edge", .answer 0]
  obtain ⟨s, run, log⟩ : ∃ s, machine.run {} acts = some s ∧ s.log =
      [.returned "edge", .enrolled "edge", .forgot "edge" 0, .deleted "edge" 0, .enrolled "edge"] :=
    ⟨_, rfl, rfl⟩
  have along : machine.Along Orderly {} acts := by
    refine .cons rfl trivial (.cons rfl trivial (.cons rfl ?_ (.cons rfl trivial (.cons rfl trivial
      (.cons rfl trivial (.cons rfl ?_ (.cons rfl trivial (.cons rfl trivial (.cons rfl trivial trivial)))))))))
    · exact fun _ _ _ _ => nofun
    · rintro _ _ _ ⟨⟩
      rfl
  have reach : machine.ReachableAlong Orderly s := ⟨_, _, ⟨rfl, rfl, rfl, rfl, rfl, rfl⟩, along, run⟩
  exact ⟨s, reach, log, deletion_is_final s reach [] "edge" _ log 0 (by decide)⟩

/-- An enrollment that read the row before the deletion stores it after `ForgetNode`, and takes the
tombstone away: the deleted node is returned from the catalog when the database is suspect. -/
theorem deleted_node_returns :
    ∃ s, machine.Reachable s ∧
      s.log = [.returned "edge", .forgot "edge" 0, .deleted "edge" 0, .enrolled "edge"] ∧
      ¬ EnrolledAfter "edge" 0 [.forgot "edge" 0, .deleted "edge" 0, .enrolled "edge"] := by
  refine ⟨_, ⟨{}, [.enroll sampleNode, .readEnrolled 0 "edge", .delete 0 "edge", .bury 0, .forget 0,
    .remember 0, .setDatabaseSuspect true, .look 0 "edge", .answer 0], ⟨rfl, rfl, rfl, rfl, rfl, rfl⟩, rfl⟩,
    rfl, ?_⟩
  rintro ⟨later, _, split, enrolled⟩
  -- the deletion can only be the second event, and what is later is not an enrollment
  rcases later with _ | ⟨_, _ | ⟨_, _ | ⟨_, _⟩⟩⟩
  · cases split
  · cases split
    revert enrolled
    decide
  · cases split
  · simp at split

end Catalog

end MeowFrp.Cluster
