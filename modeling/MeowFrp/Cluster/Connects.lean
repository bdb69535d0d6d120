import MeowFrp.Cluster.Catalog
import MeowFrp.Data.Text

/-!
# Streams of a deleted node

A stream of an edge (Go `Connect`) looks its node up, registers its session in place of the previous one,
which is cancelled, and looks the node up again before it serves. The deletion of the node sets the
tombstone and then disconnects the registered session. The streams of one node and the calls of
`Cluster.Catalog` interleave; the node is not enrolled meanwhile. A stream may be cancelled at any time
for other reasons, and a serving one may end.
-/

namespace MeowFrp.Cluster

open Lib Option Function

/-- A call of Go `Connect`; `serial` is that of the presented certificate. -/
inductive Stream where
  | idle
  /-- the first lookup -/
  | looking (serial : String) (l : NodeLookup)
  /-- before the registration -/
  | authorized (serial : String)
  /-- before the second lookup -/
  | registered (serial : String)
  /-- the second lookup -/
  | rechecking (serial : String) (l : NodeLookup)
  | serving
  /-- before the deferred functions; with an authorisation error or otherwise -/
  | leaving (unauthorized : Bool)
  | ended (unauthorized : Bool)

/-- The streams of a node. -/
structure Connects where
  catalog : Catalog := {}
  /-- the registered session of the node -/
  session : Option Nat := none
  streams : Nat → Stream := fun _ => .idle
  cancelled : Nat → Bool := fun _ => false

inductive ConnectAction where
  | connect (k : Nat) (serial : String)
  /-- a section of the lookup of a stream -/
  | advance (k : Nat) (fault : Bool)
  /-- the stream goes by the answer of its lookup -/
  | check (k : Nat)
  | register (k : Nat)
  | recheck (k : Nat)
  | cancel (k : Nat)
  | stop (k : Nat)
  | leave (k : Nat)
  | catalog (a : CatalogAction)

namespace Connects

/-- Whether the answer of a lookup authorises the certificate. -/
def authorizes (result : Option NodeRow) (serial : String) : Bool :=
  result.any fun row => row.active && toLower row.certificateSerial = toLower serial

/-- A stream changes. -/
def setStream (s : Connects) (k : Nat) (stream : Stream) : Connects :=
  { s with streams := update s.streams k stream }

/-- Cancel the context of the registered session. -/
def cancelCurrent (s : Connects) : Nat → Bool :=
  match s.session with
  | some k => update s.cancelled k true
  | none => s.cancelled

/-- Go `DisconnectNode`. -/
def disconnectNode (s : Connects) : Connects := { s with session := none, cancelled := s.cancelCurrent }

/-- The second section of Go `ForgetNode` for the node. -/
def disconnects (node : String) (s : Connects) : CatalogAction → Bool
  | .forget slot => s.catalog.deletions slot = .buried node
  | _ => false

/-- The node is not enrolled. -/
def allowed (node : String) : CatalogAction → Bool
  | .enroll row => row.nodeId ≠ node
  | .readEnrolled _ id => id ≠ node
  | _ => true

/-- One step. -/
def step (node : String) (s : Connects) : ConnectAction → Option Connects
  | .connect k serial =>
    match s.streams k with
    | .idle => some (s.setStream k (.looking serial (s.catalog.dir.authorizedNode node)))
    | _ => none
  | .advance k fault =>
    match s.streams k with
    | .looking serial l =>
      some { s.setStream k (.looking serial (s.catalog.dir.advance fault l).2) with
        catalog := { s.catalog with dir := (s.catalog.dir.advance fault l).1 } }
    | .rechecking serial l =>
      some { s.setStream k (.rechecking serial (s.catalog.dir.advance fault l).2) with
        catalog := { s.catalog with dir := (s.catalog.dir.advance fault l).1 } }
    | _ => none
  | .check k =>
    match s.streams k with
    | .looking serial (.decided _ result) =>
      some (s.setStream k (if authorizes result serial then .authorized serial else .ended true))
    | .rechecking serial (.decided _ result) =>
      some (s.setStream k (if authorizes result serial then .serving else .leaving true))
    | _ => none
  | .register k =>
    match s.streams k with
    | .authorized serial =>
      some { s.setStream k (.registered serial) with session := some k, cancelled := s.cancelCurrent }
    | _ => none
  | .recheck k =>
    match s.streams k with
    | .registered serial =>
      some (s.setStream k (.rechecking serial (s.catalog.dir.authorizedNode node)))
    | _ => none
  | .cancel k => some { s with cancelled := update s.cancelled k true }
  | .stop k =>
    match s.streams k with
    | .serving => some (s.setStream k (.leaving false))
    | _ => none
  | .leave k =>
    match s.streams k with
    | .leaving unauthorized =>
      some { s.setStream k (.ended unauthorized) with
        session := if s.session = some k then none else s.session
        cancelled := update s.cancelled k true }
    | _ => none
  | .catalog a =>
    if allowed node a then
      match s.catalog.step a with
      | some catalog =>
        some { (if s.disconnects node a then s.disconnectNode else s) with catalog }
      | none => none
    else none

/-- The machine. -/
def machine (node : String) : Machine Connects ConnectAction where
  Init s := Catalog.machine.Init s.catalog ∧ s.session = none ∧ s.streams = (fun _ => .idle)
  step := step node

/-- The deletion of the node is finished: its `ForgetNode` has returned. -/
def Deleted (node : String) (s : Connects) : Prop := ∃ slot, s.catalog.deletions slot = .forgotten node

/-- The stream has a session and a pending recheck or clean-up. -/
def Pending : Stream → Prop
  | .registered _ | .rechecking _ _ | .leaving _ => True
  | _ => False

variable {node : String} {s s' : Connects} {c c' : Catalog} {k : Nat}

/-! ## The grave of the node -/

/-- The tombstone stays: nothing in progress could take it away. -/
structure Grave (node : String) (c : Catalog) : Prop where
  buried : c.dir.Buried
  tomb : ∀ slot, c.Tombed slot node → c.dir.forgottenNodes node = true
  unremembered : ∀ slot id row stale, c.remembers slot = some (id, row, stale) → id ≠ node

variable {fault : Bool} {l : NodeLookup} {a : CatalogAction} {d : Directory}

/-- A section of a lookup leaves the tombstones alone. -/
lemma Grave.advance {l' : NodeLookup} {dir : Directory} {lookups} (old : Grave node c)
    (e : c.dir.advance fault l = (dir, l')) : Grave node { c with dir, lookups } := by
  refine ⟨old.buried.advance e, fun slot t => ?_, old.unremembered⟩
  rcases Directory.advance_dir e with rfl | ⟨_, _, _, rfl⟩
  · exact old.tomb slot t
  · exact old.tomb slot t

/-- No enrollment of the node is stored. -/
lemma Grave.remember {slot : Nat} {id : String} {row : NodeRow} {stale : Bool} (old : Grave node c)
    (at_ : c.remembers slot = some (id, row, stale)) :
    Grave node { c with
      dir := c.dir.rememberEnrolledNode id row, remembers := update c.remembers slot none } := by
  have other : node ≠ id := (old.unremembered slot id row stale at_).symm
  refine ⟨old.buried.remember, fun i t => ?_, ?_⟩
  · exact (update_of_ne other ..).trans (old.tomb i t)
  · refine (forall_update_iff c.remembers fun _ r => ∀ id row stale, r = some (id, row, stale) →
      id ≠ node).mpr ⟨fun _ _ _ e => ?_, fun i _ => old.unremembered i⟩
    cases e

/-- The tombstone stays along the steps that are allowed. -/
lemma Grave.step (old : Grave node c) (ok : allowed node a = true)
    (st : c.step a = some c') : Grave node c' := by
  cases a with
  | look | answer =>
    simp only [Catalog.step] at st
    split at st <;> cases st
    exact ⟨old.buried, old.tomb, old.unremembered⟩
  | advance =>
    simp only [Catalog.step] at st
    split at st <;> cases st
    exact old.advance rfl
  | list | setDatabaseSuspect | enroll =>
    cases st
    exact ⟨old.buried, old.tomb, old.unremembered⟩
  | replace =>
    simp only [Catalog.step] at st
    split at st <;> cases st
    exact ⟨Directory.Buried.replace, old.tomb, old.unremembered⟩
  | readEnrolled _ id =>
    simp only [Catalog.step] at st
    split at st <;> cases st
    refine ⟨old.buried, old.tomb, ?_⟩
    refine (forall_update_iff c.remembers fun _ r => ∀ id row stale, r = some (id, row, stale) →
      id ≠ node).mpr ⟨fun _ _ _ e => ?_, fun i _ => old.unremembered i⟩
    cases e
    exact of_decide_eq_true ok
  | remember =>
    simp only [Catalog.step] at st
    split at st
    · rename_i id row stale at_
      cases st
      exact old.remember at_
    · cases st
  | update =>
    simp only [Catalog.step, ite_none_right_eq_some, some.injEq] at st
    obtain ⟨_, rfl⟩ := st
    exact ⟨old.buried, old.tomb, old.unremembered⟩
  | delete =>
    simp only [Catalog.step, ite_none_right_eq_some, some.injEq] at st
    obtain ⟨_, rfl⟩ := st
    refine ⟨old.buried, fun i t => ?_, fun i id' row stale e => ?_⟩
    · rcases Catalog.tombed_update t with t | ⟨_, e | e⟩
      · exact old.tomb i t
      · cases e
      · cases e
    · dsimp only at e
      cases r : c.remembers i with
      | none =>
        rw [r] at e
        cases e
      | some v =>
        obtain ⟨_, _, stale₀⟩ := v
        rw [r] at e
        cases e
        exact old.unremembered i _ _ stale₀ r
  | bury =>
    simp only [Catalog.step] at st
    split at st
    · rename_i id at_
      cases st
      refine ⟨old.buried.forget, fun i t => ?_, old.unremembered⟩
      by_cases this : node = id
      · subst this
        exact update_self ..
      · -- the tombstone of another node
        refine (update_of_ne this ..).trans (old.tomb i ?_)
        rcases Catalog.tombed_update t with t | ⟨_, e | e⟩
        · exact t
        · cases e
          exact absurd rfl this
        · cases e
    · cases st
  | forget =>
    simp only [Catalog.step] at st
    split at st
    · rename_i id at_
      cases st
      refine ⟨old.buried, fun i t => old.tomb i ?_, old.unremembered⟩
      rcases Catalog.tombed_update t with t | ⟨rfl, e | e⟩
      · exact t
      · cases e
      · cases e
        exact .inl at_
    · cases st

/-- Only the end of its `ForgetNode` finishes a deletion. -/
lemma forgotten_step {slot : Nat} (st : c.step a = some c')
    (done : c'.deletions slot = .forgotten node) :
    c.deletions slot = .forgotten node ∨ a = .forget slot ∧ c.deletions slot = .buried node := by
  -- a request that is at another point afterwards
  have other : ∀ {i d}, (∀ id, d ≠ .forgotten id) →
      update c.deletions i d slot = .forgotten node → c.deletions slot = .forgotten node := by
    intro i d unfinished e
    by_cases this : slot = i
    · subst this
      exact absurd ((update_self ..).symm.trans e) (unfinished node)
    · exact (update_of_ne this ..).symm.trans e
  cases a with
  | look | advance | answer | replace | readEnrolled | remember =>
    simp only [Catalog.step] at st
    split at st <;> cases st
    exact .inl done
  | list | setDatabaseSuspect | enroll =>
    cases st
    exact .inl done
  | update =>
    simp only [Catalog.step, ite_none_right_eq_some, some.injEq] at st
    obtain ⟨_, rfl⟩ := st
    exact .inl done
  | delete =>
    simp only [Catalog.step, ite_none_right_eq_some, some.injEq] at st
    obtain ⟨_, rfl⟩ := st
    exact .inl (other (fun _ e => by cases e) done)
  | bury =>
    simp only [Catalog.step] at st
    split at st <;> cases st
    exact .inl (other (fun _ e => by cases e) done)
  | forget i =>
    simp only [Catalog.step] at st
    split at st
    · rename_i id at_
      cases st
      by_cases this : slot = i
      · subst this
        cases (update_self ..).symm.trans done
        exact .inr ⟨rfl, at_⟩
      · exact .inl ((update_of_ne this ..).symm.trans done)
    · cases st

/-- Nothing finds the node once its deletion is finished. -/
lemma Grave.forgotten (grave : Grave node s.catalog) (deleted : s.Deleted node) :
    s.catalog.dir.forgottenNodes node = true := by
  obtain ⟨slot, done⟩ := deleted
  exact grave.tomb slot (.inr done)

/-! ## The streams -/

/-- The lookup has found its node. -/
def Found : NodeLookup → Prop
  | .decided _ (some _) => True
  | _ => False

/-- The node of a lookup. -/
def about : NodeLookup → String
  | .reading id | .read id _ | .failed id _ | .decided id _ => id

/-- A lookup is about its node. -/
lemma about_authorizedNode {id : String} : about (d.authorizedNode id) = id := by
  unfold Directory.authorizedNode
  split
  · rfl
  · split
    · rfl
    · rfl

/-- A lookup goes on about its node. -/
lemma about_advance : about (d.advance fault l).2 = about l := by
  cases l with
  | reading =>
    simp only [Directory.advance]
    split
    · rfl
    · split
      · rfl
      · rfl
  | read =>
    simp only [Directory.advance]
    split
    · rfl
    · rfl
  | failed | decided => rfl

/-- A forgotten node is not found. -/
lemma not_found_authorizedNode (forgotten : d.forgottenNodes node = true) :
    ¬ Found (d.authorizedNode node) := by
  unfold Directory.authorizedNode
  rw [if_pos forgotten]
  exact id

/-- A lookup of a forgotten node finds it only if it has already. -/
lemma found_advance (buried : d.Buried)
    (forgotten : d.forgottenNodes (about l) = true) (found : Found (d.advance fault l).2) : Found l := by
  by_contra before
  obtain ⟨id, row, e⟩ : ∃ id row, (d.advance fault l).2 = .decided id (some row) := by
    match h : (d.advance fault l).2 with
    | .decided id (some row) => exact ⟨id, row, rfl⟩
    | .decided id none | .reading id | .read id row | .failed id notFound =>
      rw [h] at found
      exact found.elim
  have undecided : ∀ id result, l ≠ .decided id result := by
    rintro id _ rfl
    exact before found
  have present := Directory.advance_found buried undecided (Prod.ext (y := (_, _)) rfl e)
  have kept : about (d.advance fault l).2 = about l := about_advance
  have same : id = about l := by
    rw [← kept, e]
    rfl
  rw [same, forgotten] at present
  cases present

/-- What holds of a stream: its session is the registered one or it is cancelled, and once the deletion is
finished, no stream that trusts the node is the registered one. -/
def Fine (node : String) (deleted current cancelled : Prop) : Stream → Prop
  | .idle | .looking _ _ | .authorized _ => ¬ current
  | .registered _ | .leaving _ => current ∨ cancelled
  | .rechecking _ l => about l = node ∧ (current ∨ cancelled) ∧ (deleted → Found l → ¬ current)
  | .serving => (current ∨ cancelled) ∧ (deleted → ¬ current)
  | .ended unauthorized => ¬ current ∧ (unauthorized = false → cancelled)

variable {deleted deleted' current current' cancelled cancelled' : Prop} {stream : Stream}

/-- A stream that does not move stays fine. -/
lemma Fine.mono (fine : Fine node deleted current cancelled stream) (noLater : deleted' → deleted)
    (same : current' ↔ current) (more : cancelled → cancelled') :
    Fine node deleted' current' cancelled' stream := by
  cases stream with
  | idle | looking | authorized => exact fun now => fine (same.mp now)
  | registered | leaving => exact fine.imp same.mpr more
  | rechecking =>
    exact ⟨fine.1, fine.2.1.imp same.mpr more, fun d found now => fine.2.2 (noLater d) found (same.mp now)⟩
  | serving => exact ⟨fine.1.imp same.mpr more, fun d now => fine.2 (noLater d) (same.mp now)⟩
  | ended => exact ⟨fun now => fine.1 (same.mp now), fun e => more (fine.2 e)⟩

/-- The session is replaced or disconnected. -/
lemma Fine.released (fine : Fine node deleted current cancelled stream) (gone : ¬ current')
    (more : current ∨ cancelled → cancelled') : Fine node deleted' current' cancelled' stream := by
  cases stream with
  | idle | looking | authorized => exact gone
  | registered | leaving => exact .inr (more fine)
  | rechecking => exact ⟨fine.1, .inr (more fine.2.1), fun _ _ => gone⟩
  | serving => exact ⟨.inr (more fine.1), fun _ => gone⟩
  | ended => exact ⟨gone, fun e => more (.inr (fine.2 e))⟩

/-- Every stream is fine. -/
structure Safe (node : String) (s : Connects) : Prop where
  grave : Grave node s.catalog
  streams : ∀ k, Fine node (s.Deleted node) (s.session = some k) (s.cancelled k = true) (s.streams k)

/-- A cancelled stream stays cancelled. -/
lemma cancel_eq_true {i : Nat} (h : s.cancelled i = true) : update s.cancelled k true i = true := by
  by_cases this : i = k
  · subst this
    exact update_self ..
  · exact (update_of_ne this ..).trans h

/-- The registered stream is cancelled, too. -/
lemma cancelCurrent_eq_true (h : s.session = some k ∨ s.cancelled k = true) : s.cancelCurrent k = true := by
  unfold cancelCurrent
  rcases h with h | h
  · rw [h]
    exact update_self ..
  · cases s.session with
    | none => exact h
    | some => exact cancel_eq_true h

/-- One stream moves on. -/
lemma Safe.setStream (safe : Safe node s)
    (fine : Fine node (s.Deleted node) (s.session = some k) (s.cancelled k = true) stream) :
    Safe node (s.setStream k stream) :=
  ⟨safe.grave, (forall_update_iff s.streams fun i stream =>
    Fine node (s.Deleted node) (s.session = some i) (s.cancelled i = true) stream).mpr
      ⟨fine, fun i _ => safe.streams i⟩⟩

/-- The same with a section of its lookup. -/
lemma Safe.advance (safe : Safe node s)
    (fine : Fine node (s.Deleted node) (s.session = some k) (s.cancelled k = true) stream) :
    Safe node { s.setStream k stream with
      catalog := { s.catalog with dir := (s.catalog.dir.advance fault l).1 } } :=
  ⟨safe.grave.advance rfl, (safe.setStream fine).streams⟩

/-- A stream is registered in place of another. -/
lemma Safe.register {serial : String} (safe : Safe node s) :
    Safe node { s.setStream k (.registered serial) with
      session := some k, cancelled := s.cancelCurrent } := by
  refine ⟨safe.grave, ?_⟩
  refine (forall_update_iff s.streams fun i stream =>
    Fine node (s.Deleted node) (some k = some i) (s.cancelCurrent i = true) stream).mpr
      ⟨.inl rfl, fun i other => ?_⟩
  refine (safe.streams i).released ?_ cancelCurrent_eq_true
  exact fun e => other (Option.some.inj e).symm

/-- A stream ends. -/
lemma Safe.leave {unauthorized : Bool} (safe : Safe node s) :
    Safe node { s.setStream k (.ended unauthorized) with
      session := if s.session = some k then none else s.session
      cancelled := update s.cancelled k true } := by
  refine ⟨safe.grave, ?_⟩
  refine (forall_update_iff s.streams fun i stream =>
    Fine node (s.Deleted node) ((if s.session = some k then none else s.session) = some i)
      (update s.cancelled k true i = true) stream).mpr ⟨⟨?_, ?_⟩, fun i other => ?_⟩
  · split
    · nofun
    · assumption
  · exact fun _ => update_self ..
  · refine (safe.streams i).mono id ?_ cancel_eq_true
    split
    · rename_i mine
      rw [mine]
      exact ⟨nofun, fun e => absurd (Option.some.inj e).symm other⟩
    · exact Iff.rfl

/-- The catalog takes a step. -/
lemma Safe.catalog (safe : Safe node s) (ok : allowed node a = true)
    (st : s.catalog.step a = some c) :
    Safe node { (if s.disconnects node a then s.disconnectNode else s) with catalog := c } := by
  refine ⟨safe.grave.step ok st, fun k => ?_⟩
  split
  · exact (safe.streams k).released nofun cancelCurrent_eq_true
  · rename_i connected
    refine (safe.streams k).mono ?_ Iff.rfl id
    rintro ⟨slot, done⟩
    rcases forgotten_step st done with before | ⟨rfl, buried⟩
    · exact ⟨slot, before⟩
    · -- this deletion would have disconnected the node
      exact absurd (decide_eq_true buried) connected

/-- Every step is safe. -/
lemma Safe.step {a : ConnectAction} (safe : Safe node s) (st : s.step node a = some s') : Safe node s' := by
  cases a with
  | connect k =>
    simp only [Connects.step] at st
    split at st
    · rename_i at_
      cases st
      have fine := safe.streams k
      rw [at_] at fine
      exact safe.setStream fine
    · cases st
  | advance k =>
    simp only [Connects.step] at st
    split at st
    · rename_i serial l at_
      cases st
      have fine := safe.streams k
      rw [at_] at fine
      exact safe.advance fine
    · rename_i serial l at_
      cases st
      have fine := safe.streams k
      rw [at_] at fine
      obtain ⟨this, held, untrusted⟩ := fine
      refine safe.advance ⟨about_advance.trans this, held, fun deleted found => ?_⟩
      have forgotten := safe.grave.forgotten deleted
      rw [← this] at forgotten
      exact untrusted deleted (found_advance safe.grave.buried forgotten found)
    · cases st
  | check k =>
    simp only [Connects.step] at st
    split at st
    · rename_i serial id result at_
      cases st
      have fine := safe.streams k
      rw [at_] at fine
      apply safe.setStream
      split
      · exact fine
      · exact ⟨fine, nofun⟩
    · rename_i serial id result at_
      cases st
      have fine := safe.streams k
      rw [at_] at fine
      obtain ⟨_, held, untrusted⟩ := fine
      apply safe.setStream
      split
      · rename_i ok
        refine ⟨held, fun deleted => untrusted deleted ?_⟩
        cases result with
        | none => cases ok
        | some => trivial
      · exact held
    · cases st
  | register =>
    simp only [Connects.step] at st
    split at st
    · cases st
      exact safe.register
    · cases st
  | recheck k =>
    simp only [Connects.step] at st
    split at st
    · rename_i serial at_
      cases st
      have fine := safe.streams k
      rw [at_] at fine
      refine safe.setStream ⟨about_authorizedNode, fine, fun deleted found => ?_⟩
      exact absurd found (not_found_authorizedNode (safe.grave.forgotten deleted))
    · cases st
  | cancel =>
    cases st
    exact ⟨safe.grave, fun i => (safe.streams i).mono id Iff.rfl cancel_eq_true⟩
  | stop k =>
    simp only [Connects.step] at st
    split at st
    · rename_i at_
      cases st
      have fine := safe.streams k
      rw [at_] at fine
      exact safe.setStream fine.1
    · cases st
  | leave =>
    simp only [Connects.step] at st
    split at st
    · cases st
      exact safe.leave
    · cases st
  | catalog =>
    simp only [Connects.step] at st
    split at st
    · rename_i ok
      split at st
      · rename_i c st'
        cases st
        exact safe.catalog ok st'
      · cases st
    · cases st

/-- There are no streams at first. -/
lemma Safe.init (h : (machine node).Init s) : Safe node s := by
  obtain ⟨⟨forgotten, _, _, remembers, deletions, _⟩, session, streams⟩ := h
  refine ⟨⟨?_, ?_, ?_⟩, ?_⟩
  · intro id this
    rw [forgotten] at this
    cases this
  · intro slot tombed
    unfold Catalog.Tombed at tombed
    rw [deletions] at tombed
    rcases tombed with t | t
    · cases t
    · cases t
  · intro slot id row stale this
    rw [remembers] at this
    cases this
  · intro k
    rw [session, streams]
    exact nofun

/-- No stream survives the deletion of its node: once the deletion is finished and no recheck is
pending, no session of the node is registered, and every stream that got past its checks or ended is
cancelled or has returned an authorisation error. -/
theorem no_stream_survives_deletion (reach : (machine node).Reachable s) (deleted : s.Deleted node)
    (finished : ∀ k, ¬ Pending (s.streams k)) :
    s.session = none ∧
      ∀ k, s.streams k = .serving ∨ (∃ unauthorized, s.streams k = .ended unauthorized) →
        s.cancelled k = true ∨ s.streams k = .ended true := by
  have safe : Safe node s := reach.inv (fun _ => Safe.init) (fun _ _ _ safe st => safe.step st)
  constructor
  · by_contra registered
    obtain ⟨k, current⟩ := ne_none_iff_exists'.mp registered
    have fine := safe.streams k
    have settled := finished k
    cases e : s.streams k with
    | idle | looking | authorized =>
      rw [e] at fine
      exact fine current
    | registered | rechecking | leaving =>
      rw [e] at settled
      exact settled trivial
    | serving =>
      rw [e] at fine
      exact fine.2 deleted current
    | ended =>
      rw [e] at fine
      exact fine.1 current
  · rintro k (e | ⟨unauthorized, e⟩)
    · have fine := safe.streams k
      rw [e] at fine
      exact .inl (fine.1.resolve_left (fine.2 deleted))
    · have fine := safe.streams k
      rw [e] at fine
      cases unauthorized with
      | true => exact .inr e
      | false => exact .inl (fine.2 rfl)

/-- The second stream passes its first lookup before the deletion and registers before `ForgetNode`
disconnects: the first stream is cancelled by the replacement, the second one fails its recheck. -/
theorem no_stream_survives_deletion_raced :
    ∃ s, (machine "edge").Reachable s ∧ s.Deleted "edge" ∧ s.streams 0 = .serving ∧ s.session = none ∧
      (s.cancelled 0 = true ∨ s.streams 0 = .ended true) := by
  let start : Connects :=
    { catalog := { dir := { rows := fun id => if id = "edge" then some Catalog.sampleNode else none } } }
  let acts : List ConnectAction :=
    [.connect 0 "1F", .advance 0 false, .advance 0 false, .check 0, .register 0, .recheck 0,
      .advance 0 false, .advance 0 false, .check 0,
      .connect 1 "1f", .advance 1 false, .advance 1 false, .check 1,
      .catalog (.delete 0 "edge"), .catalog (.bury 0), .register 1, .catalog (.forget 0),
      .recheck 1, .check 1, .leave 1]
  have reach : ∃ s, (machine "edge").run start acts = some s ∧ s.streams 0 = .serving ∧
      s.catalog.deletions 0 = .forgotten "edge" ∧ ∀ k, ¬ Pending (s.streams k) := by
    refine ⟨_, rfl, rfl, rfl, fun k => ?_⟩
    match k with
    | 0 => exact id
    | 1 => exact id
    | k + 2 => exact id
  obtain ⟨s, run, serving, done, finished⟩ := reach
  have reach : (machine "edge").Reachable s :=
    ⟨start, acts, ⟨⟨rfl, rfl, rfl, rfl, rfl, rfl⟩, rfl, rfl⟩, run⟩
  obtain ⟨none, all⟩ := no_stream_survives_deletion reach ⟨0, done⟩ finished
  exact ⟨s, reach, ⟨0, done⟩, serving, none, all 0 (.inl serving)⟩

end Connects

end MeowFrp.Cluster
