import MeowFrp.Cluster.Notes
import MeowFrp.Cluster.Settled

/-!
# Admission after a fault

Once the edge has processed a fault notice, it admits nobody before it was resynchronised: a welcome, the
reset of its cache, the last page of the baseline and the confirmation of that page, in this order. The
argument follows the messages in their order. A confirmation that comes after a notice is one of an epoch
whose welcome comes after the notice too (`Vouched`), for as long as a session whose welcome came before the
last notice waits for nothing and is due for a reset (`Phase`).

This fails for a page that is under way when the fault is declared: its confirmation is tried again until
the database is back, and opens admission at once.
-/

namespace MeowFrp.Cluster

open List

variable {Byte : Type}

/-! ## Resynchronisation -/

/-- The event is a fault notice. -/
def Event.notifies : Event Byte → Bool
  | .faultNotice => true
  | _ => false

/-- The events since the last fault notice. -/
def sinceFault (log : List (Event Byte)) : List (Event Byte) := log.takeWhile (!·.notifies)

/-- The edge was resynchronised: a welcome, the reset for its epoch, the page that ends the baseline, and its
confirmation, the latest event first. -/
def Resynced (codec : Codec Byte) (events : List (Event Byte)) : Prop :=
  ∃ e r payload page, codec.decode payload = some page ∧ page.baselineEnd = true ∧
    [.confirmed e r true, .applied e r payload, .reset e, .welcomed e] <+ events

/-- The edge has applied the page that ends the baseline of the epoch. -/
def Finished (codec : Codec Byte) (log : List (Event Byte)) (e : CacheSessionId) (r : Nat) : Prop :=
  ∃ payload page, .applied e r payload ∈ log ∧ codec.decode payload = some page ∧ page.baselineEnd = true

/-- What the notes before a confirmation say about it. -/
structure Vouched (codec : Codec Byte) (log before : List (Event Byte)) (e : CacheSessionId) (r : Nat) :
    Prop where
  welcomed : .faultNotice ∈ before → .welcomed e ∈ sinceFault before
  baseline : ∃ r₀, Finished codec log e r₀ ∧ .confirmed e r₀ true ∈ .confirmed e r true :: before

/-- Every confirmation among the notes is vouched for. -/
def Vouches (codec : Codec Byte) (log notes : List (Event Byte)) : Prop :=
  ∀ e r before, .confirmed e r true :: before <:+ notes → Vouched codec log before e r

section
variable {codec : Codec Byte} {log log' ns : List (Event Byte)} {ev : Event Byte} {e : CacheSessionId} {r : Nat}

/-- An event that is no notice. -/
lemma sinceFault_cons (plain : ev.notifies = false) : sinceFault (ev :: log) = ev :: sinceFault log :=
  takeWhile_cons_of_pos (by rw [plain]; rfl)

/-- Events that are no notices. -/
lemma sinceFault_append {evs : List (Event Byte)} (plain : ∀ ev ∈ evs, ev.notifies = false) :
    sinceFault (evs ++ log) = evs ++ sinceFault log := by
  unfold sinceFault
  rw [takeWhile_append_of_pos]
  intro ev mem
  rw [plain ev mem]
  rfl

/-- A notice is in the log. -/
lemma mem_of_notifies (some : log.any Event.notifies = true) : .faultNotice ∈ log := by
  obtain ⟨ev, mem, notifies⟩ := any_eq_true.mp some
  cases ev with
  | faultNotice => exact mem
  | _ => cases notifies

/-- The events that are not noted do not matter. -/
lemma mem_sinceFault_notes (note : ev.note = true) : ev ∈ sinceFault (notes log) ↔ ev ∈ sinceFault log := by
  induction log with
  | nil => rfl
  | cons ev' log ih =>
    cases ev' with
    | faultNotice => rfl
    | welcomed e' =>
      change ev ∈ sinceFault (.welcomed e' :: notes log) ↔ _
      rw [sinceFault_cons rfl, sinceFault_cons rfl, mem_cons, mem_cons, ih]
    | confirmed e' r' complete =>
      change ev ∈ sinceFault (.confirmed e' r' complete :: notes log) ↔ _
      rw [sinceFault_cons rfl, sinceFault_cons rfl, mem_cons, mem_cons, ih]
    | _ =>
      rw [sinceFault_cons rfl, mem_cons]
      refine ih.trans (or_iff_right ?_).symm
      rintro rfl
      cases note

/-- A finished baseline stays finished. -/
lemma Finished.mono (finished : Finished codec log e r) (grows : log ⊆ log') : Finished codec log' e r := by
  obtain ⟨payload, page, applied, decode, ends⟩ := finished
  exact ⟨payload, page, grows applied, decode, ends⟩

/-- What vouched for the notes still does. -/
lemma Vouches.mono (vouches : Vouches codec log ns) (grows : log ⊆ log') : Vouches codec log' ns := by
  intro e r before suffix
  obtain ⟨welcomed, r₀, finished, confirmed⟩ := vouches e r before suffix
  exact ⟨welcomed, r₀, finished.mono grows, confirmed⟩

/-- Earlier notes are vouched for, too. -/
lemma Vouches.suffix {ns' : List (Event Byte)} (vouches : Vouches codec log ns) (suffix : ns' <:+ ns) :
    Vouches codec log ns' :=
  fun e r before here => vouches e r before (here.trans suffix)

/-- One more note. -/
lemma Vouches.cons (vouches : Vouches codec log ns)
    (now : ∀ e r, ev = .confirmed e r true → Vouched codec log ns e r) : Vouches codec log (ev :: ns) := by
  intro e r before suffix
  rcases suffix_cons_iff.mp suffix with same | later
  · cases same
    exact now e r rfl
  · exact vouches e r before later

/-- A sublist that ends in the first part lies in it. -/
lemma sublist_of_append {α : Type*} {xs ys zs : List α} {z : α} (sub : xs ++ [z] <+ ys ++ zs) (out : z ∉ zs) :
    xs ++ [z] <+ ys := by
  obtain ⟨_, l₂, same, sub₁, sub₂⟩ := sublist_append_iff.mp sub
  rcases eq_nil_or_concat' l₂ with rfl | ⟨_, last, rfl⟩
  · rw [same, append_nil]
    exact sub₁
  · have ends : z = last := by
      rw [← append_assoc] at same
      exact (append_inj' same rfl).2 |> singleton_inj.mp
    exact absurd (sub₂.subset (ends ▸ mem_append_right _ (mem_singleton_self _))) out

/-- A confirmation in an epoch welcomed after the last notice completes it. -/
lemma Resynced.of_confirmed (sound : Sound log) (heeded : State.Heeded log) (finished : Finished codec log e r)
    (confirmed : .confirmed e r true ∈ log) (welcomed : .welcomed e ∈ sinceFault log) :
    Resynced codec (sinceFault log) := by
  obtain ⟨payload, page, applied, decode, ends⟩ := finished
  -- the page was applied before it was confirmed, its cache reset before that, and welcomed first
  obtain ⟨b₁, suffix₁⟩ := exists_suffix confirmed
  obtain ⟨payload', applied'⟩ := heeded _ _ suffix₁
  obtain ⟨b₂, suffix₂⟩ := exists_suffix applied'
  have later₂ := suffix₂.trans ((suffix_cons _ b₁).trans suffix₁)
  obtain ⟨_, _, last⟩ := sound _ _ later₂
  obtain ⟨b₃, suffix₃⟩ := exists_suffix (mem_of_lastReset last)
  have later₃ := suffix₃.trans ((suffix_cons _ b₂).trans later₂)
  obtain ⟨b₄, suffix₄⟩ := exists_suffix (heeded _ _ later₃)
  have same : payload' = payload := by
    obtain ⟨_, suffix⟩ := exists_suffix applied
    have sent := suffix.subset (mem_cons_of_mem _ (sound _ _ suffix).1)
    have sent' := later₂.subset (mem_cons_of_mem _ (sound _ _ later₂).1)
    exact (sound.unique sent' sent).2
  subst same
  refine ⟨e, r, payload', page, decode, ends, ?_⟩
  have ordered : [.confirmed e r true, .applied e r payload', .reset e] ++ [.welcomed e] <+ log := by
    refine ((?_ : _ <+ b₁).cons_cons _).trans suffix₁.sublist
    refine ((?_ : _ <+ b₂).cons_cons _).trans suffix₂.sublist
    refine ((?_ : _ <+ b₃).cons_cons _).trans suffix₃.sublist
    exact ((nil_sublist b₄).cons_cons _).trans suffix₄.sublist
  -- the welcome is noted once, so all of it comes after the notice
  obtain ⟨front, rest, split⟩ := append_of_mem welcomed
  have whole : sinceFault log ++ log.dropWhile (!·.notifies) = log := takeWhile_append_dropWhile
  rw [← whole] at ordered
  refine sublist_of_append ordered fun old => ?_
  have once : Event.welcomed e :: (rest ++ log.dropWhile (!·.notifies)) <:+ log := by
    refine ⟨front, ?_⟩
    rw [← cons_append, ← append_assoc, ← split]
    exact whole
  exact heeded _ _ once (mem_append_right _ old)

end

namespace NodeSession

/-- The session has its baseline and waits for nothing. -/
def AtRest (σ : NodeSession Byte) : Prop :=
  σ.cacheReady = true ∧ σ.baselineActive = false ∧ σ.pendingIdentity = none

/-- A session in the same stage is at rest as well. -/
lemma AtRest.mono {σ σ' : NodeSession Byte} (rest : σ.AtRest) (stage : σ.SameStage σ') : σ'.AtRest :=
  ⟨stage.cacheReady.trans rest.1, stage.baselineActive.trans rest.2.1, stage.pendingIdentity.trans rest.2.2⟩

end NodeSession

namespace State

/-- Before the step: a fault is declared while no push is under way and the session of the node is at rest, if
it has said hello; no notice finds an edge ready that takes the controller to be in fault already; and no
message to the edge is lost. -/
def Orderly (s : State Byte) : Action → Prop
  | .declareFault _ => s.waiting = 0 ∧ s.held = none ∧ ∀ k ∈ s.current,
      (s.conns k).session.cacheSessionId = none ∨ (s.conns k).session.AtRest
  | .receive => ∀ r ∈ s.edge.link, (s.conns r.stream).down.head? = some (.controllerState true) →
      s.edge.controllerFault = true → s.edge.syncReady = false
  | .loseDown _ => False
  | _ => True

instance {σ : NodeSession Byte} : Decidable σ.AtRest :=
  inferInstanceAs (Decidable (σ.cacheReady = true ∧ σ.baselineActive = false ∧ σ.pendingIdentity = none))

instance [DecidableEq Byte] {s : State Byte} {a : Action} : Decidable (Orderly s a) :=
  match a with
  | .declareFault _ => inferInstanceAs (Decidable (s.waiting = 0 ∧ s.held = none ∧ ∀ k ∈ s.current,
      (s.conns k).session.cacheSessionId = none ∨ (s.conns k).session.AtRest))
  | .receive => inferInstanceAs (Decidable (∀ r ∈ s.edge.link,
      (s.conns r.stream).down.head? = some (.controllerState true) →
      s.edge.controllerFault = true → s.edge.syncReady = false))
  | .loseDown _ => inferInstanceAs (Decidable False)
  | .mutate _ | .ban _ | .nextRevision | .otherNode _ _ | .scheduleIdentityPush | .suspectDatabase | .recover _
  | .register _ | .serve _ _ | .sendReply _ | .runIdentityJob _ _ | .hangUp _ | .startPush | .abandonPush
  | .push _ _ | .enqueue _ | .connect _ | .takeJob | .runJob _ _ | .reportProgress _ | .reportJob | .beat
  | .fence | .cancel | .leave | .discardCache | .checkHealth | .probe _ | .loseUp _ =>
    inferInstanceAs (Decidable True)

/-- The session of a current stream, by where its welcome is: before the last notice it is at rest and gets no
page before the reset. -/
inductive Phase (s : State Byte) (k : Nat) : Prop
  | blank (none : (s.conns k).session.cacheSessionId = none)
  | live {e} (id : (s.conns k).session.cacheSessionId = some e)
      (fresh : .faultNotice ∈ s.outlook k → .welcomed e ∈ sinceFault (s.outlook k))
  | resting (rest : (s.conns k).session.AtRest)
      (due : (s.conns k).session.needsFull = true ∧ s.held = none ∨ s.Stalled)
  | unsent {e} (id : (s.conns k).session.cacheSessionId = some e)
      (unready : (s.conns k).session.cacheReady = false)
      (nothing : (s.conns k).session.pendingIdentity = none) (absent : .welcomed e ∉ s.outlook k)

/-- What holds of the stream that the edge receives from. -/
structure Watch (codec : Codec Byte) (s : State Byte) (k : Nat) : Prop where
  vouches : Vouches codec s.log (s.outlook k)
  phase : s.current = some k → Phase s k
  synced : s.current = some k → ∀ e, (s.conns k).session.cacheSessionId = some e →
    (s.conns k).session.cacheReady = true → (s.conns k).session.baselineActive = false →
    ∃ r, Finished codec s.log e r ∧ .confirmed e r true ∈ s.outlook k

/-- The invariants of this module. -/
structure Guarded (codec : Codec Byte) (s : State Byte) : Prop extends Noted codec s where
  pages : ∀ k snapshot, (s.conns k).session.pendingIdentity = some snapshot →
    snapshot.baseline = (s.conns k).session.baselineActive
  prepared : ∀ p, s.held = some p → p.snapshot.baseline = (s.conns p.stream).session.baselineActive
  past : Vouches codec s.log (notes s.log)
  watch : ∀ r, s.edge.link = some r → r.receiving = true → Watch codec s r.stream
  admitted : s.edge.syncReady = true → .faultNotice ∈ s.log → Resynced codec (sinceFault s.log)

variable {codec : Codec Byte} {nodeId : String} {s s' : State Byte} {k : Nat} {a : Action}

/-! ## The stream of the edge -/

/-- A step that neither notes nor pushes keeps the phase. -/
lemma Phase.mono (phase : Phase s k) (outlook : s'.outlook k = s.outlook k)
    (stage : (s.conns k).session.SameStage (s'.conns k).session)
    (due : (s.conns k).session.AtRest →
      (s.conns k).session.needsFull = true ∧ s.held = none ∨ s.Stalled →
      (s'.conns k).session.needsFull = true ∧ s'.held = none ∨ s'.Stalled) : Phase s' k := by
  cases phase with
  | blank none => exact .blank (stage.cacheSessionId.trans none)
  | live id fresh => exact .live (stage.cacheSessionId.trans id) (outlook ▸ fresh)
  | resting rest late => exact .resting (rest.mono stage) (due rest late)
  | unsent id unready nothing absent =>
    exact .unsent (stage.cacheSessionId.trans id) (stage.cacheReady.trans unready)
      (stage.pendingIdentity.trans nothing) (outlook ▸ absent)

/-- The outlook depends on messages and notes only. -/
lemma outlook_eq (heard : (s'.conns k).heard = (s.conns k).heard) (log : notes s'.log = notes s.log) :
    s'.outlook k = s.outlook k := by
  unfold outlook
  rw [heard, log]

/-- The session stays where it is. -/
lemma Watch.mono (watch : Watch codec s k) (grows : s.log ⊆ s'.log) (outlook : s'.outlook k = s.outlook k)
    (current : s'.current = some k → s.current = some k)
    (stage : (s.conns k).session.SameStage (s'.conns k).session)
    (due : s'.current = some k → (s.conns k).session.AtRest →
      (s.conns k).session.needsFull = true ∧ s.held = none ∨ s.Stalled →
      (s'.conns k).session.needsFull = true ∧ s'.held = none ∨ s'.Stalled) : Watch codec s' k := by
  refine ⟨outlook ▸ watch.vouches.mono grows, fun here => ?_, fun here e id ready inactive => ?_⟩
  · exact (watch.phase (current here)).mono outlook stage (due here)
  · obtain ⟨r, finished, confirmed⟩ := watch.synced (current here) e (stage.cacheSessionId.symm.trans id)
      (stage.cacheReady.symm.trans ready) (stage.baselineActive.symm.trans inactive)
    exact ⟨r, finished.mono grows, outlook ▸ confirmed⟩

/-- A session whose cache was not reset. -/
lemma Watch.of_unready (vouches : Vouches codec s.log (s.outlook k)) (phase : s.current = some k → Phase s k)
    (unready : (s.conns k).session.cacheReady = false) : Watch codec s k :=
  ⟨vouches, phase, fun _ _ _ ready => by cases unready.symm.trans ready⟩

/-- A stream that is not the current one. -/
lemma Watch.of_other (vouches : Vouches codec s.log (s.outlook k)) (other : s.current ≠ some k) :
    Watch codec s k :=
  ⟨vouches, fun here => absurd here other, fun here => absurd here other⟩

/-- An epoch that is drawn just now was not welcomed. -/
lemma Noted.undrawn_outlook (inv : Noted codec s) : .welcomed (s.nextId k) ∉ s.outlook k := by
  intro mem
  rcases mem_append.mp mem with ahead | before
  · rw [mem_reverse] at ahead
    obtain ⟨_, queued, heard⟩ := mem_filterMap.mp ahead
    obtain ⟨fault, rfl⟩ := DownMsg.heard_welcomed heard
    have there : .welcome (s.nextId k) fault ∈ (s.conns k).content :=
      mem_filter.mpr ⟨mem_append_right _ queued, rfl⟩
    exact Nat.lt_irrefl _ ((inv.wire k).welcome _ fault there).2
  · exact Nat.lt_irrefl _ (inv.welcomed _ ((mem_notes rfl).mp before)).1

/-- The cache of an epoch is cleared after its welcome. -/
lemma Noted.welcomed_of_cleared (inv : Noted codec s) {e} (job : .cacheCleared e ∈ (s.conns k).inbound) :
    .welcomed e ∈ s.outlook k := by
  obtain ⟨_, suffix⟩ := exists_suffix ((inv.wire k).cleared e job)
  have entered := suffix.subset (mem_cons_of_mem _ (inv.heeded _ _ suffix))
  exact mem_append_right _ ((mem_notes rfl).mpr entered)

/-- A step that leaves the edge nothing more to note. -/
lemma Watch.still (inv : Noted codec s) (watch : Watch codec s k) (kind : Kind codec nodeId s s')
    (outlook : s'.outlook k = s.outlook k)
    (unrecorded : s'.current = none ∨ ∀ e r, s'.log ≠ .recorded e r :: s.log)
    (stalled : s.Stalled → s'.Stalled) : Watch codec s' k := by
  have grows := kind.log
  have vouches : Vouches codec s'.log (s'.outlook k) := outlook ▸ watch.vouches.mono grows
  -- a stream whose session differs in flags only
  have put : ∀ {j} {c : Conn Byte}, (s.conns j).session.SameCore c.session →
      (s.conns k).session.SameCore ((s.setConn j c).conns k).session := fun core =>
    forall_setConn (Q := fun j c => (s.conns j).session.SameCore c.session) (fun _ => .refl) core k
  have keep : (s'.current = some k → s.current = some k) → (s.held = none → s'.held = none) →
      (s.conns k).session.SameCore (s'.conns k).session → Watch codec s' k := by
    intro current held core
    refine watch.mono grows outlook current core.toSameStage fun _ _ late => ?_
    exact late.imp (fun ⟨full, free⟩ => ⟨core.needsFull full, held free⟩) stalled
  cases kind with
  | calm calm =>
    refine keep (current_of_same calm.current) (fun free => ?_) (calm.conns k).session
    rcases calm.held with same | ⟨none, _⟩
    · exact same.trans free
    · exact none
  | @registered j _ new =>
    by_cases here : j = k
    · subst here
      have none := (inv.session j).unregistered new
      refine .of_unready vouches (fun _ => .blank ?_) ?_
      · exact (congrArg NodeSession.cacheSessionId setConn_session).trans none
      · exact (congrArg NodeSession.cacheReady setConn_session).trans ((inv.session j).blank none).2.1
    · exact .of_other vouches fun now => here (Option.some.inj now)
  | @drew j c _ _ free session unready =>
    by_cases here : j = k
    · subst here
      have off : c.session.cacheReady = false := (inv.session j).unready unready
      have nothing : c.session.pendingIdentity = none := by
        rw [session]
        exact ((inv.session j).quiet free).1
      refine .of_unready vouches (fun _ => .unsent (e := s.nextId j) ?_ ?_ ?_ ?_) ?_
      · refine (congrArg NodeSession.cacheSessionId setConn_session).trans ?_
        rw [session]
      · exact (congrArg NodeSession.cacheReady setConn_session).trans off
      · exact (congrArg NodeSession.pendingIdentity setConn_session).trans nothing
      · rw [outlook]
        exact inv.undrawn_outlook
      · exact (congrArg NodeSession.cacheReady setConn_session).trans off
    · refine keep id id ?_
      change (s.conns k).session.SameCore ((s.setConn j c).conns k).session
      rw [setConn_other (Ne.symm here)]
      exact .refl
  | @prepared j _ _ _ _ _ _ current _ _ _ _ pushed =>
    by_cases here : j = k
    · subst here
      refine watch.mono grows outlook (fun now => now) ?_ fun _ rest late => ?_
      · change NodeSession.SameStage _ ((s.setSession j _).conns j).session
        rw [setSession_session]
        exact ⟨rfl, rfl, rfl, rfl, rfl, rfl, rfl, rfl⟩
      · -- a session that is due for a reset gets no page
        refine late.elim (fun ⟨full, _⟩ => ?_) fun late => .inr (stalled late)
        cases pushed with
        | blockedIps plain => cases plain.symm.trans full
        | page _ plain => cases (plain rest.2.1).1.symm.trans full
    · exact .of_other vouches fun now => here (Option.some.inj (current.symm.trans now))
  | @enqueued p c held current session =>
    have ok := inv.held p held
    by_cases here : p.stream = k
    · subst here
      have same : ((s.setConn p.stream c).conns p.stream).session = c.session := setConn_session
      have id' : c.session.cacheSessionId = (s.conns p.stream).session.cacheSessionId := by
        rw [session]
        rfl
      refine ⟨vouches, fun _ => ?_, fun _ e id ready inactive => ?_⟩
      · cases watch.phase current with
        | blank none => cases none.symm.trans ok.id
        | live id fresh =>
          exact .live ((congrArg NodeSession.cacheSessionId same).trans (id'.trans id)) (outlook ▸ fresh)
        | resting _ late =>
          rcases late with ⟨_, free⟩ | late
          · cases free.symm.trans held
          · cases late.held.symm.trans held
        | unsent _ unready => cases unready.symm.trans ok.ready
      · have id₁ := (congrArg NodeSession.cacheSessionId same).symm.trans id
        have inactive₁ := (congrArg NodeSession.baselineActive same).symm.trans inactive
        rw [session] at inactive₁
        obtain ⟨r, finished, confirmed⟩ := watch.synced current e (id'.symm.trans id₁) ok.ready inactive₁
        exact ⟨r, finished.mono grows, outlook ▸ confirmed⟩
    · exact .of_other vouches fun now => here (Option.some.inj (current.symm.trans now))
  | @advanced _ _ c _ _ _ _ session _ _ _ _ now =>
    refine watch.mono grows outlook (current_of_same now) ?_ fun _ _ late => ?_
    · refine forall_setConn (Q := fun k c => (s.conns k).session.SameStage c.session) (fun _ => .refl) ?_ k
      rw [session]
      exact ⟨rfl, rfl, rfl, rfl, rfl, rfl, rfl, rfl⟩
    · refine late.imp (fun ⟨full, free⟩ => ⟨?_, free⟩) stalled
      refine forall_setConn (Q := fun k c => (s.conns k).session.needsFull = true → c.session.needsFull = true)
        (fun _ on => on) (fun on => ?_) k full
      rw [session]
      exact on
  | @cleared j _ c job current _ id unready session =>
    by_cases here : j = k
    · subst here
      have same : ((s.setConn j c).conns j).session = _ := setConn_session.trans session
      refine ⟨vouches, fun _ => ?_, fun _ e _ _ inactive => ?_⟩
      · cases watch.phase current with
        | blank none => cases none.symm.trans id
        | live id fresh => exact .live ((congrArg NodeSession.cacheSessionId same).trans id) (outlook ▸ fresh)
        | resting rest => cases unready.symm.trans rest.1
        | unsent id' _ _ absent =>
          cases id'.symm.trans id
          exact absurd (inv.welcomed_of_cleared job) absent
      · cases (congrArg NodeSession.baselineActive same).symm.trans inactive
    · exact .of_other vouches fun now => here (Option.some.inj (current.symm.trans now))
  | recorded =>
    rcases unrecorded with none | never
    · exact .of_other vouches fun here => by cases none.symm.trans here
    · exact absurd rfl (never _ _)
  | dialed | reported => exact keep id id (put .refl)
  | welcomed _ _ _ within => exact keep id id (put within.session)
  | collected _ _ _ _ _ within =>
    exact keep (fun now => now) (fun free => free) (put within.session)
  | _ => exact keep id id .refl

/-! ## Messages of the controller -/

/-- One more message for the edge. -/
lemma outlook_send {m : DownMsg Byte} (down : (s'.conns k).down = (s.conns k).down ++ [m])
    (log : notes s'.log = notes s.log) : s'.outlook k = m.heard.toList ++ s.outlook k := by
  have heard : (s'.conns k).heard = (s.conns k).heard ++ m.heard.toList := by
    unfold Conn.heard
    rw [down]
    exact Conn.heard_send
  unfold outlook
  rw [heard, log, reverse_append, append_assoc]
  cases m.heard <;> rfl

/-- Another stream was replaced. -/
lemma outlook_other {j} {c : Conn Byte} (conns : s'.conns = (s.setConn j c).conns) (differ : k ≠ j)
    (log : notes s'.log = notes s.log) : s'.outlook k = s.outlook k := by
  refine outlook_eq ?_ log
  rw [conns, setConn_other differ]

/-- A fault is declared or is over: only a notice is noted. -/
lemma setDatabaseFault_outlook {fault full} :
    (s.setDatabaseFault fault full).outlook k = s.outlook k ∨
      fault = true ∧ (s.setDatabaseFault fault full).outlook k = .faultNotice :: s.outlook k := by
  have log : notes (s.setDatabaseFault fault full).log = notes s.log := by rw [setDatabaseFault_log]
  obtain ⟨same, _⟩ | ⟨j, _, same⟩ := @setDatabaseFault_inv Byte s fault full
  · rw [same]
    exact .inl rfl
  by_cases here : k = j
  · subst here
    cases full with
    | true =>
      refine .inl (outlook_eq ?_ log)
      rw [same]
      change ((s.setConn k _).conns k).heard = _
      rw [setConn_self]
      unfold Conn.heard
      rw [if_pos rfl, append_nil]
    | false =>
      have sent : (s.setDatabaseFault fault false).outlook k =
          (DownMsg.controllerState fault : DownMsg Byte).heard.toList ++ s.outlook k := by
        refine outlook_send ?_ log
        rw [same]
        exact congrArg Conn.down setConn_self
      cases fault with
      | true => exact .inr ⟨rfl, sent⟩
      | false => exact .inl sent
  · refine .inl ?_
    rw [same]
    exact outlook_other rfl here rfl

/-- What a fault changes besides the messages. -/
lemma setDatabaseFault_flags {fault full} :
    (s.setDatabaseFault fault full).current = s.current ∧ (s.setDatabaseFault fault full).held = s.held ∧
      (s.setDatabaseFault fault full).waiting = s.waiting ∧
      (s.setDatabaseFault fault full).databaseFault = fault ∧
      (s.setDatabaseFault fault full).databaseSuspect = (s.databaseSuspect && fault) := by
  obtain ⟨same, _⟩ | ⟨_, _, same⟩ := @setDatabaseFault_inv Byte s fault full
  · rw [same]
    exact ⟨rfl, rfl, rfl, rfl, rfl⟩
  · rw [same]
    exact ⟨rfl, rfl, rfl, rfl, rfl⟩

/-- The end of a declared fault makes a reset due. -/
lemma setDatabaseFault_due {full} (current : s.current = some k) (fault : s.databaseFault = true) :
    ((s.setDatabaseFault false full).conns k).session.needsFull = true := by
  obtain ⟨_, none | no⟩ | ⟨_, here, same⟩ := @setDatabaseFault_inv Byte s false full
  · cases none.symm.trans current
  · cases no
  · cases here.symm.trans current
    rw [same]
    change ((s.setConn k _).conns k).session.needsFull = true
    rw [setConn_self, fault]
    exact Bool.or_true _

/-- A fault is declared while the session is at rest. -/
lemma Watch.declared {full} (watch : Watch codec s k) (suspect : s.databaseSuspect = true)
    (orderly : Orderly s (.declareFault full)) : Watch codec (s.setDatabaseFault true full) k := by
  obtain ⟨idle, free, rest⟩ := orderly
  have stage := ((@setDatabaseFault_calm Byte "" s true full).conns k).session.toSameStage
  obtain ⟨current, held, waiting, fault, suspect'⟩ := @setDatabaseFault_flags Byte s true full
  have stalled : (s.setDatabaseFault true full).Stalled := by
    refine ⟨?_, fault, waiting.trans idle, held.trans free⟩
    rw [suspect', suspect]
    rfl
  have ahead : s.outlook k ⊆ (s.setDatabaseFault true full).outlook k := by
    rcases @setDatabaseFault_outlook Byte s k true full with same | ⟨_, more⟩
    · rw [same]
      exact fun _ m => m
    · rw [more]
      exact subset_cons_self _ _
  refine ⟨?_, fun here => ?_, fun here e id ready inactive => ?_⟩
  · rw [setDatabaseFault_log]
    rcases @setDatabaseFault_outlook Byte s k true full with same | ⟨_, more⟩
    · rw [same]
      exact watch.vouches
    · rw [more]
      exact watch.vouches.cons nofun
  · rcases rest k (current.symm.trans here) with none | atRest
    · exact .blank (stage.cacheSessionId.trans none)
    · exact .resting (atRest.mono stage) (.inr stalled)
  · obtain ⟨r, finished, confirmed⟩ := watch.synced (current.symm.trans here) e
      (stage.cacheSessionId.symm.trans id) (stage.cacheReady.symm.trans ready)
      (stage.baselineActive.symm.trans inactive)
    rw [setDatabaseFault_log]
    exact ⟨r, finished, ahead confirmed⟩

/-- The fault is over. -/
lemma Watch.recovered {full} (watch : Watch codec s k) : Watch codec (s.setDatabaseFault false full) k := by
  have core := ((@setDatabaseFault_calm Byte "" s false full).conns k).session
  obtain ⟨current, held, _⟩ := @setDatabaseFault_flags Byte s false full
  have outlook : (s.setDatabaseFault false full).outlook k = s.outlook k := by
    rcases @setDatabaseFault_outlook Byte s k false full with same | ⟨no, _⟩
    · exact same
    · cases no
  refine watch.mono (setDatabaseFault_log ▸ fun _ m => m) outlook current.symm.trans core.toSameStage
    fun here _ late => .inl ?_
  rcases late with ⟨full, free⟩ | stalled
  · exact ⟨core.needsFull full, held.trans free⟩
  · exact ⟨setDatabaseFault_due (current.symm.trans here) stalled.fault, held.trans stalled.held⟩

/-- A reply is queued: to a heartbeat, or the welcome of a session. -/
lemma Watch.replied {j m} (inv : Opened s) (watch : Watch codec s k) (reply : (s.conns j).reply = some m) :
    Watch codec (s.setConn j { s.conns j with reply := none, down := (s.conns j).down ++ [m] }) k := by
  set s' : State Byte := s.setConn j { s.conns j with reply := none, down := (s.conns j).down ++ [m] } with def'
  have same : (s'.conns k).session = (s.conns k).session := by
    refine forall_setConn (Q := fun k c => c.session = (s.conns k).session) (fun _ => rfl) ?_ k
    rfl
  have stage : (s.conns k).session.SameStage (s'.conns k).session := by
    rw [same]
    exact .refl
  have due : ∀ {P : Prop}, (s.conns k).session.needsFull = true ∧ s.held = none ∨ P →
      (s'.conns k).session.needsFull = true ∧ s'.held = none ∨ P := by
    rw [same]
    exact id
  have still : s'.outlook k = s.outlook k → Watch codec s' k := fun outlook =>
    watch.mono (fun _ m => m) outlook id stage fun _ _ late =>
      due (late.imp_right fun late => ⟨late.suspect, late.fault, late.waiting, late.held⟩)
  by_cases here : k = j
  · subst here
    have sent : s'.outlook k = m.heard.toList ++ s.outlook k :=
      outlook_send (congrArg Conn.down setConn_self) rfl
    have answers := inv.answers k m reply
    cases m with
    | heartbeatAck => exact still sent
    | welcome e =>
      change s'.outlook k = .welcomed e :: s.outlook k at sent
      refine ⟨sent ▸ watch.vouches.cons nofun, fun now => ?_, fun now e' id ready inactive => ?_⟩
      · cases watch.phase now with
        | blank none => exact .blank (stage.cacheSessionId.trans none)
        | live id fresh =>
          refine .live (stage.cacheSessionId.trans id) fun notice => ?_
          rw [sent] at notice
          rw [sent, sinceFault_cons rfl]
          exact mem_cons_of_mem _ (fresh ((mem_cons.mp notice).resolve_left nofun))
        | resting rest late =>
          exact .resting (rest.mono stage)
            (due (late.imp_right fun late => ⟨late.suspect, late.fault, late.waiting, late.held⟩))
        | @unsent e' id unready nothing absent =>
          by_cases own : e' = e
          · subst own
            refine .live (stage.cacheSessionId.trans id) fun _ => ?_
            rw [sent, sinceFault_cons rfl]
            exact mem_cons_self
          · refine .unsent (stage.cacheSessionId.trans id) (stage.cacheReady.trans unready)
              (stage.pendingIdentity.trans nothing) ?_
            rw [sent]
            refine fun mem => absent ((mem_cons.mp mem).resolve_left ?_)
            rintro ⟨⟩
            exact own rfl
      · obtain ⟨r, finished, confirmed⟩ := watch.synced now e' (stage.cacheSessionId.symm.trans id)
          (stage.cacheReady.symm.trans ready) (stage.baselineActive.symm.trans inactive)
        exact ⟨r, finished, sent ▸ mem_cons_of_mem _ confirmed⟩
    | _ => cases answers
  · exact still (outlook_other rfl here rfl)

/-- A reset is asked for. -/
lemma Watch.reset {j waiting} (watch : Watch codec s k) (current : s.current = some j) :
    Watch codec { s.setConn j { s.conns j with
      session := (s.conns j).session.requestCacheReset (s.nextId j)
      drawn := (s.conns j).drawn + 1
      down := (s.conns j).down ++ [.welcome (s.nextId j) s.databaseFault] } with waiting } k := by
  set s' : State Byte := { s.setConn j { s.conns j with
    session := (s.conns j).session.requestCacheReset (s.nextId j)
    drawn := (s.conns j).drawn + 1
    down := (s.conns j).down ++ [.welcome (s.nextId j) s.databaseFault] } with waiting } with def'
  by_cases here : k = j
  · subst here
    have sent : s'.outlook k = .welcomed (s.nextId k) :: s.outlook k :=
      outlook_send (m := .welcome (s.nextId k) s.databaseFault) (congrArg Conn.down setConn_self) rfl
    have session : (s'.conns k).session = (s.conns k).session.requestCacheReset (s.nextId k) :=
      congrArg Conn.session setConn_self
    refine .of_unready (sent ▸ watch.vouches.cons nofun) (fun _ => ?_) ?_
    · refine .live (e := s.nextId k) ?_ fun _ => ?_
      · rw [session]
        rfl
      · rw [sent, sinceFault_cons rfl]
        exact mem_cons_self
    · rw [session]
      rfl
  · have outlook : s'.outlook k = s.outlook k := outlook_other rfl here rfl
    refine .of_other (outlook ▸ watch.vouches) fun now => here ?_
    exact (Option.some.inj (current.symm.trans now)).symm

/-- A page is confirmed: its epoch was welcomed after the last notice. -/
lemma Watch.confirmed {j jobs e snapshot db} (inv : Guarded codec s) (watch : Watch codec s k)
    (current : s.current = some j) (ack : .identityAck e snapshot.revision ∈ (s.conns j).inbound)
    (id : (s.conns j).session.cacheSessionId = some e)
    (pending : (s.conns j).session.pendingIdentity = some snapshot) :
    Watch codec { s.setConn j { s.conns j with
        jobs
        session := (s.conns j).session.confirmed snapshot
        down := (s.conns j).down ++
          [.identityConfirmed e snapshot.revision (!snapshot.baseline || snapshot.baselineEnd)] } with
      db, log := .recorded e snapshot.revision :: s.log } k := by
  set s' : State Byte := { s.setConn j { s.conns j with
      jobs
      session := (s.conns j).session.confirmed snapshot
      down := (s.conns j).down ++
        [.identityConfirmed e snapshot.revision (!snapshot.baseline || snapshot.baselineEnd)] } with
    db, log := .recorded e snapshot.revision :: s.log } with def'
  have grows : s.log ⊆ s'.log := subset_cons_self _ _
  by_cases here : k = j
  · subst here
    have sent : s'.outlook k = .confirmed e snapshot.revision (!snapshot.baseline || snapshot.baselineEnd) ::
        s.outlook k :=
      outlook_send (m := .identityConfirmed e snapshot.revision (!snapshot.baseline || snapshot.baselineEnd))
        (congrArg Conn.down setConn_self) rfl
    have session : (s'.conns k).session = (s.conns k).session.confirmed snapshot :=
      congrArg Conn.session setConn_self
    -- a session that waits for a page was welcomed after the last notice
    have fresh : .faultNotice ∈ s.outlook k → .welcomed e ∈ sinceFault (s.outlook k) := by
      cases watch.phase current with
      | blank none => cases none.symm.trans id
      | live id' fresh =>
        cases id'.symm.trans id
        exact fresh
      | resting rest => cases rest.2.2.symm.trans pending
      | unsent _ _ nothing => cases nothing.symm.trans pending
    have baseline : (!snapshot.baseline || snapshot.baselineEnd) = true →
        ∃ r₀, Finished codec s'.log e r₀ ∧
          .confirmed e r₀ true ∈ .confirmed e snapshot.revision true :: s.outlook k := by
      intro complete
      cases baseline : snapshot.baseline with
      | false =>
        obtain ⟨_, _, ready, _⟩ := (inv.session k).pending snapshot pending
        obtain ⟨r₀, finished, confirmed⟩ := watch.synced current e id ready
          ((inv.pages k snapshot pending).symm.trans baseline)
        exact ⟨r₀, finished.mono grows, mem_cons_of_mem _ confirmed⟩
      | true =>
        rw [baseline] at complete
        obtain ⟨payload, applied, decode⟩ := inv.applied_of_ack ack pending
        exact ⟨snapshot.revision, ⟨payload, snapshot, grows applied, decode, complete⟩, mem_cons_self⟩
    refine ⟨?_, fun _ => ?_, fun _ e' id' ready inactive => ?_⟩
    · rw [sent]
      refine (watch.vouches.mono grows).cons ?_
      intro e' r same
      injection same with same₁ same₂ complete
      subst same₁ same₂
      exact ⟨fresh, baseline complete⟩
    · refine .live (e := e) ?_ fun notice => ?_
      · rw [session]
        exact id
      · rw [sent] at notice
        rw [sent, sinceFault_cons rfl]
        exact mem_cons_of_mem _ (fresh ((mem_cons.mp notice).resolve_left nofun))
    · rw [session] at id' inactive
      cases id.symm.trans id'
      have complete : (!snapshot.baseline || snapshot.baselineEnd) = true := by
        change (if snapshot.baseline then !snapshot.baselineEnd else _) = false at inactive
        cases base : snapshot.baseline with
        | false => rfl
        | true =>
          rw [if_pos base] at inactive
          simpa using inactive
      obtain ⟨r₀, finished, confirmed⟩ := baseline complete
      refine ⟨r₀, finished, ?_⟩
      rw [sent, complete]
      exact confirmed
  · have outlook : s'.outlook k = s.outlook k := outlook_other rfl here rfl
    refine .of_other (outlook ▸ watch.vouches.mono grows) fun now => here ?_
    exact (Option.some.inj (current.symm.trans now)).symm

/-! ## Each step keeps the invariants -/

/-- A message that is processed moves from the stream to the notes. -/
lemma receive_outlook {r m down} (queue : (s.conns r.stream).down = m :: down)
    (log : ((s.setConn r.stream { s.conns r.stream with down }).receive r m).log =
      m.heard.toList ++ s.log) :
    ((s.setConn r.stream { s.conns r.stream with down }).receive r m).outlook r.stream =
      s.outlook r.stream := by
  obtain ⟨up, conns⟩ := @receive_conns Byte s r m down
  have left : ({ s.conns r.stream with down, up } : Conn Byte).heard = { s.conns r.stream with down }.heard := rfl
  unfold outlook
  rw [log, conns, setConn_self, left, Conn.heard_pop queue, notes_heard, reverse_append, append_assoc]
  cases m.heard <;> rfl

/-- The connection is the one before, or on a new stream. -/
lemma Kind.linked (kind : Kind codec nodeId s s') {r'} (link' : s'.edge.link = some r')
    (on : r'.receiving = true) :
    (∃ r, s.edge.link = some r ∧ r.receiving = true ∧ r'.stream = r.stream) ∨
      r'.stream = s.streams ∧ s'.current = s.current ∧ s'.log = s.log ∧
        (s'.conns s.streams).heard = (s.conns s.streams).heard := by
  cases kind with
  | calm calm =>
    obtain ⟨r, link, same⟩ := calm.edge.linked link'
    exact .inl ⟨r, link, (same.receiving on).1, same.stream⟩
  | dialed =>
    cases link'
    refine .inr ⟨rfl, rfl, rfl, ?_⟩
    change ((s.setConn s.streams _).conns s.streams).heard = _
    rw [setConn_self]
    rfl
  | welcomed link receiving _ _ _ link₁ | collected link receiving _ _ _ _ link₁ =>
    cases link₁.symm.trans link'
    exact .inl ⟨_, link, receiving, rfl⟩
  | taken link | resetDone link | appliedDone link | workerFailed link | reported link =>
    cases link'
    exact .inl ⟨_, link, on, rfl⟩
  | left => cases link'
  | discarded free => cases free.symm.trans link'
  | _ => exact .inl ⟨r', link', on, rfl⟩

/-- The stream of the edge stays watched. -/
lemma Guarded.watch_step (inv : Guarded codec s) (orderly : Orderly s a) (kind : Kind codec nodeId s s')
    (turn : Turn s a s') :
    ∀ r, s'.edge.link = some r → r.receiving = true → Watch codec s' r.stream := by
  intro r' link' on
  rcases kind.linked link' on with ⟨r, link, receiving, stream⟩ | ⟨stream, current, log, heard⟩
  · have watch := inv.watch r link receiving
    rw [stream]
    cases turn with
    | silent conns log unrecorded stalled =>
      exact watch.still inv.toNoted kind (outlook_eq (conns _).heard log) unrecorded stalled
    | declared suspect => exact watch.declared suspect orderly
    | recovered => exact watch.recovered
    | replied reply => exact watch.replied inv.toOpened reply
    | confirmed current ack id pending => exact watch.confirmed inv current ack id pending
    | reset current => exact watch.reset current
    | received link₁ _ queue =>
      cases link.symm.trans link₁
      rcases receive_log with log | ⟨_, off⟩
      · refine watch.still inv.toNoted kind (receive_outlook queue log) (.inr fun e rev same => ?_) fun stalled => ?_
        · rw [log] at same
          cases heard : DownMsg.heard _ with
          | none =>
            rw [heard] at same
            exact cons_ne_self _ _ same.symm
          | some =>
            rw [heard] at same
            have note := DownMsg.note_of_heard heard
            rw [(List.cons.inj same).1] at note
            cases note
        · exact ⟨stalled.suspect, stalled.fault, stalled.waiting, stalled.held⟩
      · cases (off r' link').symm.trans on
    | lost => exact orderly.elim
  · -- the new stream was not registered, so nothing is on it
    have new : (s.conns s.streams).registered = false := by
      cases on : (s.conns s.streams).registered with
      | false => rfl
      | true => exact absurd (inv.streams _ on) (Nat.lt_irrefl _)
    rw [stream]
    refine .of_other ?_ fun here => ?_
    · unfold outlook
      rw [heard, (inv.unheard _ new).1, log]
      exact inv.past
    · cases new.symm.trans (inv.toOpened.current _ (current.symm.trans here))

/-- The notes stay vouched for. -/
lemma Guarded.past_step (inv : Guarded codec s) (kind : Kind codec nodeId s s') (turn : Turn s a s') :
    Vouches codec s'.log (notes s'.log) := by
  obtain ⟨log, _⟩ | ⟨r, m, down, _, link, receiving, queue, rfl⟩ := turn.unnoted
  · rw [log]
    exact inv.past.mono kind.log
  · rcases @receive_log Byte s r m down with log | ⟨log, _⟩
    · have ahead := (inv.watch r link receiving).vouches.mono kind.log
      rw [← receive_outlook queue log] at ahead
      exact ahead.suffix (suffix_append _ _)
    · rw [log]
      exact inv.past

/-- Pending pages are of the baseline while it is active. -/
lemma Guarded.pages_step (inv : Guarded codec s) (kind : Kind codec nodeId s s') :
    ∀ k snapshot, (s'.conns k).session.pendingIdentity = some snapshot →
      snapshot.baseline = (s'.conns k).session.baselineActive := by
  intro k snapshot pending
  have keep : ∀ {j}, s'.conns j = s.conns j → (s'.conns j).session.pendingIdentity = some snapshot →
      snapshot.baseline = (s'.conns j).session.baselineActive := by
    intro j same pending
    rw [same] at pending ⊢
    exact inv.pages j snapshot pending
  cases inv.moves kind with
  | still sessions =>
    rw [(sessions k).pendingIdentity] at pending
    rw [(sessions k).baselineActive]
    exact inv.pages k snapshot pending
  | @drew j others _ _ _ nothing' =>
    by_cases here : k = j
    · subst here
      cases nothing'.symm.trans pending
    · exact keep (others k here) pending
  | @enqueued p _ held others _ session =>
    by_cases here : k = p.stream
    · subst here
      rw [session] at pending ⊢
      cases pending
      exact inv.prepared p held
    · exact keep (others k here) pending
  | @cleared j _ _ _ others _ session | @recorded j _ _ _ _ _ _ others _ session =>
    by_cases here : k = j
    · subst here
      rw [session] at pending
      cases pending
    · exact keep (others k here) pending

/-- So are prepared pages. -/
lemma Guarded.prepared_step (inv : Guarded codec s) (kind : Kind codec nodeId s s') :
    ∀ p, s'.held = some p → p.snapshot.baseline = (s'.conns p.stream).session.baselineActive := by
  intro p held
  have put : ∀ {j} {c : Conn Byte}, s.held = some p →
      c.session.baselineActive = (s.conns j).session.baselineActive →
      p.snapshot.baseline = ((s.setConn j c).conns p.stream).session.baselineActive := by
    intro j c held same
    refine (inv.prepared p held).trans ?_
    exact forall_setConn (Q := fun k c => (s.conns k).session.baselineActive = c.session.baselineActive)
      (fun _ => rfl) same.symm p.stream
  cases kind with
  | calm calm =>
    rcases calm.held with same | ⟨none, _⟩
    · rw [(calm.conns p.stream).session.baselineActive]
      exact inv.prepared p (same.symm.trans held)
    · cases none.symm.trans held
  | registered | dialed | reported => exact put held rfl
  | drew _ _ session | advanced _ _ _ session =>
    refine put held ?_
    rw [session]
  | prepared _ _ _ _ _ pushed =>
    cases held
    refine Eq.trans ?_ (congrArg NodeSession.baselineActive setSession_session).symm
    cases pushed with
    | blockedIps _ baseline =>
      rw [baseline]
      unfold NodeSession.blockedIpSnapshot
      split <;> rfl
    | page => rfl
  | enqueued => cases held
  | cleared _ _ free | recorded _ _ free => cases free.symm.trans held
  | welcomed _ _ _ within | collected _ _ _ _ _ within =>
    exact put held within.session.baselineActive
  | _ => exact inv.prepared p held

/-- The edge is ready after a notice only when it was resynchronised. -/
lemma Guarded.admitted_step (inv : Guarded codec s) (orderly : Orderly s a) (kind : Kind codec nodeId s s')
    (turn : Turn s a s') (after : Noted codec s') (ready : s'.edge.syncReady = true)
    (notice : .faultNotice ∈ s'.log) : Resynced codec (sinceFault s'.log) := by
  -- events that are no notices
  have keep : ∀ {evs : List (Event Byte)}, s'.log = evs ++ s.log → (∀ ev ∈ evs, ev.notifies = false) →
      s.edge.syncReady = true → Resynced codec (sinceFault s'.log) := by
    intro evs log plain was
    rw [log] at notice ⊢
    have before : .faultNotice ∈ s.log := by
      refine (mem_append.mp notice).resolve_left fun new => ?_
      cases plain _ new
    obtain ⟨e, r, payload, page, decode, ends, order⟩ := inv.admitted was before
    rw [sinceFault_append plain]
    exact ⟨e, r, payload, page, decode, ends, order.trans (sublist_append_right _ _)⟩
  obtain ⟨same, was⟩ | ⟨r, m, down, rfl, link, receiving, queue, rfl⟩ := turn.unnoted
  · obtain ⟨_, log⟩ := kind.suffix
    refine keep log.symm (fun ev mem => ?_) (was ready)
    unfold notes at same
    rw [← log, filter_append] at same
    have none := filter_eq_nil_iff.mp (append_left_eq_self.mp same) ev mem
    cases ev with
    | faultNotice => exact absurd rfl none
    | _ => rfl
  · rcases receive_ready ready with ⟨e, revision, rfl, log⟩ | ⟨was, news⟩
    · have before : .faultNotice ∈ s.log := by
        rw [log] at notice
        exact (mem_cons.mp notice).resolve_left nofun
      -- the confirmation is vouched for by what comes before it on the stream
      have ahead := (inv.watch r link receiving).vouches.mono kind.log
      have here : .confirmed e revision true :: notes s.log <:+ s.outlook r.stream := by
        unfold outlook
        rw [Conn.heard_pop queue, reverse_append, append_assoc]
        exact suffix_append _ _
      obtain ⟨welcomed, _, finished, confirmed⟩ := ahead e revision _ here
      have welcomed := (mem_sinceFault_notes rfl).mp (welcomed ((mem_notes rfl).mpr before))
      refine .of_confirmed after.sound after.heeded finished ?_ ?_
      · rw [log]
        rcases mem_cons.mp confirmed with now | old
        · rw [now]
          exact mem_cons_self
        · exact mem_cons_of_mem _ ((mem_notes rfl).mp old)
      · rw [log, sinceFault_cons rfl]
        exact mem_cons_of_mem _ welcomed
    · -- a notice finds the edge ready only if it takes the controller to be in fault already
      have other : m ≠ .controllerState true := by
        intro is
        have head : (s.conns r.stream).down.head? = some (.controllerState true) := by
          rw [queue, is]
          rfl
        cases was.symm.trans (orderly r link head (news is))
      rcases @receive_log Byte s r m down with log | ⟨log, _⟩
      · refine keep log (fun ev mem => ?_) was
        have heard := Option.mem_toList.mp mem
        cases m with
        | welcome | identityConfirmed =>
          cases heard
          rfl
        | controllerState fault =>
          cases fault with
          | true => exact absurd rfl other
          | false => cases heard
        | _ => cases heard
      · exact keep (log.trans (nil_append s.log).symm) nofun was

/-- Each step keeps the invariants. -/
lemma Guarded.step (inv : Guarded codec s) (orderly : Orderly s a)
    (st : State.step codec nodeId s a = some s') : Guarded codec s' :=
  have kind : Kind codec nodeId s s' := step_kind st
  have turn : Turn s a s' := step_turn st
  have after : Noted codec s' := inv.toNoted.step st
  { after with
    pages := inv.pages_step kind
    prepared := inv.prepared_step kind
    past := inv.past_step kind turn
    watch := inv.watch_step orderly kind turn
    admitted := inv.admitted_step orderly kind turn after }

/-- A fresh edge has noted nothing. -/
lemma Guarded.init (fresh : Fresh nodeId s) : Guarded codec s := by
  refine { Noted.init fresh with pages := ?_, prepared := ?_, past := ?_, watch := ?_, admitted := ?_ }
  · rw [fresh.conns]
    nofun
  · rw [fresh.held]
    nofun
  · intro e r before suffix
    rw [fresh.log] at suffix
    cases suffix_nil.mp suffix
  · rw [fresh.link]
    nofun
  · rw [fresh.syncReady]
    nofun

/-- After a fault notice the edge admits nobody until it was resynchronised, on every run on which faults are
declared while the session is at rest, no notice finds the edge ready and the controller in fault already,
and messages are delivered in order. -/
theorem readmitted_after_resync (reach : (machine codec nodeId).ReachableAlong Orderly s)
    (online : s.edge.edgeOnlineForNewSessions = true) (notice : .faultNotice ∈ s.log) :
    Resynced codec (sinceFault s.log) := by
  have inv : Guarded codec s := reach.inv (fun _ => Guarded.init) fun _ _ _ inv orderly => inv.step orderly
  unfold EdgeClient.edgeOnlineForNewSessions at online
  simp only [Bool.and_eq_true] at online
  exact inv.admitted online.1.2 notice

/-- The edge is synchronised, meets a fault, and is synchronised again. -/
def sampleOutage : List Action :=
  sampleSync ++ [.receive, .suspectDatabase, .declareFault false, .receive, .recover false, .receive,
    .startPush, .push false false, .receive, .takeJob, .runJob 0 false, .reportJob, .serve 0 false,
    .runIdentityJob 0 false, .startPush, .push false false, .enqueue false, .receive, .takeJob,
    .runJob 0 false, .reportJob, .serve 0 false, .serve 0 false, .runIdentityJob 0 false, .receive]

/-- A change of the bans is under way at the fault and confirmed afterwards. -/
def sampleRetry : List Action :=
  sampleSync ++ [.receive, .ban (.upsertBlockedInboundIp "203.0.113.9" "scan" 5), .startPush,
    .push false false, .enqueue false, .receive, .takeJob, .runJob 0 false, .reportJob, .serve 0 false,
    .serve 0 false, .suspectDatabase, .declareFault false, .receive, .recover false, .receive,
    .runIdentityJob 0 false, .receive]

/-- After the outage the edge admits clients again, and was resynchronised. -/
theorem readmitted_after_resync_outage : ∃ s : State IdentitySnapshot,
    (machine sampleCodec "edge").ReachableAlong Orderly s ∧ s.edge.edgeOnlineForNewSessions = true ∧
      .faultNotice ∈ s.log ∧ Resynced sampleCodec (sinceFault s.log) := by
  have along : (machine sampleCodec "edge").Along Orderly sampleStart sampleOutage :=
    .of_along (by decide +kernel)
  have ran : (((machine sampleCodec "edge").run sampleStart sampleOutage).map fun s =>
      (s.edge.edgeOnlineForNewSessions, s.log.any Event.notifies)) = some (true, true) := by decide +kernel
  obtain ⟨s, run, seen⟩ := Option.map_eq_some_iff.mp ran
  obtain ⟨online, some⟩ := Prod.mk.inj seen
  have reach : (machine sampleCodec "edge").ReachableAlong Orderly s :=
    ⟨sampleStart, sampleOutage, sampleStart_fresh, along, run⟩
  have notice : .faultNotice ∈ s.log := mem_of_notifies some
  exact ⟨s, reach, online, notice, readmitted_after_resync reach online notice⟩

/-- A confirmation that is tried again after the fault opens admission without a resynchronisation. -/
theorem readmitted_by_retried_confirmation : ∃ s : State IdentitySnapshot,
    (machine sampleCodec "edge").Reachable s ∧ s.edge.edgeOnlineForNewSessions = true ∧
      .faultNotice ∈ s.log ∧ ¬ Resynced sampleCodec (sinceFault s.log) := by
  have ran : (((machine sampleCodec "edge").run sampleStart sampleRetry).map fun s =>
      (s.edge.edgeOnlineForNewSessions, s.log.any Event.notifies, (sinceFault s.log).length)) =
      some (true, true, 2) := by decide +kernel
  obtain ⟨s, run, seen⟩ := Option.map_eq_some_iff.mp ran
  simp only [Prod.mk.injEq] at seen
  obtain ⟨online, some, _⟩ := seen
  refine ⟨s, ⟨sampleStart, sampleRetry, sampleStart_fresh, run⟩, online, mem_of_notifies some, ?_⟩
  -- four events do not fit
  rintro ⟨_, _, _, _, _, _, order⟩
  have four : 4 ≤ (sinceFault s.log).length := order.length_le
  omega

end State

end MeowFrp.Cluster
