import MeowFrp.Cluster.Dispatch

/-!
# What the answers of an edge are worth

The row of a command says `succeeded` only after the edge has noted that it has executed the command, and so does the
answer that an administrator gets; for the commands of a configuration both statuses are those that the edge has
noted. A command whose result is noted is not executed any more, whatever is sent again.

So the directory of the nodes shows nothing that the edge has not executed.

What is true of a message depends on the rows of the controller and on the table of the edge (`Facts`), and stays true
while they grow. A step has to account for what it adds.
-/

namespace MeowFrp.Cluster.Dispatch

open Lib Table List Option Function

variable {s s' : State} {e : Edge} {c : NodeCommand} {r : CommandResult} {id : String}
  {received : String → Option Received} {log : List Event}

/-! ## The edge -/

/-- The result says how the command ended. -/
def CommandResult.Final (r : CommandResult) : Prop := r.status = .succeeded ∨ r.status = .failed

/-- What may follow a noted result: no execution, and no other answer but a request to repeat. -/
def Sealed (r : CommandResult) : Event → Prop
  | .executed commandId => commandId ≠ r.commandId
  | .noted result => result.commandId ≠ r.commandId
  | .answered result => result.commandId = r.commandId → result = r ∨ result.status = .retry

/-- A success is that of an execution, or of a configuration that came too late. -/
structure Settles (log : List Event) (id : String) (r : CommandResult) : Prop where
  named : r.commandId = id
  final : r.Final
  earned : r.status = .succeeded → r.superseded = true ∨ .executed id ∈ log

/-- A settled result stays settled. -/
lemma Settles.cons {event : Event} (settles : Settles log id r) : Settles (event :: log) id r :=
  ⟨settles.named, settles.final, fun succeeded => (settles.earned succeeded).imp_right (mem_cons_of_mem _)⟩

/-- The table of the edge against its history. -/
structure Book (received : String → Option Received) (log : List Event) : Prop where
  ended : ∀ id r, received id = some (.finished r) → Settles log id r
  noted : ∀ r, .noted r ∈ log → received r.commandId = some (.finished r)
  ordered : log.Pairwise fun later earlier => ∀ r, earlier = .noted r → Sealed r later

/-- An event that notes nothing and breaks no seal. -/
lemma Book.cons (book : Book received log) {event : Event} (other : ∀ r, event ≠ .noted r)
    (sealed : ∀ r, received r.commandId = some (.finished r) → Sealed r event) : Book received (event :: log) := by
  refine ⟨fun id r is => (book.ended id r is).cons, fun r mem => ?_,
    pairwise_cons.mpr ⟨fun earlier mem r is => ?_, book.ordered⟩⟩
  · obtain same | old := mem_cons.mp mem
    · exact absurd same.symm (other r)
    · exact book.noted r old
  · exact sealed r (book.noted r (is ▸ mem))

/-- An answer that is noted, or that leaves the command open. -/
lemma Book.answered (book : Book received log) (how : r.status = .retry ∨
    received r.commandId = some (.finished r) ∨ received r.commandId = some .executing) :
    Book received (.answered r :: log) := by
  refine book.cons nofun fun r' is named => ?_
  rw [← named] at is
  obtain again | same | executing := how
  · exact .inr again
  · cases same.symm.trans is
    exact .inl rfl
  · cases executing.symm.trans is

/-- A table that differs for a command without a result. -/
lemma Book.update {row : Option Received} (book : Book received log) (open_ : ∀ r, received id ≠ some (.finished r))
    (ended : ∀ r, row = some (.finished r) → Settles log id r) :
    Book (update received id row) log := by
  refine ⟨fun id' r is => ?_, fun r mem => ?_, book.ordered⟩
  · by_cases same : id' = id
    · subst same
      rw [update_self] at is
      exact ended r is
    · rw [update_of_ne same] at is
      exact book.ended id' r is
  · have is := book.noted r mem
    rwa [update_of_ne]
    rintro rfl
    exact open_ r is

/-- A result is noted. -/
lemma Book.note (book : Book received log) (executing : received r.commandId = some .executing)
    (settles : Settles log r.commandId r) :
    Book (Function.update received r.commandId (some (.finished r))) (.noted r :: log) := by
  have open_ : ∀ r', received r.commandId ≠ some (.finished r') := fun r' is => by cases executing.symm.trans is
  have book' : Book (Function.update received r.commandId (some (.finished r))) log := by
    refine book.update open_ fun r' is => ?_
    cases is
    exact settles
  refine ⟨fun id r' is => (book'.ended id r' is).cons, fun r' mem => ?_,
    List.pairwise_cons.mpr ⟨fun earlier mem r' is => ?_, book.ordered⟩⟩
  · obtain same | old := List.mem_cons.mp mem
    · cases same
      exact Function.update_self ..
    · exact book'.noted r' old
  · intro same
    exact open_ r' (same ▸ book.noted r' (is ▸ mem))

def Handling.command : Handling → NodeCommand
  | .begun c => c
  | .settled c _ => c

structure Edge.Sound (e : Edge) : Prop where
  book : Book e.received e.log
  handling : ∀ h, e.handling = some h → e.received h.command.commandId = some .executing
  settled : ∀ c r, e.handling = some (.settled c r) → Settles e.log c.commandId r

/-- An edge that handles nothing. -/
lemma Edge.Sound.idle (book : Book e.received e.log) (idle : e.handling = none) : e.Sound where
  book := book
  handling h is := by cases idle.symm.trans is
  settled c r is := by cases idle.symm.trans is

/-- What a step of the edge does for the command that it handles. -/
structure Edge.Moves (e : Edge) (c : NodeCommand) (out : Edge × Option CommandResult) : Prop where
  sound : out.1.Sound
  kept : ∀ id r, e.received id = some (.finished r) → out.1.received id = some (.finished r)
  command : ∀ h, out.1.handling = some h → h.command = c
  reply : ∀ r, out.2 = some r → r.commandId = c.commandId ∧ (r.status = .retry ∨
    out.1.received r.commandId = some (.finished r) ∨ r.status = .failed ∧ c.kind.configuration = false)

namespace Edge

/-- An answer without a note. -/
lemma Moves.answer (sound : e.Sound) (named : r.commandId = c.commandId) (how : r.status = .retry ∨
    e.received r.commandId = some (.finished r) ∨
      e.received r.commandId = some .executing ∧ r.status = .failed ∧ c.kind.configuration = false) :
    Moves e c (e.answer r) := by
  refine ⟨.idle (sound.book.answered (how.imp_right (Or.imp_right And.left))) rfl, fun _ _ is => is,
    fun _ h => (nomatch h), fun r' is => ?_⟩
  cases is
  exact ⟨named, how.imp_right (Or.imp_right And.right)⟩

/-- The result of an execution is noted, or the note fails. -/
lemma Moves.conclude (fails : Option String) (sound : e.Sound) (executing : e.received c.commandId = some .executing)
    (settles : Settles e.log c.commandId r) : Moves e c (e.conclude r fails) := by
  have named := settles.named
  rw [← named] at executing settles
  cases fails with
  | some => exact .answer sound named (.inl rfl)
  | none =>
    have noted : (e.finishCommand r).received = update e.received r.commandId (some (.finished r)) := by
      unfold finishCommand
      rw [executing]
      rfl
    have record : (e.finishCommand r).received r.commandId = some (.finished r) := by
      rw [noted, update_self]
    have book : Book (e.finishCommand r).received (.noted r :: e.log) := noted ▸ sound.book.note executing settles
    refine ⟨.idle (book.answered (.inr (.inl record))) rfl, fun id r' is => ?_, fun _ h => (nomatch h),
      fun r' is => ?_⟩
    · change (e.finishCommand r).received id = _
      rwa [noted, update_of_ne]
      rintro rfl
      cases executing.symm.trans is
    · cases is
      exact ⟨named, .inr (.inl record)⟩

/-- A command is taken up, or answered from its note. -/
lemma moves_start (fails : Option String) (sound : e.Sound) : Moves e c (e.start c fails) := by
  -- a command begins to be handled
  have begin_ {received : String → Option Received} (book : Book received e.log)
      (executing : received c.commandId = some .executing)
      (kept : ∀ id r, e.received id = some (.finished r) → received id = some (.finished r)) :
      Moves e c ({ e with received, handling := some (.begun c) }, none) := by
    refine ⟨⟨book, fun h is => ?_, fun c r is => ?_⟩, kept, fun h is => ?_, fun r is => ?_⟩ <;> cases is
    · exact executing
    · rfl
  unfold start
  cases fails with
  | some => exact .answer sound rfl (.inl rfl)
  | none =>
    unfold beginCommand
    cases found : e.received c.commandId with
    | none =>
      have open_ : ∀ r, e.received c.commandId ≠ some (.finished r) := fun r is => by cases found.symm.trans is
      refine begin_ (sound.book.update open_ nofun) (update_self ..) fun id r is => ?_
      refine (update_of_ne ?_ _ _).trans is
      rintro rfl
      exact open_ r is
    | some row =>
      cases row with
      | executing =>
        by_cases unknown : c.kind = .other
        · simp only [if_pos unknown]
          refine .answer sound rfl (.inr (.inr ⟨found, rfl, ?_⟩))
          rw [unknown]
          rfl
        · simp only [if_neg unknown]
          exact begin_ sound.book found fun _ _ is => is
      | finished =>
        have named := (sound.book.ended _ _ found).named
        exact .answer sound named (.inr (.inl (named ▸ found)))

/-- Each step of the edge concerns the command it handles. -/
lemma moves_step {a : EdgeAction} {out : Edge × Option CommandResult} (sound : e.Sound)
    (st : e.step a = some out) : ∃ h, e.handling = some h ∧ Moves e h.command out := by
  unfold step at st
  split at st
  · rename_i error c at_
    obtain ⟨-, eq⟩ := ite_none_right_eq_some.mp st
    cases eq
    exact ⟨_, at_, .answer sound rfl (.inl rfl)⟩
  · rename_i fails c at_
    obtain ⟨-, eq⟩ := ite_none_right_eq_some.mp st
    cases eq
    exact ⟨_, at_, .conclude fails sound (sound.handling _ at_) ⟨rfl, .inl rfl, fun _ => .inl rfl⟩⟩
  · rename_i clock fails c at_
    obtain ⟨expired, eq⟩ := ite_none_right_eq_some.mp st
    rw [Bool.and_eq_true, Bool.and_eq_true, Bool.not_eq_true'] at expired
    have executing := sound.handling _ at_
    refine ⟨_, at_, ?_⟩
    cases fails with
    | false =>
      cases eq
      exact .conclude none sound executing ⟨rfl, .inr rfl, nofun⟩
    -- the answer is given although it is not noted
    | true =>
      cases eq
      exact .answer sound rfl (.inr (.inr ⟨executing, rfl, expired.1.1⟩))
  · rename_i clock fails c at_
    obtain ⟨-, eq⟩ := ite_none_left_eq_some.mp st
    cases eq
    have executing := sound.handling _ at_
    refine ⟨_, at_, ⟨sound.book.cons nofun fun r is same => ?_, fun h is => ?_, fun c' r is => ?_⟩,
      fun _ _ is => is, fun h is => ?_, nofun⟩
    · rw [← same] at is
      cases executing.symm.trans is
    · cases is
      exact executing
    · cases is
      split
      · exact ⟨rfl, .inr rfl, nofun⟩
      · exact ⟨rfl, .inr rfl, nofun⟩
      · exact ⟨rfl, .inl rfl, fun _ => .inr mem_cons_self⟩
    · cases is
      rfl
  · rename_i error c r at_
    obtain ⟨-, eq⟩ := ite_none_right_eq_some.mp st
    cases eq
    exact ⟨_, at_, .answer sound (sound.settled c r at_).named (.inl rfl)⟩
  · rename_i fails c r at_
    cases st
    exact ⟨_, at_, .conclude _ sound (sound.handling _ at_) (sound.settled c r at_)⟩
  · cases st

end Edge

/-! ## What is known of a message -/

/-- The rows of the controller and the table of the edge. -/
structure Facts where
  commands : Table Results.NodeCommand
  columns : String → Columns
  received : String → Option Received

def State.facts (s : State) : Facts := ⟨s.node.commands, s.columns, s.edge.received⟩

namespace Facts

variable {t t' : Facts} {row : Results.NodeCommand}

def Registered (t : Facts) (id : String) : Prop := ∃ row ∈ t.commands, row.commandId = id

def Configures (t : Facts) (id : String) : Prop := (t.columns id).kind.configuration = true

/-- The edge has noted how the command ended. -/
def Ended (t : Facts) (id : String) (status : Results.ResultStatus) (superseded : Bool) : Prop :=
  ∃ r, t.received id = some (.finished r) ∧ r.status = status ∧ r.superseded = superseded

/-- The row of the command says that it succeeded. -/
def Shown (t : Facts) (id : String) : Prop := ∃ row ∈ t.commands, row.commandId = id ∧ row.status = .succeeded

/-- A command on its way to the edge. -/
structure Known (t : Facts) (c : NodeCommand) : Prop where
  registered : t.Registered c.commandId
  kind : (t.columns c.commandId).kind = c.kind

/-- What a row tells is true. -/
def Honest (t : Facts) (id : String) (superseded : Bool) : Results.CommandStatus → Prop
  | .succeeded => t.Ended id .succeeded superseded
  | .failed => t.Configures id → t.Ended id .failed superseded
  | .pending | .delivered => True

/-- An answer on its way to its row. -/
structure Backed (t : Facts) (r : CommandResult) : Prop where
  registered : t.Registered r.commandId
  honest : t.Honest r.commandId r.superseded r.stored

/-- What a stream carries. -/
structure Carries (t : Facts) (x : Session) : Prop where
  commands : ∀ c ∈ x.commands, t.Known c
  replies : ∀ r ∈ x.replies, t.Backed r

/-- An answer on its way to the request that waits; the row shows it already. -/
structure Told (t : Facts) (r : CommandResult) : Prop where
  registered : t.Registered r.commandId
  ended : r.status = .succeeded → t.Ended r.commandId .succeeded r.superseded
  shown : r.status = .succeeded → t.Configures r.commandId → t.Shown r.commandId

/-- What is there stays: columns, final rows, and noted results. -/
structure Grows (t t' : Facts) : Prop where
  columns : ∀ id, t.Registered id → t'.columns id = t.columns id
  received : ∀ id r, t.received id = some (.finished r) → t'.received id = some (.finished r)
  rows : ∀ row ∈ t.commands, ∃ row' ∈ t'.commands, row'.commandId = row.commandId ∧
    (row.status.final = true → row' = row)

/-- Rows are not deleted. -/
lemma Registered.mono (registered : t.Registered id) (grows : Grows t t') : t'.Registered id := by
  obtain ⟨row, mem, named⟩ := registered
  obtain ⟨row', mem', named', -⟩ := grows.rows row mem
  exact ⟨row', mem', named'.trans named⟩

/-- The type of a command does not change. -/
lemma Registered.configures (registered : t.Registered id) (grows : Grows t t') :
    t'.Configures id ↔ t.Configures id := by
  rw [Configures, grows.columns id registered, Configures]

/-- Noted results stay. -/
lemma Ended.mono {status : Results.ResultStatus} {superseded : Bool} (ended : t.Ended id status superseded)
    (grows : Grows t t') : t'.Ended id status superseded := by
  obtain ⟨r, is, rest⟩ := ended
  exact ⟨r, grows.received id r is, rest⟩

/-- What a row says stays true. -/
lemma Honest.mono {status : Results.CommandStatus} {superseded : Bool} (honest : t.Honest id superseded status)
    (registered : t.Registered id) (grows : Grows t t') : t'.Honest id superseded status := by
  cases status with
  | succeeded => exact Ended.mono honest grows
  | failed => exact fun configures => (honest ((registered.configures grows).mp configures)).mono grows
  | pending | delivered => trivial

/-- A command stays known. -/
lemma Known.mono (known : t.Known c) (grows : Grows t t') : t'.Known c :=
  ⟨known.registered.mono grows, (congrArg Columns.kind (grows.columns _ known.registered)).trans known.kind⟩

/-- A result stays backed. -/
lemma Backed.mono (backed : t.Backed r) (grows : Grows t t') : t'.Backed r :=
  ⟨backed.registered.mono grows, backed.honest.mono backed.registered grows⟩

/-- What was told stays true. -/
lemma Told.mono (told : t.Told r) (grows : Grows t t') : t'.Told r := by
  refine ⟨told.registered.mono grows, fun success => (told.ended success).mono grows, fun success configures => ?_⟩
  obtain ⟨row, mem, named, succeeded⟩ := told.shown success ((told.registered.configures grows).mp configures)
  obtain ⟨_, mem', -, same⟩ := grows.rows row mem
  cases same (Results.final_of_succeeded succeeded)
  exact ⟨row, mem', named, succeeded⟩

end Facts

/-- Everything in `s`, as far as `t` tells, after a run that began with the node `n₀`. -/
structure Holds (n₀ : Results.Node) (s : State) (t : Facts) : Prop where
  good : Results.Good n₀ s.node
  edge : s.edge.Sound
  rows : ∀ row ∈ s.node.commands, t.Honest row.commandId row.superseded row.status
  handling : ∀ h, s.edge.handling = some h → t.Known h.command
  session : ∀ x, s.session = some x → t.Carries x
  dispatching : ∀ c ∈ s.dispatching, t.Known c
  telemetryJobs : ∀ r ∈ s.telemetryJobs, t.Backed r
  waiters : ∀ id r, s.waiters id = some (some r) → r.commandId = id ∧ t.Told r
  confirmed : ∀ r ∈ s.confirmed, r.status = .succeeded ∧ t.Told r

/-- The invariant. -/
abbrev Sound (n₀ : Results.Node) (s : State) : Prop := Holds n₀ s s.facts

variable {n₀ : Results.Node}

/-- Messages stay sound when the facts grow. -/
lemma Sound.grow {t : Facts} (sound : Sound n₀ s) (grows : Facts.Grows s.facts t) : Holds n₀ s t where
  good := sound.good
  edge := sound.edge
  rows row mem := (sound.rows row mem).mono ⟨row, mem, rfl⟩ grows
  handling h is := (sound.handling h is).mono grows
  session x is := ⟨fun c mem => ((sound.session x is).commands c mem).mono grows,
    fun r mem => ((sound.session x is).replies r mem).mono grows⟩
  dispatching c mem := (sound.dispatching c mem).mono grows
  telemetryJobs r mem := (sound.telemetryJobs r mem).mono grows
  waiters id r is := ⟨(sound.waiters id r is).1, (sound.waiters id r is).2.mono grows⟩
  confirmed r mem := ⟨(sound.confirmed r mem).1, (sound.confirmed r mem).2.mono grows⟩

/-! ## The rows -/

/-- The rows change, and nothing else does. -/
lemma Sound.of_rows (sound : Sound n₀ s) {node : Results.Node} (good : Results.Good n₀ node)
    (moves : Results.Moves s.node.commands node.commands)
    (rows : ∀ row ∈ node.commands, row ∈ s.node.commands ∨
      s.facts.Honest row.commandId row.superseded row.status ∧ s.facts.Registered row.commandId) :
    Sound n₀ { s with node } ∧ Facts.Grows s.facts (State.facts { s with node }) := by
  have grows : Facts.Grows s.facts (State.facts { s with node }) := by
    refine ⟨fun _ _ => rfl, fun _ _ is => is, fun row mem => ?_⟩
    obtain ⟨row', mem', follows⟩ := moves.forward row mem
    exact ⟨row', mem', follows.commandId, follows.final⟩
  have kept := sound.grow grows
  refine ⟨{ kept with good, rows := fun row mem => ?_ }, grows⟩
  obtain old | ⟨new, registered⟩ := rows row mem
  · exact kept.rows row old
  · exact new.mono registered grows

/-- A row is marked as sent. -/
lemma sound_mark (id : String) (marked : Bool) (sound : Sound n₀ s) :
    Sound n₀ (s.mark id marked) ∧ Facts.Grows s.facts (s.mark id marked).facts := by
  unfold State.mark
  split
  · have keeps : Table.KeepsKeys Results.NodeCommand.deliver := fun _ _ => Iff.rfl
    have delivers : Results.step s.node (.deliver id) = some (Results.markNodeCommandDelivered s.node id) := rfl
    refine @Sound.of_rows _ _ sound _ (sound.good.step (a := .deliver id) trivial delivers).1
      (@Results.moves_update _ _ _ keeps fun c mem hit => ?_) fun row mem => ?_
    · rw [Bool.and_eq_true, decide_eq_true_eq, decide_eq_true_eq] at hit
      refine ⟨rfl, rfl, rfl, rfl, fun final => ?_⟩
      rw [hit.2] at final
      cases final
    · change row ∈ s.node.commands.update _ _ keeps at mem
      obtain ⟨c, stored, rfl⟩ := mem_update.mp mem
      unfold Table.rewrite
      split
      · exact .inr ⟨trivial, c, stored, rfl⟩
      · exact .inl stored
  · exact ⟨sound, fun _ _ => rfl, fun _ _ is => is, fun row mem => ⟨row, mem, rfl, fun _ => rfl⟩⟩

/-- What Go `CompleteNodeCommand` does to the rows. -/
lemma completed_cases {n n' : Results.Node} {result : Results.CommandResult}
    (e : Results.completeNodeCommand n id result = some n') :
    ∃ c ∈ n.commands, c.commandId = id ∧
      (c.status.final = true ∧ n'.commands = n.commands ∨ c.status.final = false ∧
        n'.commands = n.commands.update (·.commandId = id) (Results.NodeCommand.complete result)) := by
  unfold Results.completeNodeCommand at e
  split at e
  · cases e
  · rename_i c found
    have named := find?_prop found
    rw [decide_eq_true_eq] at named
    have mem := mem_of_find? found
    split at e
    · rename_i final
      cases e
      exact ⟨c, mem, named, .inl ⟨final, rfl⟩⟩
    · rename_i running
      rw [Bool.not_eq_true] at running
      dsimp only at e
      repeat' split at e
      all_goals cases e
      all_goals exact ⟨c, mem, named, .inr ⟨running, rfl⟩⟩

/-- A result is stored. If it is final, then so is the row. -/
lemma sound_complete {node : Results.Node} (sound : Sound n₀ s) (backed : s.facts.Backed r)
    (e : Results.completeNodeCommand s.node r.commandId r.toCommandResult = some node) :
    Sound n₀ { s with node } ∧ Facts.Grows s.facts (State.facts { s with node }) ∧
      (r.Final → ∃ row ∈ node.commands, row.commandId = r.commandId ∧ row.status.final = true) := by
  have completes : Results.step s.node (.complete r.commandId r.toCommandResult false) = some node :=
    congrArg some (congrArg (Option.getD · s.node) e)
  obtain ⟨good, -⟩ := sound.good.step (a := .complete _ _ _) trivial completes
  obtain ⟨c, mem, named, ⟨done, same⟩ | ⟨running, eq⟩⟩ := completed_cases e
  · obtain ⟨sound', grows⟩ := sound.of_rows good
      (by rw [same]; exact ⟨fun c mem => ⟨c, mem, .refl⟩, fun c mem => ⟨c, mem, .refl⟩⟩)
      fun row mem => .inl (same ▸ mem)
    exact ⟨sound', grows, fun _ => ⟨c, same ▸ mem, named, done⟩⟩
  · obtain ⟨sound', grows⟩ := sound.of_rows good
      (by rw [eq]; exact Results.moves_complete mem named running) fun row mem' => by
        rw [eq] at mem'
        obtain ⟨c', stored, rfl⟩ := mem_update.mp mem'
        unfold Table.rewrite
        split
        · rename_i hit
          have named : c'.commandId = r.commandId := of_decide_eq_true hit
          exact .inr ⟨named ▸ backed.honest, c', stored, rfl⟩
        · exact .inl stored
    refine ⟨sound', grows, fun final => ⟨c.complete r.toCommandResult, ?_, named, ?_⟩⟩
    · rw [eq]
      refine mem_update.mpr ⟨c, mem, ?_⟩
      rw [Table.rewrite, if_pos (decide_eq_true named)]
    · change r.stored.final = true
      obtain status | status := final <;> rw [Results.CommandResult.stored, status] <;> rfl

/-! ## The steps -/

/-- A command is put on the stream. -/
lemma sound_sendCommand {full : Bool} (sound : Sound n₀ s) (known : s.facts.Known c) :
    Sound n₀ (s.sendCommand c full) := by
  have source : ∀ x, (s.sendCommand c full).session = some x →
      ∃ x₀, s.session = some x₀ ∧ { x₀ with commands := x₀.commands ++ [c] } = x := by
    intro x is
    obtain ⟨-, is⟩ := ite_none_left_eq_some.mp is
    exact map_eq_some_iff.mp is
  refine { sound with session := fun x is => ?_ }
  obtain ⟨x₀, before, rfl⟩ := source x is
  refine ⟨fun c' mem => ?_, (sound.session x₀ before).replies⟩
  obtain old | new := mem_append.mp mem
  · exact (sound.session x₀ before).commands c' old
  · exact mem_singleton.mp new ▸ known

/-- A command is sent and marked. -/
lemma sound_sendAndMark {full marked : Bool} (sound : Sound n₀ s) (known : s.facts.Known c) :
    Sound n₀ (s.sendAndMark c full marked) := by
  unfold State.sendAndMark
  split
  · exact sound
  · split
    · exact sound_sendCommand sound known
    · exact (sound_mark _ _ (sound_sendCommand sound known)).1

/-- The entry of one request changes. -/
lemma sound_waiter (sound : Sound n₀ s) {waiter : Option (Option CommandResult)}
    (told : ∀ r, waiter = some (some r) → r.commandId = id ∧ s.facts.Told r) :
    Sound n₀ { s with waiters := update s.waiters id waiter } := by
  refine { sound with waiters := fun id' r is => ?_ }
  change update s.waiters id waiter id' = _ at is
  by_cases same : id' = id
  · subst same
    rw [update_self] at is
    exact told r is
  · rw [update_of_ne same] at is
    exact sound.waiters id' r is

/-- An answer reaches the request that waits. -/
lemma sound_deliverCommandResult (sound : Sound n₀ s) (told : s.facts.Told r) :
    Sound n₀ (s.deliverCommandResult r) := by
  unfold State.deliverCommandResult
  split
  · refine sound_waiter sound fun r' is => ?_
    cases is
    exact ⟨rfl, told⟩
  · exact sound

/-- The stored row of a configuration says what the edge has noted. -/
lemma told_complete {node : Results.Node} (sound : Sound n₀ s) (backed : s.facts.Backed r)
    (e : Results.completeNodeCommand s.node r.commandId r.toCommandResult = some node) :
    (State.facts { s with node }).Told r := by
  obtain ⟨sound', grows, final⟩ := sound_complete sound backed e
  have ended (success : r.status = .succeeded) :
      (State.facts { s with node }).Ended r.commandId .succeeded r.superseded := by
    have honest := backed.honest
    rw [Results.CommandResult.stored, success] at honest
    exact Facts.Ended.mono honest grows
  refine ⟨backed.registered.mono grows, ended, fun success configures => ?_⟩
  obtain ⟨row, mem, named, done⟩ := final (.inl success)
  refine ⟨row, mem, named, ?_⟩
  have honest := sound'.rows row mem
  cases status : row.status with
  | succeeded => rfl
  | failed =>
    -- the edge has noted one result only
    rw [status, named] at honest
    obtain ⟨_, is₁, failed, -⟩ := honest configures
    obtain ⟨_, is₂, succeeded, -⟩ := ended success
    cases is₁.symm.trans is₂
    cases failed.symm.trans succeeded
  | pending | delivered => cases status ▸ done

/-- A backed result is stored with its row. -/
lemma sound_completeNodeCommand (outcome : Outcome) (sound : Sound n₀ s) (backed : s.facts.Backed r) :
    Sound n₀ (s.completeNodeCommand r outcome).1 ∧
      (s.completeNodeCommand r outcome).1.facts.Registered r.commandId ∧
      ((s.completeNodeCommand r outcome).2 = true → (s.completeNodeCommand r outcome).1.facts.Told r) := by
  unfold State.completeNodeCommand
  split
  · rename_i node e
    exact ⟨(sound_complete sound backed e).1, backed.registered.mono (sound_complete sound backed e).2.1,
      fun _ => told_complete sound backed e⟩
  · rename_i node e
    exact ⟨(sound_complete sound backed e).1, backed.registered.mono (sound_complete sound backed e).2.1,
      nofun⟩
  · exact ⟨sound, backed.registered, nofun⟩

/-- A registered command has a row. -/
lemma row_isSome (registered : s.facts.Registered id) : (s.row id).isSome = true := by
  obtain ⟨row, mem, named⟩ := registered
  rw [State.row, isSome_iff_ne_none, ne_eq, find?_none]
  exact fun absent => absurd (decide_eq_true named) (absent row mem ▸ Bool.false_ne_true)

/-- A result is stored and passed on. -/
lemma sound_persistControlData {outcome : Outcome} (sound : Sound n₀ s) (backed : s.facts.Backed r) :
    Sound n₀ (s.persistControlData r outcome) := by
  obtain ⟨sound', registered, told⟩ := sound_completeNodeCommand outcome sound backed
  have found : (s.row r.commandId).isNone = false := by
    rw [← not_isSome, row_isSome backed.registered]
    rfl
  unfold State.persistControlData
  dsimp only
  rw [found, Bool.or_false]
  refine sound_deliverCommandResult sound' ?_
  split
  · rename_i stored
    exact told stored
  · exact ⟨registered, nofun, nofun⟩

/-- A success is told to the administrator. -/
lemma sound_confirmed (sound : Sound n₀ s) (told : s.facts.Told r) (succeeded : r.status = .succeeded) :
    Sound n₀ { s with confirmed := r :: s.confirmed } := by
  refine { sound with confirmed := fun r' mem => ?_ }
  obtain rfl | old := mem_cons.mp mem
  · exact ⟨succeeded, told⟩
  · exact sound.confirmed r' old

/-- A request reads its answer. -/
lemma sound_receive {outcome : Outcome} (sound : Sound n₀ s) (told : s.facts.Told r) :
    Sound n₀ (s.receive r outcome) := by
  have quiet : Sound n₀ { s with waiters := update s.waiters r.commandId none } :=
    sound_waiter sound nofun
  unfold State.receive
  dsimp only
  by_cases configures : (s.columns r.commandId).kind.configuration = true
  · rw [if_pos configures, Bool.true_and]
    obtain ⟨marked, grows⟩ := sound_mark r.commandId (outcome ≠ .rolledBack) quiet
    split
    · rename_i succeeded
      exact sound_confirmed marked (told.mono grows) (of_decide_eq_true succeeded)
    · exact marked
  · rw [if_neg configures]
    have backed : s.facts.Backed r := by
      refine ⟨told.registered, ?_⟩
      rw [Results.CommandResult.stored]
      cases status : r.status with
      | succeeded => exact told.ended status
      | failed | unknown => exact fun configures' => absurd configures' configures
      | retry => trivial
    obtain ⟨sound', -, told'⟩ := sound_completeNodeCommand outcome quiet backed
    split
    · rename_i both
      rw [Bool.and_eq_true, decide_eq_true_eq] at both
      exact sound_confirmed sound' (told' both.1) both.2
    · exact sound'

/-- The edge has taken a step for a command. -/
lemma sound_answer {out : Edge × Option CommandResult} (sound : Sound n₀ s) (known : s.facts.Known c)
    (moves : Edge.Moves s.edge c out) : Sound n₀ (s.answer out) := by
  have grows : Facts.Grows s.facts (s.answer out).facts :=
    ⟨fun _ _ => rfl, moves.kept, fun row mem => ⟨row, mem, rfl, fun _ => rfl⟩⟩
  have kept := sound.grow grows
  obtain ⟨e, _ | r⟩ := out
  · exact { kept with edge := moves.sound, handling := fun h is => moves.command h is ▸ known.mono grows }
  · have backed : (s.answer (e, some r)).facts.Backed r := by
      obtain ⟨named, how⟩ := moves.reply r rfl
      refine ⟨named ▸ (known.mono grows).registered, ?_⟩
      rw [Results.CommandResult.stored]
      obtain again | record | ⟨failed, ordinary⟩ := how
      · rw [again]
        trivial
      · obtain status | status := (moves.sound.book.ended _ _ record).final <;> rw [status]
        · exact ⟨r, record, status, rfl⟩
        · exact fun _ => ⟨r, record, status, rfl⟩
      · rw [failed]
        intro configures
        rw [Facts.Configures, named, (known.mono grows).kind, ordinary] at configures
        cases configures
    refine { kept with
      edge := moves.sound, handling := fun h is => moves.command h is ▸ known.mono grows
      session := fun x is => ?_ }
    obtain ⟨x₀, before, rfl⟩ := map_eq_some_iff.mp is
    refine ⟨(kept.session x₀ before).commands, fun r' mem => ?_⟩
    obtain old | new := mem_append.mp mem
    · exact (kept.session x₀ before).replies r' old
    · exact mem_singleton.mp new ▸ backed

/-- A new command has a row of its own. -/
lemma sound_create {commandId : String} {columns : Columns} {revision : Nat} {settings : Config.NodeRuntimeConfig}
    (sound : Sound n₀ s) (st : step s (.create commandId columns revision settings) = some s') : Sound n₀ s' := by
  obtain ⟨unused, st⟩ := Option.ite_none_left_eq_some.mp st
  obtain ⟨commands, inserted, e⟩ := Option.bind_eq_some_iff.mp st
  have good : Results.Good n₀ { s.node with commands } := by
    refine (sound.good.step (a := .create _ _ _ _) (fun runtime => ?_) (congrArg (Option.map _) inserted)).1
    have kind : columns.kind = .updateEdgeRuntimeSettings := by
      by_contra other
      rw [if_neg other] at runtime
      cases runtime
    rw [kind]
    exact ⟨rfl, rfl, fun c mem _ same => unused (Table.any_eq_true.mpr ⟨c, mem, decide_eq_true same⟩)⟩
  have grows : Facts.Grows s.facts ⟨commands, Function.update s.columns commandId columns, s.edge.received⟩ := by
    refine ⟨fun id registered => Function.update_of_ne ?_ _ _, fun _ _ is => is, fun row mem => ?_⟩
    · rintro rfl
      obtain ⟨row, mem, named⟩ := registered
      exact Table.fresh_of_insert inserted mem named
    · exact ⟨row, (Table.mem_insert inserted).mpr (.inl mem), rfl, fun _ => rfl⟩
  have kept := sound.grow grows
  cases e
  refine { kept with good, rows := fun row mem => ?_ }
  obtain old | rfl := (Table.mem_insert inserted).mp mem
  · exact kept.rows row old
  · trivial

/-- The command of a row is known. -/
lemma known_command {row : Results.NodeCommand} (mem : row ∈ s.node.commands) :
    s.facts.Known (s.command row.commandId) := ⟨⟨row, mem, rfl⟩, rfl⟩

/-- The command of a row that was found is known. -/
lemma known_of_row {row : Results.NodeCommand} (found : s.row id = some row) : s.facts.Known (s.command id) := by
  have named := find?_prop found
  rw [decide_eq_true_eq] at named
  exact named ▸ known_command (mem_of_find? found)

/-- Each step is sound. -/
lemma sound_step {a : Action} (sound : Sound n₀ s) (st : step s a = some s') : Sound n₀ s' := by
  cases a with
  | create => exact sound_create sound st
  | call commandId full =>
    obtain ⟨_, found, st⟩ := bind_eq_some_iff.mp st
    obtain ⟨-, st⟩ := ite_none_left_eq_some.mp st
    have sent (full : Bool) : Sound n₀ (s.sendCommand (s.command commandId) full) :=
      sound_sendCommand sound (known_of_row found)
    split at st
    · cases st
      exact sent true
    · cases st
      exact sound_waiter (sent false) nofun
  | timeout commandId =>
    cases st
    have quiet : Sound n₀ { s with waiters := update s.waiters commandId none } :=
      sound_waiter sound nofun
    split
    · exact (sound_mark _ _ quiet).1
    · exact quiet
  | receive commandId =>
    obtain ⟨r, waits, st⟩ := bind_eq_some_iff.mp st
    cases st
    exact sound_receive sound (sound.waiters commandId r (join_eq_some_iff.mp waits)).2
  | send =>
    obtain ⟨_, found, st⟩ := bind_eq_some_iff.mp st
    obtain ⟨-, st⟩ := ite_none_left_eq_some.mp st
    cases st
    exact sound_sendAndMark sound (known_of_row found)
  | connect =>
    obtain ⟨-, e⟩ := ite_none_right_eq_some.mp st
    cases e
    refine { sound with session := fun x is => ?_ }
    cases is
    exact ⟨nofun, nofun⟩
  | disconnect =>
    cases st
    exact { sound with session := nofun }
  | restart =>
    cases st
    exact { sound with
      session := nofun, waiters := fun _ _ h => (nomatch h)
      dispatching := nofun, telemetryJobs := nofun }
  | crash =>
    cases st
    exact { sound with
      edge := .idle sound.edge.book rfl, handling := fun _ h => (nomatch h), session := nofun }
  | list =>
    cases st
    refine { sound with dispatching := fun c mem => ?_ }
    obtain old | new := mem_append.mp mem
    · exact sound.dispatching c old
    · obtain ⟨_, listed, rfl⟩ := mem_map.mp new
      exact known_command (mem_filter.mp ((mem_insertionSort _).mp (mem_of_mem_take listed))).1
  | dispatch i =>
    obtain ⟨c, at_, st⟩ := bind_eq_some_iff.mp st
    cases st
    exact sound_sendAndMark (s := { s with dispatching := s.dispatching.eraseIdx i })
      { sound with dispatching := fun c mem => sound.dispatching c (mem_of_mem_eraseIdx mem) }
      (sound.dispatching c (mem_of_getElem? at_))
  | start fails =>
    obtain ⟨x, is, st⟩ := bind_eq_some_iff.mp st
    split at st
    · rename_i c commands queue idle
      cases st
      have known := (sound.session x is).commands
      rw [queue] at known
      refine sound_answer (s := { s with session := some { x with commands } })
        { sound with session := fun x' is' => ?_ } (known c mem_cons_self) (Edge.moves_start fails sound.edge)
      cases is'
      exact ⟨fun c' mem => known c' (mem_cons_of_mem c mem), (sound.session x is).replies⟩
    · cases st
  | edge =>
    obtain ⟨_, stepped, st⟩ := bind_eq_some_iff.mp st
    cases st
    obtain ⟨h, at_, moves⟩ := Edge.moves_step sound.edge stepped
    exact sound_answer sound (sound.handling h at_) moves
  | arrive =>
    obtain ⟨x, is, st⟩ := bind_eq_some_iff.mp st
    split at st
    · cases st
    · rename_i r replies queue
      have backed := (sound.session x is).replies
      rw [queue] at backed
      have rest : Sound n₀ { s with session := some { x with replies } } := by
        refine { sound with session := fun x' is' => ?_ }
        cases is'
        exact ⟨(sound.session x is).commands, fun r' mem => backed r' (mem_cons_of_mem r mem)⟩
      cases st
      split
      · exact sound_deliverCommandResult rest ⟨(backed r mem_cons_self).registered, nofun, nofun⟩
      · refine { rest with telemetryJobs := fun r' mem => ?_ }
        obtain rfl | old := mem_cons.mp mem
        · exact backed r' mem_cons_self
        · exact sound.telemetryJobs r' old
  | persist i =>
    obtain ⟨r, at_, st⟩ := bind_eq_some_iff.mp st
    cases st
    exact sound_persistControlData (s := { s with telemetryJobs := s.telemetryJobs.eraseIdx i })
      { sound with telemetryJobs := fun r mem => sound.telemetryJobs r (mem_of_mem_eraseIdx mem) }
      (sound.telemetryJobs r (mem_of_getElem? at_))

/-- Every run is sound. -/
lemma sound_of_run {s₀ : State} {as : List Action} (init : machine.Init s₀) (run : machine.run s₀ as = some s) :
    Sound s₀.node s := by
  refine machine.invariant (I := Sound s₀.node) (fun _ _ _ sound st => sound_step sound st) ?_ run
  obtain ⟨_, rfl⟩ := init
  exact ⟨.init ⟨rfl, rfl, rfl⟩, .idle ⟨fun _ _ h => (nomatch h), nofun, .nil⟩ rfl,
    fun _ mem => absurd mem not_mem_nil, fun _ h => (nomatch h), nofun, nofun, nofun, fun _ _ h => (nomatch h), nofun⟩

/-- Every reachable state is sound. -/
lemma sound_of_reachable (reach : machine.Reachable s) : ∃ n₀, Sound n₀ s := by
  obtain ⟨_, as, init, run⟩ := reach
  exact ⟨_, sound_of_run init run⟩

/-- After every run, whatever was lost, repeated or stopped on the way: a row that tells of a success is that of a
command whose success the edge has noted; the row of a configuration tells of a failure only if the edge has noted that;
and an administrator who was told that a command is done was told the truth, about the row as well if it is a
configuration. A noted success is that of an execution, or of a configuration that came too late. -/
theorem answers_truthful (reach : machine.Reachable s) :
    (∀ row ∈ s.node.commands, row.status = .succeeded →
      s.facts.Ended row.commandId .succeeded row.superseded) ∧
    (∀ row ∈ s.node.commands, row.status = .failed → s.facts.Configures row.commandId →
      s.facts.Ended row.commandId .failed row.superseded) ∧
    (∀ r ∈ s.confirmed, s.facts.Ended r.commandId .succeeded r.superseded ∧
      (s.facts.Configures r.commandId → s.facts.Shown r.commandId)) ∧
    ∀ id r, s.edge.received id = some (.finished r) → r.status = .succeeded →
      r.superseded = true ∨ .executed id ∈ s.edge.log := by
  obtain ⟨_, sound⟩ := sound_of_reachable reach
  refine ⟨fun row mem status => ?_, fun row mem status => ?_, fun r mem => ?_,
    fun id r is => (sound.edge.book.ended id r is).earned⟩
  · have honest := sound.rows row mem
    rwa [status] at honest
  · have honest := sound.rows row mem
    rwa [status] at honest
  · obtain ⟨succeeded, told⟩ := sound.confirmed r mem
    exact ⟨told.ended succeeded, told.shown succeeded⟩

def sampleStart : State := { node := { entry := ⟨"edge", "", true⟩ } }

def sampleColumns : Columns := { kind := .updateEdgeRuntimeSettings, expiresAt := 600, createdAt := 0 }

/-- A configuration is sent, executed, answered, and sent again. -/
def sampleActions : List Action :=
  [.create "c" sampleColumns 1 {}, .connect, .call "c" false, .list 0, .start none, .edge (.execute 0 none),
    .edge (.finish none), .arrive false, .persist 0 .committed, .receive "c" .committed, .dispatch 0 false true,
    .start none]

def sampleState : State := (machine.run sampleStart sampleActions).getD sampleStart

lemma sampleStart_init : machine.Init sampleStart := ⟨_, rfl⟩

lemma sampleState_run : machine.run sampleStart sampleActions = some sampleState := rfl

lemma sampleState_reachable : machine.Reachable sampleState := ⟨_, _, sampleStart_init, sampleState_run⟩

/-- The row tells of a success, and the directory shows it. -/
theorem answers_truthful_sampleState :
    sampleState.facts.Ended "c" .succeeded false ∧ sampleState.facts.Shown "c" := by
  obtain ⟨-, -, confirmed, -⟩ := answers_truthful sampleState_reachable
  obtain ⟨ended, shown⟩ := confirmed ((sampleState.command "c").succeeded false) mem_cons_self
  exact ⟨ended, shown rfl⟩

/-- After its enrollment, nothing but settings that the edge has executed changes the entry of a node: after every run
the entry is what it was at first, or it shows the settings of a command that the edge has executed with success. -/
theorem directory_shows_executed {s₀ : State} {as : List Action} (init : machine.Init s₀)
    (run : machine.run s₀ as = some s) :
    s.node.entry = s₀.node.entry ∨ ∃ row ∈ s.node.commands, row.Applied ∧
      s.facts.Ended row.commandId .succeeded false ∧ .executed row.commandId ∈ s.edge.log ∧
      ∃ settings, row.node = some settings ∧ s.node.entry = Results.entryOf settings := by
  have sound := sound_of_run init run
  cases shown : s.node.shown with
  | none => exact .inl (sound.good.initial shown)
  | some revision =>
    obtain ⟨row, mem, applied, -, settings⟩ := sound.good.shows revision shown
    have ended := sound.rows row mem
    rw [applied.2.1, applied.2.2] at ended
    refine .inr ⟨row, mem, applied, ended, ?_, settings⟩
    obtain ⟨_, noted, succeeded, current⟩ := ended
    obtain superseded | executed := (sound.edge.book.ended _ _ noted).earned succeeded
    · cases current.symm.trans superseded
    · exact executed

/-- The command that is shown was executed. -/
theorem directory_shows_executed_sampleState :
    ∃ row ∈ sampleState.node.commands, .executed row.commandId ∈ sampleState.edge.log := by
  obtain same | ⟨row, mem, -, -, executed, -⟩ := directory_shows_executed sampleStart_init sampleState_run
  · exact absurd (congrArg Results.Entry.name same : "" = "edge") (by decide)
  · exact ⟨row, mem, executed⟩

/-- Once the edge has noted the result of a command, the command is not executed any more, whatever copies of it are
under way and after any restarts: in the history of every run the noted result is the only
one, and it is followed by no execution of the command and by no other answer to it than that result or the request to
send the command again. -/
theorem noted_command_never_repeats (reach : machine.Reachable s) {later earlier : List Event}
    (history : s.edge.log = later ++ .noted r :: earlier) :
    s.edge.received r.commandId = some (.finished r) ∧ .executed r.commandId ∉ later ∧
      (∀ r', .noted r' ∈ later ++ earlier → r'.commandId ≠ r.commandId) ∧
      ∀ r', .answered r' ∈ later → r'.commandId = r.commandId → r' = r ∨ r'.status = .retry := by
  obtain ⟨_, sound⟩ := sound_of_reachable reach
  have book := sound.edge.book
  have ordered := book.ordered
  rw [history, pairwise_append, pairwise_cons] at ordered
  obtain ⟨-, ⟨before, -⟩, across⟩ := ordered
  have sealed : ∀ event ∈ later, Sealed r event := fun event mem => across event mem _ mem_cons_self r rfl
  refine ⟨book.noted r ?_, fun mem => sealed _ mem rfl, fun r' mem => ?_, fun r' mem => sealed _ mem⟩
  · rw [history]
    exact mem_append_right _ mem_cons_self
  · obtain new | old := mem_append.mp mem
    · exact sealed _ new
    · exact (before _ old r' rfl).symm

/-- The second copy is answered with the note. -/
theorem noted_command_never_repeats_sampleState :
    let r := (sampleState.command "c").succeeded false
    sampleState.edge.log = [.answered r, .answered r] ++ .noted r :: [.executed "c"] ∧
      sampleState.edge.received "c" = some (.finished r) := by
  intro r
  have history : sampleState.edge.log = [.answered r, .answered r] ++ .noted r :: [.executed "c"] := rfl
  exact ⟨history, (noted_command_never_repeats sampleState_reachable history).1⟩

end MeowFrp.Cluster.Dispatch
