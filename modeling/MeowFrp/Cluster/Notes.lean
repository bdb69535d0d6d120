import MeowFrp.Cluster.Transfer
import MeowFrp.Cluster.Turns

/-!
# What precedes a note

What must have happened before the edge notes an event: a welcome is noted once, a cache is reset after its
welcome, and a page is confirmed after it was applied. With them go the facts about streams that the order
of messages rests on: a stream that was not registered is untouched.
-/

namespace MeowFrp.Cluster.State

open List

variable {Byte : Type}

/-- The message was on the stream, or the controller has put it there. -/
inductive Placed (s : State Byte) (k : Nat) : DownMsg Byte → Prop
  | old {m} (mem : m ∈ (s.conns k).content) : Placed s k m
  | welcome {fault} : Placed s k (.welcome (s.nextId k) fault)
  | chunk {epoch revision sequence index total data} :
      Placed s k (.identityChunk epoch revision sequence index total data)
  | confirmed {epoch revision complete} (job : .identityAck epoch revision ∈ (s.conns k).inbound) :
      Placed s k (.identityConfirmed epoch revision complete)

/-- What the events before a note say. -/
def Heeds (before : List (Event Byte)) : Event Byte → Prop
  | .welcomed e => .welcomed e ∉ before
  | .reset e => .welcomed e ∈ before
  | .confirmed e r _ => ∃ b, .applied e r b ∈ before
  | _ => True

/-- Every note heeds the events before it. -/
def Heeded (log : List (Event Byte)) : Prop := ∀ ev before, ev :: before <:+ log → Heeds before ev

variable {codec : Codec Byte} {nodeId : String} {s s' : State Byte} {k : Nat}

lemma heeded_cons {ev : Event Byte} {log} (now : Heeds log ev) (heeded : Heeded log) :
    Heeded (ev :: log) := by
  intro ev' before suffix
  rcases suffix_cons_iff.mp suffix with same | later
  · cases same
    exact now
  · exact heeded ev' before later

/-- The current stream is registered, and unregistered ones are untouched. -/
structure Opened (s : State Byte) : Prop where
  current : ∀ k, s.current = some k → (s.conns k).registered = true
  streams : ∀ k, (s.conns k).registered = true → k < s.streams
  unheard : ∀ k, (s.conns k).registered = false → (s.conns k).heard = [] ∧ (s.conns k).reply = none
  answers : ∀ k m, (s.conns k).reply = some m → m.answers = true

/-- The invariants of this module. -/
structure Noted (codec : Codec Byte) (s : State Byte) : Prop extends Transfer codec s, Opened s where
  welcomed : ∀ e, .welcomed e ∈ s.log →
    e.seq < (s.conns e.stream).drawn ∧ ∀ f, .welcome e f ∉ (s.conns e.stream).content
  resets : ∀ r, s.edge.link = some r → ∀ e, .cacheReset e ∈ r.todo → .welcomed e ∈ s.log
  answered : ∀ k e r complete, .identityConfirmed e r complete ∈ (s.conns k).content →
    ∃ b, .applied e r b ∈ s.log
  heeded : Heeded s.log

lemma Kind.suffix (kind : Kind codec nodeId s s') : s.log <:+ s'.log := by
  cases kind with
  | calm calm =>
    obtain ⟨_, log, _⟩ := calm.log
    rw [log]
    exact suffix_append _ _
  | enqueued | recorded | welcomed | resetDone | appliedDone => exact suffix_cons _ _
  | _ => exact suffix_rfl

/-- What a step puts on a stream. -/
lemma Kind.placed (kind : Kind codec nodeId s s') {m} (mem : m ∈ (s'.conns k).content) : Placed s k m := by
  have put : ∀ {j} {c : Conn Byte}, m ∈ ((s.setConn j c).conns k).content →
      (m ∈ c.content → Placed s j m) → Placed s k m := fun mem here =>
    forall_setConn (Q := fun k c => m ∈ c.content → Placed s k m) (fun _ => .old) here k mem
  cases kind with
  | calm calm => exact .old ((calm.conns k).content.subset mem)
  | registered | prepared | dialed | reported => exact put mem fun here => .old here
  | drew _ _ _ _ _ _ content =>
    refine put mem fun here => ?_
    rcases mem_cons.mp (content.subset here) with rfl | old
    · exact .welcome
    · exact .old old
  | enqueued _ _ _ _ _ _ content =>
    refine put mem fun here => ?_
    rcases mem_cons.mp (content.subset here) with rfl | old
    · exact .chunk
    · exact .old old
  | advanced _ _ _ _ _ _ content =>
    refine put mem fun here => ?_
    rcases content with fewer | ⟨_, more⟩
    · exact .old (fewer.subset here)
    rcases mem_cons.mp (more.subset here) with rfl | old
    · exact .chunk
    · exact .old old
  | cleared _ _ _ _ _ _ _ _ content => exact put mem fun here => .old (content ▸ here)
  | recorded job here _ _ _ _ _ _ _ _ _ content =>
    refine put mem fun here => ?_
    rcases mem_cons.mp (content.subset here) with rfl | old
    · exact .confirmed job
    · exact .old old
  | welcomed _ _ _ within | collected _ _ _ _ _ within =>
    exact put mem fun here => .old (within.content.subset here)
  | _ => exact .old mem

lemma Placed.welcomes {e fault} (placed : Placed s k (.welcome e fault)) :
    .welcome e fault ∈ (s.conns k).content ∨ e = s.nextId k := by
  cases placed with
  | old mem => exact .inl mem
  | welcome => exact .inr rfl

lemma Placed.confirms {e r complete} (placed : Placed s k (.identityConfirmed e r complete)) :
    .identityConfirmed e r complete ∈ (s.conns k).content ∨ .identityAck e r ∈ (s.conns k).inbound := by
  cases placed with
  | old mem => exact .inl mem
  | confirmed job => exact .inr job

/-! ## Each step keeps the invariants -/

/-- The welcome of an epoch is processed once. -/
lemma Transfer.not_mem_content (inv : Transfer codec s) {e fault down}
    (queue : (s.conns k).down = .welcome e fault :: down) :
    e.stream = k ∧ e.seq < (s.conns k).drawn ∧ ∀ f, .welcome e f ∉ { s.conns k with down }.content := by
  have popped := Conn.content_pop queue rfl
  obtain ⟨rfl, drawn⟩ := (inv.wire k).welcome e fault (popped.subset mem_cons_self)
  refine ⟨rfl, drawn, fun f there => ?_⟩
  have one : ∀ fault, (DownMsg.welcome e fault : DownMsg Byte).welcomes e = true := fun _ => decide_eq_true rfl
  have two : 2 ≤ (s.conns e.stream).content.countP (DownMsg.welcomes e) := by
    refine le_trans ?_ (popped.countP_le _)
    rw [countP_cons_of_pos (one fault)]
    exact Nat.succ_le_succ (countP_pos_iff.mpr ⟨_, there, one f⟩)
  have linear : (s.conns e.stream).content.countP (DownMsg.welcomes e) + _ + _ ≤ 1 := inv.linear e
  omega

/-- An epoch is welcomed once. -/
lemma Noted.welcomed_step {a} (inv : Noted codec s) (kind : Kind codec nodeId s s') (turn : Turn s a s') :
    ∀ e, .welcomed e ∈ s'.log →
      e.seq < (s'.conns e.stream).drawn ∧ ∀ f, .welcome e f ∉ (s'.conns e.stream).content := by
  intro e mem
  rcases turn.mem_log rfl mem with old | ⟨r, _, down, _, queue, heard, rfl⟩
  · obtain ⟨drawn, absent⟩ := inv.welcomed e old
    refine ⟨Nat.lt_of_lt_of_le drawn (kind.drawn _), fun f there => ?_⟩
    rcases (kind.placed there).welcomes with before | new
    · exact absent f before
    · rw [new] at drawn
      exact Nat.lt_irrefl _ drawn
  · obtain ⟨f, rfl⟩ := DownMsg.heard_welcomed heard
    obtain ⟨_, conns⟩ := @receive_conns Byte s r (.welcome e f) down
    obtain ⟨stream, drawn, absent⟩ := inv.not_mem_content queue
    rw [conns, stream, setConn_self]
    exact ⟨drawn, absent⟩

/-- A reset follows its welcome. -/
lemma Noted.resets_step (inv : Noted codec s) (kind : Kind codec nodeId s s') :
    ∀ r, s'.edge.link = some r → ∀ e, .cacheReset e ∈ r.todo → .welcomed e ∈ s'.log := by
  have grows := kind.log
  intro r' link' e mem
  have keep : ∀ r, s.edge.link = some r → .cacheReset e ∈ r.todo → .welcomed e ∈ s'.log :=
    fun r link m => grows (inv.resets r link e m)
  cases kind with
  | calm calm =>
    obtain ⟨r, link, same⟩ := calm.edge.linked link'
    refine keep r link ?_
    unfold Receiver.todo at mem ⊢
    rw [same.applyJobs, same.worker] at mem
    exact mem
  | dialed =>
    cases link'
    cases mem
  | @welcomed r _ _ _ _ _ link _ _ _ _ link₁ =>
    cases link₁.symm.trans link'
    rcases mem_append.mp mem with queued | loaded
    · cases mem_singleton.mp queued
      exact mem_cons_self
    · exact keep r link (mem_append_right _ loaded)
  | @collected r _ _ _ _ index total _ _ link _ _ _ _ _ link₁ =>
    cases link₁.symm.trans link'
    rcases mem_append.mp mem with queued | loaded
    · change _ ∈ (if index + 1 = total then _ else r.applyJobs).toList at queued
      split at queued
      · cases mem_singleton.mp queued
      · exact keep r link (mem_append_left _ queued)
    · exact keep r link (mem_append_right _ loaded)
  | @taken r _ link _ slot =>
    cases link'
    refine keep r link ?_
    unfold Receiver.todo
    rw [slot]
    exact mem_append_left _ mem
  | resetDone link | appliedDone link | workerFailed link | reported link =>
    cases link'
    exact keep _ link ((List.Sublist.append_left (nil_sublist _) _).subset mem)
  | left => cases link'
  | discarded free => cases free.symm.trans link'
  | _ => exact keep r' link' mem

/-- What is confirmed was applied. -/
lemma Noted.answered_step (inv : Noted codec s) (kind : Kind codec nodeId s s') :
    ∀ k e r complete, .identityConfirmed e r complete ∈ (s'.conns k).content →
      ∃ b, .applied e r b ∈ s'.log := by
  intro k e r complete mem
  have before : ∃ b, .applied e r b ∈ s.log := by
    rcases (kind.placed mem).confirms with old | job
    · exact inv.answered k e r complete old
    · exact (inv.wire k).ack e r job
  obtain ⟨b, applied⟩ := before
  exact ⟨b, kind.log applied⟩

/-- A message that is processed heeds what has happened. -/
lemma Noted.heeds (inv : Noted codec s) {m ev down} (queue : (s.conns k).down = m :: down)
    (heard : m.heard = some ev) : Heeds s.log ev := by
  cases m with
  | welcome e fault =>
    cases heard
    intro before
    have mem := (Conn.content_pop queue rfl).subset mem_cons_self
    obtain ⟨rfl, _⟩ := (inv.wire k).welcome e fault mem
    exact (inv.welcomed e before).2 fault mem
  | identityConfirmed e r complete =>
    cases heard
    exact inv.answered k e r complete ((Conn.content_pop queue rfl).subset mem_cons_self)
  | controllerState fault =>
    cases fault with
    | true =>
      cases heard
      trivial
    | false => cases heard
  | _ => cases heard

/-- What is not noted heeds what has happened. -/
lemma Noted.heeded_step {a} (inv : Noted codec s) (kind : Kind codec nodeId s s') (turn : Turn s a s') :
    Heeded s'.log := by
  have unnoted : notes s'.log = notes s.log → Heeded s'.log := by
    intro same
    cases kind with
    | calm calm =>
      obtain ⟨more, log, note⟩ := calm.log
      have none : more = [] := by
        unfold notes at same
        rw [log, filter_append, filter_eq_self.mpr note] at same
        exact append_left_eq_self.mp same
      rw [log, none]
      exact inv.heeded
    | enqueued | recorded | appliedDone => exact heeded_cons trivial inv.heeded
    | welcomed => exact absurd same (cons_ne_self _ _)
    | @resetDone r epoch link worker =>
      refine heeded_cons (inv.resets r link epoch (mem_append_right _ ?_)) inv.heeded
      rw [worker]
      exact mem_singleton_self _
    | _ => exact inv.heeded
  obtain ⟨log, _⟩ | ⟨r, m, down, _, _, _, queue, rfl⟩ := turn.unnoted
  · exact unnoted log
  · rcases @receive_log Byte s r m down with log | ⟨log, _⟩
    · rw [log]
      cases heard : m.heard with
      | none => exact inv.heeded
      | some => exact heeded_cons (inv.heeds queue heard) inv.heeded
    · rw [log]
      exact inv.heeded

/-! ## The streams -/

/-- A stream is registered once. -/
lemma Kind.registers (kind : Kind codec nodeId s s') :
    (s'.conns k).registered = (s.conns k).registered ∨
      (s'.conns k).registered = true ∧ k < s.streams := by
  have put : ∀ {j} {c : Conn Byte}, c.registered = (s.conns j).registered ∨ c.registered = true ∧ j < s.streams →
      ((s.setConn j c).conns k).registered = (s.conns k).registered ∨
        ((s.setConn j c).conns k).registered = true ∧ k < s.streams := fun here =>
    forall_setConn (Q := fun k c => c.registered = (s.conns k).registered ∨ c.registered = true ∧ k < s.streams)
      (fun _ => .inl rfl) here k
  cases kind with
  | calm calm => exact .inl (calm.conns k).registered
  | registered opened => exact put (.inr ⟨rfl, opened⟩)
  | drew _ _ _ _ _ registered | enqueued _ _ _ _ _ registered | advanced _ _ _ _ _ registered
  | cleared _ _ _ _ _ _ _ registered => exact put (.inl registered)
  | prepared | dialed | reported => exact put (.inl rfl)
  | recorded _ _ _ _ _ _ _ _ _ _ registered => exact put (.inl registered)
  | welcomed _ _ _ within | collected _ _ _ _ _ within => exact put (.inl within.registered)
  | _ => exact .inl rfl

lemma Kind.streams (kind : Kind codec nodeId s s') : s.streams ≤ s'.streams := by
  cases kind with
  | calm calm => exact calm.streams.ge
  | dialed => exact Nat.le_succ _
  | _ => exact le_rfl

/-- The current stream stays, is given up, or was registered just now. -/
lemma Kind.current (kind : Kind codec nodeId s s') :
    s'.current = s.current ∨ s'.current = none ∨
      ∃ k, s'.current = some k ∧ (s.conns k).registered = false ∧ (s'.conns k).registered = true := by
  cases kind with
  | calm calm => exact calm.current.imp_right .inl
  | @registered k _ new =>
    refine .inr (.inr ⟨k, rfl, new, ?_⟩)
    change ((s.setConn k _).conns k).registered = true
    rw [setConn_self]
  | advanced _ _ _ _ _ _ _ _ now => exact now.imp_right .inl
  | recorded _ _ _ _ _ _ _ _ _ _ _ _ _ now => exact now.imp_right .inl
  | _ => exact .inl rfl

/-- Every stream with messages is registered. -/
lemma Opened.heard_step {a} (inv : Opened s) (kind : Kind codec nodeId s s') (turn : Turn s a s') :
    ∀ k, (s'.conns k).registered = false → (s'.conns k).heard = [] ∧ (s'.conns k).reply = none := by
  intro k off'
  have off : (s.conns k).registered = false := by
    rcases @Kind.registers Byte codec nodeId s s' k kind with same | ⟨on, _⟩
    · exact same.symm.trans off'
    · cases on.symm.trans off'
  have idle : s.current ≠ some k := fun here => by cases (inv.current k here).symm.trans off
  obtain ⟨unheard, none⟩ := inv.unheard k off
  -- another stream is replaced
  have other : ∀ {j} {c : Conn Byte}, k ≠ j →
      ((s.setConn j c).conns k).heard = [] ∧ ((s.setConn j c).conns k).reply = .none := by
    intro j c differ
    rw [setConn_other differ]
    exact ⟨unheard, none⟩
  have faulty : ∀ {fault full}, ((s.setDatabaseFault fault full).conns k).heard = [] ∧
      ((s.setDatabaseFault fault full).conns k).reply = .none := by
    intro fault full
    obtain ⟨same, _⟩ | ⟨j, current, same⟩ := @setDatabaseFault_inv Byte s fault full
    · rw [same]
      exact ⟨unheard, none⟩
    · rw [same]
      refine other ?_
      rintro rfl
      exact idle current
  cases turn with
  | silent conns =>
    refine ⟨(conns k).heard.trans unheard, ?_⟩
    cases reply : (s'.conns k).reply with
    | none => rfl
    | some m =>
      rcases (conns k).reply m reply with old | ⟨_, on⟩
      · cases none.symm.trans old
      · cases on.symm.trans off'
  | declared | recovered => exact faulty
  | @replied _ _ reply =>
    refine other ?_
    rintro rfl
    cases none.symm.trans reply
  | confirmed current | reset current =>
    refine other ?_
    rintro rfl
    exact idle current
  | @received r m down _ _ queue =>
    obtain ⟨_, conns⟩ := @receive_conns Byte s r m down
    rw [conns]
    by_cases here : k = r.stream
    · subst here
      rw [Conn.heard_pop queue, append_eq_nil_iff] at unheard
      rw [setConn_self]
      exact ⟨unheard.2, none⟩
    · exact other here
  | @lost j =>
    by_cases here : k = j
    · subst here
      rw [setConn_self]
      refine ⟨?_, none⟩
      unfold Conn.heard at unheard ⊢
      exact eq_nil_of_subset_nil (unheard ▸ filterMap_subset _ (tail_sublist _).subset)
    · exact other here

/-- Replies are answers. -/
lemma Opened.answers_step {a} (inv : Opened s) (turn : Turn s a s') :
    ∀ k m, (s'.conns k).reply = some m → m.answers = true := by
  intro k m reply
  have other : ∀ {j} {c : Conn Byte}, ((s.setConn j c).conns k).reply = some m →
      c.reply = (s.conns j).reply ∨ c.reply = none → m.answers = true := by
    intro j c reply same
    by_cases here : k = j
    · subst here
      rw [setConn_self] at reply
      rcases same with same | none
      · exact inv.answers k m (same.symm.trans reply)
      · cases none.symm.trans reply
    · rw [setConn_other here] at reply
      exact inv.answers k m reply
  have faulty : ∀ {fault full}, ((s.setDatabaseFault fault full).conns k).reply = some m → m.answers = true := by
    intro fault full reply
    obtain ⟨same, _⟩ | ⟨_, _, same⟩ := @setDatabaseFault_inv Byte s fault full
    · rw [same] at reply
      exact inv.answers k m reply
    · rw [same] at reply
      exact other reply (.inl rfl)
  cases turn with
  | silent conns =>
    rcases (conns k).reply m reply with old | ⟨answers, _⟩
    · exact inv.answers k m old
    · exact answers
  | declared | recovered => exact faulty reply
  | replied => exact other reply (.inr rfl)
  | confirmed | reset | lost => exact other reply (.inl rfl)
  | @received r m' down =>
    obtain ⟨_, conns⟩ := @receive_conns Byte s r m' down
    rw [conns] at reply
    exact other reply (.inl rfl)

lemma Opened.step {a} (inv : Opened s) (kind : Kind codec nodeId s s') (turn : Turn s a s') : Opened s' := by
  have registered : ∀ k, (s.conns k).registered = true → (s'.conns k).registered = true := by
    intro k on
    rcases @Kind.registers Byte codec nodeId s s' k kind with same | ⟨on', _⟩
    · exact same.trans on
    · exact on'
  refine ⟨fun k current => ?_, fun k on => ?_, inv.heard_step kind turn, inv.answers_step turn⟩
  · rcases kind.current with same | none | ⟨_, here, _, on⟩
    · exact registered k (inv.current k (same.symm.trans current))
    · cases none.symm.trans current
    · cases here.symm.trans current
      exact on
  · rcases @Kind.registers Byte codec nodeId s s' k kind with same | ⟨_, below⟩
    · exact Nat.lt_of_lt_of_le (inv.streams k (same.symm.trans on)) kind.streams
    · exact Nat.lt_of_lt_of_le below kind.streams

/-- Each step keeps the invariants. -/
lemma Noted.step {a} (inv : Noted codec s) (st : State.step codec nodeId s a = some s') : Noted codec s' :=
  have kind : Kind codec nodeId s s' := step_kind st
  have turn : Turn s a s' := step_turn st
  { inv.toTransfer.step st, inv.toOpened.step kind turn with
    welcomed := inv.welcomed_step kind turn
    resets := inv.resets_step kind
    answered := inv.answered_step kind
    heeded := inv.heeded_step kind turn }

lemma Noted.init (fresh : Fresh nodeId s) : Noted codec s := by
  have opened : Opened s := by
    refine ⟨?_, ?_, ?_, ?_⟩
    · rw [fresh.current]
      nofun
    · rw [fresh.conns]
      nofun
    · rw [fresh.conns]
      exact fun _ _ => ⟨rfl, rfl⟩
    · rw [fresh.conns]
      nofun
  refine { Transfer.init fresh, opened with welcomed := ?_, resets := ?_, answered := ?_, heeded := ?_ }
  · rw [fresh.log]
    nofun
  · rw [fresh.link]
    nofun
  · rw [fresh.conns]
    nofun
  · intro ev before suffix
    rw [fresh.log] at suffix
    cases suffix_nil.mp suffix

end MeowFrp.Cluster.State
