import MeowFrp.Core.Inbound
import MeowFrp.Edge.Apply

/-!
# Node-local and controller-wide bans on an edge

An edge stores two lists of blocked addresses: those of the controller, which snapshots change, and
its own, which the commands `block_ip` and `unblock_ip` change. The FRP core enforces one list in
memory. Commands and snapshots are handled by two workers (Go `HandleEdgeCommand` and the snapshot
handler of `cmd/server/main.go`), each of which first changes its stored list and then brings the
memory in line, step by step and without a common lock. A snapshot that has read the stored lists
before a command and drops unwanted entries after it undoes the command in memory (`bans_drift`).

Where the workers take turns, the memory enforces exactly the union of the two lists whenever both are
idle. Addresses are kept in the canonical text of the Go address parsers, which has no blanks around
it. The cache reset before a new baseline is not part of the machine.
-/

namespace MeowFrp

open Lib MeowFrp.Core Table List Manager Edge.Store

/-- The address has no blanks around it, as a canonical text. -/
def BlockedIp.Trimmed (b : BlockedIp) : Prop := trimSpace b.ip = b.ip

instance {b : BlockedIp} : Decidable b.Trimmed := inferInstanceAs (Decidable (trimSpace b.ip = b.ip))

namespace Edge.Store

/-- Go `UpsertBlockedIP`. -/
def upsertBlockedIp (s : Store) (now : Time) (ip reason : String) : Store :=
  { s with blockedInboundIps := s.blockedInboundIps.put ⟨ip, reason, now⟩ }

/-- Go `DeleteBlockedIP`. -/
def deleteBlockedIp (s : Store) (ip : String) : Store :=
  { s with blockedInboundIps := s.blockedInboundIps.delete (·.ip = ip) }

/-- Go `ListBlockedIPs`: the controller's entries, and the node's under other addresses. -/
def listBlockedIps (s : Store) : List BlockedIp :=
  s.controllerBlockedIps.rows ++ s.blockedInboundIps.rows.filter fun b =>
    !s.controllerBlockedIps.any (·.ip = b.ip)

/-- The address is on one of the stored lists. -/
def Bans (s : Store) (ip : String) : Prop :=
  (∃ b ∈ s.controllerBlockedIps, b.ip = ip) ∨ ∃ b ∈ s.blockedInboundIps, b.ip = ip

variable {s s' : Store} {ip : String}

lemma mem_listBlockedIps_ip : (∃ b ∈ s.listBlockedIps, b.ip = ip) ↔ s.Bans ip := by
  unfold listBlockedIps Bans
  constructor
  · rintro ⟨b, mb, same⟩
    rcases mem_append.mp mb with controller | own
    · exact .inl ⟨b, controller, same⟩
    · exact .inr ⟨b, mem_of_mem_filter own, same⟩
  · rintro (⟨b, mb, same⟩ | ⟨b, mb, same⟩)
    · exact ⟨b, mem_append_left _ mb, same⟩
    · -- an address on both lists is listed with the controller's entry
      cases both : s.controllerBlockedIps.any (·.ip = b.ip) with
      | true =>
        obtain ⟨c, mc, eq⟩ := Table.any_eq_true.mp both
        exact ⟨c, mem_append_left _ mc, (of_decide_eq_true eq).trans same⟩
      | false => exact ⟨b, mem_append_right _ (mem_filter.mpr ⟨mb, by rw [both]; rfl⟩), same⟩

lemma mem_listBlockedIps {b} (mb : b ∈ s.listBlockedIps) :
    b ∈ s.controllerBlockedIps ∨ b ∈ s.blockedInboundIps :=
  (mem_append.mp mb).imp_right mem_of_mem_filter

lemma bans_upsert {now other reason} :
    (s.upsertBlockedIp now other reason).Bans ip ↔ s.Bans ip ∨ ip = other := by
  have own : (∃ b ∈ s.blockedInboundIps.put ⟨other, reason, now⟩, b.ip = ip) ↔
      (∃ b ∈ s.blockedInboundIps, b.ip = ip) ∨ ip = other := by
    constructor
    · rintro ⟨b, mb, rfl⟩
      rcases mem_put.mp mb with ⟨old, _⟩ | rfl
      · exact .inl ⟨b, old, rfl⟩
      · exact .inr rfl
    · rintro (⟨b, mb, rfl⟩ | rfl)
      · by_cases same : b.ip = other
        · exact ⟨_, mem_put.mpr (.inr rfl), same.symm⟩
        · exact ⟨b, mem_put.mpr (.inl ⟨mb, same⟩), rfl⟩
      · exact ⟨_, mem_put.mpr (.inr rfl), rfl⟩
  exact (or_congr Iff.rfl own).trans or_assoc.symm

lemma bans_delete {other} (ne : ip ≠ other) : (s.deleteBlockedIp other).Bans ip ↔ s.Bans ip := by
  refine or_congr Iff.rfl ⟨?_, ?_⟩
  · rintro ⟨b, mb, same⟩
    exact ⟨b, (mem_delete.mp mb).1, same⟩
  · rintro ⟨b, mb, rfl⟩
    exact ⟨b, mem_delete.mpr ⟨mb, decide_eq_false ne⟩, rfl⟩

/-- The controller's entries are earlier ones or the snapshot's. -/
lemma mem_blockedAfter {snap b} (mb : b ∈ s.blockedAfter snap) :
    b ∈ s.controllerBlockedIps ∨ b ∈ snap.blockedIps := by
  unfold blockedAfter at mb
  rcases mem_foldl_put (mem_delete.mp mb).1 with old | new
  · refine .inl ?_
    split at old
    · exact absurd old not_mem_empty
    · exact old
  · exact .inr new

/-- An inner page without addresses leaves the controller's list alone. -/
lemma bans_inner {snap now} (ap : s.applyIdentitySnapshot now snap = .ok s')
    (inner : snap.ends = false) (none : snap.blockedIps = []) (removed : snap.removedBlockedIps = [])
    (keeps : snap.replaceBlockedIps = false) : s'.Bans ip ↔ s.Bans ip := by
  obtain ⟨controller, own⟩ := apply_blocked ap
  unfold Bans
  rw [controller, own, blockedAfter, none, removed, keeps, IdentitySnapshot.completes, inner]
  simp

end Edge.Store

namespace Node

/-- The canonical text of an address (Go `netip.ParseAddr` and `String`). -/
structure Address where
  text : String
  trimmed : trimSpace text = text := by decide
  deriving DecidableEq, Repr

/-- The command worker, by what it does next. -/
inductive CommandWorker where
  | idle
  /-- `block_ip`: `BlockInboundIP` is next -/
  | block (ip : Address) (reason : String)
  /-- `unblock_ip`: `UnblockInboundIP` is next -/
  | unblock (ip : Address)
  /-- `ListBlockedIPs` is next -/
  | list (ip : Address)
  /-- `SetBlockedInboundIP` is next, if the address is still listed -/
  | restore (found : Option BlockedIp)
  deriving DecidableEq, Repr

/-- The apply worker, by what it does next. -/
inductive ApplyWorker where
  | idle
  /-- the snapshot is committed: `ListBlockedIPs` is next -/
  | list
  /-- the listed entries still to be enforced, and all listed addresses -/
  | enforce (todo : List BlockedIp) (wanted : List String)
  /-- the entries in memory still to be looked at, and all listed addresses -/
  | prune (todo : List BlockedIp) (wanted : List String)
  deriving DecidableEq, Repr

/-- The bans of an edge. -/
structure BanNode where
  store : Edge.Store := {}
  core : Manager := {}
  now : Time := 0
  command : CommandWorker := .idle
  worker : ApplyWorker := .idle

namespace BanNode

/-- The steps of the two workers. -/
inductive Action where
  | tick (elapsed : Nat)
  /-- the command worker takes a command and changes the node's own list -/
  | blockIp (ip : Address) (reason : String)
  | unblockIp (ip : Address)
  | proceedCommand
  /-- the apply worker commits a snapshot -/
  | apply (snap : IdentitySnapshot)
  | proceedApply

/-- A page of the controller: canonical addresses, none on an inner baseline page. -/
def wellFormed (snap : IdentitySnapshot) : Bool :=
  snap.blockedIps.all (fun b => b.Trimmed) &&
    (snap.ends || (snap.blockedIps = [] && snap.removedBlockedIps = [] && !snap.replaceBlockedIps))

/-- The next step of a command. -/
def proceedCommand (s : BanNode) : Option BanNode :=
  match s.command with
  | .idle => none
  | .block ip reason =>
    some { s with core := s.core.blockInboundIp s.now ip.text reason, command := .idle }
  | .unblock ip => some { s with core := s.core.unblockInboundIp ip.text, command := .list ip }
  | .list ip =>
    some { s with command := .restore (s.store.listBlockedIps.find? (·.ip = ip.text)) }
  | .restore none => some { s with command := .idle }
  | .restore (some block) =>
    some { s with core := s.core.setBlockedInboundIp s.now block, command := .idle }

/-- The next step of the snapshot handler. -/
def proceedApply (s : BanNode) : Option BanNode :=
  match s.worker with
  | .idle => none
  | .list =>
    let blocks := s.store.listBlockedIps
    some { s with worker := .enforce blocks (blocks.map (·.ip)) }
  | .enforce [] wanted => some { s with worker := .prune s.core.blockedInboundIps wanted }
  | .enforce (block :: todo) wanted =>
    some { s with core := s.core.enforceBlockedInboundIp s.now block, worker := .enforce todo wanted }
  | .prune [] _ => some { s with worker := .idle }
  | .prune (block :: todo) wanted =>
    some { s with
      core := if wanted.contains block.ip then s.core else s.core.unblockInboundIp block.ip
      worker := .prune todo wanted }

/-- One step; `none` when it is not enabled. -/
def step (s : BanNode) : Action → Option BanNode
  | .tick elapsed => some { s with now := s.now + elapsed }
  | .blockIp ip reason =>
    if s.command = .idle then
      some { s with
        store := s.store.upsertBlockedIp s.now ip.text reason, command := .block ip reason }
    else none
  | .unblockIp ip =>
    if s.command = .idle then
      some { s with store := s.store.deleteBlockedIp ip.text, command := .unblock ip }
    else none
  | .proceedCommand => s.proceedCommand
  | .apply snap =>
    if s.worker = .idle && wellFormed snap then
      match s.store.applyIdentitySnapshot s.now snap with
      | .error _ => none
      | .ok store => some { s with store, worker := if snap.ends then .list else .idle }
    else none
  | .proceedApply => s.proceedApply

/-- The memory enforces exactly the stored lists. -/
def InLine (s : BanNode) : Prop := ∀ ip, s.core.Blocked ip ↔ s.store.Bans ip

/-- Every address is in canonical form. -/
structure Canonical (s : BanNode) : Prop where
  controller : ∀ b ∈ s.store.controllerBlockedIps, b.Trimmed
  node : ∀ b ∈ s.store.blockedInboundIps, b.Trimmed
  memory : ∀ b ∈ s.core.blockedInboundIps, b.Trimmed

/-- An edge starts with its stored lists in memory. -/
def machine : Machine BanNode Action where
  Init s := s.command = .idle ∧ s.worker = .idle ∧ s.Canonical ∧ s.InLine
  step := step

variable {s s' : BanNode} {a : Action}

/-- A worker starts only while the other one is idle. -/
def TakesTurns (s : BanNode) : Action → Prop
  | .blockIp _ _ => s.worker = .idle
  | .unblockIp _ => s.worker = .idle
  | .apply _ => s.command = .idle
  | _ => True

instance : Decidable (TakesTurns s a) :=
  match a with
  | .blockIp _ _ => inferInstanceAs (Decidable (s.worker = .idle))
  | .unblockIp _ => inferInstanceAs (Decidable (s.worker = .idle))
  | .apply _ => inferInstanceAs (Decidable (s.command = .idle))
  | .tick _ => inferInstanceAs (Decidable True)
  | .proceedCommand => inferInstanceAs (Decidable True)
  | .proceedApply => inferInstanceAs (Decidable True)

/-- How far the memory is from the stored lists. -/
def Pending (s : BanNode) : CommandWorker → ApplyWorker → Prop
  | .idle, .idle => s.InLine
  | .block ip _, .idle => ∀ x, s.store.Bans x ↔ s.core.Blocked x ∨ x = ip.text
  | .unblock ip, .idle => ∀ x, x ≠ ip.text → (s.store.Bans x ↔ s.core.Blocked x)
  | .list ip, .idle =>
    ¬ s.core.Blocked ip.text ∧ ∀ x, x ≠ ip.text → (s.store.Bans x ↔ s.core.Blocked x)
  | .restore found, .idle =>
    (∀ x, s.store.Bans x ↔ s.core.Blocked x ∨ ∃ b, found = some b ∧ b.ip = x) ∧
      ∀ b, found = some b → b.Trimmed
  | .idle, .list => True
  | .idle, .enforce todo wanted =>
    (∀ x, s.store.Bans x ↔ x ∈ wanted) ∧
      (∀ x ∈ wanted, s.core.Blocked x ∨ ∃ b ∈ todo, b.ip = x) ∧ ∀ b ∈ todo, b.Trimmed
  | .idle, .prune todo wanted =>
    (∀ x, s.store.Bans x ↔ x ∈ wanted) ∧ (∀ x ∈ wanted, s.core.Blocked x) ∧
      (∀ x, s.core.Blocked x → x ∈ wanted ∨ ∃ b ∈ todo, b.ip = x) ∧ ∀ b ∈ todo, b.Trimmed
  | _, _ => False

/-- The invariant of the runs in which the workers take turns. -/
structure Orderly (s : BanNode) : Prop where
  canonical : s.Canonical
  pending : s.Pending s.command s.worker

/-- While a command is in progress the other worker is idle. -/
lemma Pending.worker_idle {command worker} (p : s.Pending command worker) (busy : command ≠ .idle) :
    worker = .idle := by
  cases worker with
  | idle => rfl
  | list | enforce | prune => cases command <;> first | exact absurd rfl busy | cases p

/-- Only the command worker or only the apply worker is busy. -/
lemma Pending.command_idle {command worker} (p : s.Pending command worker) (busy : worker ≠ .idle) :
    command = .idle := by
  by_contra other
  exact busy (p.worker_idle other)

/-- Blocking a canonical address keeps the memory canonical. -/
lemma Canonical.setBlocked {block closeExisting} (can : s.Canonical) (trimmed : block.Trimmed) :
    ∀ b ∈ (s.core.setBlocked block closeExisting).blockedInboundIps, b.Trimmed := by
  intro b mb
  rcases mem_cons.mp mb with rfl | old
  · exact trimmed
  · exact can.memory b (mem_of_mem_filter old)

lemma trimmed_stamped {now} {block : BlockedIp} (trimmed : block.Trimmed) :
    (Manager.stamped now block).Trimmed := by
  unfold BlockedIp.Trimmed
  rw [stamped_ip]
  exact trimmed

/-- Each step of a command brings the memory closer to the stored lists. -/
lemma Orderly.proceedCommand (inv : Orderly s) (st : s.proceedCommand = some s') : Orderly s' := by
  obtain ⟨can, pending⟩ := inv
  have rest : s.command ≠ .idle → s.worker = .idle := pending.worker_idle
  unfold BanNode.proceedCommand at st
  split at st
  · cases st
  · rename_i ip reason at_
    have idle := rest (by rw [at_]; nofun)
    rw [at_, idle] at pending
    cases st
    refine ⟨⟨can.controller, can.node, can.setBlocked (congrArg trimSpace ip.trimmed)⟩, ?_⟩
    simp only [idle]
    intro x
    refine blocked_setBlocked.trans ?_
    rw [ip.trimmed]
    exact (pending x).symm
  · rename_i ip at_
    have idle := rest (by rw [at_]; nofun)
    rw [at_, idle] at pending
    cases st
    refine ⟨⟨can.controller, can.node, fun b mb => can.memory b (mem_of_mem_filter mb)⟩, ?_⟩
    simp only [idle]
    refine ⟨fun hit => ?_, fun x ne => ?_⟩
    · exact (blocked_unblock.mp hit).2 ip.trimmed.symm
    · refine (pending x ne).trans ⟨fun old => blocked_unblock.mpr ⟨old, ?_⟩, fun hit =>
        (blocked_unblock.mp hit).1⟩
      rw [ip.trimmed]
      exact ne
  · rename_i ip at_
    have idle := rest (by rw [at_]; nofun)
    rw [at_, idle] at pending
    cases st
    refine ⟨⟨can.controller, can.node, can.memory⟩, ?_⟩
    simp only [idle]
    obtain ⟨gone, others⟩ := pending
    refine ⟨fun x => ?_, fun b found => ?_⟩
    · by_cases same : x = ip.text
      · rw [same, ← mem_listBlockedIps_ip]
        constructor
        · rintro ⟨b, mb, eq⟩
          refine .inr ?_
          cases found : s.store.listBlockedIps.find? (·.ip = ip.text) with
          | none => exact absurd eq (by simpa using List.find?_eq_none.mp found b mb)
          | some c => exact ⟨c, rfl, by simpa using List.find?_some found⟩
        · rintro (hit | ⟨b, found, eq⟩)
          · exact absurd hit gone
          · exact ⟨b, mem_of_find?_eq_some found, eq⟩
      · refine (others x same).trans ⟨.inl, ?_⟩
        rintro (hit | ⟨b, found, rfl⟩)
        · exact hit
        · exact absurd (by simpa using List.find?_some found) same
    · rcases mem_listBlockedIps (mem_of_find?_eq_some found) with controller | own
      · exact can.controller b controller
      · exact can.node b own
  · rename_i at_
    have idle := rest (by rw [at_]; nofun)
    rw [at_, idle] at pending
    cases st
    refine ⟨⟨can.controller, can.node, can.memory⟩, ?_⟩
    simp only [idle]
    intro x
    rw [pending.1 x]
    simp
  · rename_i block at_
    have idle := rest (by rw [at_]; nofun)
    rw [at_, idle] at pending
    cases st
    obtain ⟨iff, trimmed⟩ := pending
    refine ⟨⟨can.controller, can.node, can.setBlocked (trimmed_stamped (trimmed block rfl))⟩, ?_⟩
    simp only [idle]
    intro x
    refine blocked_setBlocked.trans ?_
    rw [stamped_ip, iff x]
    simp [eq_comm]

/-- The snapshot handler enforces listed entries and drops others. -/
lemma Orderly.proceedApply (inv : Orderly s) (st : s.proceedApply = some s') : Orderly s' := by
  obtain ⟨can, pending⟩ := inv
  have rest : s.worker ≠ .idle → s.command = .idle := pending.command_idle
  unfold BanNode.proceedApply at st
  split at st
  · cases st
  · rename_i at_
    have idle := rest (by rw [at_]; nofun)
    cases st
    refine ⟨⟨can.controller, can.node, can.memory⟩, ?_⟩
    simp only [idle]
    refine ⟨fun x => ?_, fun x mx => .inr (mem_map.mp mx), fun b mb => ?_⟩
    · rw [← mem_listBlockedIps_ip, mem_map]
    · rcases mem_listBlockedIps mb with controller | own
      · exact can.controller b controller
      · exact can.node b own
  · rename_i wanted at_
    have idle := rest (by rw [at_]; nofun)
    rw [at_, idle] at pending
    obtain ⟨listed, enforced, _⟩ := pending
    cases st
    refine ⟨⟨can.controller, can.node, can.memory⟩, ?_⟩
    simp only [idle]
    refine ⟨listed, fun x mx => ?_, fun x hit => .inr hit, can.memory⟩
    exact (enforced x mx).resolve_right (by simp)
  · rename_i block todo wanted at_
    have idle := rest (by rw [at_]; nofun)
    rw [at_, idle] at pending
    obtain ⟨listed, enforced, trimmed⟩ := pending
    obtain ⟨now, later⟩ := forall_mem_cons.mp trimmed
    cases st
    refine ⟨⟨can.controller, can.node, can.setBlocked (trimmed_stamped now)⟩, ?_⟩
    simp only [idle]
    refine ⟨listed, fun x mx => ?_, later⟩
    rcases enforced x mx with old | ⟨b, mb, rfl⟩
    · exact .inl (blocked_setBlocked.mpr (.inl old))
    · rcases mem_cons.mp mb with rfl | other
      · exact .inl (blocked_setBlocked.mpr (.inr stamped_ip.symm))
      · exact .inr ⟨b, other, rfl⟩
  · rename_i wanted at_
    have idle := rest (by rw [at_]; nofun)
    rw [at_, idle] at pending
    obtain ⟨listed, enforced, kept, _⟩ := pending
    cases st
    refine ⟨⟨can.controller, can.node, can.memory⟩, ?_⟩
    simp only [idle]
    intro x
    refine ⟨fun hit => (listed x).mpr ((kept x hit).resolve_right (by simp)), fun bans => ?_⟩
    exact enforced x ((listed x).mp bans)
  · rename_i block todo wanted at_
    have idle := rest (by rw [at_]; nofun)
    rw [at_, idle] at pending
    obtain ⟨listed, enforced, kept, trimmed⟩ := pending
    obtain ⟨now, later⟩ := forall_mem_cons.mp trimmed
    cases st
    by_cases want : block.ip ∈ wanted
    · simp only [contains_iff_mem.mpr want, if_true]
      refine ⟨⟨can.controller, can.node, can.memory⟩, ?_⟩
      simp only [idle]
      refine ⟨listed, enforced, fun x hit => ?_, later⟩
      rcases kept x hit with in_ | ⟨b, mb, rfl⟩
      · exact .inl in_
      · rcases mem_cons.mp mb with rfl | other
        · exact .inl want
        · exact .inr ⟨b, other, rfl⟩
    · have drop : wanted.contains block.ip = false := by simpa using want
      simp only [drop, Bool.false_eq_true, if_false]
      refine ⟨⟨can.controller, can.node, fun b mb => can.memory b (mem_of_mem_filter mb)⟩, ?_⟩
      simp only [idle]
      refine ⟨listed, fun x mx => ?_, fun x hit => ?_, later⟩
      · refine blocked_unblock.mpr ⟨enforced x mx, fun same => want ?_⟩
        rw [same, now] at mx
        exact mx
      · obtain ⟨old, ne⟩ := blocked_unblock.mp hit
        rcases kept x old with in_ | ⟨b, mb, rfl⟩
        · exact .inl in_
        · rcases mem_cons.mp mb with rfl | other
          · exact absurd now.symm ne
          · exact .inr ⟨b, other, rfl⟩

/-- A snapshot that ends a transfer leaves the memory to be brought in line. -/
lemma Orderly.apply {snap store} (inv : Orderly s) (turn : s.command = .idle) (idle : s.worker = .idle)
    (good : wellFormed snap = true) (ran : s.store.applyIdentitySnapshot s.now snap = .ok store) :
    Orderly { s with store, worker := if snap.ends then .list else .idle } := by
  obtain ⟨can, pending⟩ := inv
  obtain ⟨trimmed, inner⟩ := (Bool.and_eq_true _ _).mp good
  obtain ⟨controller, own⟩ := apply_blocked ran
  refine ⟨⟨fun b mb => ?_, fun b mb => ?_, can.memory⟩, ?_⟩
  · rw [controller] at mb
    rcases mem_blockedAfter mb with old | new
    · exact can.controller b old
    · exact of_decide_eq_true (all_eq_true.mp trimmed b new)
  · rw [own] at mb
    exact can.node b mb
  · simp only [turn]
    cases ends : snap.ends with
    | true => trivial
    | false =>
      rw [turn, idle] at pending
      rw [ends, Bool.false_or, Bool.and_eq_true, Bool.and_eq_true, Bool.not_eq_true',
        decide_eq_true_eq, decide_eq_true_eq] at inner
      obtain ⟨⟨none, removed⟩, keeps⟩ := inner
      intro x
      exact (pending x).trans (bans_inner ran ends none removed keeps).symm

/-- Where the workers take turns, every step keeps the invariant. -/
lemma Orderly.step (inv : Orderly s) (turn : TakesTurns s a) (st : s.step a = some s') :
    Orderly s' := by
  cases a with
  | tick =>
    cases st
    exact ⟨⟨inv.canonical.controller, inv.canonical.node, inv.canonical.memory⟩, inv.pending⟩
  | blockIp ip =>
    obtain ⟨free, ⟨⟩⟩ := Option.ite_none_right_eq_some.mp st
    obtain ⟨can, pending⟩ := inv
    have idle : s.worker = .idle := turn
    rw [free, idle] at pending
    refine ⟨⟨can.controller, fun b mb => ?_, can.memory⟩, ?_⟩
    · rcases mem_put.mp mb with ⟨old, _⟩ | rfl
      · exact can.node b old
      · exact ip.trimmed
    · simp only [idle]
      intro x
      rw [pending x]
      exact bans_upsert
  | unblockIp =>
    obtain ⟨free, ⟨⟩⟩ := Option.ite_none_right_eq_some.mp st
    obtain ⟨can, pending⟩ := inv
    have idle : s.worker = .idle := turn
    rw [free, idle] at pending
    refine ⟨⟨can.controller, fun b mb => can.node b (mem_delete.mp mb).1, can.memory⟩, ?_⟩
    simp only [idle]
    intro x ne
    rw [pending x]
    exact bans_delete ne
  | proceedCommand => exact inv.proceedCommand st
  | apply =>
    obtain ⟨ok, st⟩ := Option.ite_none_right_eq_some.mp st
    obtain ⟨idle, good⟩ := (Bool.and_eq_true _ _).mp ok
    split at st
    · cases st
    · cases st
      exact inv.apply turn (of_decide_eq_true idle) good ‹_›
  | proceedApply => exact inv.proceedApply st

/-- A full snapshot without blocked addresses. -/
def sampleSnapshot : IdentitySnapshot := { revision := 1 }

end BanNode

end Node

end MeowFrp
