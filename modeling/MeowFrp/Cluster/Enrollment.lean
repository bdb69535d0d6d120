import MeowFrp.Data.Text
import MeowFrp.Lib.Table
import Mathlib.Logic.Function.Basic

/-!
# Enrollment of a node

Model of Go `enrollEdgeNode` (`httpapi/handlers_cluster.go`) with the transactions it runs one after the other
(`db/nodes.go`): a use of the enrollment token is consumed, the row of the node is written, and for a new node
the saved settings of the token are written to its row. Each of them may fail, or be committed without the
answer reaching the server.

The rows of the tokens carry what is known of them: the value has the form of an enrollment token, and the hash
is that of the value. The hash function is ideal: it is injective, and no hash looks like an enrollment token.
-/

namespace MeowFrp.Cluster.Enrollment

open Lib Table List

/-- The text starts with `enroll_`, as Go `NewOpaqueToken("enroll_")` makes it. -/
def isEnrollmentToken (value : String) : Bool := "enroll_".toList.isPrefixOf value.toList

/-- The hash function of the database. -/
structure Hash where
  sha2 : String → String
  injective : Function.Injective sha2
  not_token : ∀ value, isEnrollmentToken (sha2 value) = false

/-- A row of `node_enrollment_tokens`. -/
structure EnrollmentToken (H : Hash) where
  tokenHash : String
  plainToken : String
  /-- the status is `active` -/
  active : Bool
  maxUses : Nat
  useCount : Nat
  expiresAt : Nat
  settings : String
  hashed : tokenHash = H.sha2 plainToken
  token : isEnrollmentToken plainToken = true

/-- A row of `edge_nodes`. -/
structure EdgeNode where
  nodeId : String
  name : String
  certificateSerial : String
  active : Bool
  publicApiUrl : String
  selectable : Bool
  capabilitiesJson : String
  updatedAt : Nat
  deriving DecidableEq, Repr

variable {H : Hash}

instance : Schema (EnrollmentToken H) where
  clash a b := a.tokenHash = b.tokenHash ∨ a.plainToken = b.plainToken
  symm := Or.imp Eq.symm Eq.symm
  dec a b := inferInstanceAs (Decidable (a.tokenHash = b.tokenHash ∨ a.plainToken = b.plainToken))

instance : Schema EdgeNode where
  clash a b := a.nodeId = b.nodeId
  symm := Eq.symm
  dec a b := inferInstanceAs (Decidable (a.nodeId = b.nodeId))

structure Database (H : Hash) where
  tokens : Table (EnrollmentToken H) := ∅
  nodes : Table EdgeNode := ∅

/-- What happens to a transaction. -/
inductive Fault where
  | none
  | failed (error : String)
  /-- it is committed, and the answer is lost -/
  | lost (error : String)
  deriving DecidableEq, Repr

/-- The condition of the queries on the tokens. -/
def EnrollmentToken.has (tokenValue : String) (t : EnrollmentToken H) : Bool :=
  t.plainToken = tokenValue || t.tokenHash = tokenValue || t.tokenHash = H.sha2 tokenValue

/-- A use is counted. -/
def EnrollmentToken.use (status : Bool) (t : EnrollmentToken H) : EnrollmentToken H :=
  { t with useCount := t.useCount + 1, active := status }

/-- Go `ConsumeEnrollmentTokenSettings`. -/
def consumeEnrollmentTokenSettings (db : Database H) (tokenValue : String) (now : Nat) (fault : Fault) :
    Database H × Except String String :=
  match fault with
  | .failed error => (db, .error error)
  | fault =>
    match db.tokens.find? (EnrollmentToken.has tokenValue) with
    | none => (db, .error "not found")
    | some t =>
      if !t.active || t.maxUses ≤ t.useCount || t.expiresAt < now then
        (db, .error "enrollment token is expired or already used")
      else
        let status := !decide (t.maxUses ≤ t.useCount + 1)
        let db := { db with
          tokens := db.tokens.update (EnrollmentToken.has tokenValue) (EnrollmentToken.use status) }
        match fault with
        | .lost error => (db, .error error)
        | _ => (db, .ok t.settings)

/-- Go `UpsertEdgeNode`: the columns of a row that is there already. -/
def EdgeNode.upsert (node old : EdgeNode) : EdgeNode :=
  { old with
    name := node.name
    certificateSerial := node.certificateSerial
    active := true
    capabilitiesJson := node.capabilitiesJson
    updatedAt := node.updatedAt }

/-- The result of a statement that was run. -/
def answer (fault : Fault) (db db' : Database H) : Database H × Option String :=
  match fault with
  | .none => (db', none)
  | .failed error => (db, some error)
  | .lost error => (db', some error)

/-- Go `UpsertEdgeNode`. -/
def upsertEdgeNode (db : Database H) (node : EdgeNode) (fault : Fault) : Database H × Option String :=
  answer fault db { db with nodes := db.nodes.merge node node.upsert }

/-- The columns that Go `UpdateEdgeNodeDirectory` sets. -/
def EdgeNode.list (name publicApiUrl : String) (selectable : Bool) (now : Nat) (node : EdgeNode) : EdgeNode :=
  { node with name, publicApiUrl, selectable, updatedAt := now }

/-- Go `UpdateEdgeNodeDirectory`; rows that do not change are not affected. -/
def updateEdgeNodeDirectory (db : Database H) (nodeId name publicApiUrl : String) (selectable : Bool) (now : Nat)
    (fault : Fault) : Database H × Option String :=
  match answer fault db { db with
    nodes := db.nodes.update (·.nodeId = nodeId) (EdgeNode.list name publicApiUrl selectable now) } with
  | (db', some error) => (db', some error)
  | (db', none) =>
    if db.nodes.any fun node => node.nodeId = nodeId && node.list name publicApiUrl selectable now ≠ node then
      (db', none)
    else (db', some "not found")

/-- Go `EnrollmentRequest`. -/
structure EnrollmentRequest where
  nodeName : String
  nodeId : String
  csr : String

/-- Go `nodeEnrollmentOptions`. -/
structure NodeEnrollmentOptions where
  name : String := ""
  publicApiUrl : String := ""
  selectable : Bool := false
  deriving DecidableEq, Repr

/-- What a request meets: configuration, random values, signatures, times, and faults. -/
structure World where
  /-- controller mode, edge access and a store -/
  available : Bool := true
  /-- `bearerToken` -/
  secret : String
  /-- `none` if the body does not decode -/
  body : Option EnrollmentRequest
  csrValid : String → Bool
  /-- the error of `controllerPKIMaterial` -/
  pkiError : Option String := none
  getFault : Option String := none
  newOpaqueToken : Except String String
  /-- the serial number of the certificate for a node -/
  sign : String → String → Except String String
  decodeOptions : String → Option NodeEnrollmentOptions
  consumeAt : Nat
  consumeFault : Fault := .none
  upsertAt : Nat
  upsertFault : Fault := .none
  directoryAt : Nat
  directoryFault : Fault := .none

inductive Response where
  /-- a certificate with its serial number -/
  | created (nodeId serial : String)
  | error (code : Nat) (message : String)
  deriving DecidableEq, Repr

/-- What a request is about, once a certificate is signed. -/
structure Signed where
  nodeId : String
  newNode : Bool
  nodeName : String
  serial : String

/-- The id of the node: a registered one that was asked for, or a new one. -/
def chooseNode (db : Database H) (w : World) (nodeId : String) : Except (Nat × String) (String × Bool) :=
  if nodeId ≠ "" then
    if w.getFault.isSome || !db.nodes.any (·.nodeId = nodeId) then
      .error (400, "requested edge node identity does not exist")
    else .ok (nodeId, false)
  else
    match w.newOpaqueToken with
    | .error error => .error (500, error)
    | .ok plain => .ok (String.ofList (plain.toList.take 37), true)

/-- The part of Go `enrollEdgeNode` before the token is consumed. -/
def prepare (db : Database H) (w : World) : Except (Nat × String) Signed :=
  if !w.available then .error (404, "edge enrollment is unavailable")
  else if w.secret = "" then .error (401, "enrollment token is required")
  else
    match w.body with
    | none => .error (400, "invalid enrollment request")
    | some req =>
      let nodeName := trimSpace req.nodeName
      if nodeName = "" || !w.csrValid req.csr then .error (400, "node name and valid CSR are required")
      else
        match w.pkiError with
        | some error => .error (500, "load controller PKI failed: " ++ error)
        | none =>
          match chooseNode db w (trimSpace req.nodeId) with
          | .error refused => .error refused
          | .ok (nodeId, newNode) =>
            match w.sign nodeId req.csr with
            | .error error => .error (400, error)
            | .ok serial => .ok { nodeId, newNode, nodeName, serial }

/-- The settings saved with the token; `none` if they do not decode. -/
def savedOptions (w : World) (settings : String) : Option NodeEnrollmentOptions :=
  if settings ≠ "" then w.decodeOptions settings else some {}

/-- The part of Go `enrollEdgeNode` after the token is consumed. -/
def register (db : Database H) (w : World) (s : Signed) (settings : String) : Database H × Response :=
  match savedOptions w settings with
  | none => (db, .error 500 "invalid saved enrollment settings")
  | some options =>
    let nodeName := if s.newNode && options.name ≠ "" then options.name else s.nodeName
    match upsertEdgeNode db {
        nodeId := s.nodeId, name := nodeName, certificateSerial := s.serial, active := true, publicApiUrl := "",
        selectable := false, capabilitiesJson := "{}", updatedAt := w.upsertAt } w.upsertFault with
    | (db, some error) => (db, .error 500 error)
    | (db, none) =>
      if s.newNode && settings ≠ "" then
        match updateEdgeNodeDirectory db s.nodeId nodeName options.publicApiUrl options.selectable w.directoryAt
            w.directoryFault with
        | (db, some error) => (db, .error 500 error)
        | (db, none) => (db, .created s.nodeId s.serial)
      else (db, .created s.nodeId s.serial)

/-- Go `enrollEdgeNode`. -/
def enrollEdgeNode (db : Database H) (w : World) : Database H × Response :=
  match prepare db w with
  | .error (code, message) => (db, .error code message)
  | .ok s =>
    match consumeEnrollmentTokenSettings db w.secret w.consumeAt w.consumeFault with
    | (db, .error error) => (db, .error 401 error)
    | (db, .ok settings) => register db w s settings

/-! ## Tokens -/

variable {db db' : Database H} {w : World} {s : Signed} {t t' : EnrollmentToken H} {secret settings : String}

/-- A token is found by its value or by its hash. -/
lemma has_iff : t.has secret = true ↔ t.plainToken = secret ∨ t.tokenHash = secret := by
  unfold EnrollmentToken.has
  simp only [Bool.or_eq_true, decide_eq_true_eq]
  constructor
  · rintro (found | hash)
    · exact found
    · exact .inl (H.injective (t.hashed.symm.trans hash))
  · exact .inl

/-- A secret finds one token at most. -/
lemma eq_of_has (mem : t ∈ db.tokens) (mem' : t' ∈ db.tokens) (has : t.has secret = true)
    (has' : t'.has secret = true) : t = t' := by
  have apart : ∀ {a b : EnrollmentToken H}, a.plainToken = secret → b.tokenHash ≠ secret := by
    intro a b value hash
    have token := a.token
    rw [value, ← hash, b.hashed, H.not_token] at token
    cases token
  refine eq_of_clash mem mem' ?_
  obtain value | hash := has_iff.mp has
  · obtain value' | hash' := has_iff.mp has'
    · exact .inr (value.trans value'.symm)
    · exact absurd hash' (apart value)
  · obtain value' | hash' := has_iff.mp has'
    · exact absurd hash (apart value')
    · exact .inl (hash.trans hash'.symm)

/-- One use of the token is consumed, and nothing else changes. -/
def UseConsumed (db db' : Database H) (secret : String) : Prop :=
  ∃ t ∈ db.tokens, t.has secret = true ∧ t.useCount < t.maxUses ∧ ∃ status, db'.tokens.rows =
    db.tokens.rows.map fun row => if row.plainToken = t.plainToken then t.use status else row

lemma use_consumed {status : Bool} (mem : t ∈ db.tokens) (has : t.has secret = true)
    (left : t.useCount < t.maxUses) (tokens : db'.tokens = db.tokens.update (EnrollmentToken.has secret)
      (EnrollmentToken.use status) fun _ _ => Iff.rfl) : UseConsumed db db' secret := by
  refine ⟨t, mem, has, left, status, ?_⟩
  rw [tokens]
  change db.tokens.rows.map _ = db.tokens.rows.map _
  refine map_congr_left fun row there => ?_
  unfold Table.rewrite
  by_cases same : row.plainToken = t.plainToken
  · have one : row = t := eq_of_clash there mem (.inr same)
    rw [if_pos same, one, if_pos has]
  · rw [if_neg same, if_neg]
    intro has'
    exact same (congrArg _ (eq_of_has there mem has' has))

/-- A consumed use shows in the table. -/
lemma UseConsumed.ne (use : UseConsumed db db' secret) : db'.tokens ≠ db.tokens := by
  intro unchanged
  obtain ⟨t, mem, _, _, _, rows⟩ := use
  rw [unchanged] at rows
  have same := map_inj_left.mp ((map_id _).trans rows) t mem
  rw [if_pos rfl] at same
  have counted : t.useCount = t.useCount + 1 := congrArg EnrollmentToken.useCount same
  omega

/-- The transaction on the token is committed. -/
structure Commits (db : Database H) (w : World) (t : EnrollmentToken H) : Prop where
  found : db.tokens.find? (EnrollmentToken.has w.secret) = some t
  usable : t.active = true ∧ t.useCount < t.maxUses ∧ w.consumeAt ≤ t.expiresAt
  ran : ∀ error, w.consumeFault ≠ .failed error

/-- A token is left alone, or a use of it is consumed and answered or lost. -/
lemma consume_spec :
    (∃ error, consumeEnrollmentTokenSettings db w.secret w.consumeAt w.consumeFault = (db, .error error) ∧
      ∀ t, ¬ Commits db w t) ∨
    ∃ t db', Commits db w t ∧ UseConsumed db db' w.secret ∧ db'.nodes = db.nodes ∧
      (w.consumeFault = .none ∧
        consumeEnrollmentTokenSettings db w.secret w.consumeAt w.consumeFault = (db', .ok t.settings) ∨
      w.consumeFault ≠ .none ∧ ∃ error,
        consumeEnrollmentTokenSettings db w.secret w.consumeAt w.consumeFault = (db', .error error)) := by
  cases found : db.tokens.find? (EnrollmentToken.has w.secret) with
  | none =>
    refine .inl ?_
    have never : ∀ t, ¬ Commits db w t := fun t commits => by cases found.symm.trans commits.found
    unfold consumeEnrollmentTokenSettings
    rw [found]
    split <;> exact ⟨_, rfl, never⟩
  | some t =>
    by_cases refused : (!t.active || decide (t.maxUses ≤ t.useCount) || decide (t.expiresAt < w.consumeAt)) = true
    · refine .inl ?_
      have never : ∀ t, ¬ Commits db w t := by
        intro t' commits
        cases found.symm.trans commits.found
        obtain ⟨active, _⟩ := commits.usable
        simp only [active, Bool.not_true, Bool.false_or, Bool.or_eq_true, decide_eq_true_eq] at refused
        omega
      unfold consumeEnrollmentTokenSettings
      rw [found]
      split
      · exact ⟨_, rfl, never⟩
      · dsimp only
        rw [if_pos refused]
        exact ⟨_, rfl, never⟩
    · have usable : t.active = true ∧ t.useCount < t.maxUses ∧ w.consumeAt ≤ t.expiresAt := by
        simpa [and_assoc] using refused
      have use : UseConsumed db
          { db with
            tokens := db.tokens.update (EnrollmentToken.has w.secret)
              (EnrollmentToken.use (!decide (t.maxUses ≤ t.useCount + 1))) } w.secret :=
        use_consumed (mem_of_find? found) (find?_prop found) usable.2.1 rfl
      unfold consumeEnrollmentTokenSettings
      rw [found]
      simp only [if_neg refused]
      cases fault : w.consumeFault with
      | failed error => exact .inl ⟨error, rfl, fun _ commits => commits.ran error fault⟩
      | none => exact .inr ⟨t, _, ⟨found, usable, by rw [fault]; exact nofun⟩, use, rfl, .inl ⟨rfl, rfl⟩⟩
      | lost error =>
        exact .inr ⟨t, _, ⟨found, usable, by rw [fault]; exact nofun⟩, use, rfl, .inr ⟨nofun, error, rfl⟩⟩

/-! ## The row of the node -/

/-- What the directory shows of a node. -/
def shown (nodes : Table EdgeNode) (nodeId : String) : String × Bool :=
  match nodes.find? (·.nodeId = nodeId) with
  | some node => (node.publicApiUrl, node.selectable)
  | none => ("", false)

/-- The row of a node is written if the statement succeeds. -/
lemma upsertEdgeNode_spec (db : Database H) {node : EdgeNode} (fault : Fault)
    (new : (node.publicApiUrl, node.selectable) = ("", false)) :
    ∃ db' error, upsertEdgeNode db node fault = (db', error) ∧ db'.tokens = db.tokens ∧
      (fault = .none ∧ error = none ∧ (∃ row ∈ db'.nodes, row.nodeId = node.nodeId ∧ row.name = node.name ∧
        row.certificateSerial = node.certificateSerial ∧ row.updatedAt = node.updatedAt ∧
        (row.publicApiUrl, row.selectable) = shown db.nodes node.nodeId) ∨
      fault ≠ .none ∧ ∃ message, error = some message) := by
  cases fault with
  | failed | lost => exact ⟨_, _, rfl, rfl, .inr ⟨nofun, _, rfl⟩⟩
  | none =>
    refine ⟨_, _, rfl, rfl, .inl ⟨rfl, rfl, ?_⟩⟩
    have mem (row : EdgeNode) : row ∈ db.nodes.merge node node.upsert ↔ _ :=
      mem_merge (fun _ _ => Iff.rfl) fun _ _ _ => Eq.trans
    unfold shown
    cases found : db.nodes.find? (·.nodeId = node.nodeId) with
    | some old =>
      have same := find?_prop found
      rw [decide_eq_true_eq] at same
      exact ⟨node.upsert old, (mem _).mpr (.inr (.inl ⟨old, mem_of_find? found, same, rfl⟩)), same,
        rfl, rfl, rfl, rfl⟩
    | none =>
      have absent : ∀ old ∈ db.nodes, ¬ Schema.clash old node :=
        fun old mem => of_decide_eq_false (find?_none.mp found old mem)
      exact ⟨node, (mem _).mpr (.inr (.inr ⟨absent, rfl⟩)), rfl, rfl, rfl, rfl, new⟩

/-- A row is listed if the statement succeeds and changes something. -/
lemma updateEdgeNodeDirectory_spec {row : EdgeNode} {nodeId name : String} (url : String) (selectable : Bool)
    (now : Nat) (fault : Fault) (mem : row ∈ db.nodes) (id : row.nodeId = nodeId) (named : row.name = name) :
    ∃ db' error, updateEdgeNodeDirectory db nodeId name url selectable now fault = (db', error) ∧
      db'.tokens = db.tokens ∧
      ((fault = .none ∧ (now = row.updatedAt → (url, selectable) ≠ (row.publicApiUrl, row.selectable))) ∧
        error = none ∧ row.list name url selectable now ∈ db'.nodes ∨
      ¬ (fault = .none ∧ (now = row.updatedAt → (url, selectable) ≠ (row.publicApiUrl, row.selectable))) ∧
        ∃ message, error = some message) := by
  subst id named
  cases fault with
  | failed | lost => exact ⟨_, _, rfl, rfl, .inr ⟨nofun, _, rfl⟩⟩
  | none =>
    have changes : row.list row.name url selectable now = row ↔
        now = row.updatedAt ∧ (url, selectable) = (row.publicApiUrl, row.selectable) := by
      cases row
      simp only [EdgeNode.list, EdgeNode.mk.injEq, Prod.mk.injEq, true_and]
      tauto
    unfold updateEdgeNodeDirectory answer
    dsimp only
    split
    · rename_i affected
      refine ⟨_, _, rfl, rfl, .inl ⟨⟨rfl, fun at_ is => ?_⟩, rfl, ?_⟩⟩
      · obtain ⟨node, there, changed⟩ := Table.any_eq_true.mp affected
        rw [Bool.and_eq_true, decide_eq_true_eq, decide_eq_true_eq] at changed
        cases Table.eq_of_clash there mem changed.1
        exact changed.2 (changes.mpr ⟨at_, is⟩)
      · exact List.mem_map.mpr ⟨row, mem, if_pos (decide_eq_true rfl)⟩
    · rename_i same
      refine ⟨_, _, rfl, rfl, .inr ⟨fun ⟨_, moved⟩ => same (Table.any_eq_true.mpr ⟨row, mem, ?_⟩), _, rfl⟩⟩
      rw [Bool.and_eq_true, decide_eq_true_eq, decide_eq_true_eq]
      exact ⟨rfl, fun is => moved (changes.mp is).1 (changes.mp is).2⟩

/-! ## The whole request -/

/-- Nothing fails after the use of the token is committed: the answer arrives, the row of the node is written,
the saved settings decode, and the row of a new node is listed by them. It counts as not found if it is listed
in the millisecond it was written in, with what it shows already. -/
structure Undisturbed (db : Database H) (w : World) (s : Signed) (t : EnrollmentToken H) : Prop where
  answered : w.consumeFault = .none
  upserted : w.upsertFault = .none
  settled : ∃ options, savedOptions w t.settings = some options ∧
    (s.newNode = true → t.settings ≠ "" → w.directoryFault = .none ∧
      (w.directoryAt = w.upsertAt → (options.publicApiUrl, options.selectable) ≠ shown db.nodes s.nodeId))

/-- If the use of a token is committed, nothing fails after it. -/
def Calm (db : Database H) (w : World) : Prop :=
  ∀ s t, prepare db w = .ok s → Commits db w t → Undisturbed db w s t

/-- The request is atomic: without a certificate the tables are as they were; with one, exactly one use of the
token is consumed and the node has its serial number. -/
structure Atomic (db : Database H) (w : World) : Prop where
  refused : ∀ code message, (enrollEdgeNode db w).2 = .error code message → (enrollEdgeNode db w).1 = db
  created : ∀ nodeId serial, (enrollEdgeNode db w).2 = .created nodeId serial →
    UseConsumed db (enrollEdgeNode db w).1 w.secret ∧
    ∃ row ∈ (enrollEdgeNode db w).1.nodes, row.nodeId = nodeId ∧ row.certificateSerial = serial

/-- A certificate is returned exactly if nothing fails; the row has its serial number. -/
lemma register_spec (s : Signed) (t : EnrollmentToken H) (answered : w.consumeFault = .none)
    (nodes : db'.nodes = db.nodes) :
    ∃ db'' response, register db' w s t.settings = (db'', response) ∧ db''.tokens = db'.tokens ∧
      (Undisturbed db w s t ∧ response = .created s.nodeId s.serial ∧
        (∃ row ∈ db''.nodes, row.nodeId = s.nodeId ∧ row.certificateSerial = s.serial) ∨
      ¬ Undisturbed db w s t ∧ ∃ code message, response = .error code message) := by
  unfold register
  cases decoded : savedOptions w t.settings with
  | none =>
    refine ⟨_, _, rfl, rfl, .inr ⟨fun calm => ?_, _, _, rfl⟩⟩
    obtain ⟨options, is, _⟩ := calm.settled
    cases decoded.symm.trans is
  | some options =>
    dsimp only
    obtain ⟨db₁, _, ran, tokens, ⟨upserted, rfl, row, there, id, named, serial, updated, shows⟩ |
        ⟨fails, _, rfl⟩⟩ := @upsertEdgeNode_spec H db' {
      nodeId := s.nodeId, name := if s.newNode && options.name ≠ "" then options.name else s.nodeName
      certificateSerial := s.serial, active := true, publicApiUrl := "", selectable := false
      capabilitiesJson := "{}", updatedAt := w.upsertAt } w.upsertFault rfl
    · rw [ran]
      rw [nodes] at shows
      dsimp only
      split
      · rename_i lists
        rw [Bool.and_eq_true, decide_eq_true_eq] at lists
        obtain ⟨db₂, _, ran', tokens', ⟨⟨listed, moved⟩, rfl, there'⟩ | ⟨fails, _, rfl⟩⟩ :=
          updateEdgeNodeDirectory_spec options.publicApiUrl options.selectable w.directoryAt w.directoryFault
            there id named
        · rw [ran']
          refine ⟨db₂, _, rfl, tokens'.trans tokens, .inl ⟨⟨answered, upserted, options, decoded,
            fun _ _ => ⟨listed, fun at_ => ?_⟩⟩, rfl, _, there', id, serial⟩⟩
          rw [← shows]
          exact moved (at_.trans updated.symm)
        · rw [ran']
          refine ⟨db₂, _, rfl, tokens'.trans tokens, .inr ⟨fun calm => fails ?_, _, _, rfl⟩⟩
          obtain ⟨_, is, settled⟩ := calm.settled
          cases decoded.symm.trans is
          obtain ⟨listed, moved⟩ := settled lists.1 lists.2
          exact ⟨listed, fun at_ => shows ▸ moved (at_.trans updated)⟩
      · rename_i quiet
        refine ⟨db₁, _, rfl, tokens, .inl ⟨⟨answered, upserted, options, decoded, fun new given => ?_⟩, rfl,
          row, there, id, serial⟩⟩
        rw [new, decide_eq_true given] at quiet
        exact absurd rfl quiet
    · rw [ran]
      exact ⟨db₁, _, rfl, tokens, .inr ⟨fun calm => fails calm.upserted, _, _, rfl⟩⟩

/-- A request whose token was not consumed is atomic if it is refused. -/
lemma Atomic.of_unchanged {code message} (is : enrollEdgeNode db w = (db, .error code message)) :
    Atomic db w := by
  constructor <;> rw [is]
  · exact fun _ _ _ => rfl
  · exact nofun

/-- A request whose token was consumed is not atomic if it is refused. -/
lemma not_atomic {db'' code message} (use : UseConsumed db db' w.secret) (tokens : db''.tokens = db'.tokens)
    (is : enrollEdgeNode db w = (db'', .error code message)) : ¬ Atomic db w := by
  intro atomic
  have same := atomic.refused code message (by rw [is])
  rw [is] at same
  exact use.ne (tokens.symm.trans (congrArg Database.tokens same))

/-- Without a use of the token the request is refused. -/
lemma enroll_refused {error} (prepared : prepare db w = .ok s)
    (consumed : consumeEnrollmentTokenSettings db w.secret w.consumeAt w.consumeFault = (db', .error error)) :
    enrollEdgeNode db w = (db', .error 401 error) := by
  rw [enrollEdgeNode, prepared]
  dsimp only
  rw [consumed]

/-- With a use of the token the request goes on to register the node. -/
lemma enroll_registers (prepared : prepare db w = .ok s)
    (consumed : consumeEnrollmentTokenSettings db w.secret w.consumeAt w.consumeFault = (db', .ok settings)) :
    enrollEdgeNode db w = register db' w s settings := by
  rw [enrollEdgeNode, prepared]
  dsimp only
  rw [consumed]

/-- A request is atomic exactly if nothing fails after its token was consumed. -/
theorem enrollment_atomic (db : Database H) (w : World) : Atomic db w ↔ Calm db w := by
  cases prepared : prepare db w with
  | error =>
    refine iff_of_true (.of_unchanged (by rw [enrollEdgeNode, prepared])) fun s t is => ?_
    cases prepared.symm.trans is
  | ok s =>
    obtain ⟨_, failed, never⟩ | ⟨t, _, commits, use, nodes, done⟩ := @consume_spec H db w
    · exact iff_of_true (.of_unchanged (enroll_refused prepared failed))
        fun _ t _ commits => absurd commits (never t)
    · have calm : Calm db w ↔ Undisturbed db w s t := by
        refine ⟨fun calm => calm s t prepared commits, fun calm s' t' is commits' => ?_⟩
        cases prepared.symm.trans is
        cases commits.found.symm.trans commits'.found
        exact calm
      rw [calm]
      obtain ⟨answered, consumed⟩ | ⟨lost, _, consumed⟩ := done
      · obtain ⟨_, _, registered, tokens, ⟨quiet, rfl, row⟩ | ⟨disturbed, _, _, rfl⟩⟩ :=
          register_spec s t answered nodes
        · refine iff_of_true ?_ quiet
          constructor <;> rw [enroll_registers prepared consumed, registered]
          · exact nofun
          · rintro _ _ ⟨⟩
            obtain ⟨t, mem, has, left, status, rows⟩ := use
            exact ⟨⟨t, mem, has, left, status, (congrArg Table.rows tokens).trans rows⟩, row⟩
        · have is := (enroll_registers prepared consumed).trans registered
          exact iff_of_false (not_atomic use tokens is) disturbed
      · exact iff_of_false (not_atomic use rfl (enroll_refused prepared consumed))
          fun calm => lost calm.answered

/-! ## Requests -/

/-- A hash that marks its argument. -/
def sampleHash : Hash where
  sha2 value := String.ofList ('#' :: value.toList)
  injective a b same := by
    have chars := congrArg String.toList same
    rw [String.toList_ofList, String.toList_ofList] at chars
    exact String.toList_injective (cons_inj_right '#' |>.mp chars)
  not_token value := by
    simp only [isEnrollmentToken, String.toList_ofList]
    rfl

/-- A token for one use. -/
def sampleToken : EnrollmentToken sampleHash where
  tokenHash := "#enroll_1"
  plainToken := "enroll_1"
  active := true
  maxUses := 1
  useCount := 0
  expiresAt := 10
  settings := ""
  hashed := rfl
  token := rfl

def sampleDatabase : Database sampleHash where
  tokens := ⟨[sampleToken], pairwise_singleton _ _⟩

/-- A request for a new node. -/
def sampleWorld : World where
  secret := "enroll_1"
  body := some { nodeName := "edge", nodeId := "", csr := "csr" }
  csrValid _ := true
  newOpaqueToken := .ok "node_1"
  sign _ _ := .ok "serial"
  decodeOptions _ := none
  consumeAt := 1
  upsertAt := 2
  directoryAt := 3

/-- The row of the node cannot be written: the request fails, and the token is used up. -/
theorem token_used_up_by_failed_enrollment :
    ∃ w : World, (enrollEdgeNode sampleDatabase w).2 = .error 500 "connection refused" ∧
      (enrollEdgeNode sampleDatabase w).1.tokens.rows.map (fun t => t.maxUses - t.useCount) = [0] ∧
      sampleDatabase.tokens.rows.map (fun t => t.maxUses - t.useCount) = [1] :=
  ⟨{ sampleWorld with upsertFault := .failed "connection refused" }, rfl, rfl, rfl⟩

/-- The same request, when nothing fails. -/
theorem enrollment_atomic_new : (enrollEdgeNode sampleDatabase sampleWorld).2 = .created "node_1" "serial" ∧
    UseConsumed sampleDatabase (enrollEdgeNode sampleDatabase sampleWorld).1 "enroll_1" ∧
    ∃ row ∈ (enrollEdgeNode sampleDatabase sampleWorld).1.nodes,
      row.nodeId = "node_1" ∧ row.certificateSerial = "serial" := by
  have calm : Calm sampleDatabase sampleWorld := by
    intro s t _ commits
    cases mem_singleton.mp (mem_of_find? commits.found)
    exact ⟨rfl, rfl, {}, rfl, fun _ given => absurd rfl given⟩
  exact ⟨rfl, ((enrollment_atomic sampleDatabase sampleWorld).mpr calm).created "node_1" "serial" rfl⟩

end MeowFrp.Cluster.Enrollment
