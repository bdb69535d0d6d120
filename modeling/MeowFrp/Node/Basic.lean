import MeowFrp.Node.Fault

/-!
# What both kinds of nodes share

The parameters of a node, and the requests that hold its bootstrap lock. A bootstrap looks up its
credential, validates its proxies and creates its lease in three steps; a release looks up its
credential and releases in two; both may then have effects left to perform (of type `ε`, which differs
between the controller and the edge).
-/

namespace MeowFrp.Node

open Lib

/-- The settings of a node and Go `security.TokenHash`. -/
structure Env where
  cfg : Api.NodeConfig
  tokenHash : String → String

/-- The random tokens drawn for a lease (Go `security.NewOpaqueToken`). -/
structure Draw where
  leaseId : String
  runtimeToken : String
  leaseId_ne : leaseId ≠ "" := by decide
  deriving Repr

/-- The request that holds `bootstrapMu`. -/
inductive Locked (ε : Type) where
  /-- a bootstrap whose credential was accepted -/
  | validate (user : User) (token : AccessToken) (presented clientId : String)
      (proxies : List ProxyAllocationInput) (draw : Draw)
  /-- a bootstrap whose proxies were accepted -/
  | create (lease : RuntimeLease) (presented : String) (allocations : List ProxyAllocationInput)
  /-- a lease release whose credential was accepted -/
  | release (leaseId : String) (tokenId : Nat) (clientId : String)
  | effects (todo : List ε)

/-- The lease that a bootstrap creates. -/
def Env.lease (env : Env) (now : Time) (user : User) (token : AccessToken) (clientId : String)
    (draw : Draw) : RuntimeLease :=
  { leaseId := draw.leaseId, userId := user.id, tokenId := token.id, clientId
    runtimeTokenHash := env.tokenHash draw.runtimeToken, status := .active
    expiresAt := now + env.cfg.runtimeTokenTtl, userId_pos := user.id_pos, tokenId_pos := token.id_pos
    leaseId_ne := draw.leaseId_ne }

/-- What `validateBootstrapProxies` reads from the database. -/
def Env.proxyRules (env : Env) (s : Db.Store) (now : Time) (user : User) (token : AccessToken)
    (clientId : String) : Api.ProxyRules where
  cfg := env.cfg
  policy := s.getUserResourcePolicy user.id
  token
  grants := s.listPortGrants token.id
  inUse := fun protocol port => s.remotePortInUseExceptClient now protocol port token.id clientId

/-- The answer to a keepalive (`Ping`, `NewWorkConn`, `NewUserConn`). -/
inductive Answer where
  /-- allowed from the remembered leases -/
  | fallback
  | validated (lease : RuntimeLease)
  | rejected (reason : String)
  deriving DecidableEq, Repr

/-- The bootstrap under way: lease id, token, and hash of the presented value. -/
def Locked.underWay {ε : Type} : Option (Locked ε) → Option (String × Nat × String)
  | some (.validate _ token presented _ _ draw) => some (draw.leaseId, token.id, presented)
  | some (.create lease presented _) => some (lease.leaseId, lease.tokenId, presented)
  | _ => none

/-! ## What is kept of the devices -/

/-- Device rows are added and touched, but keep their keys and status. -/
def ClientsGrow (t t' : Table Client) : Prop :=
  ∀ r ∈ t, ∃ r' ∈ t', r'.id = r.id ∧ r'.tokenId = r.tokenId ∧ r'.clientId = r.clientId ∧
    r'.status = r.status

lemma ClientsGrow.refl {t : Table Client} : ClientsGrow t t := fun r m => ⟨r, m, rfl, rfl, rfl, rfl⟩

lemma ClientsGrow.trans {t t' t'' : Table Client} (g : ClientsGrow t t') (g' : ClientsGrow t' t'') :
    ClientsGrow t t'' := by
  intro r m
  obtain ⟨r', m', e₁, e₂, e₃, e₄⟩ := g r m
  obtain ⟨r'', m'', f₁, f₂, f₃, f₄⟩ := g' r' m'
  exact ⟨r'', m'', f₁.trans e₁, f₂.trans e₂, f₃.trans e₃, f₄.trans e₄⟩

lemma ClientsGrow.touch {t : Table Client} {p seen} :
    ClientsGrow t (t.update p fun r => { r with lastSeenAt := seen }) := by
  intro r m
  refine ⟨_, Table.mem_update.mpr ⟨r, m, rfl⟩, ?_⟩
  unfold Table.rewrite
  split <;> exact ⟨rfl, rfl, rfl, rfl⟩

/-- Finding or creating a device only adds to the device table. -/
lemma findOrCreateClient_grows {s store : Db.Store} {now userId tokenId clientId id client}
    (e : s.findOrCreateClient now userId tokenId clientId id = some (store, client)) :
    ∃ clients, ClientsGrow s.clients clients ∧ store = { s with clients } := by
  unfold Db.Store.findOrCreateClient at e
  split at e
  · cases e
    exact ⟨_, .refl, rfl⟩
  · obtain ⟨clients, ins, e⟩ := Option.bind_eq_some_iff.mp e
    cases e
    refine ⟨clients, fun r m => ?_, rfl⟩
    exact ⟨r, (Table.mem_insert ins).mpr (.inl m), rfl, rfl, rfl, rfl⟩

end MeowFrp.Node
