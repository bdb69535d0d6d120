import MeowFrp.Lib.Calendar
import MeowFrp.Lib.Fallible
import MeowFrp.Lib.Machine

/-!
# The TLS identity of a node

Model of Go `frptls.Identity` (`internal/frptls/identity.go`): a root certificate, a leaf that it signed, and
their keys, in memory and in one file. `Open` reads the file or creates the identity; a reset replaces it; a
freshness check, and every handshake, renews a leaf that has at most 30 days left, and replaces the whole
identity if the root has at most 366 days left. All of them end in `install`.

Signatures are ideal: a certificate records the key that signed it. Texts are of a type of their own, with
parsers that read back what was encoded. Times are nanoseconds since the first day of year 1, and the times in
certificates are seconds. Each operation has one time and one list of steps that fail in it.

`lastReset` is not in the source: it is the command id of the last reset that has succeeded.
-/

namespace MeowFrp.Core.TlsIdentity

open Lib Lib.Calendar

abbrev Key := Nat

/-- Go `x509.Certificate`. -/
structure Certificate where
  serialNumber : Nat
  subject : String
  issuer : String
  dnsNames : List String := []
  notBefore : Int
  notAfter : Int
  isCA : Bool := false
  publicKey : Key
  /-- the key of the signature -/
  signer : Key
  deriving DecidableEq, Repr

/-- Go `persisted`. -/
structure Persisted (Pem : Type) where
  version : Nat
  generation : String
  serverName : String
  caPem : Pem
  caKeyPem : Pem
  certPem : Pem
  keyPem : Pem
  lastResetCommand : String
  deriving DecidableEq, Repr

/-- The encodings of certificates, keys and the file. -/
structure Codec (Pem File : Type) where
  certificatePem : Certificate → Pem
  parseCertificate : Pem → Option Certificate
  parse_certificate : ∀ c, parseCertificate (certificatePem c) = some c
  keyPem : Key → Pem
  parseKey : Pem → Option Key
  parse_key : ∀ k, parseKey (keyPem k) = some k
  marshal : Persisted Pem → File
  unmarshal : File → Option (Persisted Pem)
  unmarshal_marshal : ∀ state, unmarshal (marshal state) = some state
  /-- the hex digest of a certificate -/
  fingerprint : Certificate → String

/-- Go `Public`. -/
structure Public (Pem : Type) where
  generation : String
  serverName : String
  caPem : Pem
  fingerprint : String
  notAfter : Int
  deriving DecidableEq, Repr

/-- Go `tls.Certificate`. -/
structure TlsCertificate where
  leaf : Certificate
  privateKey : Key
  deriving DecidableEq, Repr

/-- Go `Identity`. -/
structure Identity (Pem : Type) where
  state : Persisted Pem
  certificate : TlsCertificate
  pub : Public Pem
  deriving DecidableEq, Repr

/-- What may fail. -/
inductive Call where
  | readFile
  | generateKey
  | readRandom
  | serial
  | createCertificate
  | marshalKey
  | marshal
  | mkdirAll
  | createTemp
  | chmod
  | write
  | sync
  | close
  | rename
  deriving DecidableEq, Repr

inductive Error where
  | failed (call : Call)
  | text (message : String)
  deriving DecidableEq, Repr

/-- What an operation meets: its time, what fails, and what is drawn. -/
structure Env where
  now : Int
  fails : List Call := []
  caKey : Key
  serverKey : Key
  id : Vector UInt8 16
  caSerial : Nat
  serverSerial : Nat
  deriving DecidableEq, Repr

namespace Env

/-- A call that may fail. -/
def call (env : Env) (c : Call) : Except Error Unit := if c ∈ env.fails then .error (.failed c) else .ok ()

/-- The time in whole seconds. -/
def seconds (env : Env) : Int := env.now / 1000000000

/-- Go `time.Until` of a time in a certificate. -/
def untilTime (env : Env) (t : Int) : Int := t * 1000000000 - env.now

end Env

/-- A number of days in nanoseconds. -/
def days (n : Int) : Int := n * 86400 * 1000000000

def hexDigit (n : Nat) : Char := ("0123456789abcdef".toList.getD n '0')

/-- Go `hex.EncodeToString`. -/
def hex (bytes : List UInt8) : String :=
  String.ofList (bytes.flatMap fun b => [hexDigit (b.toNat / 16), hexDigit (b.toNat % 16)])

/-- The file at the path and the identity in memory. -/
structure World (Pem File : Type) where
  file : Option File := none
  identity : Option (Identity Pem) := none

variable {Pem File : Type} (zone : Location) (codec : Codec Pem File)

/-! ## Certificates -/

/-- The root certificate of `generate`. -/
def rootCertificate (env : Env) (generation : String) : Certificate where
  serialNumber := env.caSerial
  subject := "MeowFRP FRP CA " ++ generation
  issuer := "MeowFRP FRP CA " ++ generation
  notBefore := env.seconds - 300
  notAfter := zone.addYears 10 env.seconds
  isCA := true
  publicKey := env.caKey
  signer := env.caKey

/-- The leaf certificate that `generate` and `refreshLocked` create. -/
def leafCertificate (env : Env) (serverName issuer : String) (caKey : Key) : Certificate where
  serialNumber := env.serverSerial
  subject := serverName
  issuer
  dnsNames := [serverName]
  notBefore := env.seconds - 300
  notAfter := zone.addYears 1 env.seconds
  publicKey := env.serverKey
  signer := caKey

/-- Go `generate`. -/
def generate (env : Env) (commandId : String) : Except Error (Persisted Pem) := do
  env.call .generateKey
  env.call .generateKey
  env.call .readRandom
  let generation := hex env.id.toList
  let serverName := "frp-" ++ generation ++ ".internal"
  env.call .serial
  env.call .serial
  let root := rootCertificate zone env generation
  env.call .createCertificate
  let leaf := leafCertificate zone env serverName root.subject env.caKey
  env.call .createCertificate
  env.call .marshalKey
  env.call .marshalKey
  return {
    version := 1
    generation
    serverName
    caPem := codec.certificatePem root
    caKeyPem := codec.keyPem env.caKey
    certPem := codec.certificatePem leaf
    keyPem := codec.keyPem env.serverKey
    lastResetCommand := commandId }

/-- The part of `refreshLocked` that renews the leaf. -/
def renew (env : Env) (state : Persisted Pem) (ca : Certificate) : Except Error (Persisted Pem) :=
  match codec.parseKey state.caKeyPem with
  | none => .error (.text "invalid FRP CA key")
  | some caKey => do
    env.call .generateKey
    env.call .serial
    -- the key has to belong to the parent certificate
    if ca.publicKey ≠ caKey then .error (.failed .createCertificate)
    env.call .createCertificate
    env.call .marshalKey
    return { state with
      certPem := codec.certificatePem (leafCertificate zone env state.serverName ca.subject caKey)
      keyPem := codec.keyPem env.serverKey }

/-- A certificate is valid at an instant. -/
def Certificate.validAt (c : Certificate) (t : Int) : Bool :=
  c.notBefore * 1000000000 ≤ t && t ≤ c.notAfter * 1000000000

/-- Go `leaf.Verify` with one root. -/
def Certificate.verify (leaf root : Certificate) (dnsName : String) (t : Int) : Bool :=
  leaf.validAt t && leaf.dnsNames.contains dnsName && leaf.issuer = root.subject && leaf.signer = root.publicKey &&
    root.isCA && root.validAt t

/-! ## Operations -/

/-- What `install` puts into memory. -/
def present (state : Persisted Pem) (ca leaf : Certificate) (key : Key) : Identity Pem where
  state
  certificate := { leaf, privateKey := key }
  pub := {
    generation := state.generation
    serverName := state.serverName
    caPem := state.caPem
    fingerprint := codec.fingerprint ca
    notAfter := leaf.notAfter }

/-- The time for which a chain is verified; for one from the file its beginning. -/
def verifyTime (env : Env) (leaf ca : Certificate) (save : Bool) : Int :=
  if save then env.now else (max leaf.notBefore ca.notBefore + 1) * 1000000000

/-- The checks of `install`. -/
def check (env : Env) (state : Persisted Pem) (save : Bool) : Except Error (Identity Pem) :=
  if state.version ≠ 1 || state.generation = "" || state.serverName = "" then
    .error (.text "invalid FRP TLS identity metadata")
  else
    match codec.parseCertificate state.caPem with
    | none => .error (.text "invalid FRP root certificate")
    | some ca =>
      if !ca.isCA then .error (.text "invalid FRP root CA")
      else if ca.signer ≠ ca.publicKey then .error (.text "FRP root is not self-signed")
      else if codec.parseKey state.caKeyPem ≠ some ca.publicKey then
        .error (.text "FRP CA key does not match certificate")
      else
        match codec.parseCertificate state.certPem, codec.parseKey state.keyPem with
        | some leaf, some key =>
          if leaf.publicKey ≠ key then .error (.text "FRP server key does not match certificate")
          else if !leaf.verify ca state.serverName (verifyTime env leaf ca save) then
            .error (.text "FRP identity verification failed")
          else .ok (present codec state ca leaf key)
        | _, _ => .error (.text "FRP server key does not match certificate")

/-- The calls by which `install` replaces the file. -/
def Env.save (env : Env) : Except Error Unit := do
  env.call .marshal
  env.call .mkdirAll
  env.call .createTemp
  -- the temporary file is closed in any case
  env.call .chmod
  env.call .write
  env.call .sync
  env.call .close
  env.call .rename

/-- Go `install` with `save` set. -/
def install (env : Env) (w : World Pem File) (state : Persisted Pem) : World Pem File × Except Error Unit :=
  match check codec env state true with
  | .error e => (w, .error e)
  | .ok identity =>
    match env.save with
    | .error e => (w, .error e)
    | .ok () => ({ file := some (codec.marshal state), identity := some identity }, .ok ())

/-- Install what was created. -/
def installNew (env : Env) (w : World Pem File) :
    Except Error (Persisted Pem) → World Pem File × Except Error Unit
  | .error e => (w, .error e)
  | .ok state => install codec env w state

/-- Go `refreshLocked`. -/
def refreshLocked (env : Env) (w : World Pem File) (i : Identity Pem) : World Pem File × Except Error Unit :=
  if days 30 < env.untilTime i.pub.notAfter then (w, .ok ())
  else
    match codec.parseCertificate i.state.caPem with
    | none => (w, .error (.text "invalid FRP root"))
    | some ca =>
      if env.untilTime ca.notAfter ≤ days 366 then
        installNew codec env w (generate zone codec env i.state.lastResetCommand)
      else installNew codec env w (renew zone codec env i.state ca)

/-- Go `Reset`. -/
def reset (env : Env) (w : World Pem File) (i : Identity Pem) (commandId : String) :
    World Pem File × Except Error Unit :=
  if commandId ≠ "" && i.state.lastResetCommand = commandId then (w, .ok ())
  else installNew codec env w (generate zone codec env commandId)

/-- Go `Open`, whose identity takes the place of the one in memory. -/
def openIdentity (env : Env) (w : World Pem File) : World Pem File × Except Error Unit :=
  if .readFile ∈ env.fails then (w, .error (.failed .readFile))
  else
    match w.file with
    | none => installNew codec env w (generate zone codec env "")
    | some data =>
      match codec.unmarshal data with
      | none => (w, .error (.text "invalid FRP TLS identity file"))
      | some state =>
        match check codec env state false with
        | .error e => (w, .error e)
        | .ok i =>
          match refreshLocked zone codec env { w with identity := some i } i with
          | (w', .ok ()) => (w', .ok ())
          | (w', .error e) => ({ w' with identity := w.identity }, .error e)

/-- `GetCertificate` of the TLS configuration. -/
def getCertificate (env : Env) (w : World Pem File) (i : Identity Pem) :
    World Pem File × Except Error (Option TlsCertificate) :=
  match refreshLocked zone codec env w i with
  | (w', .error e) => (w', .error e)
  | (w', .ok ()) => (w', .ok (w'.identity.map (·.certificate)))

inductive Operation where
  | openIdentity
  | reset (commandId : String)
  | ensureFresh
  | handshake
  deriving DecidableEq, Repr

/-- An operation; all but `Open` need an identity. -/
def perform (env : Env) (w : World Pem File) : Operation → World Pem File × Except Error Unit
  | .openIdentity => openIdentity zone codec env w
  | .reset commandId =>
    match w.identity with
    | none => (w, .error (.text "no identity"))
    | some i => reset zone codec env w i commandId
  | .ensureFresh =>
    match w.identity with
    | none => (w, .error (.text "no identity"))
    | some i => refreshLocked zone codec env w i
  | .handshake =>
    match w.identity with
    | none => (w, .error (.text "no identity"))
    | some i =>
      let (w', r) := getCertificate zone codec env w i
      (w', r.map fun _ => ())

/-! ## Runs -/

structure System (Pem File : Type) where
  world : World Pem File := {}
  time : Int := 0
  lastReset : String := ""

inductive Action where
  | operate (op : Operation) (env : Env)
  | restart

/-- The command id of the last successful reset after an operation. -/
def noteReset (last : String) : Operation → Except Error Unit → String
  | .reset commandId, .ok () => commandId
  | _, _ => last

def System.step (s : System Pem File) : Action → Option (System Pem File)
  | .operate op env =>
    if s.time ≤ env.now then
      let (world, result) := perform zone codec env s.world op
      some { world, time := env.now, lastReset := noteReset s.lastReset op result }
    else none
  | .restart => some { s with world := { s.world with identity := none } }

/-- A node without an identity file. -/
def machine : Machine (System Pem File) Action where
  Init s := s.world.file = none ∧ s.world.identity = none ∧ s.lastReset = ""
  step := System.step zone codec

/-- The identity that the texts of a state stand for, and its root. -/
def read (state : Persisted Pem) : Option (Identity Pem × Certificate) := do
  let ca ← codec.parseCertificate state.caPem
  let leaf ← codec.parseCertificate state.certPem
  let key ← codec.parseKey state.keyPem
  return (present codec state ca leaf key, ca)

/-- The identity in a file, and its root. -/
def load (file : Option File) : Option (Identity Pem × Certificate) := do
  read codec (← codec.unmarshal (← file))

/-- The leaf is not due, or the root is replaced with it, or the root outlives a leaf of 366 days by what the
clocks are set back. -/
def Outlasts (env : Env) (p : Identity Pem × Certificate) : Prop :=
  days 30 < env.untilTime p.1.pub.notAfter ∨ env.untilTime p.2.notAfter ≤ days 366 ∨
    days 366 + zone.loss 1 env.seconds * 1000000000 ≤ env.untilTime p.2.notAfter

instance (env : Env) (p : Identity Pem × Certificate) : Decidable (Outlasts zone env p) :=
  inferInstanceAs (Decidable (_ ∨ _))

/-- An operation that may renew the leaf finds a root that outlasts it. -/
def Clear (s : System Pem File) : Action → Prop
  | .operate (.reset _) _ => True
  | .operate _ env => ∀ p ∈ load codec s.world.file, Outlasts zone env p
  | .restart => True

/-! ## What is created -/

variable {zone codec} {env : Env} {state state' : Persisted Pem} {w w' : World Pem File} {i i' : Identity Pem}
  {ca ca' : Certificate} {r : Except Error Unit} {op : Operation} {commandId : String}

/-- A call that does not fail goes on. -/
lemma call_bind_ok {β : Type} {c : Call} {f : Unit → Except Error β} {b : β} :
    (env.call c >>= f) = .ok b ↔ c ∉ env.fails ∧ f () = .ok b :=
  test_bind_ok

/-- What is read from a stored state. -/
lemma read_some : read codec state = some (i, ca) ↔ codec.parseCertificate state.caPem = some ca ∧
    ∃ leaf key, codec.parseCertificate state.certPem = some leaf ∧ codec.parseKey state.keyPem = some key ∧
      i = present codec state ca leaf key := by
  simp only [read, Option.bind_eq_bind, Option.bind_eq_some_iff, Option.pure_def, Option.some.injEq, Prod.mk.injEq]
  constructor
  · rintro ⟨ca, parsed, leaf, leafParsed, key, keyParsed, rfl, rfl⟩
    exact ⟨parsed, leaf, key, leafParsed, keyParsed, rfl⟩
  · rintro ⟨parsed, leaf, key, leafParsed, keyParsed, rfl⟩
    exact ⟨ca, parsed, leaf, leafParsed, key, keyParsed, rfl, rfl⟩

lemma read_state (e : read codec state = some (i, ca)) : i.state = state := by
  obtain ⟨_, _, _, _, _, rfl⟩ := read_some.mp e
  rfl

@[simp] lemma load_marshal : load codec (some (codec.marshal state)) = read codec state := by
  simp [load, codec.unmarshal_marshal]

/-- A new identity has its command id, and its leaf expires before its root. -/
lemma generate_ok (e : generate zone codec env commandId = .ok state) (is : read codec state = some (i, ca)) :
    state.lastResetCommand = commandId ∧ i.certificate.leaf.notAfter ≤ ca.notAfter := by
  simp only [generate, call_bind_ok] at e
  obtain ⟨_, _, _, _, _, _, _, _, _, e⟩ := e
  cases e
  obtain ⟨parsed, leaf, _, leafParsed, _, rfl⟩ := read_some.mp is
  cases (codec.parse_certificate _).symm.trans parsed
  cases (codec.parse_certificate _).symm.trans leafParsed
  refine ⟨rfl, ?_⟩
  have year := (zone.addYears_bounds 1 env.seconds).2
  have decade := (zone.addYears_bounds 10 env.seconds).1
  have loss := zone.loss_bounded 1 env.seconds
  have loss' := zone.loss_bounded 10 env.seconds
  change zone.addYears 1 env.seconds ≤ zone.addYears 10 env.seconds
  omega

/-- A renewal keeps all but the leaf. -/
lemma renew_ok (e : renew zone codec env state ca = .ok state') (root : codec.parseCertificate state.caPem = some ca)
    (is : read codec state' = some (i, ca')) :
    ca' = ca ∧ i.state.serverName = state.serverName ∧ i.state.lastResetCommand = state.lastResetCommand ∧
      i.certificate.leaf.notAfter = zone.addYears 1 env.seconds := by
  unfold renew at e
  split at e
  · cases e
  · simp only [call_bind_ok] at e
    obtain ⟨_, _, e⟩ := e
    split at e
    · cases e
    · simp only [call_bind_ok] at e
      obtain ⟨_, _, e⟩ := e
      cases e
      obtain ⟨parsed, _, _, leafParsed, _, rfl⟩ := read_some.mp is
      cases root.symm.trans parsed
      cases (codec.parse_certificate _).symm.trans leafParsed
      exact ⟨rfl, rfl, rfl, rfl⟩

/-! ## What an operation does -/

/-- A state that passes can be read. -/
lemma check_ok {save : Bool} (e : check codec env state save = .ok i) : ∃ ca, read codec state = some (i, ca) := by
  unfold check at e
  split at e
  · cases e
  · split at e
    · cases e
    · rename_i ca parsed
      split at e
      · cases e
      · split at e
        · cases e
        · split at e
          · cases e
          · split at e
            · rename_i leaf key leafParsed keyParsed
              split at e
              · cases e
              · split at e
                · cases e
                · cases e
                  exact ⟨ca, read_some.mpr ⟨parsed, leaf, key, leafParsed, keyParsed, rfl⟩⟩
            · cases e

variable (codec) in
/-- The world after `install` has replaced the identity. -/
def World.of (i : Identity Pem) : World Pem File where
  file := some (codec.marshal i.state)
  identity := some i

/-- What was created is installed, or nothing changes. -/
lemma installNew_cases {created : Except Error (Persisted Pem)} (e : installNew codec env w created = (w', r)) :
    (w' = w ∧ ∃ error, r = .error error) ∨
      r = .ok () ∧ ∃ i ca, created = .ok i.state ∧ read codec i.state = some (i, ca) ∧ w' = World.of codec i := by
  unfold installNew at e
  split at e
  · cases e
    exact .inl ⟨rfl, _, rfl⟩
  · rename_i state
    unfold install at e
    split at e
    · cases e
      exact .inl ⟨rfl, _, rfl⟩
    · rename_i i checked
      split at e
      · cases e
        exact .inl ⟨rfl, _, rfl⟩
      · cases e
        obtain ⟨ca, is⟩ := check_ok checked
        cases read_state is
        exact .inr ⟨rfl, i, ca, rfl, is, rfl⟩

variable (zone) in
/-- What takes the place of an identity: a new one, or one with another leaf. -/
inductive Next (env : Env) (i : Identity Pem) (ca : Certificate) : Identity Pem → Certificate → Prop where
  | fresh {i' : Identity Pem} {ca' : Certificate} (late : env.untilTime ca.notAfter ≤ days 366)
    (fits : i'.certificate.leaf.notAfter ≤ ca'.notAfter) : Next env i ca i' ca'
  | renewed {i' : Identity Pem} (due : ¬days 30 < env.untilTime i.pub.notAfter)
    (early : ¬env.untilTime ca.notAfter ≤ days 366) (name : i'.state.serverName = i.state.serverName)
    (leaf : i'.certificate.leaf.notAfter = zone.addYears 1 env.seconds) : Next env i ca i' ca

/-- A refresh fails, changes nothing, or puts the next identity in place. -/
lemma refreshLocked_cases (is : read codec i.state = some (i, ca)) (e : refreshLocked zone codec env w i = (w', r)) :
    w' = w ∨ r = .ok () ∧ ∃ i' ca', read codec i'.state = some (i', ca') ∧ w' = World.of codec i' ∧
      i'.state.lastResetCommand = i.state.lastResetCommand ∧ Next zone env i ca i' ca' := by
  have root := (read_some.mp is).1
  unfold refreshLocked at e
  rw [root] at e
  split at e
  · cases e
    exact .inl rfl
  · rename_i due
    dsimp only at e
    split at e
    · rename_i late
      obtain ⟨rfl, _⟩ | ⟨ok, i', ca', created, is', rfl⟩ := installNew_cases e
      · exact .inl rfl
      · obtain ⟨last, fits⟩ := generate_ok created is'
        exact .inr ⟨ok, i', ca', is', rfl, last, .fresh late fits⟩
    · rename_i early
      obtain ⟨rfl, _⟩ | ⟨ok, i', _, created, is', rfl⟩ := installNew_cases e
      · exact .inl rfl
      · obtain ⟨rfl, name, last, leaf⟩ := renew_ok created root is'
        exact .inr ⟨ok, i', _, is', rfl, last, .renewed due early name leaf⟩

variable (codec) in
/-- An identity is in the file, and no other one in memory. -/
structure Stored (w : World Pem File) (i : Identity Pem) (ca : Certificate) : Prop where
  file : w.file = some (codec.marshal i.state)
  stands : read codec i.state = some (i, ca)
  memory : ∀ j, w.identity = some j → j = i

/-- An identity that was put in place is stored. -/
lemma Stored.of (is : read codec i.state = some (i, ca)) : Stored codec (World.of codec i) i ca :=
  ⟨rfl, is, by rintro _ ⟨⟩; rfl⟩

variable (zone codec) in
/-- What an operation does to a stored identity. -/
inductive Effect (env : Env) (w : World Pem File) (i : Identity Pem) (ca : Certificate) (op : Operation) :
    World Pem File → Except Error Unit → Prop where
  | failed (error : Error) : Effect env w i ca op w (.error error)
  | kept {w' : World Pem File} (stored : Stored codec w' i ca) (same : ∀ j, w.identity = some j → w' = w)
    (repeated : ∀ commandId, op = .reset commandId → commandId ≠ "" ∧ commandId = i.state.lastResetCommand) :
    Effect env w i ca op w' (.ok ())
  | refreshed {i' : Identity Pem} {ca' : Certificate} (other : ∀ commandId, op ≠ .reset commandId)
    (is : read codec i'.state = some (i', ca'))
    (last : i'.state.lastResetCommand = i.state.lastResetCommand) (next : Next zone env i ca i' ca') :
    Effect env w i ca op (World.of codec i') (.ok ())
  | replaced {i' : Identity Pem} {ca' : Certificate} (commandId : String) (is_reset : op = .reset commandId)
    (new : commandId = "" ∨ commandId ≠ i.state.lastResetCommand)
    (is : read codec i'.state = some (i', ca')) (last : i'.state.lastResetCommand = commandId)
    (fits : i'.certificate.leaf.notAfter ≤ ca'.notAfter) : Effect env w i ca op (World.of codec i') (.ok ())

/-- The effect of a refresh. -/
lemma Effect.of_refresh (stored : Stored codec w i ca) (other : ∀ commandId, op ≠ .reset commandId)
    (e : refreshLocked zone codec env w i = (w', r)) : Effect zone codec env w i ca op w' r := by
  obtain rfl | ⟨rfl, _, _, is', rfl, last, next⟩ := refreshLocked_cases stored.stands e
  · cases r with
    | error error => exact .failed error
    | ok => exact .kept stored (fun _ _ => rfl) fun commandId is => absurd is (other commandId)
  · exact .refreshed other is' last next

/-- A reset fails, repeats the last one, or creates an identity. -/
lemma Effect.of_reset (stored : Stored codec w i ca) (e : reset zone codec env w i commandId = (w', r)) :
    Effect zone codec env w i ca (.reset commandId) w' r := by
  unfold reset at e
  split at e
  · rename_i repeated
    simp only [Bool.and_eq_true, decide_eq_true_eq] at repeated
    cases e
    refine .kept stored (fun _ _ => rfl) fun commandId' is => ?_
    cases is
    exact ⟨repeated.1, repeated.2.symm⟩
  · rename_i new
    obtain ⟨rfl, error, rfl⟩ | ⟨rfl, _, _, created, is', rfl⟩ := installNew_cases e
    · exact .failed error
    · obtain ⟨last, fits⟩ := generate_ok created is'
      refine .replaced commandId rfl ?_ is' last fits
      by_cases empty : commandId = ""
      · exact .inl empty
      · refine .inr fun same => new ?_
        rw [Bool.and_eq_true]
        exact ⟨decide_eq_true empty, decide_eq_true same.symm⟩

/-- A start reads the file and refreshes. -/
lemma Effect.of_open (stored : Stored codec w i ca) (e : openIdentity zone codec env w = (w', r)) :
    Effect zone codec env w i ca .openIdentity w' r := by
  unfold openIdentity at e
  split at e
  · cases e
    exact .failed _
  · rw [stored.file] at e
    dsimp only at e
    rw [codec.unmarshal_marshal] at e
    dsimp only at e
    split at e
    · cases e
      exact .failed _
    · rename_i j checked
      obtain ⟨_, is⟩ := check_ok checked
      cases stored.stands.symm.trans is
      split at e
      · rename_i w₁ refreshed
        cases e
        obtain rfl | ⟨_, _, _, is', rfl, last, next⟩ := refreshLocked_cases is refreshed
        · refine .kept (.of is) (fun j at_ => ?_) nofun
          cases stored.memory j at_
          rw [← stored.file, ← at_]
        · exact .refreshed nofun is' last next
      · rename_i w₁ error refreshed
        cases e
        obtain rfl | ⟨ok, _⟩ := refreshLocked_cases is refreshed
        · rw [← stored.file]
          exact .failed error
        · cases ok

/-- A handshake changes what the freshness check in it changes. -/
lemma getCertificate_world (env : Env) (w : World Pem File) (i : Identity Pem) :
    ((getCertificate zone codec env w i).1, (getCertificate zone codec env w i).2.map fun _ => ()) =
      refreshLocked zone codec env w i := by
  unfold getCertificate
  split
  · rename_i refreshed
    exact refreshed.symm
  · rename_i refreshed
    exact refreshed.symm

/-- What an operation does to a stored identity. -/
lemma perform_effect (stored : Stored codec w i ca) (e : perform zone codec env w op = (w', r)) :
    Effect zone codec env w i ca op w' r := by
  cases op with
  | openIdentity => exact .of_open stored e
  | reset =>
    simp only [perform] at e
    split at e
    · cases e
      exact .failed _
    · rename_i j at_
      cases stored.memory j at_
      exact .of_reset stored e
  | ensureFresh =>
    simp only [perform] at e
    split at e
    · cases e
      exact .failed _
    · rename_i j at_
      cases stored.memory j at_
      exact .of_refresh stored nofun e
  | handshake =>
    simp only [perform] at e
    split at e
    · cases e
      exact .failed _
    · rename_i j at_
      cases stored.memory j at_
      refine .of_refresh stored nofun ?_
      rw [← e]
      exact (getCertificate_world ..).symm

/-- Without a file there is nothing but a first identity. -/
lemma perform_first (file : w.file = none) (memory : w.identity = none) (e : perform zone codec env w op = (w', r)) :
    (w' = w ∧ ∃ error, r = .error error) ∨ op = .openIdentity ∧ r = .ok () ∧
      ∃ i ca, read codec i.state = some (i, ca) ∧ w' = World.of codec i ∧ i.state.lastResetCommand = "" ∧
        i.certificate.leaf.notAfter ≤ ca.notAfter := by
  cases op with
  | openIdentity =>
    simp only [perform, openIdentity, file] at e
    split at e
    · cases e
      exact .inl ⟨rfl, _, rfl⟩
    · obtain same | ⟨ok, i, ca, created, is, rfl⟩ := installNew_cases e
      · exact .inl same
      · obtain ⟨last, fits⟩ := generate_ok created is
        exact .inr ⟨rfl, ok, i, ca, is, rfl, last, fits⟩
  | reset | ensureFresh | handshake =>
    simp only [perform, memory] at e
    cases e
    exact .inl ⟨rfl, _, rfl⟩

/-! ## The invariant -/

variable (codec) in
/-- There is no identity, or a stored one whose leaf expires first. -/
inductive Good (s : System Pem File) : Prop where
  | nothing (file : s.world.file = none) (memory : s.world.identity = none) (last : s.lastReset = "")
  | stored (i : Identity Pem) (ca : Certificate) (stored : Stored codec s.world i ca)
    (last : i.state.lastResetCommand = s.lastReset) (fits : i.certificate.leaf.notAfter ≤ ca.notAfter)

variable {s s' : System Pem File}

/-- A stored identity is loaded from its file. -/
lemma Stored.load (stored : Stored codec w i ca) : load codec w.file = some (i, ca) := by
  rw [stored.file, load_marshal, stored.stands]

/-- A renewed leaf expires before the root that outlasts it. -/
lemma Next.fits (next : Next zone env i ca i' ca') (outlasts : Outlasts zone env (i, ca)) :
    i'.certificate.leaf.notAfter ≤ ca'.notAfter := by
  cases next with
  | fresh _ fits => exact fits
  | renewed due early _ leaf =>
    have long : days 366 + zone.loss 1 env.seconds * 1000000000 ≤ env.untilTime ca.notAfter := by
      obtain fresh | late | long := outlasts
      · exact absurd fresh due
      · exact absurd late early
      · exact long
    have year := (zone.addYears_bounds 1 env.seconds).2
    rw [leaf]
    unfold days Env.untilTime Env.seconds at *
    omega

@[simp] lemma noteReset_error {last : String} {error : Error} : noteReset last op (.error error) = last := by
  cases op with
  | openIdentity | reset | ensureFresh | handshake => rfl

/-- Only resets are noted. -/
lemma noteReset_other {last : String} (other : ∀ commandId, op ≠ .reset commandId) : noteReset last op r = last := by
  cases op with
  | openIdentity | ensureFresh | handshake => rfl
  | reset commandId => exact absurd rfl (other commandId)

/-- The condition for a renewal. -/
lemma Clear.outlasts (clear : Clear zone codec s (.operate op env)) (other : ∀ commandId, op ≠ .reset commandId)
    (stored : Stored codec s.world i ca) : Outlasts zone env (i, ca) := by
  cases op with
  | openIdentity | ensureFresh | handshake => exact clear _ stored.load
  | reset commandId => exact absurd rfl (other commandId)

/-- A clear operation keeps the identity good. -/
lemma Good.perform (good : Good codec s) (clear : Clear zone codec s (.operate op env))
    (done : perform zone codec env s.world op = (w', r)) :
    Good codec { world := w', time := env.now, lastReset := noteReset s.lastReset op r } := by
  cases good with
  | nothing file memory last =>
    obtain ⟨rfl, _, rfl⟩ | ⟨rfl, rfl, i, ca, is, rfl, last', fits⟩ := perform_first file memory done
    · exact .nothing file memory (noteReset_error.trans last)
    · exact .stored i ca (.of is) (last'.trans last.symm) fits
  | stored i ca stored last fits =>
    cases perform_effect stored done with
    | failed => exact .stored i ca stored (last.trans noteReset_error.symm) fits
    | kept stored' _ repeated =>
      refine .stored i ca stored' ?_ fits
      cases op with
      | reset commandId => exact (repeated commandId rfl).2.symm
      | openIdentity | ensureFresh | handshake => exact last
    | refreshed other is last' next =>
      exact .stored _ _ (.of is) ((last'.trans last).trans (noteReset_other other).symm)
        (next.fits (clear.outlasts other stored))
    | replaced _ is_reset _ is last' fits =>
      subst is_reset
      exact .stored _ _ (.of is) last' fits

/-- Every clear step keeps the identity good. -/
lemma Good.step {a : Action} (good : Good codec s) (clear : Clear zone codec s a)
    (st : s.step zone codec a = some s') : Good codec s' := by
  cases a with
  | restart =>
    cases st
    cases good with
    | nothing file _ last => exact .nothing file rfl last
    | stored i ca stored last fits => exact .stored i ca ⟨stored.file, stored.stands, nofun⟩ last fits
  | operate op env =>
    simp only [System.step] at st
    split at st
    · cases done : TlsIdentity.perform zone codec env s.world op with
      | mk =>
        rw [done] at st
        cases st
        exact good.perform clear done
    · cases st

/-- The file holds what is in memory. -/
lemma Good.load_memory (good : Good codec s) (memory : s.world.identity = some i) :
    ∃ root, load codec s.world.file = some (i, root) := by
  cases good with
  | nothing _ none_ => cases none_.symm.trans memory
  | stored _ ca stored =>
    cases stored.memory i memory
    exact ⟨ca, stored.load⟩

/-- An operation that fails changes nothing. -/
lemma Good.unchanged {error : Error} (good : Good codec s)
    (done : TlsIdentity.perform zone codec env s.world op = (w, .error error)) : w = s.world := by
  cases good with
  | nothing file memory =>
    obtain ⟨same, _⟩ | ⟨_, ok, _⟩ := perform_first file memory done
    · exact same
    · cases ok
  | stored _ _ stored =>
    cases perform_effect stored done with
    | failed => rfl

/-- A repeated reset changes nothing. -/
lemma Good.repeat_reset (good : Good codec s) (memory : s.world.identity = some i) (last : s.lastReset ≠ "") :
    TlsIdentity.perform zone codec env s.world (.reset s.lastReset) = (s.world, .ok ()) := by
  have same : i.state.lastResetCommand = s.lastReset := by
    cases good with
    | nothing _ none_ => cases none_.symm.trans memory
    | stored _ _ stored last =>
      cases stored.memory i memory
      exact last
  simp [TlsIdentity.perform, memory, reset, last, same]

/-- Only another reset, or a root near its end, changes root or name. -/
lemma Good.root_kept {root root' : Certificate} (good : Good codec s)
    (done : TlsIdentity.perform zone codec env s.world op = (w, r))
    (before : load codec s.world.file = some (i, root)) (after : load codec w.file = some (i', root')) :
    (root' = root ∧ i'.state.serverName = i.state.serverName) ∨
      (∃ commandId, op = .reset commandId ∧ (commandId = "" ∨ commandId ≠ s.lastReset)) ∨
        env.untilTime root.notAfter ≤ days 366 := by
  cases good with
  | nothing file =>
    rw [file] at before
    cases before
  | stored _ _ stored last =>
    cases stored.load.symm.trans before
    cases perform_effect stored done with
    | failed =>
      cases before.symm.trans after
      exact .inl ⟨rfl, rfl⟩
    | kept stored' =>
      cases stored'.load.symm.trans after
      exact .inl ⟨rfl, rfl⟩
    | refreshed _ is _ next =>
      cases (Stored.of is).load.symm.trans after
      cases next with
      | fresh late => exact .inr (.inr late)
      | renewed _ _ name => exact .inl ⟨rfl, name⟩
    | replaced commandId is_reset new => exact .inr (.inl ⟨commandId, is_reset, last ▸ new⟩)

/-- The leaf expires no later than the root. -/
lemma Good.leaf_le_root {root : Certificate} (good : Good codec s) (is : load codec s.world.file = some (i, root)) :
    i.certificate.leaf.notAfter ≤ root.notAfter := by
  cases good with
  | nothing file =>
    rw [file] at is
    cases is
  | stored _ _ stored _ fits =>
    cases stored.load.symm.trans is
    exact fits

/-- In every run in which a root outlasts the leaves that are renewed: the identity in memory is the one in the file;
an operation that fails changes neither; a reset that repeats the last one changes nothing; the root and the server
name change only by another reset or when the root has at most 366 days left; and the leaf expires no later than the
root. -/
theorem identity_stays_consistent (reach : (machine zone codec).ReachableAlong (Clear zone codec) s) :
    (∀ i, s.world.identity = some i → ∃ root, load codec s.world.file = some (i, root)) ∧
    (∀ op env w error, perform zone codec env s.world op = (w, .error error) → w = s.world) ∧
    (∀ i env, s.world.identity = some i → s.lastReset ≠ "" →
      perform zone codec env s.world (.reset s.lastReset) = (s.world, .ok ())) ∧
    (∀ op env w result i root i' root', perform zone codec env s.world op = (w, result) →
      load codec s.world.file = some (i, root) → load codec w.file = some (i', root') →
      (root' = root ∧ i'.state.serverName = i.state.serverName) ∨
        (∃ commandId, op = .reset commandId ∧ (commandId = "" ∨ commandId ≠ s.lastReset)) ∨
          env.untilTime root.notAfter ≤ days 366) ∧
    ∀ i root, load codec s.world.file = some (i, root) → i.certificate.leaf.notAfter ≤ root.notAfter := by
  have good : Good codec s := by
    refine reach.inv ?_ fun s a s' => Good.step
    rintro _ ⟨file, memory, last⟩
    exact .nothing file memory last
  exact ⟨fun _ => good.load_memory, fun _ _ _ _ => good.unchanged, fun _ _ => good.repeat_reset,
    fun _ _ _ _ _ _ _ _ => good.root_kept, fun _ _ => good.leaf_le_root⟩

/-! ## A place that sets its clocks back -/

/-- The offset of New York from November 2018 to November 2028, the latest change first. -/
def newYorkChanges : List (Int × Int) :=
  [(63992613600, -18000), (63972054000, -14400), (63961164000, -18000), (63940604400, -14400),
    (63929109600, -18000), (63908550000, -14400), (63897660000, -18000), (63877100400, -14400),
    (63866210400, -18000), (63845650800, -14400), (63834760800, -18000), (63814201200, -14400),
    (63803311200, -18000), (63782751600, -14400), (63771861600, -18000), (63751302000, -14400),
    (63739807200, -18000), (63719247600, -14400), (63708357600, -18000), (63687798000, -14400),
    (63676908000, -18000)]

def newYork : Location where
  offset := Location.offsetIn (-14400) newYorkChanges
  bounded _ := Location.offsetIn_bounded (by decide) (by decide)

/-- Texts that are what they stand for. -/
def sampleCodec : Codec (Certificate ⊕ Key) (Persisted (Certificate ⊕ Key)) where
  certificatePem := .inl
  parseCertificate := Sum.getLeft?
  parse_certificate _ := rfl
  keyPem := .inr
  parseKey := Sum.getRight?
  parse_key _ := rfl
  marshal := id
  unmarshal := some
  unmarshal_marshal _ := rfl
  fingerprint c := c.subject

/-- An operation at a second, with keys of its own. -/
def sampleEnv (second : Int) (key : Key) : Env where
  now := second * 1000000000
  caKey := 2 * key
  serverKey := 2 * key + 1
  id := .replicate 16 7
  caSerial := key
  serverSerial := key

instance (s : System Pem File) : (a : Action) → Decidable (Clear zone codec s a)
  | .operate .openIdentity env => inferInstanceAs (Decidable (∀ p ∈ load codec s.world.file, Outlasts zone env p))
  | .operate (.reset _) _ => .isTrue trivial
  | .operate .ensureFresh env => inferInstanceAs (Decidable (∀ p ∈ load codec s.world.file, Outlasts zone env p))
  | .operate .handshake env => inferInstanceAs (Decidable (∀ p ∈ load codec s.world.file, Outlasts zone env p))
  | .restart => .isTrue trivial

/-- A reset on the day after the creation, a restart, and a handshake that renews the leaf 349 days later; then the
reset is repeated. -/
theorem identity_stays_consistent_renewal : ∃ s i,
    (machine newYork sampleCodec).ReachableAlong (Clear newYork sampleCodec) s ∧
    s.world.identity = some i ∧ i.certificate.leaf.serialNumber = 4 ∧
    (∃ root, load sampleCodec s.world.file = some (i, root) ∧ root.serialNumber = 2 ∧
      i.certificate.leaf.notAfter ≤ root.notAfter) ∧
    perform newYork sampleCodec (sampleEnv 63707351401 5) s.world (.reset "rotate") = (s.world, .ok ()) := by
  let acts : List Action := [.operate .openIdentity (sampleEnv 63677111400 1),
    .operate (.reset "rotate") (sampleEnv 63677197800 2), .restart,
    .operate .openIdentity (sampleEnv 63677197900 3), .operate .handshake (sampleEnv 63707351400 4)]
  obtain ⟨s, i, run, last, memory, leaf, root, is, serial⟩ : ∃ s i,
      (machine newYork sampleCodec).run {} acts = some s ∧ s.lastReset = "rotate" ∧
      s.world.identity = some i ∧ i.certificate.leaf.serialNumber = 4 ∧
      ∃ root, load sampleCodec s.world.file = some (i, root) ∧ root.serialNumber = 2 :=
    ⟨_, _, rfl, rfl, rfl, rfl, _, rfl, rfl⟩
  have reach : (machine newYork sampleCodec).ReachableAlong (Clear newYork sampleCodec) s :=
    ⟨{}, acts, ⟨rfl, rfl, rfl⟩, .of_along (by decide +kernel), run⟩
  obtain ⟨_, _, repeated, _, fits⟩ := identity_stays_consistent reach
  refine ⟨s, i, reach, memory, leaf, ⟨root, is, serial, fits i root is⟩, ?_⟩
  rw [← last]
  exact repeated i _ memory (by rw [last]; decide)

/-- The identity was created on 2018-11-06 at 09:30, and the node is started again on 2027-11-06 at 10:00. The root
has 366 days and 30 minutes left. The clocks are set back on 2028-11-05, and the leaf expires 366 days and one
hour later, on 2028-11-06 at 10:00. -/
theorem leaf_expires_after_root : ∃ s, (machine newYork sampleCodec).Reachable s ∧
    ∃ i root, load sampleCodec s.world.file = some (i, root) ∧
      root.notAfter = 63992730600 ∧ i.certificate.leaf.notAfter = 63992732400 :=
  ⟨_, ⟨{}, [.operate .openIdentity (sampleEnv 63677111400 1), .restart,
    .operate .openIdentity (sampleEnv 63961106400 2)], ⟨rfl, rfl, rfl⟩, rfl⟩, _, _, rfl, rfl, rfl⟩

end MeowFrp.Core.TlsIdentity
