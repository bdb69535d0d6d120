import MeowFrp.Dpi.Service

/-!
# The summary of a DPI policy

Model of Go `clientDPISummaryFromPolicy`, which tells a client what traffic its policy blocks, and how
it compares with what the service enforces. They differ for an enabled policy in block mode in two
cases. When the detector list names none of the traffic types, the summary shows the default detectors
and the service inspects nothing. When any finding is blocked, a traffic type that the policy allows is
listed both ways.
-/

namespace MeowFrp.Dpi

open List

/-- The traffic types. -/
def trafficTypes : List String := ["http", "tls", "quic", "encrypted_tunnel"]

/-- Go `normalizeDPIDetectors`; `none` is the absent list. -/
def normalizeDpiDetectors : Option (List String) → List String
  | none => defaultPolicy.enabledDetectors
  | some values =>
    values.foldl (fun out value =>
      let value := toLower (trimSpace value)
      if trafficTypes.contains value && !out.contains value then out ++ [value] else out) []

/-- Go `detectorEnabled`. -/
def detectorEnabled (trafficType : String) (enabledDetectors : List String) : Bool :=
  enabledDetectors.any (· = trafficType)

/-- Go `dpiTypeAllowed`. -/
def dpiTypeAllowed (policy : DpiPolicy) (trafficType : String) : Bool :=
  match trafficType with
  | "http" => policy.allowHttp
  | "tls" => policy.allowTls
  | "quic" => policy.allowQuic
  | "encrypted_tunnel" => policy.allowEncryptedTunnel
  | _ => true

/-- Go `clientDPISummary`. -/
structure ClientDpiSummary where
  enabled : Bool
  mode : DpiMode
  enabledDetectors : List String
  blockedTrafficTypes : List String := []
  allowedTrafficTypes : List String := []
  blockOnAnyFinding : Bool
  deriving DecidableEq, Repr

/-- Go `clientDPISummaryFromPolicy`. -/
def clientDpiSummaryFromPolicy (policy : DpiPolicy) : ClientDpiSummary :=
  let normalized := normalizeDpiDetectors (some policy.enabledDetectors)
  let enabledDetectors :=
    if normalized.isEmpty then normalizeDpiDetectors (some defaultPolicy.enabledDetectors) else normalized
  let summary : ClientDpiSummary :=
    { enabled := policy.enabled, mode := policy.mode, enabledDetectors
      blockOnAnyFinding := policy.blockOnAnyFinding }
  if !policy.enabled then summary
  else
    let summary := { summary with
      allowedTrafficTypes :=
        trafficTypes.filter fun t => detectorEnabled t enabledDetectors && dpiTypeAllowed policy t }
    if policy.mode ≠ .block then summary
    else if policy.blockOnAnyFinding then { summary with blockedTrafficTypes := enabledDetectors }
    else { summary with
      blockedTrafficTypes :=
        trafficTypes.filter fun t => detectorEnabled t enabledDetectors && !dpiTypeAllowed policy t }

variable {policy : DpiPolicy} {t : String} {finding : Finding}

/-- The policy names a detector of the traffic type. -/
def Detects (policy : DpiPolicy) (t : String) : Prop :=
  ∃ detector ∈ policy.enabledDetectors, toLower (trimSpace detector) = t

/-! ## What is enforced -/

lemma blockReason_isSome (known : t ∈ trafficTypes) (type : toLower finding.detector = t) :
    (blockReason policy finding).isSome = !dpiTypeAllowed policy t := by
  unfold blockReason
  rw [type]
  simp only [trafficTypes, mem_cons, not_mem_nil, or_false] at known
  rcases known with rfl | rfl | rfl | rfl
  · cases h : policy.allowHttp <;> simp [dpiTypeAllowed, h]
  · cases h : policy.allowTls <;> simp [dpiTypeAllowed, h]
  · cases h : policy.allowQuic <;> simp [dpiTypeAllowed, h]
  · cases h : policy.allowEncryptedTunnel <;> simp [dpiTypeAllowed, h]

lemma ne_empty_of_known (known : t ∈ trafficTypes) : t ≠ "" := by
  rintro rfl
  revert known
  decide

/-- The finding is kept if the policy names its detector. -/
lemma filterFindings_single (known : t ∈ trafficTypes) (type : toLower finding.detector = t) :
    (Detects policy t ∧ filterFindings [finding] policy.enabledDetectors = [finding]) ∨
      (¬ Detects policy t ∧ filterFindings [finding] policy.enabledDetectors = []) := by
  have listed : ((policy.enabledDetectors.map fun d => toLower (trimSpace d)).filter (· ≠ "")).contains
      (toLower finding.detector) = true ↔ Detects policy t := by
    rw [type, contains_iff_mem, mem_filter, mem_map, decide_eq_true_eq]
    exact and_iff_left (ne_empty_of_known known)
  unfold filterFindings
  dsimp only
  rw [filter_singleton, Bool.cond_eq_ite]
  by_cases named : Detects policy t
  · exact .inl ⟨named, if_pos (listed.mpr named)⟩
  · exact .inr ⟨named, if_neg (named ∘ listed.mp)⟩

/-- When the service blocks a sample with one finding. -/
lemma judge_block (known : t ∈ trafficTypes) (type : toLower finding.detector = t) :
    (judge policy (.ok [finding])).action = .block ↔
      policy.enabled = true ∧ policy.mode = .block ∧ Detects policy t ∧
        (dpiTypeAllowed policy t = false ∨ policy.blockOnAnyFinding = true) := by
  unfold judge
  by_cases inert : (!policy.enabled || policy.enabledDetectors.isEmpty) = true
  · rw [if_pos inert]
    refine iff_of_false nofun ?_
    rintro ⟨enabled, _, ⟨_, m, _⟩, _⟩
    rw [enabled, Bool.not_true, Bool.false_or, List.isEmpty_iff] at inert
    rw [inert] at m
    cases m
  rw [if_neg inert]
  have enabled : policy.enabled = true := by
    by_contra off
    rw [Bool.not_eq_true] at off
    rw [off] at inert
    exact inert rfl
  dsimp only
  rcases filterFindings_single known type with ⟨named, kept⟩ | ⟨unnamed, dropped⟩
  · rw [kept]
    dsimp only
    by_cases block : policy.mode = .block
    · rw [if_pos block]
      have verdict : (blockReason policy finding).isSome = !dpiTypeAllowed policy t :=
        blockReason_isSome known type
      cases reason : blockReason policy finding with
      | some text =>
        have found : blockedByPolicy policy [finding] = some (text, finding) := by
          simp [blockedByPolicy, reason]
        rw [reason, Option.isSome_some, eq_comm, Bool.not_eq_true'] at verdict
        rw [found]
        exact iff_of_true rfl ⟨enabled, block, named, .inl verdict⟩
      | none =>
        have found : blockedByPolicy policy [finding] = none := by
          simp [blockedByPolicy, reason]
        rw [reason, Option.isSome_none, eq_comm, Bool.not_eq_false'] at verdict
        rw [found, verdict]
        dsimp only
        cases any : policy.blockOnAnyFinding with
        | true => exact iff_of_true rfl ⟨enabled, block, named, .inr rfl⟩
        | false => exact iff_of_false nofun (by simp)
    · rw [if_neg block]
      exact iff_of_false nofun fun ⟨_, mode, _⟩ => block mode
  · rw [dropped]
    exact iff_of_false nofun fun ⟨_, _, named, _⟩ => unnamed named

/-! ## What is shown -/

lemma mem_normalizeDpiDetectors {values : List String} :
    t ∈ normalizeDpiDetectors (some values) ↔
      t ∈ trafficTypes ∧ ∃ value ∈ values, toLower (trimSpace value) = t := by
  -- the loop adds to what it has collected
  have loop : ∀ (values out : List String),
      t ∈ values.foldl (fun out value =>
        let value := toLower (trimSpace value)
        if trafficTypes.contains value && !out.contains value then out ++ [value] else out) out ↔
      t ∈ out ∨ (t ∈ trafficTypes ∧ ∃ value ∈ values, toLower (trimSpace value) = t) := by
    intro values
    induction values with
    | nil => simp
    | cons value _ ih =>
      intro out
      rw [foldl_cons, ih]
      simp only [mem_cons, exists_eq_or_imp]
      split
      · rename_i new
        rw [Bool.and_eq_true, contains_iff_mem] at new
        rw [mem_append, mem_singleton]
        constructor
        · rintro ((old | rfl) | ⟨known, later⟩)
          · exact .inl old
          · exact .inr ⟨new.1, .inl rfl⟩
          · exact .inr ⟨known, .inr later⟩
        · rintro (old | ⟨known, rfl | later⟩)
          · exact .inl (.inl old)
          · exact .inl (.inr rfl)
          · exact .inr ⟨known, later⟩
      · rename_i skipped
        constructor
        · rintro (old | ⟨known, later⟩)
          · exact .inl old
          · exact .inr ⟨known, .inr later⟩
        · rintro (old | ⟨known, rfl | later⟩)
          · exact .inl old
          · -- a known value is skipped only if it was collected before
            left
            by_contra new
            apply skipped
            rw [Bool.and_eq_true, contains_iff_mem, Bool.not_eq_true', ← Bool.not_eq_true,
              contains_iff_mem]
            exact ⟨known, new⟩
          · exact .inr ⟨known, later⟩
  rw [normalizeDpiDetectors, loop]
  simp

/-- The detectors that are shown: those of the policy, or all if it names none. -/
lemma mem_enabledDetectors :
    t ∈ (clientDpiSummaryFromPolicy policy).enabledDetectors ↔
      t ∈ trafficTypes ∧ (Detects policy t ∨ ∀ u ∈ trafficTypes, ¬ Detects policy u) := by
  have shown : (clientDpiSummaryFromPolicy policy).enabledDetectors =
      if (normalizeDpiDetectors (some policy.enabledDetectors)).isEmpty then trafficTypes
      else normalizeDpiDetectors (some policy.enabledDetectors) := by
    have defaults : normalizeDpiDetectors (some defaultPolicy.enabledDetectors) = trafficTypes := by decide
    unfold clientDpiSummaryFromPolicy
    rw [defaults]
    dsimp only
    split
    · rfl
    · split
      · rfl
      · split <;> rfl
  have named : ∀ u, u ∈ normalizeDpiDetectors (some policy.enabledDetectors) ↔
      u ∈ trafficTypes ∧ Detects policy u := fun u => mem_normalizeDpiDetectors
  rw [shown]
  split
  · rename_i empty
    rw [List.isEmpty_iff, List.eq_nil_iff_forall_not_mem] at empty
    have none : ∀ u ∈ trafficTypes, ¬ Detects policy u :=
      fun u known detects => empty u ((named u).mpr ⟨known, detects⟩)
    exact (and_iff_left (.inr none)).symm
  · rename_i some
    rw [named]
    refine and_congr_right fun known => (or_iff_left fun none => some ?_).symm
    rw [List.isEmpty_iff, List.eq_nil_iff_forall_not_mem]
    exact fun u m => none u ((named u).mp m).1 ((named u).mp m).2

lemma detectorEnabled_iff {detectors : List String} : detectorEnabled t detectors = true ↔ t ∈ detectors := by
  unfold detectorEnabled
  simp

/-- The types listed as blocked. -/
lemma mem_blockedTrafficTypes :
    t ∈ (clientDpiSummaryFromPolicy policy).blockedTrafficTypes ↔
      policy.enabled = true ∧ policy.mode = .block ∧
        t ∈ (clientDpiSummaryFromPolicy policy).enabledDetectors ∧
        (dpiTypeAllowed policy t = false ∨ policy.blockOnAnyFinding = true) := by
  have known : t ∈ (clientDpiSummaryFromPolicy policy).enabledDetectors → t ∈ trafficTypes :=
    fun m => (mem_enabledDetectors.mp m).1
  revert known
  unfold clientDpiSummaryFromPolicy
  dsimp only
  split
  · rename_i off
    intro _
    refine iff_of_false nofun fun on => ?_
    rw [on.1] at off
    cases off
  · rename_i on
    rw [Bool.not_eq_true, Bool.not_eq_false'] at on
    split
    · rename_i monitor
      intro _
      exact iff_of_false nofun fun block => monitor block.2.1
    · rename_i block
      rw [ne_eq, not_not] at block
      split
      · rename_i any
        intro _
        simp only [on, block, any, or_true, and_true, true_and]
      · rename_i notAny
        intro known
        simp only [on, block, notAny, or_false, true_and, mem_filter, Bool.and_eq_true,
          detectorEnabled_iff, Bool.not_eq_true', Bool.false_eq_true]
        exact and_iff_right_of_imp fun listed => known listed.1

/-- The types listed as allowed. -/
lemma mem_allowedTrafficTypes : t ∈ (clientDpiSummaryFromPolicy policy).allowedTrafficTypes ↔
    policy.enabled = true ∧ t ∈ trafficTypes ∧
      t ∈ (clientDpiSummaryFromPolicy policy).enabledDetectors ∧ dpiTypeAllowed policy t = true := by
  unfold clientDpiSummaryFromPolicy
  dsimp only
  cases on : policy.enabled with
  | false => exact iff_of_false nofun nofun
  | true =>
    rw [if_neg (by decide)]
    split
    · simp [detectorEnabled_iff]
    · split <;> simp [detectorEnabled_iff]

/-! ## The two compared -/

/-- The policies that are shown as they are enforced. -/
structure Presentable (policy : DpiPolicy) : Prop where
  /-- it names a traffic type, or there is nothing to block -/
  named : policy.enabled = true → policy.mode = .block →
    (∃ t ∈ trafficTypes, Detects policy t) ∨
      (policy.blockOnAnyFinding = false ∧ ∀ t ∈ trafficTypes, dpiTypeAllowed policy t = true)
  /-- where any finding is blocked, no inspected type is allowed -/
  apart : policy.enabled = true → policy.mode = .block → policy.blockOnAnyFinding = true →
    ∀ t ∈ trafficTypes, Detects policy t → dpiTypeAllowed policy t = false

/-- One finding that is listed as blocked is blocked; no type is listed as both. -/
structure ShownAsEnforced (policy : DpiPolicy) : Prop where
  blocked : ∀ t ∈ trafficTypes, ∀ finding : Finding, toLower finding.detector = t →
    ∀ (service : Service) (leaseId : String), service.providerUnavailable = false →
      ((service.inspect leaseId (.ok policy) (.ok [finding])).2.action = .block ↔
        t ∈ (clientDpiSummaryFromPolicy policy).blockedTrafficTypes)
  once : ∀ t, ¬ (t ∈ (clientDpiSummaryFromPolicy policy).allowedTrafficTypes ∧
    t ∈ (clientDpiSummaryFromPolicy policy).blockedTrafficTypes)

/-- What a presentable policy lists as blocked is inspected. -/
lemma Presentable.inspected (presentable : Presentable policy)
    (blocked : t ∈ (clientDpiSummaryFromPolicy policy).blockedTrafficTypes) : Detects policy t := by
  obtain ⟨enabled, block, shown, verdict⟩ := mem_blockedTrafficTypes.mp blocked
  obtain ⟨known, detects | none⟩ := mem_enabledDetectors.mp shown
  · exact detects
  · rcases presentable.named enabled block with ⟨u, mu, detects⟩ | ⟨notAny, allowed⟩
    · exact absurd detects (none u mu)
    · rcases verdict with refused | any
      · rw [allowed t known] at refused
        cases refused
      · rw [notAny] at any
        cases any

/-- A presentable policy is shown as it is enforced. -/
lemma Presentable.shown (presentable : Presentable policy) : ShownAsEnforced policy := by
  constructor
  · intro t known finding type service leaseId available
    rw [Service.inspect_of_ok available, judge_block known type]
    constructor
    · rintro ⟨enabled, block, detects, verdict⟩
      exact mem_blockedTrafficTypes.mpr
        ⟨enabled, block, mem_enabledDetectors.mpr ⟨known, .inl detects⟩, verdict⟩
    · intro blocked
      obtain ⟨enabled, block, _, verdict⟩ := mem_blockedTrafficTypes.mp blocked
      exact ⟨enabled, block, presentable.inspected blocked, verdict⟩
  · rintro t ⟨allowed, blocked⟩
    obtain ⟨_, known, _, allowed⟩ := mem_allowedTrafficTypes.mp allowed
    obtain ⟨enabled, block, _, refused | any⟩ := mem_blockedTrafficTypes.mp blocked
    · rw [allowed] at refused
      cases refused
    · rw [presentable.apart enabled block any t known (presentable.inspected blocked)] at allowed
      cases allowed

/-- A type that is listed as blocked is inspected. -/
lemma ShownAsEnforced.detects (shown : ShownAsEnforced policy) (known : t ∈ trafficTypes)
    (blocked : t ∈ (clientDpiSummaryFromPolicy policy).blockedTrafficTypes) : Detects policy t := by
  have type : toLower t = t := by
    have all : ∀ t ∈ trafficTypes, toLower t = t := by decide
    exact all t known
  have available : ({} : Service).providerUnavailable = false := rfl
  have block := (shown.blocked t known { detector := t } type {} "" available).mpr blocked
  rw [Service.inspect_of_ok available] at block
  exact ((@judge_block policy t { detector := t } known type).mp block).2.2.1

/-- A policy that is shown as it is enforced is presentable. -/
lemma ShownAsEnforced.presentable (shown : ShownAsEnforced policy) : Presentable policy := by
  constructor
  · intro enabled block
    by_contra neither
    obtain ⟨none, some⟩ := not_or.mp neither
    -- with no type named, all are shown, and one of them as blocked
    obtain ⟨t, known, verdict⟩ : ∃ t ∈ trafficTypes,
        dpiTypeAllowed policy t = false ∨ policy.blockOnAnyFinding = true := by
      cases any : policy.blockOnAnyFinding with
      | true => exact ⟨"http", by decide, .inr rfl⟩
      | false =>
        by_contra refused
        refine some ⟨any, fun t known => ?_⟩
        by_contra off
        exact refused ⟨t, known, .inl (Bool.not_eq_true _ ▸ off)⟩
    have listed : t ∈ (clientDpiSummaryFromPolicy policy).enabledDetectors :=
      mem_enabledDetectors.mpr ⟨known, .inr fun u mu detects => none ⟨u, mu, detects⟩⟩
    exact none ⟨t, known, shown.detects known (mem_blockedTrafficTypes.mpr ⟨enabled, block, listed, verdict⟩)⟩
  · intro enabled block any t known detects
    by_contra allowed
    have listed := mem_enabledDetectors.mpr ⟨known, .inl detects⟩
    exact shown.once t ⟨mem_allowedTrafficTypes.mpr ⟨enabled, known, listed, Bool.not_eq_false _ ▸ allowed⟩,
      mem_blockedTrafficTypes.mpr ⟨enabled, block, listed, .inr any⟩⟩

/-- The presentable policies are those that block what their summary lists as blocked and list nothing
both ways. -/
theorem summary_matches_enforcement (policy : DpiPolicy) : ShownAsEnforced policy ↔ Presentable policy :=
  ⟨ShownAsEnforced.presentable, Presentable.shown⟩

/-- A policy that blocks HTTP and inspects it and TLS. -/
def blockHttp : DpiPolicy :=
  { defaultPolicy with
    userId := 1, enabled := true, mode := .block, enabledDetectors := [" HTTP", "tls"], allowHttp := false }

/-- The policy is presentable, so it blocks HTTP if and only if it says so. -/
theorem summary_matches_enforcement_http :
    Presentable blockHttp ∧
      (((({} : Service).inspect "lease" (.ok blockHttp) (.ok [{ detector := "http" }])).2.action =
        .block) ↔ "http" ∈ (clientDpiSummaryFromPolicy blockHttp).blockedTrafficTypes) := by
  have presentable : Presentable blockHttp := by
    refine ⟨fun _ _ => .inl ⟨"http", by decide, " HTTP", by decide, by decide⟩, fun _ _ any => ?_⟩
    cases any
  exact ⟨presentable, ((summary_matches_enforcement blockHttp).mpr presentable).blocked "http" (by decide)
    { detector := "http" } (by decide) {} "lease" rfl⟩

/-- A policy without detectors is shown to block HTTP and blocks nothing; one that blocks any finding
lists the allowed TLS both ways. -/
theorem summary_differs_from_enforcement :
    ("http" ∈ (clientDpiSummaryFromPolicy { blockHttp with enabledDetectors := [] }).blockedTrafficTypes ∧
      (({} : Service).inspect "lease" (.ok { blockHttp with enabledDetectors := [] })
        (.ok [{ detector := "http" }])).2.action = .allow) ∧
    "tls" ∈ (clientDpiSummaryFromPolicy { blockHttp with blockOnAnyFinding := true }).allowedTrafficTypes ∧
    "tls" ∈ (clientDpiSummaryFromPolicy { blockHttp with blockOnAnyFinding := true }).blockedTrafficTypes := by
  decide

end MeowFrp.Dpi
