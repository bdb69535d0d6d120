import Mathlib.Data.Set.Basic

/-!
# Exclusive grants

A ledger records which grant holds which resource, and for which owner. Owners ask for resources in
two moves: a *reservation* checks that every wanted resource is free or already held by the same
owner, and a later *grant* drops the owner's holdings and adds the new ones. In between, other parties
may take holdings away (revocation, expiry, deletion) but nobody else may reserve or grant.

`Step` is that protocol, over arbitrary types of grants, owners and resources, and `Safe` is its
invariant: no resource is held by two grants, and the current reservation is still free for its owner.
The exemption of the owner's own holdings is sound only because the grant drops exactly those, which
is what `Exclusive.regrant` shows.
-/

namespace MeowFrp.Lib.Ledger

universe u v w
variable {ι : Type u} {κ : Type v} {ρ : Type w}

/-- One grant holds one resource on behalf of one owner. -/
structure Holding (ι : Type u) (κ : Type v) (ρ : Type w) where
  grant : ι
  owner : κ
  resource : ρ

/-- No resource is held by two grants. -/
def Exclusive (L : Set (Holding ι κ ρ)) : Prop :=
  ∀ h ∈ L, ∀ h' ∈ L, h.resource = h'.resource → h.grant = h'.grant

/-- Nobody but `k` holds a resource of `rs`. -/
def FreeFor (L : Set (Holding ι κ ρ)) (k : κ) (rs : Set ρ) : Prop :=
  ∀ h ∈ L, h.resource ∈ rs → h.owner = k

/-- Drop the holdings of `k` and hold `rs` under the grant `g` instead. -/
def regrant (L : Set (Holding ι κ ρ)) (g : ι) (k : κ) (rs : Set ρ) : Set (Holding ι κ ρ) :=
  {h | h ∈ L ∧ h.owner ≠ k} ∪ {h | h.grant = g ∧ h.owner = k ∧ h.resource ∈ rs}

/-- Fewer holdings are exclusive too. -/
lemma Exclusive.mono {L L' : Set (Holding ι κ ρ)} (ex : Exclusive L) (sub : L' ⊆ L) :
    Exclusive L' :=
  fun h mh h' mh' e => ex h (sub mh) h' (sub mh') e

/-- What is free stays free among fewer holdings. -/
lemma FreeFor.mono {L L' : Set (Holding ι κ ρ)} {k rs} (free : FreeFor L k rs) (sub : L' ⊆ L) :
    FreeFor L' k rs :=
  fun h mh m => free h (sub mh) m

/-- The exemption of the owner's own holdings is matched by their removal. -/
lemma Exclusive.regrant {L : Set (Holding ι κ ρ)} {g k rs} (ex : Exclusive L)
    (free : FreeFor L k rs) : Exclusive (regrant L g k rs) := by
  rintro h (⟨m, ne⟩ | ⟨eg, _, mr⟩) h' (⟨m', ne'⟩ | ⟨eg', _, mr'⟩) e
  · exact ex h m h' m' e
  · exact absurd (free h m (e ▸ mr')) ne
  · exact absurd (free h' m' (e ▸ mr)) ne'
  · rw [eg, eg']

/-- The ledger and the reservation in progress. -/
structure State (ι : Type u) (κ : Type v) (ρ : Type w) where
  held : Set (Holding ι κ ρ)
  reserved : Option (κ × Set ρ)

/-- A step of the protocol. -/
inductive Step : State ι κ ρ → State ι κ ρ → Prop
  | shrink {L L' r} : L' ⊆ L → Step ⟨L, r⟩ ⟨L', r⟩
  | cancel {L L' r} : L' ⊆ L → Step ⟨L, r⟩ ⟨L', none⟩
  | reserve {L L' r k rs} : L' ⊆ L → FreeFor L k rs → Step ⟨L, r⟩ ⟨L', some (k, rs)⟩
  | grant {L L' g k rs} : L' ⊆ regrant L g k rs → Step ⟨L, some (k, rs)⟩ ⟨L', none⟩

/-- The invariant of the protocol. -/
structure Safe (s : State ι κ ρ) : Prop where
  exclusive : Exclusive s.held
  reserved : ∀ k rs, s.reserved = some (k, rs) → FreeFor s.held k rs

/-- Every step of the protocol keeps the ledger exclusive. -/
theorem Step.safe {s s' : State ι κ ρ} (st : Step s s') (safe : Safe s) : Safe s' := by
  cases st with
  | shrink sub =>
    refine ⟨safe.exclusive.mono sub, fun k rs e => ?_⟩
    exact (safe.reserved k rs e).mono sub
  | cancel sub => exact ⟨safe.exclusive.mono sub, nofun⟩
  | reserve sub free =>
    refine ⟨safe.exclusive.mono sub, fun k rs e => ?_⟩
    cases e
    exact free.mono sub
  | grant sub =>
    have free := safe.reserved _ _ rfl
    exact ⟨(safe.exclusive.regrant free).mono sub, nofun⟩

end MeowFrp.Lib.Ledger
