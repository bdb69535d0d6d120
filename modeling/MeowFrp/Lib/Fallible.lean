import Mathlib.Init

/-!
# Fallible programs

Programs in the monad of their errors: what is known when a sequence has succeeded, and loops of an imperative
program. The condition of a loop may fail, and so may the body, which goes on with another state or leaves the
loop with a result. A loop that wants to run its body more often than `fuel` times is an error as well, so that
the bound on the number of iterations can be stated and proved.

`Returns` says that a program succeeds with a result that meets a postcondition. A loop is reasoned about by an
invariant and a variant (`loop_returns`) or by comparison with another loop (`loop_transfer`); neither mentions how
often it runs.
-/

namespace MeowFrp.Lib

variable {ε σ α β : Type}

lemma bind_ok {x : Except ε α} {f : α → Except ε β} {b : β} :
    (x >>= f) = .ok b ↔ ∃ a, x = .ok a ∧ f a = .ok b := by
  cases x with
  | error => exact ⟨nofun, fun ⟨_, no, _⟩ => nomatch no⟩
  | ok a => exact ⟨fun e => ⟨a, rfl, e⟩, fun ⟨_, same, e⟩ => by cases same; exact e⟩

lemma pure_ok {a b : α} : (pure a : Except ε α) = .ok b ↔ a = b :=
  ⟨fun e => by cases e; rfl, fun e => by cases e; rfl⟩

@[simp]
lemma ok_bind {a : α} {f : α → Except ε β} : ((.ok a : Except ε α) >>= f) = f a := rfl

@[simp]
lemma pure_eq_ok {a : α} : (pure a : Except ε α) = .ok a := rfl

/-- A test stands before the rest. -/
lemma test_bind_ok {p : Prop} [Decidable p] {error : ε} {f : Unit → Except ε β} {b : β} :
    ((if p then .error error else .ok () : Except ε Unit) >>= f) = .ok b ↔ ¬p ∧ f () = .ok b := by
  split
  · rename_i fails
    exact ⟨nofun, fun ok => absurd fails ok.1⟩
  · rename_i passes
    exact ⟨fun e => ⟨passes, e⟩, fun ok => ok.2⟩

/-- Run the body at most `fuel` times. -/
def loop (exceeded : ε) (cond : σ → Except ε Bool) (body : σ → Except ε (σ ⊕ β)) (exit : σ → β) :
    (fuel : Nat) → σ → Except ε β
  | 0, s => do
    if ← cond s then .error exceeded else .ok (exit s)
  | fuel + 1, s => do
    if ← cond s then
      match ← body s with
      | .inl s => loop exceeded cond body exit fuel s
      | .inr result => .ok result
    else .ok (exit s)

/-! ## Postconditions -/

/-- The program succeeds, and its result meets the postcondition. -/
def Returns (x : Except ε α) (Q : α → Prop) : Prop := ∃ a, x = .ok a ∧ Q a

variable {x : Except ε α} {f : α → Except ε β} {P : α → Prop} {Q : β → Prop}

lemma Returns.ok {a : α} (post : P a) : Returns (.ok a : Except ε α) P := ⟨a, rfl, post⟩

lemma returns_eq {a : α} : Returns x (· = a) ↔ x = .ok a := by
  constructor
  · rintro ⟨_, e, rfl⟩
    exact e
  · intro e
    exact ⟨a, e, rfl⟩

lemma Returns.mono {P' : α → Prop} (returns : Returns x P) (imp : ∀ a, P a → P' a) : Returns x P' := by
  obtain ⟨a, e, post⟩ := returns
  exact ⟨a, e, imp a post⟩

/-- The postcondition of the first is the second's precondition. -/
lemma Returns.bind (returns : Returns x P) (rest : ∀ a, P a → Returns (f a) Q) : Returns (x >>= f) Q := by
  obtain ⟨a, e, post⟩ := returns
  obtain ⟨b, e', post'⟩ := rest a post
  exact ⟨b, bind_ok.mpr ⟨a, e, e'⟩, post'⟩

/-- A test that ends the program, before the rest. -/
lemma Returns.ite {c : Prop} [Decidable c] {x y : Except ε α} (yes : c → Returns x P) (no : ¬c → Returns y P) :
    Returns (if c then x else y) P := by
  split
  · rename_i holds
    exact yes holds
  · rename_i fails
    exact no fails

/-! ## Loops -/

section
variable {exceeded : ε} {cond : σ → Except ε Bool} {body : σ → Except ε (σ ⊕ β)} {exit : σ → β} {fuel : Nat}
  {s : σ}

lemma loop_succ : loop exceeded cond body exit (fuel + 1) s = cond s >>= fun c =>
    if c then body s >>= Sum.elim (loop exceeded cond body exit fuel) .ok else .ok (exit s) := by
  rw [loop]
  refine bind_congr fun c => ?_
  congr 1
  refine bind_congr fun next => ?_
  cases next with
  | inl | inr => rfl

lemma loop_done (done : cond s = .ok false) : loop exceeded cond body exit fuel s = .ok (exit s) := by
  cases fuel with
  | zero =>
    rw [loop, done]
    rfl
  | succ =>
    rw [loop_succ, done]
    rfl

/-- Every turn keeps the invariant and lowers the variant, or ends the loop. -/
theorem loop_returns (I : σ → Prop) (variant : σ → Nat)
    (turn : ∀ s, I s → Returns (cond s) fun c =>
      (c = true → 0 < variant s ∧ Returns (body s) (Sum.elim (fun s' => I s' ∧ variant s' < variant s) Q)) ∧
        (c = false → Q (exit s)))
    (init : I s) (enough : variant s ≤ fuel) : Returns (loop exceeded cond body exit fuel s) Q := by
  induction fuel generalizing s with
  | zero =>
    obtain ⟨c, e, goes, ends⟩ := turn s init
    cases c with
    | true => exact absurd (goes rfl).1 (Nat.not_lt.mpr enough)
    | false =>
      rw [loop, e]
      exact .ok (ends rfl)
  | succ _ ih =>
    rw [loop_succ]
    refine (turn s init).bind fun c ⟨goes, ends⟩ => ?_
    cases c with
    | true =>
      refine (goes rfl).2.bind fun next post => ?_
      cases next with
      | inl => exact ih post.1 (by have := post.2; omega)
      | inr => exact .ok post
    | false => exact .ok (ends rfl)

/-- A loop that does the same turns, as long as they do not lead to an unwanted result, and may do more of them. -/
theorem loop_transfer {cond' : σ → Except ε Bool} {body' : σ → Except ε (σ ⊕ β)} {exit' : σ → β} {fuel' : Nat}
    {result : β}
    (enters : ∀ s, cond s = .ok true → cond' s = .ok true)
    (follows : ∀ s next, body s = .ok next → Sum.elim (fun _ => True) Q next → body' s = .ok next)
    (unwanted : ∀ s, ¬Q (exit s)) (more : fuel ≤ fuel')
    (run : loop exceeded cond body exit fuel s = .ok result) (wanted : Q result) :
    loop exceeded cond' body' exit' fuel' s = .ok result := by
  induction fuel generalizing s fuel' with
  | zero =>
    rw [loop] at run
    obtain ⟨c, e, run⟩ := bind_ok.mp run
    cases c with
    | true => cases run
    | false =>
      cases run
      exact absurd wanted (unwanted s)
  | succ _ ih =>
    obtain ⟨fuel', rfl⟩ : ∃ n, fuel' = n + 1 := ⟨fuel' - 1, by omega⟩
    rw [loop_succ] at run ⊢
    obtain ⟨c, e, run⟩ := bind_ok.mp run
    cases c with
    | true =>
      obtain ⟨next, e', run⟩ := bind_ok.mp run
      cases next with
      | inl s' =>
        refine bind_ok.mpr ⟨true, enters s e, bind_ok.mpr ⟨.inl s', follows s _ e' trivial, ?_⟩⟩
        exact ih (Nat.le_of_succ_le_succ more) run
      | inr =>
        cases run
        exact bind_ok.mpr ⟨true, enters s e, bind_ok.mpr ⟨.inr result, follows s _ e' wanted, rfl⟩⟩
    | false =>
      cases run
      exact absurd wanted (unwanted s)

end

end MeowFrp.Lib
