import Chip8.Action
import Chip8.Bytes

/-!
# Running Actions

What an action hands back, part by part, as equations between results. An
action is a function from states to results, so a chain of actions is run by
running its first part and looking at how that went. The equations here say
this for every way in which actions are put together, and nothing after this
module looks inside the monad again.

An action that makes all its tests before its first change either does the whole
of its work or leaves the state as it was. The tests are parts that only look, and
such a part can be put before anything of this kind.

## Main definitions

* `Action.final`: The state handed back, whether completed or refused.
* `Action.outcome`: What is handed back besides, the result or the fault.
* `Action.AllOrNothing`: When an action completes, and that it has no effect
  otherwise.

## Theorems

* `Action.run_bind`: A chain goes on only where its first part completed.
* `Action.run_check_pos`, `Action.run_check_neg`: A test passes or refuses.
* `Action.run_on`: An action on a component changes that component alone.
* `Action.run_lift_ofInts`, `Action.run_lift_notBytes`: Integers that are bytes are
  taken as bytes, and others are refused.
* `Action.AllOrNothing.bind`: Looking before what is all or nothing.
* `Action.AllOrNothing.on`: The same on a component.
* `bind_eq_ok_iff`, `bind_eq_error_iff`, `mapError_eq_ok_iff`,
  `mapError_eq_error_iff`: Chains of values that may be refused.
* `toOption_eq_some_iff`: Such a value without its failure.
-/

namespace Chip8

namespace Action

variable {σ τ α β : Type}

/-- The state that a result hands back. A refusal has one as well. -/
def final : EStateM.Result Fault σ α → σ
  | .ok _ s => s
  | .error _ s => s

@[simp]
theorem final_ok (x : α) (s : σ) : final (.ok x s : EStateM.Result Fault σ α) = s := rfl

@[simp]
theorem final_error (f : Fault) (s : σ) :
    final (.error f s : EStateM.Result Fault σ α) = s := rfl

/-- What a result hands back besides a state. -/
def outcome : EStateM.Result Fault σ α → Except Fault α
  | .ok x _ => .ok x
  | .error f _ => .error f

/-- Two actions in a row: the second starts from what the first leaves, and a fault of
    the first ends both. -/
theorem run_bind (a : Action σ α) (k : α → Action σ β) (s : σ) :
    (a >>= k) s =
      match a s with
      | .ok x t => k x t
      | .error f t => .error f t := by
  change EStateM.bind a k s = _
  unfold EStateM.bind
  cases a s <;> rfl

theorem run_pure (x : α) (s : σ) : (pure x : Action σ α) s = .ok x s := rfl

theorem run_get (s : σ) : (get : Action σ σ) s = .ok s s := rfl

theorem run_modifyGet (g : σ → α × σ) (s : σ) :
    (modifyGet g : Action σ α) s = .ok (g s).1 (g s).2 := rfl

/-- A check that holds does nothing. -/
theorem run_check_pos {p : Prop} [Decidable p] (h : p) (f : Fault) (s : σ) :
    (check p f : Action σ Unit) s = .ok () s := by
  unfold check
  rw [if_pos h]
  rfl

/-- A check that does not hold fails with its fault and changes nothing. -/
theorem run_check_neg {p : Prop} [Decidable p] (h : ¬ p) (f : Fault) (s : σ) :
    (check p f : Action σ Unit) s = .error f s := by
  unfold check
  rw [if_neg h]
  rfl

/-- An action on a part changes this part only, and does so even if it fails. -/
theorem run_on (part : σ → τ) (put : σ → τ → σ) (a : Action τ α) (s : σ) :
    (a.on part put) s =
      match a (part s) with
      | .ok x t => .ok x (put s t)
      | .error f t => .error f (put s t) := rfl

theorem run_discard (a : Action σ α) (s : σ) :
    (discard a : Action σ Unit) s =
      match a s with
      | .ok _ t => .ok () t
      | .error f t => .error f t := by
  change EStateM.map (fun _ => ()) a s = _
  unfold EStateM.map
  cases a s <;> rfl

theorem run_lift_ofInts {vs : List Int} (h : ∀ v ∈ vs, Bytes.IsByte v) (s : σ) :
    (lift (Bytes.ofInts vs) : Action σ (List UInt8)) s = .ok (vs.map Bytes.ofInt) s := by
  unfold lift
  rw [Bytes.ofInts_eq_ok h]

/-- Other integers are a misuse, whatever the state. -/
theorem run_lift_notBytes {vs : List Int} (h : ¬ ∀ v ∈ vs, Bytes.IsByte v) (s : σ) :
    (lift (Bytes.ofInts vs) : Action σ (List UInt8)) s = .error (.misuse .notBytes) s := by
  unfold lift
  rw [Bytes.ofInts_eq_error h]

/-! ### All or nothing -/

/-- An action completes exactly under a condition, with a result and a state as
    described, and is refused otherwise without having changed anything. -/
structure AllOrNothing (a : Action σ α) (s : σ) (p : Prop) (Q : α → σ → Prop) : Prop where
  completes : p → ∃ x t, a s = .ok x t ∧ Q x t
  refused : ¬ p → ∃ f, a s = .error f s

namespace AllOrNothing

variable {a : Action σ α} {s : σ} {p q : Prop} {Q R : α → σ → Prop}

/-- The condition may be put differently, and what follows a success may be weakened. -/
theorem imp (h : a.AllOrNothing s p Q) (hp : q ↔ p) (hQ : ∀ x t, p → Q x t → R x t) :
    a.AllOrNothing s q R := by
  refine ⟨fun hq => ?_, fun hq => h.refused fun hyes => hq (hp.mpr hyes)⟩
  rcases h.completes (hp.mp hq) with ⟨x, t, hok, hx⟩
  exact ⟨x, t, hok, hQ x t (hp.mp hq) hx⟩

theorem of_eq_ok {x : α} {t : σ} (h : a s = .ok x t) (hx : Q x t) : a.AllOrNothing s True Q :=
  ⟨fun _ => ⟨x, t, h, hx⟩, fun hfalse => absurd trivial hfalse⟩

/-- What only looks can be put before what is all or nothing: neither a refusal of the
    one nor of the other comes after a change. -/
theorem bind {k : α → Action σ β} {x : α} {S : β → σ → Prop}
    (ha : a.AllOrNothing s p fun y t => y = x ∧ t = s)
    (hk : p → (k x).AllOrNothing s q S) : (a >>= k).AllOrNothing s (p ∧ q) S := by
  by_cases hp : p
  · rcases ha.completes hp with ⟨y, t, hok, rfl, rfl⟩
    refine ⟨fun hboth => ?_, fun hnot => ?_⟩
    · rw [run_bind, hok]
      exact (hk hp).completes hboth.2
    · rw [run_bind, hok]
      exact (hk hp).refused fun hq => hnot ⟨hp, hq⟩
  · rcases ha.refused hp with ⟨f, hf⟩
    refine ⟨fun hboth => absurd hboth.1 hp, fun _ => ⟨f, ?_⟩⟩
    rw [run_bind, hf]

theorem pure (x : α) (s : σ) :
    (Pure.pure x : Action σ α).AllOrNothing s True fun y t => y = x ∧ t = s :=
  of_eq_ok rfl ⟨rfl, rfl⟩

theorem get (s : σ) : (get : Action σ σ).AllOrNothing s True fun x t => x = s ∧ t = s :=
  of_eq_ok rfl ⟨rfl, rfl⟩

theorem modify (g : σ → σ) (s : σ) :
    (modify g : Action σ PUnit).AllOrNothing s True fun _ t => t = g s :=
  of_eq_ok rfl rfl

/-- A check succeeds on its condition, and leaves the state in either case. -/
theorem check [Decidable p] (f : Fault) (s : σ) :
    (Action.check p f : Action σ Unit).AllOrNothing s p fun x t => x = () ∧ t = s :=
  ⟨fun h => ⟨(), s, run_check_pos h f s, rfl, rfl⟩, fun h => ⟨f, run_check_neg h f s⟩⟩

theorem lift_ofInts (vs : List Int) (s : σ) :
    (lift (Bytes.ofInts vs) : Action σ (List UInt8)).AllOrNothing s (∀ v ∈ vs, Bytes.IsByte v)
      fun x t => x = vs.map Bytes.ofInt ∧ t = s :=
  ⟨fun h => ⟨_, s, run_lift_ofInts h s, rfl, rfl⟩, fun h => ⟨_, run_lift_notBytes h s⟩⟩

/-- A component that is put back as it was leaves the whole as it was. -/
theorem on {part : τ → σ} {put : τ → σ → τ} {s : τ} (hput : put s (part s) = s)
    (h : a.AllOrNothing (part s) p Q) :
    (a.on part put).AllOrNothing s p fun x s' => ∃ t, Q x t ∧ s' = put s t := by
  refine ⟨fun hp => ?_, fun hp => ?_⟩
  · rcases h.completes hp with ⟨x, t, hok, hx⟩
    rw [run_on, hok]
    exact ⟨x, put s t, rfl, t, hx, rfl⟩
  · rcases h.refused hp with ⟨f, hf⟩
    rw [run_on, hf]
    exact ⟨f, congrArg _ hput⟩

end AllOrNothing

end Action

/-! ### Values that may be refused -/

variable {ε α β : Type}

/-- Two computations in a row succeed if both do, the second with what the first has
    found. Starts and readers of settings are taken apart with this. -/
theorem bind_eq_ok_iff (x : Except ε α) (k : α → Except ε β) (b : β) :
    (x >>= k) = .ok b ↔ ∃ a, x = .ok a ∧ k a = .ok b := by
  cases x with
  | ok a =>
      change k a = .ok b ↔ _
      simp only [Except.ok.injEq, exists_eq_left']
  | error e =>
      change Except.error e = .ok b ↔ _
      simp only [reduceCtorEq, false_and, exists_false]

/-- Two computations in a row fail where the first fails, or else where the second does. -/
theorem bind_eq_error_iff (x : Except ε α) (k : α → Except ε β) (e : ε) :
    (x >>= k) = .error e ↔ x = .error e ∨ ∃ a, x = .ok a ∧ k a = .error e := by
  cases x with
  | ok a =>
      change k a = .error e ↔ _
      simp only [reduceCtorEq, false_or, Except.ok.injEq, exists_eq_left']
  | error e' =>
      change Except.error e' = .error e ↔ _
      simp only [reduceCtorEq, false_and, exists_false, or_false, Except.error.injEq]

/-- To reword failures makes no difference to a success. -/
theorem mapError_eq_ok_iff {δ : Type} (x : Except ε α) (g : ε → δ) (a : α) :
    x.mapError g = .ok a ↔ x = .ok a := by
  cases x with
  | ok b =>
      change Except.ok b = .ok a ↔ _
      rw [Except.ok.injEq, Except.ok.injEq]
  | error e => exact iff_of_false nofun nofun

/-- A reworded failure comes from one that was there before. -/
theorem mapError_eq_error_iff {δ : Type} (x : Except ε α) (g : ε → δ) (d : δ) :
    x.mapError g = .error d ↔ ∃ e, x = .error e ∧ g e = d := by
  cases x with
  | ok b =>
      refine iff_of_false nofun ?_
      rintro ⟨e, he, -⟩
      cases he
  | error e =>
      change Except.error (g e) = .error d ↔ _
      simp only [Except.error.injEq, exists_eq_left']

/-- Where failures are left out, what remains is what succeeds. With this, a computation
    whose failures cannot be compared is run on a given input. -/
theorem toOption_eq_some_iff (x : Except ε α) (a : α) : x.toOption = some a ↔ x = .ok a := by
  cases x with
  | ok b =>
      change some b = some a ↔ _
      rw [Option.some.injEq, Except.ok.injEq]
  | error e => exact iff_of_false nofun nofun

end Chip8
