import Chip8.Proofs.Machine.Course
import Chip8.Proofs.Machine.Refinement

/-!
# Draws

What a run has to do with its source of random numbers.

A number is drawn whenever a random instruction is executed, and at no other
time. A run therefore uses the numbers of its source in their order, one for
each of these instructions, and a source that has the same numbers that far can
take its place: apart from the source itself nothing can tell the two runs
apart. Beyond that the sources may differ as they like, in their numbers and in
what they keep.

The second part runs two machines in step. They are the same machine with one
source or the other, which `withSource` says as an equation, so what is proved
of a step is that it goes on to be one.

## Main definitions

* `Machine.withSource`: A machine with another source.
* `Machine.Moment.used`: How many numbers a step uses.
* `Machine.drawn`: How many numbers a script uses.

## Theorems

* `Machine.random_afterAll`: How far a script goes in the source.
* `Machine.Moment.value_next`: What a random instruction makes of a number.
* `Machine.applied_withSource`, `Machine.cycle_withSource`: Effects and cycles
  with another source.
* `Machine.course_withSource`: Scripts with another source.
* `Machine.draws_in_order`: A run uses the numbers of its source in order and
  depends on nothing else of it.
-/

namespace Chip8

namespace Source

variable {ρ : Type} [Source ρ]

/-- To draw so many numbers and then some more is to draw all of them. -/
theorem after_add (j k : Nat) (s : ρ) : after (j + k) s = after k (after j s) := by
  induction j generalizing s with
  | zero => rw [Nat.zero_add]; rfl
  | succ j ih =>
      rw [Nat.succ_add]
      exact ih (next s).2

/-- A source that has been drawn from goes on with the numbers that are left. -/
theorem number_after (j k : Nat) (s : ρ) : number (after j s) k = number s (j + k) := by
  unfold number
  rw [after_add]

end Source

namespace Machine

variable {ρ σ : Type}

/-- The machine with another source. -/
def withSource (m : Machine ρ) (r : σ) : Machine σ :=
  { m with random := r }

variable [Source ρ]

namespace Moment

/-- How many random numbers the step uses. -/
def used (t : Moment ρ) : Nat :=
  t.executed.elim 0 Machine.used

/-- How many numbers a moment draws depends on its instruction only. -/
theorem used_of_executed {t : Moment ρ} {i : Instruction} (h : t.executed = some i) :
    t.used = Machine.used i := by
  rw [used, h]
  rfl

/-- The same step with another source. -/
def withSource (t : Moment ρ) (r : σ) : Moment σ :=
  ⟨t.machine.withSource r, t.step⟩

/-- How far a step goes in the random numbers. -/
theorem random_next (t : Moment ρ) : t.next.random = Source.after t.used t.machine.random := by
  cases hexec : t.executed with
  | some i =>
      rw [next_of_executed hexec, complete_eq, used_of_executed hexec]
      exact (random_applied i rfl).trans (by rw [Nat.zero_add])
  | none =>
      rw [(keeps_next t).random (by rw [hexec]; exact nofun), used, hexec]
      rfl

/-- A random instruction puts what its byte leaves of the next number into its
    register. -/
theorem value_next {t : Moment ρ} {x : Nibble} {kk : Immediate}
    (h : t.executed = some (.random x kk)) :
    t.next.value x = Int.land (Source.number t.machine.random 0) kk.val := by
  rw [next_of_executed h, complete_eq]
  refine (value_assign _ x x (isByte_maskByte _ kk)).trans ?_
  rw [if_pos rfl, maskByte_eq_land]
  rfl

end Moment

/-- How many random numbers a script uses, one for each random instruction that
    is executed. -/
def drawn (m : Machine ρ) (script : List Step) : Nat :=
  ((m.course script).map Moment.used).sum

theorem drawn_cons (m : Machine ρ) (s : Step) (script : List Step) :
    m.drawn (s :: script) = Moment.used ⟨m, s⟩ + (m.after s).drawn script :=
  List.sum_cons

/-- How far a script goes in them. -/
theorem random_afterAll (m : Machine ρ) (script : List Step) :
    (m.afterAll script).random = Source.after (m.drawn script) m.random := by
  induction script generalizing m with
  | nil => rfl
  | cons s script ih =>
      rw [afterAll_cons, ih, drawn_cons, Source.after_add]
      exact congrArg _ (Moment.random_next ⟨m, s⟩)

/-! ### Another source -/

omit [Source ρ] in
/-- No obstacle depends on the source. -/
theorem obstacle_withSource (i : Instruction) (m : Machine ρ) (r : σ) :
    obstacle i (m.withSource r) = obstacle i m := by
  cases i <;> rfl

omit [Source ρ] in
theorem abandoned_withSource (i : Instruction) (m : Machine ρ) (r : σ) :
    abandoned i (m.withSource r) = (abandoned i m).withSource r := by
  cases i <;> rfl

omit [Source ρ] in
theorem skipWhen_withSource (m : Machine ρ) (r : σ) (p : Prop) [Decidable p] :
    (m.withSource r).skipWhen p = (m.skipWhen p).withSource r := by
  rw [skipWhen_eq, skipWhen_eq]
  rfl

omit [Source ρ] in
theorem complete_withSource (w : Int) (m : Machine ρ) (r : σ) :
    complete w (m.withSource r) = (complete w m).withSource r := by
  rw [complete_eq, complete_eq]
  rfl

variable [Source σ]

/-- An effect does the same with another source that has the number that it
    uses. -/
theorem applied_withSource (i : Instruction) {m : Machine ρ} {r : σ}
    (h : ∀ j < used i, Source.number r j = Source.number m.random j) :
    applied i (m.withSource r) = (applied i m).withSource (Source.after (used i) r) := by
  cases i with
  | random x kk =>
      have hnumber : (Source.next r).1 = (Source.next m.random).1 := h 0 Nat.one_pos
      rw [applied, applied]
      change assign _ x (maskByte (Source.next r).1 kk) = _
      rw [hnumber]
      rfl
  | skipIs x kk => exact skipWhen_withSource m r _
  | skipIsNot x kk => exact skipWhen_withSource m r _
  | skipSame x y => exact skipWhen_withSource m r _
  | skipDiffer x y => exact skipWhen_withSource m r _
  | skipHeld x => exact skipWhen_withSource m r _
  | skipFree x => exact skipWhen_withSource m r _
  | awaitKey x =>
      rw [applied, applied, show (m.withSource r).keypad = m.keypad from rfl]
      cases m.keypad.lowest <;> rfl
  | _ => rfl

/-- A cycle does the same with another source that has the number that it
    uses. -/
theorem cycle_withSource {m : Machine ρ} {r : σ}
    (h : ∀ j < Moment.used ⟨m, .cycle⟩, Source.number r j = Source.number m.random j) :
    (m.withSource r).cycle =
      match m.cycle with
      | .ok notice m' => .ok notice (m'.withSource (Source.after (Moment.used ⟨m, .cycle⟩) r))
      | .error f m' => .error f (m'.withSource (Source.after (Moment.used ⟨m, .cycle⟩) r)) := by
  cases hcycle : m.cycle with
  | ok notice m' =>
      rcases (cycle_ok_iff m m' notice).mp hcycle with ⟨hcan, hob, hnotice, rfl⟩
      have hexec := (Moment.executed_eq_some_iff ⟨m, .cycle⟩ _).mpr ⟨rfl, hcan, rfl, hob⟩
      rw [Moment.used_of_executed hexec] at h ⊢
      refine (cycle_ok_iff _ _ _).mpr ⟨hcan, (obstacle_withSource _ _ r).trans hob, hnotice, ?_⟩
      change _ = complete m.word (applied m.instruction (m.passed.withSource r))
      rw [applied_withSource (m := m.passed) _ h, complete_withSource]
  | error f m' =>
      -- A cycle that fails has executed nothing.
      have hused : Moment.used ⟨m, .cycle⟩ = 0 := by
        unfold Moment.used Moment.executed
        simp only [hcycle]
        rfl
      rw [hused]
      refine (cycle_error_iff _ _ f).mpr ?_
      rcases (cycle_error_iff m m' f).mp hcycle with ⟨hcan, hf, rfl⟩ | ⟨hcan, hob, rfl⟩
      · exact Or.inl ⟨hcan, hf, rfl⟩
      · exact Or.inr ⟨hcan, (obstacle_withSource _ _ r).trans hob,
          (abandoned_withSource _ _ r).symm⟩

/-- The steps between the cycles do not look at the source at all. -/
theorem Moment.next_withSource {t : Moment ρ} {r : σ}
    (h : ∀ j < t.used, Source.number r j = Source.number t.machine.random j) :
    (t.withSource r).outcome = t.outcome ∧
      (t.withSource r).next = t.next.withSource (Source.after t.used r) := by
  rcases t with ⟨m, s⟩
  change Action.outcome (perform s (m.withSource r)) = Action.outcome (perform s m) ∧
    Action.final (perform s (m.withSource r)) = (Action.final (perform s m)).withSource _
  cases s with
  | cycle =>
      have hcycle : perform .cycle (m.withSource r) = _ := cycle_withSource h
      rw [hcycle, show perform .cycle m = m.cycle from rfl]
      cases m.cycle <;> exact ⟨rfl, rfl⟩
  | load image =>
      rw [perform_load, perform_load, show (m.withSource r).memory = m.memory from rfl]
      cases Memory.load image m.memory <;> exact ⟨rfl, rfl⟩
  | setKey key pressed =>
      rw [perform_setKey, perform_setKey, show (m.withSource r).keypad = m.keypad from rfl]
      cases Keypad.set key pressed m.keypad <;> exact ⟨rfl, rfl⟩
  | tick => exact ⟨rfl, rfl⟩
  | releaseKeys => exact ⟨rfl, rfl⟩

/-- A script does the same with another source that has the numbers that it
    uses. -/
theorem course_withSource {m : Machine ρ} {script : List Step} {r : σ}
    (h : ∀ j < m.drawn script, Source.number r j = Source.number m.random j) :
    ((m.withSource r).course script).map Moment.outcome =
        (m.course script).map Moment.outcome ∧
      (m.withSource r).afterAll script =
        (m.afterAll script).withSource (Source.after (m.drawn script) r) := by
  induction script generalizing m r with
  | nil => exact ⟨rfl, rfl⟩
  | cons s script ih =>
      rw [drawn_cons] at h ⊢
      have hfirst : ∀ j < Moment.used ⟨m, s⟩, Source.number r j = Source.number m.random j := by
        intro j hj
        exact h j (by omega)
      rcases Moment.next_withSource (t := ⟨m, s⟩) hfirst with ⟨houtcome, hnext⟩
      -- The first step has used up the numbers that the rest no longer sees.
      have hrest : ∀ j < (m.after s).drawn script,
          Source.number (Source.after (Moment.used ⟨m, s⟩) r) j =
            Source.number (m.after s).random j := by
        intro j hj
        rw [show (m.after s).random = _ from Moment.random_next ⟨m, s⟩, Source.number_after,
          Source.number_after]
        exact h _ (by omega)
      rcases ih hrest with ⟨houtcomes, hend⟩
      change (m.withSource r).after s = (m.after s).withSource _ at hnext
      rw [course, course, afterAll_cons, afterAll_cons, hnext, Source.after_add, List.map_cons,
        List.map_cons]
      exact ⟨congrArg₂ List.cons houtcome houtcomes, hend⟩

/-- After a script, the source has gone as far as the random instructions that
    were executed. The next one takes the next number and puts what its byte
    leaves of it into its register; no other step moves the source. With any
    other source that has the same numbers that far, the same is reported and
    refused at every step, and the machines afterwards differ in their sources
    alone. -/
theorem draws_in_order (m : Machine ρ) (script : List Step) :
    (m.afterAll script).random = Source.after (m.drawn script) m.random ∧
    (∀ s x kk, Moment.executed ⟨m.afterAll script, s⟩ = some (.random x kk) →
      ((m.afterAll script).after s).value x =
          Int.land (Source.number m.random (m.drawn script)) kk.val ∧
        ((m.afterAll script).after s).random = Source.after (m.drawn script + 1) m.random) ∧
    (∀ s, (∀ x kk, Moment.executed ⟨m.afterAll script, s⟩ ≠ some (.random x kk)) →
      ((m.afterAll script).after s).random = (m.afterAll script).random) ∧
    ∀ (r : σ) (k : Nat), (∀ j < k, Source.number r j = Source.number m.random j) →
      m.drawn script ≤ k →
      ((m.withSource r).course script).map Moment.outcome =
          (m.course script).map Moment.outcome ∧
        (m.withSource r).afterAll script =
          (m.afterAll script).withSource (Source.after (m.drawn script) r) := by
  have hsofar := random_afterAll m script
  refine ⟨hsofar, ?_, ?_, ?_⟩
  · intro s x kk hexec
    have hvalue := Moment.value_next hexec
    have hrandom := Moment.random_next ⟨m.afterAll script, s⟩
    rw [Moment.used_of_executed hexec] at hrandom
    change ((m.afterAll script).after s).value x =
      Int.land (Source.number (m.afterAll script).random 0) kk.val at hvalue
    change ((m.afterAll script).after s).random =
      Source.after 1 (m.afterAll script).random at hrandom
    rw [hsofar] at hvalue hrandom
    exact ⟨hvalue, hrandom.trans (Source.after_add _ 1 _).symm⟩
  · intro s hother
    refine (Moment.keeps_next ⟨m.afterAll script, s⟩).random ?_
    intro i hexec
    cases i with
    | random x kk => exact absurd hexec (hother x kk)
    | _ => rfl
  · intro r k hagree hle
    exact course_withSource fun j hj => hagree j (by omega)

/-- A program that draws once does the same with two sources that differ from
    their second number on. -/
theorem booted_draws_agree :
    ∃ m : Machine Replay, Reachable m ∧ m.random = ⟨[7, 1], 0⟩ ∧ m.drawn [.cycle] = 1 ∧
      (m.after .cycle).value 1 = 7 ∧
      (m.withSource (⟨[7, 2], 0⟩ : Replay)).after .cycle =
        (m.after .cycle).withSource (⟨[7, 2], 1⟩ : Replay) := by
  have hreach := reachable_booted (⟨[7, 1], 0⟩ : Replay) true [0xC1, 0x0F]
  have hword : (booted (⟨[7, 1], 0⟩ : Replay) true [0xC1, 0x0F]).Fetches
      (0xC000 + 256 * (1 : Nibble).val + (0x0F : Immediate).val) :=
    booted_fetches _ _ (by decide) (by decide) (by decide) (by decide)
  have hrandom : (booted (⟨[7, 1], 0⟩ : Replay) true [0xC1, 0x0F]).random = ⟨[7, 1], 0⟩ := by
    rw [booted, after_load]
    rfl
  generalize booted (⟨[7, 1], 0⟩ : Replay) true [0xC1, 0x0F] = m at hreach hword hrandom
  have hexec : Moment.executed ⟨m, .cycle⟩ = some (.random 1 0x0F) :=
    (Moment.executed_eq_some_iff _ _).mpr ⟨rfl, hword.1, hword.instruction (.random 1 0x0F), rfl⟩
  have hdrawn : m.drawn [.cycle] = 1 := by
    rw [drawn_cons, Moment.used_of_executed hexec]
    rfl
  have hagree : ∀ j < 1, Source.number (⟨[7, 2], 0⟩ : Replay) j = Source.number m.random j := by
    rw [hrandom]
    decide
  have hvalue := ((draws_in_order (σ := Replay) m []).2.1 .cycle 1 0x0F hexec).1
  rcases (draws_in_order m [.cycle]).2.2.2 _ 1 hagree (by omega) with ⟨-, hsame⟩
  refine ⟨m, hreach, hrandom, hdrawn, ?_, ?_⟩
  · refine hvalue.trans ?_
    rw [hrandom]
    rfl
  · refine hsame.trans ?_
    rw [hdrawn]
    rfl

end Machine

end Chip8
