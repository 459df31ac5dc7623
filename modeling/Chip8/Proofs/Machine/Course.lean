import Chip8.Proofs.Machine.History

/-!
# Courses

What happens to a machine over a number of steps, step by step.

A script is a list of steps, and its course is the same list with the machine
that each step is done to. A course goes on after a refusal, as whoever drives
the machine may; `performAll` is the other reading, in which the first refusal
ends it. What a step executes is the instruction of a cycle that completes:
cycles that fail and steps of other kinds execute nothing, and that is all that
most laws about runs have to tell apart.

## Main definitions

* `Machine.Step.isQuiet`: Ticks and changes of keys.
* `Machine.afterAll`: The machine after a script.
* `Machine.Moment`: A step and the machine that it is done to.
* `Machine.Moment.executed`: The instruction that is executed then.
* `Machine.course`: The moments of a script.
* `Machine.performAll`: A script up to its first refusal.

## Theorems

* `Machine.Moment.executed_eq_some_iff`: When an instruction is executed.
* `Machine.Moment.cycle_of_executed`: The cycle has completed then.
* `Machine.Moment.next_of_executed`: What it leads to.
* `Machine.Moment.next_of_idle`: What a cycle leads to that executes nothing.
* `Machine.Moment.keeps_next`: What a step leaves alone.
* `Machine.Moment.timers_next`: What a cycle makes of the timers if they do not
  go by cycles.
* `Machine.afterAll_quiet`: What ticks and changes of keys leave alone.
* `Machine.performAll_append`: A script in two parts.
-/

namespace Chip8

namespace Machine

variable {ρ : Type}

/-- A step and the machine that it is done to. -/
structure Moment (ρ : Type) where
  machine : Machine ρ
  step : Step

variable [Source ρ]

/-- The steps that are taken between cycles: ticks and changes of keys. -/
def Step.isQuiet : Step → Bool
  | .tick | .setKey _ _ | .releaseKeys => true
  | .load _ | .cycle => false

/-- The machine after a script, whatever was refused on the way. -/
def afterAll (m : Machine ρ) (script : List Step) : Machine ρ :=
  script.foldl after m

theorem afterAll_cons (m : Machine ρ) (s : Step) (script : List Step) :
    m.afterAll (s :: script) = (m.after s).afterAll script := rfl

/-- A script may be cut anywhere. -/
theorem afterAll_append (m : Machine ρ) (first rest : List Step) :
    m.afterAll (first ++ rest) = (m.afterAll first).afterAll rest :=
  List.foldl_append

theorem afterAll_concat (m : Machine ρ) (script : List Step) (s : Step) :
    m.afterAll (script ++ [s]) = (m.afterAll script).after s :=
  List.foldl_append

theorem Reachable.afterAll {m : Machine ρ} (h : Reachable m) (script : List Step) :
    Reachable (m.afterAll script) := by
  induction script generalizing m with
  | nil => exact h
  | cons s script ih =>
      rw [afterAll_cons]
      exact ih (h.after s)

/-! ### Moments -/

namespace Moment

/-- The machine after the step. -/
def next (t : Moment ρ) : Machine ρ :=
  t.machine.after t.step

/-- What comes of the step for whoever does it: what is reported, or the
    fault. -/
def outcome (t : Moment ρ) : Except Fault (Option Notice) :=
  Action.outcome (perform t.step t.machine)

/-- The instruction that is executed. Only a cycle that completes executes
    one. -/
def executed (t : Moment ρ) : Option Instruction :=
  match t.step, t.machine.cycle with
  | .cycle, .ok _ _ => some t.machine.instruction
  | _, _ => none

/-- A moment executes an instruction if it is a cycle that can fetch, and nothing stands
    in the way of the instruction. -/
theorem executed_eq_some_iff (t : Moment ρ) (i : Instruction) :
    t.executed = some i ↔
      t.step = .cycle ∧ t.machine.CanFetch ∧ t.machine.instruction = i ∧
        obstacle i t.machine.passed = none := by
  rcases t with ⟨m, s⟩
  cases s with
  | cycle =>
      unfold executed
      simp only [true_and]
      cases hcycle : m.cycle with
      | ok notice m' =>
          rcases (cycle_ok_iff m m' notice).mp hcycle with ⟨hcan, hob, -, -⟩
          simp only [Option.some.injEq]
          constructor
          · rintro rfl
            exact ⟨hcan, rfl, hob⟩
          · rintro ⟨-, hi, -⟩
            exact hi
      | error f m' =>
          simp only [reduceCtorEq, false_iff]
          rintro ⟨hcan, rfl, hob⟩
          rcases (cycle_error_iff m m' f).mp hcycle with ⟨hcannot, -, -⟩ | ⟨-, hsome, -⟩
          · exact hcannot hcan
          · rw [hob] at hsome
            cases hsome
  | _ => simp only [executed, reduceCtorEq, false_and]

theorem executed_of_ne_cycle {t : Moment ρ} (h : t.step ≠ .cycle) : t.executed = none := by
  refine Option.eq_none_iff_forall_ne_some.mpr fun i hi => ?_
  exact h ((executed_eq_some_iff t i).mp hi).1

/-- A cycle that executes something completes. -/
theorem cycle_of_executed {m : Machine ρ} {i : Instruction}
    (h : executed ⟨m, .cycle⟩ = some i) : ∃ notice, m.cycle = .ok notice (m.after .cycle) := by
  rw [after_cycle]
  cases hcycle : m.cycle with
  | ok notice m' => exact ⟨notice, rfl⟩
  | error f m' =>
      unfold executed at h
      simp only [hcycle, reduceCtorEq] at h

/-- A cycle that executes an instruction leads to its effect, counted. -/
theorem next_of_executed {t : Moment ρ} {i : Instruction} (h : t.executed = some i) :
    t.next = complete t.machine.word (applied i t.machine.passed) := by
  rcases (executed_eq_some_iff t i).mp h with ⟨hstep, hcan, rfl, hob⟩
  unfold next
  rw [hstep, after_cycle, (cycle_ok_iff _ _ _).mpr ⟨hcan, hob, rfl, rfl⟩, Action.final_ok]

/-- A cycle that executes nothing leads nowhere, or to what its instruction has
    left when it was refused. -/
theorem next_of_idle {t : Moment ρ} (hstep : t.step = .cycle) (h : t.executed = none) :
    t.next = t.machine ∨
      t.machine.CanFetch ∧ t.next = abandoned t.machine.instruction t.machine.passed := by
  unfold next
  rw [hstep, after_cycle]
  cases hcycle : t.machine.cycle with
  | ok notice m' =>
      rcases (cycle_ok_iff _ m' notice).mp hcycle with ⟨hcan, hob, -, -⟩
      have hsome := (executed_eq_some_iff t _).mpr ⟨hstep, hcan, rfl, hob⟩
      rw [h] at hsome
      cases hsome
  | error f m' =>
      rcases (cycle_error_iff _ m' f).mp hcycle with ⟨-, -, hm⟩ | ⟨hcan, -, hm⟩
      · exact Or.inl hm
      · exact Or.inr ⟨hcan, hm⟩

/-- What a step leaves alone in going to another machine: whatever it does not
    execute an instruction for. -/
structure Keeps (t : Moment ρ) (m' : Machine ρ) : Prop where
  memory : (∀ image, t.step ≠ .load image) →
    (∀ i, t.executed = some i → i.writesMemory = false) → m'.memory = t.machine.memory
  random : (∀ i, t.executed = some i → i.draws = false) → m'.random = t.machine.random
  ticksByCycle : m'.ticksByCycle = t.machine.ticksByCycle

/-- No step touches what steps have no way to touch. -/
theorem keeps_next (t : Moment ρ) : t.Keeps t.next := by
  rcases t with ⟨m, s⟩
  cases s with
  | load image =>
      rw [show (⟨m, .load image⟩ : Moment ρ).next = _ from after_load m image]
      exact ⟨fun h => absurd rfl (h image), fun _ => rfl, rfl⟩
  | cycle =>
      cases hexec : (⟨m, .cycle⟩ : Moment ρ).executed with
      | some i =>
          have hkept := kept_applied i m.passed
          rw [next_of_executed hexec, complete_eq]
          exact ⟨fun _ h => hkept.memory (h i hexec), fun h => hkept.random (h i hexec),
            hkept.ticksByCycle⟩
      | none =>
          have hkept := kept_abandoned m.instruction m.passed
          rcases next_of_idle rfl hexec with hnext | ⟨-, hnext⟩
          · rw [hnext]
            exact ⟨fun _ _ => rfl, fun _ => rfl, rfl⟩
          · rw [hnext]
            exact ⟨fun _ _ => hkept.memory rfl, fun _ => hkept.random rfl, hkept.ticksByCycle⟩
  | tick => exact ⟨fun _ _ => rfl, fun _ => rfl, rfl⟩
  | setKey key pressed =>
      rw [show (⟨m, .setKey key pressed⟩ : Moment ρ).next = _ from after_setKey m key pressed]
      exact ⟨fun _ _ => rfl, fun _ => rfl, rfl⟩
  | releaseKeys => exact ⟨fun _ _ => rfl, fun _ => rfl, rfl⟩

/-- A cycle of a machine whose timers do not go by cycles leaves them to the
    effect of its instruction. -/
theorem timers_next {t : Moment ρ} {i : Instruction} (h : t.executed = some i)
    (hticks : t.machine.ticksByCycle = false) :
    t.next.delay = (applied i t.machine.passed).delay ∧
      t.next.sound = (applied i t.machine.passed).sound := by
  have hkept : (applied i t.machine.passed).ticksByCycle = false :=
    (kept_applied i t.machine.passed).ticksByCycle.trans hticks
  rw [next_of_executed h, complete_eq, hkept]
  exact ⟨rfl, rfl⟩

end Moment

/-- Whether timers go by cycles is settled when a machine is built. -/
theorem ticksByCycle_afterAll (m : Machine ρ) (script : List Step) :
    (m.afterAll script).ticksByCycle = m.ticksByCycle := by
  induction script generalizing m with
  | nil => rfl
  | cons s script ih =>
      rw [afterAll_cons, ih]
      exact (Moment.keeps_next ⟨m, s⟩).ticksByCycle

/-- Ticks and changes of keys touch the timers and the keypad. -/
theorem afterAll_quiet (m : Machine ρ) {script : List Step}
    (h : ∀ s ∈ script, s.isQuiet = true) :
    ∃ keypad delay sound, m.afterAll script =
      { m with keypad := keypad, delay := delay, sound := sound } := by
  have hstep : ∀ (n : Machine ρ) (s : Step), s.isQuiet = true → ∃ keypad delay sound,
      n.after s = { n with keypad := keypad, delay := delay, sound := sound } := by
    intro n s hs
    cases s with
    | tick => exact ⟨_, _, _, rfl⟩
    | setKey key pressed => exact ⟨_, _, _, after_setKey n key pressed⟩
    | releaseKeys => exact ⟨_, _, _, rfl⟩
    | load image => cases hs
    | cycle => cases hs
  induction script generalizing m with
  | nil => exact ⟨_, _, _, rfl⟩
  | cons s script ih =>
      rcases hstep m s (h s List.mem_cons_self) with ⟨k, d, e, hfirst⟩
      rcases ih (m.after s) fun s' hs' => h s' (List.mem_cons_of_mem s hs') with ⟨k', d', e', hrest⟩
      rw [afterAll_cons, hrest, hfirst]
      exact ⟨_, _, _, rfl⟩

/-! ### Scripts -/

/-- The moments of a script. -/
def course (m : Machine ρ) : List Step → List (Moment ρ)
  | [] => []
  | s :: script => ⟨m, s⟩ :: course (m.after s) script

/-- The steps of a script in turn, up to the first that is refused. -/
def performAll : List Step → Action (Machine ρ) Unit
  | [] => pure ()
  | s :: script => do
    discard (perform s)
    performAll script

theorem performAll_cons (s : Step) (script : List Step) (m : Machine ρ) :
    performAll (s :: script) m =
      match perform s m with
      | .ok _ m' => performAll script m'
      | .error f m' => .error f m' := by
  rw [performAll, Action.run_bind, Action.run_discard]
  cases perform s m <;> rfl

/-- A script that ends at its first failure may be cut anywhere, too. -/
theorem performAll_append (first rest : List Step) (m : Machine ρ) :
    performAll (first ++ rest) m =
      match performAll first m with
      | .ok _ m' => performAll rest m'
      | .error f m' => .error f m' := by
  induction first generalizing m with
  | nil => rfl
  | cons s first ih =>
      rw [List.cons_append, performAll_cons, performAll_cons]
      cases perform s m with
      | ok notice m' => exact ih m'
      | error f m' => rfl

theorem Reachable.performAll {m : Machine ρ} (h : Reachable m) (script : List Step) :
    Reachable (Action.final (Machine.performAll script m)) := by
  induction script generalizing m with
  | nil => exact h
  | cons s script ih =>
      have hafter := h.after s
      unfold Machine.after at hafter
      rw [performAll_cons]
      cases hs : perform s m with
      | ok notice m' =>
          rw [hs] at hafter
          exact ih hafter
      | error f m' =>
          rw [hs] at hafter
          exact hafter

end Machine

end Chip8
