import Chip8.Proofs.Machine.Course
import Chip8.Proofs.Machine.Failure

/-!
# Parts Behind Ports

What a program can find out about the parts of its machine that do not compute.

The keypad, the screen and the timers are written by others, or for others, and
a program looks at each of them with a few instructions only. These are the
ports of the part. The sound timer by itself and the record of the cycles have
none. As long as no port is executed, a run is the same whatever the part holds:
the same is reported and refused at every step, and all that differs afterwards
is the part.

That two machines differ in a part and in nothing else is said by resetting the
part in both: what is left has to be equal. So a law about two runs comes down to
one about a single machine and its reset. An effect may be worked out before the
reset or after it, as long as the part is reset again in the end.

Whether an effect is refused never depends on the parts, ports or not. That needs
a machine that has got where it is by running: its delay timer is a byte, and an
instruction that waits for a key has room to go back.

## Main definitions

* `Machine.Part`: The parts.
* `Machine.Part.isPort`: The instructions that look at a part.
* `Machine.Part.reset`: The machine with a part as it was at first.
* `Machine.AgreeBut`: Two machines differ in nothing but a part.

## Theorems

* `Machine.obstacle_reset`: What stands in the way of an effect does not depend
  on the parts.
* `Machine.applied_reset`: Effects without a port, before and after the reset.
* `Machine.cycle_reset`, `Machine.Moment.next_reset`: Cycles and other steps.
* `Machine.course_agreeBut`: Scripts on machines that differ in a part.
* `Machine.parts_stay_apart`: Without a port a part has no influence.
-/

namespace Chip8

namespace Machine

variable {ρ : Type}

/-- The parts that a program looks at through ports, if at all. -/
inductive Part where
  | keypad
  | screen
  /-- Both timers, and what they go by. -/
  | timers
  /-- The sound timer by itself. -/
  | sound
  /-- How many cycles have completed, and the last word. -/
  | record
  deriving DecidableEq, Repr

namespace Part

/-- Whether an instruction looks at a part. -/
def isPort : Part → Instruction → Bool
  | keypad, .skipHeld _ | keypad, .skipFree _ | keypad, .awaitKey _ => true
  | screen, .draw _ _ _ => true
  | timers, .getDelay _ => true
  | _, _ => false

/-- The machine with a part as it is when a machine is switched on. -/
def reset : Part → Machine ρ → Machine ρ
  | keypad, m => { m with keypad := .released }
  | screen, m => { m with screen := .dark }
  | timers, m => { m with delay := 0, sound := 0, ticksByCycle := false }
  | sound, m => { m with sound := 0 }
  | record, m => { m with cycles := 0, lastWord := none }

end Part

/-- Two machines differ in nothing but a part. -/
def AgreeBut (X : Part) (m m' : Machine ρ) : Prop :=
  X.reset m = X.reset m'

/-! ### The reset and what cannot see it -/

/-- No part holds the program counter. -/
@[simp]
theorem pc_reset (X : Part) (m : Machine ρ) : (X.reset m).pc = m.pc := by
  cases X <;> rfl

/-- The word that is fetched is of no part either. -/
@[simp]
theorem word_reset (X : Part) (m : Machine ρ) : (X.reset m).word = m.word := by
  cases X <;> rfl

@[simp]
theorem memory_reset (X : Part) (m : Machine ρ) : (X.reset m).memory = m.memory := by
  cases X <;> rfl

@[simp]
theorem passed_reset (X : Part) (m : Machine ρ) : (X.reset m).passed = X.reset m.passed := by
  cases X <;> rfl

theorem canFetch_reset (X : Part) (m : Machine ρ) : (X.reset m).CanFetch ↔ m.CanFetch := by
  unfold CanFetch
  rw [pc_reset]

/-- So a fetch fails alike with and without a part. -/
@[simp]
theorem fetchFault_reset (X : Part) (m : Machine ρ) : (X.reset m).fetchFault = m.fetchFault := by
  unfold fetchFault
  rw [pc_reset]

@[simp]
theorem instruction_reset (X : Part) (m : Machine ρ) :
    (X.reset m).instruction = m.instruction := by
  unfold instruction
  rw [word_reset]

@[simp]
theorem remark_reset (X : Part) (m : Machine ρ) (i : Instruction) :
    (X.reset m).remark i = m.remark i := by
  cases X <;> cases i <;> rfl

/-- A machine stays within its bounds if one of its parts is reset. -/
theorem inBounds_reset (X : Part) {m : Machine ρ} (hb : InBounds m) : InBounds (X.reset m) := by
  have hzero : Bytes.IsByte 0 := by decide
  cases X with
  | keypad => exact ⟨hb.pc, hb.index, hb.live, hb.delay, hb.sound⟩
  | screen => exact ⟨hb.pc, hb.index, hb.live, hb.delay, hb.sound⟩
  | timers => exact ⟨hb.pc, hb.index, hb.live, hzero, hzero⟩
  | sound => exact ⟨hb.pc, hb.index, hb.live, hb.delay, hzero⟩
  | record => exact ⟨hb.pc, hb.index, hb.live, hb.delay, hb.sound⟩

/-- Nothing that parts hold stands in the way of an instruction, once its word has been
    passed. -/
theorem obstacle_reset (X : Part) {m : Machine ρ} (hb : InBounds m) (hpc : 2 ≤ m.pc)
    (i : Instruction) : obstacle i (X.reset m) = obstacle i m := by
  have hpc' : 2 ≤ (X.reset m).pc := by
    rw [pc_reset]
    exact hpc
  cases i with
  -- These two do look at a part, but are not refused whatever they see.
  | getDelay x =>
      rw [(obstacle_none_of_bounds hb hpc x).1,
        (obstacle_none_of_bounds (inBounds_reset X hb) hpc' x).1]
  | awaitKey x =>
      rw [(obstacle_none_of_bounds hb hpc x).2,
        (obstacle_none_of_bounds (inBounds_reset X hb) hpc' x).2]
  | _ => cases X <;> rfl

/-! ### Effects -/

/-- Skips do not look at parts. This and the next three say so of all that is not an
    instruction. -/
theorem skipWhen_reset (X : Part) (m : Machine ρ) (p : Prop) [Decidable p] :
    X.reset ((X.reset m).skipWhen p) = X.reset (m.skipWhen p) := by
  rw [skipWhen_eq, skipWhen_eq]
  cases X <;> rfl

theorem abandoned_reset (X : Part) (i : Instruction) (m : Machine ρ) :
    X.reset (abandoned i (X.reset m)) = X.reset (abandoned i m) := by
  cases i <;> cases X <;> rfl

theorem tick_reset (X : Part) (m : Machine ρ) : X.reset (X.reset m).tick = X.reset m.tick := by
  cases X <;> rfl

theorem complete_reset (X : Part) (w : Int) (m : Machine ρ) :
    X.reset (complete w (X.reset m)) = X.reset (complete w m) := by
  rw [complete_eq, complete_eq]
  cases X <;> rfl

variable [Source ρ]

/-- An effect without a port comes to the same before and after the reset. -/
theorem applied_reset {X : Part} {i : Instruction} (h : X.isPort i = false) (m : Machine ρ) :
    X.reset (applied i (X.reset m)) = X.reset (applied i m) := by
  -- The tests of the skips read registers, and two of them the keypad.
  have hvalue : ∀ x, (X.reset m).value x = m.value x := by
    intro x
    cases X <;> rfl
  have hkeypad : X ≠ .keypad → (X.reset m).keypad = m.keypad := by
    intro hX
    cases X with
    | keypad => exact absurd rfl hX
    | _ => rfl
  have hheld : X ≠ .keypad → ∀ x, (X.reset m).keyHeld x = m.keyHeld x := by
    intro hX x
    unfold keyHeld
    rw [hkeypad hX, hvalue]
  cases i with
  | skipIs x kk =>
      rw [applied, applied, hvalue]
      exact skipWhen_reset X m _
  | skipIsNot x kk =>
      rw [applied, applied, hvalue]
      exact skipWhen_reset X m _
  | skipSame x y =>
      rw [applied, applied, hvalue, hvalue]
      exact skipWhen_reset X m _
  | skipDiffer x y =>
      rw [applied, applied, hvalue, hvalue]
      exact skipWhen_reset X m _
  | skipHeld x =>
      have hX : X ≠ .keypad := by
        rintro rfl
        cases h
      rw [applied, applied, hheld hX]
      exact skipWhen_reset X m _
  | skipFree x =>
      have hX : X ≠ .keypad := by
        rintro rfl
        cases h
      rw [applied, applied, hheld hX]
      exact skipWhen_reset X m _
  | awaitKey x =>
      have hX : X ≠ .keypad := by
        rintro rfl
        cases h
      rw [applied, applied, hkeypad hX]
      cases m.keypad.lowest <;> cases X <;> rfl
  | draw x y n =>
      cases X with
      | screen => cases h
      | _ => rfl
  | getDelay x =>
      cases X with
      | timers => cases h
      | _ => rfl
  -- The others read nothing of any part. Some write one, with a value of their own.
  | _ => cases X <;> rfl

/-! ### Steps -/

/-- Whether a cycle executes an instruction, and which, does not depend on the
    parts. -/
theorem executed_reset (X : Part) {m : Machine ρ} (hb : InBounds m) (s : Step) :
    Moment.executed ⟨X.reset m, s⟩ = Moment.executed ⟨m, s⟩ := by
  refine Option.ext fun i => ?_
  rw [Moment.executed_eq_some_iff, Moment.executed_eq_some_iff]
  simp only []
  rw [canFetch_reset, instruction_reset, passed_reset]
  refine and_congr_right fun _ => and_congr_right fun hcan => and_congr_right fun _ => ?_
  rcases inBounds_passed hb hcan with ⟨hbp, hpc⟩
  rw [obstacle_reset X hbp hpc.1]

/-- A cycle without a port comes to the same before and after the reset, and it
    is refused or not for the same reason with a port as well. -/
theorem cycle_reset (X : Part) {m : Machine ρ} (hb : InBounds m) :
    Action.outcome (X.reset m).cycle = Action.outcome m.cycle ∧
      ((∀ i, Moment.executed ⟨m, .cycle⟩ = some i → X.isPort i = false) →
        X.reset (Action.final (X.reset m).cycle) = X.reset (Action.final m.cycle)) := by
  rw [cycle_eq, cycle_eq, instruction_reset, word_reset, passed_reset]
  by_cases hcan : m.CanFetch
  · rcases inBounds_passed hb hcan with ⟨hbp, hpc⟩
    rw [if_pos hcan, if_pos ((canFetch_reset X m).mpr hcan), obstacle_reset X hbp hpc.1,
      remark_reset]
    cases hob : obstacle m.instruction m.passed with
    | some f => exact ⟨rfl, fun _ => abandoned_reset X _ _⟩
    | none =>
        refine ⟨rfl, fun hport => ?_⟩
        have hexec := (Moment.executed_eq_some_iff ⟨m, .cycle⟩ _).mpr ⟨rfl, hcan, rfl, hob⟩
        have heffect := applied_reset (hport _ hexec) m.passed
        calc X.reset (complete m.word (applied m.instruction (X.reset m.passed)))
            = X.reset (complete m.word (X.reset (applied m.instruction (X.reset m.passed)))) :=
              (complete_reset X _ _).symm
          _ = X.reset (complete m.word (X.reset (applied m.instruction m.passed))) := by
              rw [heffect]
          _ = X.reset (complete m.word (applied m.instruction m.passed)) := complete_reset X _ _
  · rw [if_neg hcan, if_neg (mt (canFetch_reset X m).mp hcan), fetchFault_reset]
    refine ⟨rfl, fun _ => ?_⟩
    cases X <;> rfl

/-- A key is refused or not whatever is held, and the keys are the part that is reset or
    left as they are. -/
theorem setKey_reset (X : Part) (m : Machine ρ) (key : Int) (pressed : Bool) :
    Action.outcome (perform (.setKey key pressed) (X.reset m)) =
        Action.outcome (perform (.setKey key pressed) m) ∧
      X.reset ((X.reset m).after (.setKey key pressed)) =
        X.reset (m.after (.setKey key pressed)) := by
  constructor
  · rw [perform_setKey, perform_setKey]
    unfold Keypad.set
    by_cases hkey : 0 ≤ key ∧ key < 16
    · rw [dif_pos hkey, dif_pos hkey]
      rfl
    · rw [dif_neg hkey, dif_neg hkey]
      rfl
  · rw [after_setKey, after_setKey]
    cases X <;> rfl

/-- A program image is loaded alike, or refused alike. -/
theorem load_reset (X : Part) (m : Machine ρ) (image : List Int) :
    Action.outcome (perform (.load image) (X.reset m)) =
        Action.outcome (perform (.load image) m) ∧
      X.reset ((X.reset m).after (.load image)) = X.reset (m.after (.load image)) := by
  constructor
  · rw [perform_load, perform_load, memory_reset]
    cases Memory.load image m.memory <;> rfl
  · rw [after_load, after_load, memory_reset]
    cases X <;> rfl

/-- A step without a port comes to the same before and after the reset. -/
theorem Moment.next_reset (X : Part) {t : Moment ρ} (hb : InBounds t.machine)
    (hport : ∀ i, t.executed = some i → X.isPort i = false) :
    Moment.outcome ⟨X.reset t.machine, t.step⟩ = t.outcome ∧
      X.reset (Moment.next ⟨X.reset t.machine, t.step⟩) = X.reset t.next := by
  rcases t with ⟨m, s⟩
  cases s with
  | cycle => exact ⟨(cycle_reset X hb).1, (cycle_reset X hb).2 hport⟩
  | load image => exact load_reset X m image
  | setKey key pressed => exact setKey_reset X m key pressed
  | tick => exact ⟨rfl, tick_reset X m⟩
  | releaseKeys => exact ⟨rfl, by cases X <;> rfl⟩

/-! ### Two runs -/

/-- Two machines that agree but for a part do so after a step, if the step is no port of
    the part, and the step comes to the same in both. -/
theorem Moment.next_agreeBut {X : Part} {m m' : Machine ρ} (hb : InBounds m) (hb' : InBounds m')
    (hsame : AgreeBut X m m') {s : Step}
    (hport : ∀ i, Moment.executed ⟨m, s⟩ = some i → X.isPort i = false) :
    Moment.outcome ⟨m', s⟩ = Moment.outcome ⟨m, s⟩ ∧ AgreeBut X (m.after s) (m'.after s) := by
  -- The second machine executes what the first one does, because both execute
  -- what their common reset does.
  have hport' : ∀ i, Moment.executed ⟨m', s⟩ = some i → X.isPort i = false := by
    rw [← executed_reset X hb', ← hsame, executed_reset X hb]
    exact hport
  rcases Moment.next_reset X (t := ⟨m, s⟩) hb hport with ⟨houtcome, hnext⟩
  rcases Moment.next_reset X (t := ⟨m', s⟩) hb' hport' with ⟨houtcome', hnext'⟩
  rw [← hsame] at houtcome' hnext'
  exact ⟨houtcome'.symm.trans houtcome, hnext.symm.trans hnext'⟩

/-- The same along a script without ports of the part. -/
theorem course_agreeBut {X : Part} {m m' : Machine ρ} (hb : InBounds m) (hb' : InBounds m')
    (hsame : AgreeBut X m m') (script : List Step)
    (hport : ∀ t ∈ m.course script, ∀ i, t.executed = some i → X.isPort i = false) :
    (m'.course script).map Moment.outcome = (m.course script).map Moment.outcome ∧
      AgreeBut X (m.afterAll script) (m'.afterAll script) := by
  induction script generalizing m m' with
  | nil => exact ⟨rfl, hsame⟩
  | cons s script ih =>
      have hfirst := Moment.next_agreeBut hb hb' hsame (hport ⟨m, s⟩ List.mem_cons_self)
      have hrest := ih (inBounds_after s hb) (inBounds_after s hb') hfirst.2
        fun t ht => hport t (List.mem_cons_of_mem _ ht)
      rw [course, course, afterAll_cons, afterAll_cons, List.map_cons, List.map_cons]
      exact ⟨congrArg₂ List.cons hfirst.1 hrest.1, hrest.2⟩

omit [Source ρ] in
-- What the timers go by is settled when a machine is switched on.
theorem initial_agreeBut (random : ρ) (ticksByCycle ticksByCycle' : Bool) :
    AgreeBut .timers (initial random ticksByCycle) (initial random ticksByCycle') := rfl

/-- Two reachable machines that differ in nothing but a part still do so after
    any number of cycles and other steps, and the same was reported and refused
    on the way, unless a port of the part was executed. So a program that never
    reads the delay timer cannot tell what the timers go by. -/
theorem parts_stay_apart :
    (∀ (X : Part) (m m' : Machine ρ), Reachable m → Reachable m' → AgreeBut X m m' →
      ∀ script, (∀ t ∈ m.course script, ∀ i, t.executed = some i → X.isPort i = false) →
        (m'.course script).map Moment.outcome = (m.course script).map Moment.outcome ∧
          AgreeBut X (m.afterAll script) (m'.afterAll script)) ∧
    ∀ (random : ρ) (ticksByCycle ticksByCycle' : Bool) (script : List Step),
      (∀ t ∈ (initial random ticksByCycle).course script, ∀ x, t.executed ≠ some (.getDelay x)) →
        ((initial random ticksByCycle').course script).map Moment.outcome =
            ((initial random ticksByCycle).course script).map Moment.outcome ∧
          AgreeBut .timers ((initial random ticksByCycle).afterAll script)
            ((initial random ticksByCycle').afterAll script) := by
  constructor
  · intro X m m' h h' hsame script hport
    exact course_agreeBut (inBounds_of_reachable h) (inBounds_of_reachable h') hsame script hport
  · intro random ticksByCycle ticksByCycle' script hnever
    refine course_agreeBut (inBounds_initial random ticksByCycle)
      (inBounds_initial random ticksByCycle') (initial_agreeBut _ _ _) script ?_
    -- The only port of the timers is the instruction that reads one of them.
    intro t ht i hexec
    cases i with
    | getDelay x => exact absurd hexec (hnever t ht x)
    | _ => rfl

/-- A program that sets a register does so with a key held or not, and in either
    mode of the timers. -/
theorem booted_set_stays_apart :
    ∃ m : Machine Replay, Reachable m ∧ (m.after (.setKey 3 true)).keypad ≠ m.keypad ∧
      AgreeBut .keypad m (m.after (.setKey 3 true)) ∧
      Moment.executed ⟨m, .cycle⟩ = some (.set 1 7) ∧
      AgreeBut .keypad (m.after .cycle) ((m.after (.setKey 3 true)).after .cycle) ∧
      AgreeBut .timers ((initial (⟨[7], 0⟩ : Replay) true).afterAll [.load [0x61, 0x07], .cycle])
        ((initial (⟨[7], 0⟩ : Replay) false).afterAll [.load [0x61, 0x07], .cycle]) := by
  have hreach := reachable_booted (⟨[7], 0⟩ : Replay) true [0x61, 0x07]
  have hword : (booted (⟨[7], 0⟩ : Replay) true [0x61, 0x07]).Fetches
      (0x6000 + 256 * (1 : Nibble).val + (0x07 : Immediate).val) :=
    booted_fetches _ _ (by decide) (by decide) (by decide) (by decide)
  have hexec : Moment.executed ⟨booted (⟨[7], 0⟩ : Replay) true [0x61, 0x07], .cycle⟩ =
      some (.set 1 7) :=
    (Moment.executed_eq_some_iff _ _).mpr ⟨rfl, hword.1, hword.instruction (.set 1 7), rfl⟩
  have hkeys : (booted (⟨[7], 0⟩ : Replay) true [0x61, 0x07]).keypad = .released := by
    rw [booted, after_load]
    rfl
  have hmodes := parts_stay_apart.2 (⟨[7], 0⟩ : Replay) true false [.load [0x61, 0x07], .cycle] (by
    -- Loading executes nothing, and the cycle after it sets a register.
    intro t ht x hx
    rcases List.mem_cons.mp ht with rfl | ht
    · cases ((Moment.executed_eq_some_iff _ _).mp hx).1
    · rw [List.mem_singleton.mp ht] at hx
      cases hexec.symm.trans hx)
  generalize booted (⟨[7], 0⟩ : Replay) true [0x61, 0x07] = m at hreach hexec hkeys
  have hsame : AgreeBut .keypad m (m.after (.setKey 3 true)) := by
    rw [after_setKey]
    rfl
  have hport : ∀ t ∈ m.course [.cycle], ∀ i, t.executed = some i →
      Part.isPort .keypad i = false := by
    intro t ht i hi
    rw [List.mem_singleton.mp ht, hexec] at hi
    cases hi
    rfl
  refine ⟨m, hreach, ?_, hsame, hexec, ?_, hmodes.2⟩
  · rw [after_setKey, hkeys]
    change Action.final (Keypad.set 3 true .released) ≠ .released
    decide
  · exact (parts_stay_apart.1 .keypad m _ hreach (hreach.after _) hsame [.cycle] hport).2

end Machine

end Chip8
