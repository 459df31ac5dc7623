import Chip8.Proofs.Machine.Aftermath
import Chip8.Proofs.Machine.Course
import Chip8.Proofs.Machine.Halting

/-!
# Words that are Passed Over

What a machine reports of itself, over whatever is done to it.

A word that no row of the decoding table accepts is no instruction. A cycle that
fetches one is never refused, as nothing can stand in the way of no effect. It is
counted like any other, and it is the only thing on which a machine remarks. The
program counter has moved on by then, so that the address in the remark is worked
out backwards. What it comes to is where the word was fetched from, since the end
of memory lies far below the number at which addresses would begin again.

The remarks of a script can therefore be read off its course: those cycles that
completed over such a word, each with its word and its address.

## Main definitions

* `Word.IsUnlisted`: No row accepts the word.
* `Machine.Moment.PassesOver`: A cycle that completes over such a word.
* `Machine.Moment.reported`: What is reported of a step.
* `Machine.log`: What is reported during a script.

## Theorems

* `Word.isUnlisted_iff`: What such a word is decoded to.
* `Notice.line_skipped`: The line about it.
* `Machine.remark_instruction`: What is remarked of a word.
* `Machine.passesOver_iff`, `Machine.Moment.cycle_of_passesOver`: The cycles that pass
  over a word, and what they do.
* `Machine.Moment.reported_eq`: What is reported of a step.
* `Machine.log_eq`, `Machine.notices_run`: What is reported during a script and by a
  loop of cycles.
* `Machine.log_faithful`: All of this.
-/

namespace Chip8

namespace Word

/-- No row of the decoding table accepts the word. -/
def IsUnlisted (w : Int) : Prop :=
  ∀ r ∈ Instruction.rows, r.accepts w = false

instance (w : Int) : Decidable (IsUnlisted w) :=
  inferInstanceAs (Decidable (∀ r ∈ _, _))

/-- A word of sixteen bits is decoded to no instruction just when no row accepts it. -/
theorem isUnlisted_iff {w : Int} (hw : InRange w) :
    IsUnlisted w ↔ Instruction.decode w = .unknown w := by
  constructor
  · intro h
    have hnone : Instruction.rows.find? (·.accepts w) = none :=
      List.find?_eq_none.mpr fun r hr hacc => Bool.false_ne_true ((h r hr).symm.trans hacc)
    unfold Instruction.decode
    rw [hnone]
  · intro h r hr
    cases hacc : r.accepts w with
    | false => rfl
    | true =>
        -- A row that accepts the word would read an instruction off it.
        have hread := ((Instruction.listed_iff hw _).mp
          (Instruction.listed_of_accepts hw r hr hacc)).2
        exact absurd ((Instruction.decode_of_accepts hr hacc).symm.trans h) hread

end Word

theorem Text.ofString_append (s t : String) :
    Text.ofString s ++ Text.ofString t = Text.ofString (s ++ t) := by
  unfold Text.ofString Text.ofChars
  rw [String.toList_append, List.map_append]
  rfl

/-- The line about a word that is passed over. -/
theorem Notice.line_skipped (w a : Int) :
    (Notice.skipped w a).line = Text.ofString
      s!"WARNING Unknown instruction {Padded.word w} at {Padded.address a} (skipping)" := by
  have hlevel : toString "WARNING Unknown instruction " =
      Level.warning.name ++ " " ++ toString "Unknown instruction " := by decide
  rw [line, level, text, Text.ofString_append, Text.ofString_append, hlevel]
  simp only [String.append_assoc]

namespace Machine

variable {ρ : Type}

/-- Nothing is remarked of an instruction that is listed. -/
theorem remark_of_listed {w : Int} {i : Instruction} (h : Listed w i) (m : Machine ρ) :
    m.remark i = none := by
  cases h <;> rfl

/-- A machine that has passed a word remarks on it if it is unlisted, with the address
    that it was fetched from. -/
theorem remark_instruction {m : Machine ρ} (hcan : m.CanFetch) :
    m.passed.remark m.instruction =
      if Word.IsUnlisted m.word then some (.skipped m.word m.pc) else none := by
  have hback : (m.passed.pc - 2) % 65536 = m.pc := by
    unfold CanFetch at hcan
    unfold passed
    simp only []
    omega
  by_cases hw : Word.IsUnlisted m.word
  · have hi : m.instruction = .unknown m.word := (Word.isUnlisted_iff m.word_bounds).mp hw
    rw [if_pos hw, hi, remark, hback]
  · rw [if_neg hw]
    rcases Instruction.listed_decode m.word_bounds with hunknown | hlisted
    · exact absurd ((Word.isUnlisted_iff m.word_bounds).mpr hunknown) hw
    · exact remark_of_listed hlisted m.passed

variable [Source ρ]

/-- A cycle that fetches an unlisted word is done, and nothing comes of it but that it
    is counted. -/
theorem cycle_of_isUnlisted {m : Machine ρ} (hcan : m.CanFetch) (hw : Word.IsUnlisted m.word) :
    m.cycle = .ok (some (.skipped m.word m.pc)) (complete m.word m.passed) := by
  have hi : m.instruction = .unknown m.word := (Word.isUnlisted_iff m.word_bounds).mp hw
  rw [cycle_eq, if_pos hcan, remark_instruction hcan, if_pos hw, hi]
  rfl

/-! ### Steps -/

namespace Moment

/-- A cycle that completes over an unlisted word. -/
def PassesOver (t : Moment ρ) : Prop :=
  t.executed.isSome = true ∧ Word.IsUnlisted t.machine.word

instance (t : Moment ρ) : Decidable t.PassesOver :=
  inferInstanceAs (Decidable (_ ∧ _))

/-- What is reported of a step. -/
def reported (t : Moment ρ) : List Notice :=
  match t.outcome with
  | .ok notice => notice.toList
  | .error _ => []

/-- A cycle passes over any unlisted word that it can fetch. -/
theorem passesOver_iff (t : Moment ρ) :
    t.PassesOver ↔ t.step = .cycle ∧ t.machine.CanFetch ∧ Word.IsUnlisted t.machine.word := by
  unfold PassesOver
  constructor
  · rintro ⟨hsome, hw⟩
    rcases Option.isSome_iff_exists.mp hsome with ⟨i, hi⟩
    rcases (executed_eq_some_iff t i).mp hi with ⟨hstep, hcan, -, -⟩
    exact ⟨hstep, hcan, hw⟩
  · -- Nothing stands in the way of such a word, so that its cycle completes.
    rintro ⟨hstep, hcan, hw⟩
    rcases (cycle_ok_iff _ _ _).mp (cycle_of_isUnlisted hcan hw) with ⟨-, hob, -, -⟩
    have hexec := (executed_eq_some_iff t _).mpr ⟨hstep, hcan, rfl, hob⟩
    exact ⟨Option.isSome_of_eq_some hexec, hw⟩

/-- What a cycle does that passes over a word. -/
theorem cycle_of_passesOver {t : Moment ρ} (h : t.PassesOver) :
    t.machine.cycle =
      .ok (some (.skipped t.machine.word t.machine.pc))
        { t.machine with
          pc := t.machine.pc + 2
          delay := if t.machine.ticksByCycle then t.machine.tick.delay else t.machine.delay
          sound := if t.machine.ticksByCycle then t.machine.tick.sound else t.machine.sound
          cycles := t.machine.cycles + 1
          lastWord := some t.machine.word } := by
  rcases (passesOver_iff t).mp h with ⟨-, hcan, hw⟩
  rw [cycle_of_isUnlisted hcan hw, complete_eq]
  rfl

/-- Only cycles report anything. -/
theorem reported_of_ne_cycle {t : Moment ρ} (h : t.step ≠ .cycle) : t.reported = [] := by
  rcases t with ⟨m, s⟩
  unfold reported outcome
  cases s with
  | cycle => exact absurd rfl h
  | load image =>
      rw [perform_load]
      cases Memory.load image m.memory <;> rfl
  | tick => rfl
  | setKey key pressed =>
      rw [perform_setKey]
      cases Keypad.set key pressed m.keypad <;> rfl
  | releaseKeys => rfl

/-- A step is remarked on if it passes over a word, and not otherwise. -/
theorem reported_eq (t : Moment ρ) :
    t.reported = if t.PassesOver then [.skipped t.machine.word t.machine.pc] else [] := by
  by_cases hover : t.PassesOver
  · have hstep := ((passesOver_iff t).mp hover).1
    unfold reported outcome
    rw [if_pos hover, hstep, perform, cycle_of_passesOver hover]
    rfl
  · rw [if_neg hover]
    by_cases hstep : t.step = .cycle
    · unfold reported outcome
      rw [hstep, perform]
      cases hcycle : t.machine.cycle with
      | error f m' => rfl
      | ok notice m' =>
          -- The cycle has completed over a word that is listed.
          rcases (cycle_ok_iff _ m' notice).mp hcycle with ⟨hcan, -, rfl, -⟩
          have hlisted : ¬ Word.IsUnlisted t.machine.word := fun hw =>
            hover ((passesOver_iff t).mpr ⟨hstep, hcan, hw⟩)
          rw [remark_instruction hcan, if_neg hlisted]
          rfl
    · exact reported_of_ne_cycle hstep

end Moment

/-! ### Scripts -/

/-- What is reported during a script, in order. -/
def log (m : Machine ρ) (script : List Step) : List Notice :=
  (m.course script).flatMap Moment.reported

/-- The remarks of a script are those of its steps, in order. -/
theorem log_cons (m : Machine ρ) (s : Step) (script : List Step) :
    m.log (s :: script) = Moment.reported ⟨m, s⟩ ++ (m.after s).log script :=
  List.flatMap_cons

/-- The remarks of a script are its cycles that passed over a word. -/
theorem log_eq (m : Machine ρ) (script : List Step) :
    m.log script =
      ((m.course script).filter (·.PassesOver)).map
        (fun t => .skipped t.machine.word t.machine.pc) := by
  induction script generalizing m with
  | nil => rfl
  | cons s script ih =>
      rw [log_cons, ih, Moment.reported_eq, course, List.filter_cons]
      by_cases hover : Moment.PassesOver ⟨m, s⟩
      · rw [if_pos hover, if_pos (decide_eq_true hover)]
        rfl
      · rw [if_neg hover, if_neg (by rw [decide_eq_true_iff]; exact hover)]
        rfl

/-- A loop of cycles reports what a script of its completed cycles does. -/
theorem notices_run (m : Machine ρ) (n : Nat) :
    (m.run n).notices = m.log (List.replicate (m.run n).completed .cycle) := by
  induction n generalizing m with
  | zero => rfl
  | succ n ih =>
      rw [run_succ]
      cases hcycle : m.cycle with
      | error f m' => rfl
      | ok notice m' =>
          have hafter : m.after .cycle = m' := by rw [after_cycle, hcycle, Action.final_ok]
          have hreported : Moment.reported ⟨m, .cycle⟩ = notice.toList := by
            unfold Moment.reported Moment.outcome
            rw [perform, hcycle]
            rfl
          simp only []
          rw [ih, List.replicate_succ, log_cons, hafter, hreported]

/-- Whatever is done to a machine, its remarks are the cycles that complete over a word
    that no row of the table accepts, one line for each and in order, with the word and
    the address that it was fetched from. These are all the cycles that can fetch such a
    word. They move the program counter past it, are counted, let the timers go on if they
    go by cycles, and change nothing else. Cycles that fail had nothing to remark, and a
    loop of cycles reports what its completed cycles do. -/
theorem log_faithful (m : Machine ρ) (script : List Step) :
    m.log script =
        ((m.course script).filter (·.PassesOver)).map
          (fun t => .skipped t.machine.word t.machine.pc) ∧
      (m.log script).map Notice.line =
        ((m.course script).filter (·.PassesOver)).map (fun t =>
          let word := Padded.word t.machine.word
          let address := Padded.address t.machine.pc
          Text.ofString s!"WARNING Unknown instruction {word} at {address} (skipping)") ∧
      (∀ t ∈ m.course script,
        (t.PassesOver ↔
          t.step = .cycle ∧ t.machine.CanFetch ∧ Word.IsUnlisted t.machine.word) ∧
        (t.PassesOver → t.machine.cycle =
          .ok (some (.skipped t.machine.word t.machine.pc))
            { t.machine with
              pc := t.machine.pc + 2
              delay := if t.machine.ticksByCycle then t.machine.tick.delay else t.machine.delay
              sound := if t.machine.ticksByCycle then t.machine.tick.sound else t.machine.sound
              cycles := t.machine.cycles + 1
              lastWord := some t.machine.word }) ∧
        ∀ f m', t.machine.cycle = .error f m' → t.machine.CanFetch →
          t.machine.passed.remark t.machine.instruction = none) ∧
      ∀ n, (m.run n).notices = m.log (List.replicate (m.run n).completed .cycle) := by
  refine ⟨m.log_eq script, ?_, fun t _ => ⟨t.passesOver_iff, Moment.cycle_of_passesOver,
    fun f m' => remark_of_cycle_error⟩, m.notices_run⟩
  rw [log_eq, List.map_map]
  exact List.map_congr_left fun t _ => Notice.line_skipped t.machine.word t.machine.pc

-- The screen is cleared, a word is passed over, and a return without a call fails.
example :
    ((booted (⟨[7], 0⟩ : Replay) true [0x00, 0xE0, 0x50, 0x01, 0x00, 0xEE]).log
        [.cycle, .cycle, .tick, .cycle]).map Notice.line =
      [Text.ofString "WARNING Unknown instruction 5001 at 0x0202 (skipping)"] := by
  decide +kernel

end Machine

end Chip8
