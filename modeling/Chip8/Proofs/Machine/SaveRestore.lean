import Chip8.Proofs.Machine.Store

/-!
# Saving and Restoring

What a program gets back of the registers that it has saved.

A save leaves the registers up to `x` in a row of cells at the index register, and a restore
fills the registers up to `x` from there. Both are about the same row: what memory holds from an
address on, one cell for each register. A save makes the row hold what the registers do, a
restore makes the registers hold what the row does, and in between the row stays whatever is
done to the machine, as long as nothing is stored over it. The index register may be moved away
meanwhile, but has to be back where it was.

After a restore the row and the registers are alike. A save at once finds the row as it would
have made it, and so changes nothing.

## Main definitions

* `Machine.HoldsRow`: What a row of cells holds.
* `Machine.Spares`: A way from one machine to another on which a stretch of memory is left alone.

## Theorems

* `Machine.holdsRow_of_save`, `Machine.holdsRow_of_restore`: The row after either instruction.
* `Machine.Spares.holdsRow`: It stays.
* `Machine.HoldsRow.cycle_restore`: A restore takes the registers from it.
* `Machine.HoldsRow.cycle_save`: A save of what it holds changes nothing.
* `Machine.save_and_restore`: Each of them undoes the other.
-/

namespace Chip8

namespace Machine

variable {ρ : Type}

/-- Memory has room for the registers up to `x` from an address on, and holds these values
    there. -/
structure HoldsRow (m : Machine ρ) (start : Int) (x : Nibble) (values : Nibble → Int) : Prop where
  start_nonneg : 0 ≤ start
  stop_le : start + x.val + 1 ≤ 4096
  cell : ∀ k ≤ x, Bytes.toInt (m.memory.cell (start + k.val).toNat) = values k

/-- Where there is room at the index register, as it is tested before a row is read or written. -/
theorem rowObstacle_eq_none_iff (m : Machine ρ) (x : Nibble) (past : Fault) :
    m.passed.blockObstacle (x.val + 1) past = none ↔
      0 ≤ m.index ∧ m.index + x.val + 1 ≤ 4096 := by
  rw [blockObstacle_eq_none_iff]
  change (0 ≤ m.index ∧ m.index < 4096) ∧ m.index + ((x.val + 1 : Nat) : Int) ≤ 4096 ↔ _
  omega

variable [Source ρ]

/-- What a cycle comes to that restores. -/
theorem complete_restore {m : Machine ρ} (hlow : 0 ≤ m.index) (x : Nibble) (w : Int) :
    let n := complete w (applied (.restore x) m.passed)
    (∀ k, n.value k =
      if k ≤ x then Bytes.toInt (m.memory.cell (m.index + k.val).toNat) else m.value k) ∧
    n.index = m.index ∧ n.memory = m.memory := by
  have hlen := Memory.length_slice m.memory m.index.toNat (x.val + 1)
  intro n
  have hn : n = complete w (applied (.restore x) m.passed) := rfl
  rw [complete_eq] at hn
  refine ⟨fun k => ?_, by rw [hn]; rfl, by rw [hn]; rfl⟩
  have hcell : n.value k =
      Bytes.toInt ((m.memory.slice m.index.toNat (x.val + 1)).getD k.val
        (m.registers.cell k.val)) := by
    rw [← Registers.cell_fill _ _ k.isLt, hn]
    rfl
  rw [hcell]
  -- The block ends with register `x`, and the registers behind it keep what they hold.
  by_cases hk : k ≤ x
  · have hlt : k.val < (m.memory.slice m.index.toNat (x.val + 1)).length := by
      have : k.val ≤ x.val := hk
      omega
    rw [if_pos hk, List.getD_eq_getElem _ _ hlt,
      show (m.index + k.val).toNat = m.index.toNat + k.val by omega]
    simp only [Memory.slice, List.getElem_map, List.getElem_range]
  · have hge : (m.memory.slice m.index.toNat (x.val + 1)).length ≤ k.val := by
      have : ¬ k.val ≤ x.val := hk
      omega
    rw [if_neg hk, List.getD_eq_default _ _ hge]
    rfl

/-! ### Making the row -/

/-- A save that completes leaves the values of the registers in the row. -/
theorem holdsRow_of_save {m m' : Machine ρ} {notice : Option Notice} {x : Nibble}
    (hw : m.Fetches (0xF055 + 256 * x.val)) (hok : m.cycle = .ok notice m') :
    m'.HoldsRow m.index x m.value := by
  rcases (cycle_ok_iff m m' notice).mp hok with ⟨-, hob, -, hm⟩
  rw [hw.instruction (.save x)] at hob hm
  rcases (rowObstacle_eq_none_iff m x _).mp hob with ⟨hlow, hhigh⟩
  refine ⟨hlow, hhigh, fun k hk => ?_⟩
  have hle : k.val ≤ x.val := hk
  have hin : m.passed.index ≤ (m.index + k.val).toNat ∧
      ((m.index + k.val).toNat : Int) ≤ m.passed.index + x.val := by
    change m.index ≤ _ ∧ _ ≤ m.index + x.val
    omega
  -- The distance of a cell from the start of the row is the number of its register.
  have hk' : (Word.n ((m.index + k.val).toNat - m.passed.index) : Nibble) = k := by
    refine Fin.ext ?_
    have hlt := k.isLt
    have hval := Word.val_n ((m.index + k.val).toNat - m.index)
    change (Word.n ((m.index + k.val).toNat - m.index)).val = k.val
    omega
  rw [hm, complete_eq]
  refine (cell_save hob (by omega)).trans ?_
  rw [if_pos hin, hk']
  rfl

/-- A restore that completes leaves the registers with what the row holds. -/
theorem holdsRow_of_restore {m m' : Machine ρ} {notice : Option Notice} {x : Nibble}
    (hw : m.Fetches (0xF065 + 256 * x.val)) (hok : m.cycle = .ok notice m') :
    m'.HoldsRow m'.index x m'.value ∧ m'.memory = m.memory := by
  rcases (cycle_ok_iff m m' notice).mp hok with ⟨-, hob, -, hm⟩
  rw [hw.instruction (.restore x)] at hob hm
  rcases (rowObstacle_eq_none_iff m x _).mp hob with ⟨hlow, hhigh⟩
  rcases complete_restore hlow x m.word with ⟨hvalue, hindex, hmemory⟩
  rw [← hm] at hvalue hindex hmemory
  refine ⟨⟨by omega, by omega, fun k hk => ?_⟩, hmemory⟩
  rw [hvalue, if_pos hk, hindex, hmemory]

/-! ### Leaving it alone -/

/-- A machine comes of another, and nothing is stored from one address up to another on the way.
    Cycles may complete or fail, timers tick, keys change, and the index register and the
    registers be set from outside. -/
inductive Spares (start stop : Int) (m : Machine ρ) : Machine ρ → Prop
  | refl : Spares start stop m m
  | step {n : Machine ρ} (h : Spares start stop m n) (s : Step)
      (hload : ∀ image, s ≠ .load image)
      (hnone : ∀ a : Nat, start ≤ a → a < stop → Moment.stored ⟨n, s⟩ a = none) :
      Spares start stop m (n.after s)
  | setIndex {n : Machine ρ} (h : Spares start stop m n) (i : Int) :
      Spares start stop m { n with index := i }
  | setRegisters {n : Machine ρ} (h : Spares start stop m n) (r : Registers) :
      Spares start stop m { n with registers := r }

namespace Spares

/-- A script with no store into the stretch leaves it alone. -/
theorem afterAll {start stop : Int} {m n : Machine ρ} (h : Spares start stop m n)
    {script : List Step} (hload : ∀ image, .load image ∉ script)
    (hnone : ∀ t ∈ n.course script, ∀ a : Nat, start ≤ a → a < stop → t.stored a = none) :
    Spares start stop m (n.afterAll script) := by
  induction script generalizing n with
  | nil => exact h
  | cons s script ih =>
      have hfirst : ∀ image, s ≠ .load image := by
        rintro image rfl
        exact hload image List.mem_cons_self
      rw [afterAll_cons]
      exact ih (h.step s hfirst (hnone ⟨n, s⟩ List.mem_cons_self))
        (fun image hin => hload image (List.mem_cons_of_mem s hin))
        fun t ht => hnone t (List.mem_cons_of_mem _ ht)

/-- The cells of the stretch hold what they held. -/
theorem cell_eq {start stop : Int} {m n : Machine ρ} (h : Spares start stop m n) {a : Nat}
    (hlow : start ≤ a) (hhigh : a < stop) (ha : a < 4096) :
    Bytes.toInt (n.memory.cell a) = Bytes.toInt (m.memory.cell a) := by
  -- Only a step can store, and then not here.
  induction h with
  | refl => rfl
  | @step n h s hload hnone ih =>
      have hnext := Moment.cell_next (t := ⟨n, s⟩) hload ha
      rw [hnone a hlow hhigh, Option.getD_none] at hnext
      exact hnext.trans ih
  | setIndex h i ih => exact ih
  | setRegisters h r ih => exact ih

/-- A row in the stretch stays. -/
theorem holdsRow {start : Int} {m n : Machine ρ} {x : Nibble} {values : Nibble → Int}
    (h : Spares start (start + x.val + 1) m n) (hrow : m.HoldsRow start x values) :
    n.HoldsRow start x values := by
  refine ⟨hrow.start_nonneg, hrow.stop_le, fun k hk => ?_⟩
  have hlow := hrow.start_nonneg
  have hhigh := hrow.stop_le
  have hle : k.val ≤ x.val := hk
  rw [h.cell_eq (by omega) (by omega) (by omega)]
  exact hrow.cell k hk

end Spares

/-! ### Using it -/

/-- A restore completes where memory has room for the row, and takes the registers up to `x` from
    it. -/
theorem HoldsRow.cycle_restore {m : Machine ρ} {x : Nibble} {values : Nibble → Int}
    (h : m.HoldsRow m.index x values) (hw : m.Fetches (0xF065 + 256 * x.val)) :
    ∃ n, m.cycle = .ok none n ∧ (∀ k ≤ x, n.value k = values k) ∧
      (∀ k, x < k → n.value k = m.value k) ∧ n.index = m.index ∧ n.memory = m.memory := by
  have hob : obstacle (.restore x) m.passed = none :=
    (rowObstacle_eq_none_iff m x _).mpr ⟨h.start_nonneg, h.stop_le⟩
  rcases complete_restore h.start_nonneg x (0xF065 + 256 * x.val) with ⟨hvalue, hindex, hmemory⟩
  refine ⟨_, hw.cycle_ok (.restore x) hob, fun k hk => ?_, fun k hk => ?_, hindex, hmemory⟩
  · rw [hvalue, if_pos hk]
    exact h.cell k hk
  · rw [hvalue, if_neg (Fin.not_le.mpr hk)]

/-- A save completes where memory has room for the row, and does not change memory if the row
    holds what the registers do. -/
theorem HoldsRow.cycle_save {m : Machine ρ} {x : Nibble} (h : m.HoldsRow m.index x m.value)
    (hw : m.Fetches (0xF055 + 256 * x.val)) :
    ∃ n, m.cycle = .ok none n ∧ n.memory = m.memory := by
  have hob : obstacle (.save x) m.passed = none :=
    (rowObstacle_eq_none_iff m x _).mpr ⟨h.start_nonneg, h.stop_le⟩
  refine ⟨_, hw.cycle_ok (.save x) hob, Memory.ext_cell fun a ha => ?_⟩
  rw [complete_eq, ← Bytes.ofInt_toInt (m.memory.cell a), ← Bytes.ofInt_toInt (Memory.cell _ a)]
  refine congrArg Bytes.ofInt ((cell_save hob ha).trans ?_)
  change (if m.index ≤ a ∧ a ≤ m.index + x.val then m.value (Word.n (a - m.index)) else _) = _
  by_cases hin : m.index ≤ a ∧ a ≤ m.index + x.val
  · -- The register that goes into a cell of the row is the one that is there.
    have hx := x.isLt
    have hword := Word.val_n (a - m.index)
    have hle : (Word.n (a - m.index) : Nibble) ≤ x := by
      change (Word.n (a - m.index)).val ≤ x.val
      omega
    have haddress : (m.index + (Word.n (a - m.index)).val).toNat = a := by omega
    rw [if_pos hin, ← h.cell _ hle, haddress]
  · rw [if_neg hin]
    rfl

/-- After a save has completed and as long as nothing is stored over what it has written, a
    restore from the same place completes and gives the registers up to `x` the values that they
    had at the save. It leaves the other registers, the index register and memory alone. And a
    save in the cycle after a restore that has completed leaves memory as it was. -/
theorem save_and_restore {m m' : Machine ρ} {notice : Option Notice} {x : Nibble}
    (hok : m.cycle = .ok notice m') :
    (m.Fetches (0xF055 + 256 * x.val) →
      ∀ n, Spares m.index (m.index + x.val + 1) m' n → n.index = m.index →
        n.Fetches (0xF065 + 256 * x.val) →
          ∃ n', n.cycle = .ok none n' ∧ (∀ k ≤ x, n'.value k = m.value k) ∧
            (∀ k, x < k → n'.value k = n.value k) ∧ n'.index = n.index ∧
            n'.memory = n.memory) ∧
    (m.Fetches (0xF065 + 256 * x.val) →
      ∀ between, (∀ s ∈ between, s.isQuiet = true) →
        (m'.afterAll between).Fetches (0xF055 + 256 * x.val) →
          ∃ n', (m'.afterAll between).cycle = .ok none n' ∧ n'.memory = m.memory) := by
  constructor
  · intro hsave n hspares hindex hrestore
    have hrow := hspares.holdsRow (holdsRow_of_save hsave hok)
    rw [← hindex] at hrow
    exact hrow.cycle_restore hrestore
  · intro hrestore between hquiet hsave
    rcases holdsRow_of_restore hrestore hok with ⟨hrow, hmemory⟩
    rcases afterAll_quiet m' hquiet with ⟨keypad, delay, sound, hafter⟩
    rw [hafter] at hsave ⊢
    -- Neither the row nor the registers are touched between the cycles.
    have hrow' : { m' with keypad := keypad, delay := delay, sound := sound }.HoldsRow
        m'.index x m'.value := ⟨hrow.start_nonneg, hrow.stop_le, hrow.cell⟩
    rcases hrow'.cycle_save hsave with ⟨n', hn, hsame⟩
    exact ⟨n', hn, hsame.trans hmemory⟩

/-- A program that saves two registers, gives one of them another value and restores both. A save
    after that, with a tick and a key in between, changes nothing. -/
theorem booted_save_and_restore :
    ∃ m n n' : Machine Replay, Reachable m ∧ m.value 0 = 7 ∧
      Spares m.index (m.index + (1 : Nibble).val + 1) (m.after .cycle) n ∧ n.value 0 = 5 ∧
      n.cycle = .ok none n' ∧ n'.value 0 = 7 ∧
      ∃ k, (n'.afterAll [.tick, .setKey 3 true]).cycle = .ok none k ∧ k.memory = n.memory := by
  have hreach := (reachable_booted (⟨[7], 0⟩ : Replay) true
    [0x60, 0x07, 0xA3, 0x00, 0xF1, 0x55, 0x60, 0x05, 0xF1, 0x65, 0xF1, 0x55]).afterAll
      [.cycle, .cycle]
  have hrun :
      let m := (booted (⟨[7], 0⟩ : Replay) true
        [0x60, 0x07, 0xA3, 0x00, 0xF1, 0x55, 0x60, 0x05, 0xF1, 0x65, 0xF1, 0x55]).afterAll
          [.cycle, .cycle]
      let n := (m.after .cycle).afterAll [.cycle, .tick]
      m.value 0 = 7 ∧ m.Fetches (0xF055 + 256 * (1 : Nibble).val) ∧
        Moment.executed ⟨m, .cycle⟩ = some (.save 1) ∧
        Moment.executed ⟨m.after .cycle, .cycle⟩ = some (.set 0 5) ∧
        n.value 0 = 5 ∧ n.index = m.index ∧ n.Fetches (0xF065 + 256 * (1 : Nibble).val) ∧
        ((n.after .cycle).afterAll [.tick, .setKey 3 true]).Fetches
          (0xF055 + 256 * (1 : Nibble).val) := by
    decide +kernel
  generalize (booted (⟨[7], 0⟩ : Replay) true
    [0x60, 0x07, 0xA3, 0x00, 0xF1, 0x55, 0x60, 0x05, 0xF1, 0x65, 0xF1, 0x55]).afterAll
      [.cycle, .cycle] = m at hreach hrun
  rcases hrun with ⟨hvalue, hsave, hexec, hset, hother, hindex, hrestore, hagain⟩
  have hspares : Spares m.index (m.index + (1 : Nibble).val + 1) (m.after .cycle)
      ((m.after .cycle).afterAll [.cycle, .tick]) := by
    refine Spares.refl.afterAll ?_ fun t ht a _ _ => ?_
    · intro image hin
      simp only [List.mem_cons, reduceCtorEq, List.not_mem_nil, or_self] at hin
    · simp only [course, List.mem_cons, List.not_mem_nil, or_false] at ht
      refine Moment.stored_eq_none (fun i hi => ?_) a
      rcases ht with rfl | rfl
      · rw [Option.some.inj (hi.symm.trans hset)]
        rfl
      · have htick : Step.tick ≠ .cycle := by decide
        rw [Moment.executed_of_ne_cycle htick] at hi
        cases hi
  rcases Moment.cycle_of_executed hexec with ⟨notice, hok⟩
  rcases (save_and_restore hok).1 hsave _ hspares hindex hrestore with ⟨n', hn, hback, -⟩
  have hafter : ((m.after .cycle).afterAll [.cycle, .tick]).after .cycle = n' := by
    rw [after_cycle, hn, Action.final_ok]
  rw [hafter] at hagain
  have hquiet : ∀ s ∈ [Step.tick, .setKey 3 true], s.isQuiet = true := by decide
  exact ⟨m, _, n', hreach, hvalue, hspares, hother, hn, (hback 0 (by decide)).trans hvalue,
    (save_and_restore hn).2 hrestore _ hquiet hagain⟩

end Machine

end Chip8
