import Chip8.Proofs.Machine.Bounds

/-!
# Failing Cycles

When a cycle of a reachable machine fails, and with what.

The obstacles of single effects are stated for any machine, and several of
them cannot be met by a machine that has got where it is by running: its delay
timer is a byte, and its program counter is at least two by the time an
instruction waits for a key. What remains is written down once more as a list
of words and conditions, `Machine.Halts`, without looking at how a cycle goes
about its work.

## Main definitions

* `Fault.kind`: What whoever runs the machine can tell faults apart by.
* `Machine.Halts`: The kind of fault that a cycle fails with.

## Theorems

* `Machine.obstacle_iff_halts`: What stands in the way of a fetched
  instruction is on the list.
* `Machine.cycle_fails_iff_halts`: A cycle of a reachable machine fails as the
  list says.
-/

namespace Chip8

/-- The kinds of faults. -/
inductive Fault.Kind where
  | programTooLarge
  | stackOverflow
  | stackUnderflow
  | addressOutOfRange
  | registerIndex
  | keyIndex
  | misuse
  deriving DecidableEq, Repr

/-- What whoever runs the machine can tell faults apart by. -/
def Fault.kind : Fault → Fault.Kind
  | .programTooLarge _ => .programTooLarge
  | .stackOverflow _ => .stackOverflow
  | .stackUnderflow => .stackUnderflow
  | .address _ | .retreat _ _ | .readPastEnd _ _ | .writePastEnd _ _ | .pixel _ _ =>
    .addressOutOfRange
  | .registerIndex _ => .registerIndex
  | .keyIndex _ => .keyIndex
  | .misuse _ => .misuse

namespace Machine

variable {ρ : Type}

/-- The kind of fault that a cycle fails with, by the word that is fetched. -/
inductive Halts (m : Machine ρ) : Fault.Kind → Prop
  /-- The word reaches past the end of memory. -/
  | fetch (h : 4095 ≤ m.pc) : Halts m .addressOutOfRange
  /-- A return without a call. -/
  | underflow (hw : m.Fetches 0x00EE) (h : m.stack.depth = 0) : Halts m .stackUnderflow
  /-- A return to the end of memory. -/
  | ret (hw : m.Fetches 0x00EE) (h : m.stack.live.getLast? = some 4096) :
    Halts m .addressOutOfRange
  /-- A call with all levels in use. -/
  | overflow (a : Target) (hw : m.Fetches (0x2000 + a.val)) (h : m.stack.depth = 16) :
    Halts m .stackOverflow
  /-- A jump from V0 past the end of memory. -/
  | jumpFrom (a : Target) (hw : m.Fetches (0xB000 + a.val))
    (h : 4096 ≤ m.value Registers.V0 + a.val) : Halts m .addressOutOfRange
  /-- A sprite that does not lie inside memory. -/
  | draw (x y n : Nibble) (hw : m.Fetches (0xD000 + 256 * x.val + 16 * y.val + n.val))
    (h : 4096 ≤ m.index ∨ 4096 < m.index + n.val) : Halts m .addressOutOfRange
  /-- No room for three digits. -/
  | decimal (x : Nibble) (hw : m.Fetches (0xF033 + 256 * x.val)) (h : 4093 < m.index) :
    Halts m .addressOutOfRange
  /-- No room for the registers. -/
  | save (x : Nibble) (hw : m.Fetches (0xF055 + 256 * x.val)) (h : 4096 < m.index + x.val + 1) :
    Halts m .addressOutOfRange
  /-- Registers that do not lie inside memory. -/
  | restore (x : Nibble) (hw : m.Fetches (0xF065 + 256 * x.val))
    (h : 4096 < m.index + x.val + 1) : Halts m .addressOutOfRange

/-- Within bounds, only the end of memory can be in the way of a fetch. -/
theorem canFetch_iff {m : Machine ρ} (hb : InBounds m) : m.CanFetch ↔ m.pc < 4095 :=
  ⟨fun h => h.2, fun h => ⟨hb.pc.1, h⟩⟩

/-! ### Obstacles of reachable machines -/

/-- The kind of fault with which a test is refused. -/
theorem refusal_kind (p : Prop) [Decidable p] (f : Fault) (k : Fault.Kind) :
    (if p then none else some f).map Fault.kind = some k ↔ ¬ p ∧ f.kind = k := by
  by_cases h : p
  · rw [if_pos h]
    constructor
    · intro hk
      exact absurd hk.symm (Option.some_ne_none k)
    · rintro ⟨hp, -⟩
      exact absurd h hp
  · rw [if_neg h, Option.map_some, Option.some.injEq]
    exact ⟨fun hk => ⟨h, hk⟩, fun hk => hk.2⟩

/-- A jump is refused for its address. -/
theorem jumpObstacle_kind {a : Int} (ha : 0 ≤ a) (k : Fault.Kind) :
    (jumpObstacle a).map Fault.kind = some k ↔ 4096 ≤ a ∧ .addressOutOfRange = k := by
  unfold jumpObstacle
  rw [refusal_kind]
  refine and_congr_left fun _ => ?_
  unfold Memory.IsAddress Memory.size
  omega

/-- A block is refused for its beginning or for its end, which are faults of one kind. -/
theorem blockObstacle_kind {m : Machine ρ} (hb : InBounds m) (n : Nat) {past : Fault}
    (hpast : past.kind = .addressOutOfRange) (k : Fault.Kind) :
    (m.blockObstacle n past).map Fault.kind = some k ↔
      (4096 ≤ m.index ∨ 4096 < m.index + n) ∧ .addressOutOfRange = k := by
  have hlow := hb.index.1
  unfold blockObstacle
  by_cases hs : Memory.IsAddress m.index
  · rw [if_pos hs, refusal_kind, hpast]
    refine and_congr_left fun _ => ?_
    unfold Memory.IsAddress Memory.size at hs
    omega
  · rw [if_neg hs, Option.map_some, Option.some.injEq]
    unfold Memory.IsAddress Memory.size at hs
    exact ⟨fun hk => ⟨Or.inl (by omega), hk⟩, fun hk => hk.2⟩

/-- A return is refused without an address, or for one that a call in the last word has left. -/
theorem obstacle_ret_kind {m : Machine ρ} (hb : InBounds m) (k : Fault.Kind) :
    (obstacle .ret m).map Fault.kind = some k ↔
      (m.stack.depth = 0 ∧ .stackUnderflow = k) ∨
      (m.stack.live.getLast? = some 4096 ∧ .addressOutOfRange = k) := by
  have hlen := m.stack.length_live
  rw [obstacle]
  cases hlast : m.stack.live.getLast? with
  | none =>
      rw [List.getLast?_eq_none_iff.mp hlast, List.length_nil] at hlen
      simp only [Option.map_some, Option.some.injEq, hlen.symm, true_and, reduceCtorEq, false_and,
        or_false]
      exact Iff.rfl
  | some a =>
      have hlive := hb.live a (List.mem_of_getLast? hlast)
      have hdepth : ¬ m.stack.depth = 0 := by
        intro hzero
        rw [List.length_eq_zero_iff.mp (hlen.trans hzero)] at hlast
        exact absurd hlast.symm (Option.some_ne_none a)
      simp only [hdepth, false_and, false_or, Option.some.injEq]
      rw [jumpObstacle_kind (by omega)]
      refine and_congr_left fun _ => ?_
      omega

/-- A call is refused on a full stack. -/
theorem obstacle_call_kind (m : Machine ρ) (a : Target) (k : Fault.Kind) :
    (obstacle (.call a) m).map Fault.kind = some k ↔
      m.stack.depth = 16 ∧ .stackOverflow = k := by
  have hle := m.stack.depth_le
  rw [obstacle, refusal_kind]
  refine and_congr ?_ Iff.rfl
  omega

/-- What a machine that has got here by running is never refused: to read the delay timer,
    and to go back to wait for a key. -/
theorem obstacle_none_of_bounds {m : Machine ρ} (hb : InBounds m) (hpc : 2 ≤ m.pc) (x : Nibble) :
    obstacle (.getDelay x) m = none ∧ obstacle (.awaitKey x) m = none := by
  rw [obstacle, obstacle, if_pos hb.delay]
  refine ⟨rfl, ?_⟩
  cases m.keypad.lowest with
  | some k => rfl
  | none =>
      simp only []
      rw [if_neg (by omega)]

/-! ### The list -/

/-- A jump by a register never leads below zero. -/
theorem value_zero_add_nonneg (m : Machine ρ) (a : Target) : 0 ≤ m.value Registers.V0 + a.val := by
  have hv := (m.isByte_value Registers.V0).1
  omega

/-- What stands in the way of a listed instruction is on the list. -/
theorem halts_of_obstacle {m : Machine ρ} {w : Int} {i : Instruction} {k : Fault.Kind}
    (hb : InBounds m) (hw : m.Fetches w) (hl : Listed w i)
    (hob : (obstacle i m.passed).map Fault.kind = some k) : Halts m k := by
  rcases inBounds_passed hb hw.1 with ⟨hbp, hpc⟩
  cases hl with
  | ret =>
      rw [obstacle_ret_kind hbp] at hob
      rcases hob with ⟨hzero, rfl⟩ | ⟨hend, rfl⟩
      · exact Halts.underflow hw hzero
      · exact Halts.ret hw hend
  | call a =>
      rw [obstacle_call_kind] at hob
      rcases hob with ⟨hfull, rfl⟩
      exact Halts.overflow a hw hfull
  | jumpFrom a =>
      rw [obstacle, jumpObstacle_kind (value_zero_add_nonneg _ a)] at hob
      rcases hob with ⟨hout, rfl⟩
      exact Halts.jumpFrom a hw hout
  | draw x y n =>
      rw [obstacle, blockObstacle_kind hbp n.val rfl] at hob
      rcases hob with ⟨hout, rfl⟩
      exact Halts.draw x y n hw hout
  | decimal x =>
      rw [obstacle, blockObstacle_kind hbp 3 rfl] at hob
      rcases hob with ⟨hout, rfl⟩
      refine Halts.decimal x hw ?_
      change 4096 ≤ m.index ∨ 4096 < m.index + 3 at hout
      omega
  | save x =>
      rw [obstacle, blockObstacle_kind hbp (x.val + 1) rfl] at hob
      rcases hob with ⟨hout, rfl⟩
      refine Halts.save x hw ?_
      change 4096 ≤ m.index ∨ 4096 < m.index + (x.val + 1) at hout
      omega
  | restore x =>
      rw [obstacle, blockObstacle_kind hbp (x.val + 1) rfl] at hob
      rcases hob with ⟨hout, rfl⟩
      refine Halts.restore x hw ?_
      change 4096 ≤ m.index ∨ 4096 < m.index + (x.val + 1) at hout
      omega
  | getDelay x =>
      rw [(obstacle_none_of_bounds hbp hpc.1 x).1] at hob
      cases hob
  | awaitKey x =>
      rw [(obstacle_none_of_bounds hbp hpc.1 x).2] at hob
      cases hob
  -- Nothing stands in the way of the others.
  | _ => exact absurd hob.symm (Option.some_ne_none k)

/-- What is on the list stands in the way. -/
theorem obstacle_of_halts {m : Machine ρ} {k : Fault.Kind} (hb : InBounds m) (hcan : m.CanFetch)
    (h : Halts m k) : (obstacle m.instruction m.passed).map Fault.kind = some k := by
  rcases inBounds_passed hb hcan with ⟨hbp, -⟩
  cases h with
  | fetch h =>
      have hlt := hcan.2
      omega
  | underflow hw hzero =>
      rw [hw.instruction .ret, obstacle_ret_kind hbp]
      exact Or.inl ⟨hzero, rfl⟩
  | ret hw hend =>
      rw [hw.instruction .ret, obstacle_ret_kind hbp]
      exact Or.inr ⟨hend, rfl⟩
  | overflow a hw hfull =>
      rw [hw.instruction (.call a), obstacle_call_kind]
      exact ⟨hfull, rfl⟩
  | jumpFrom a hw hout =>
      rw [hw.instruction (.jumpFrom a), obstacle, jumpObstacle_kind (value_zero_add_nonneg _ a)]
      exact ⟨hout, rfl⟩
  | draw x y n hw hout =>
      rw [hw.instruction (.draw x y n), obstacle, blockObstacle_kind hbp n.val rfl]
      exact ⟨hout, rfl⟩
  | decimal x hw hout =>
      rw [hw.instruction (.decimal x), obstacle, blockObstacle_kind hbp 3 rfl]
      refine ⟨Or.inr ?_, rfl⟩
      change 4096 < m.index + 3
      omega
  | save x hw hout =>
      rw [hw.instruction (.save x), obstacle, blockObstacle_kind hbp (x.val + 1) rfl]
      refine ⟨Or.inr ?_, rfl⟩
      change 4096 < m.index + (x.val + 1)
      omega
  | restore x hw hout =>
      rw [hw.instruction (.restore x), obstacle, blockObstacle_kind hbp (x.val + 1) rfl]
      refine ⟨Or.inr ?_, rfl⟩
      change 4096 < m.index + (x.val + 1)
      omega

/-- What stands in the way of the word that is fetched is on the list, and the
    other way round. -/
theorem obstacle_iff_halts {m : Machine ρ} (hb : InBounds m) (hcan : m.CanFetch)
    (k : Fault.Kind) :
    (obstacle m.instruction m.passed).map Fault.kind = some k ↔ Halts m k := by
  constructor
  · intro hob
    rcases Instruction.listed_decode m.word_bounds with hunknown | hlisted
    · rw [show m.instruction = .unknown m.word from hunknown] at hob
      exact absurd hob.symm (Option.some_ne_none k)
    · exact halts_of_obstacle hb ⟨hcan, rfl⟩ hlisted hob
  · exact obstacle_of_halts hb hcan

/-- A cycle fails with what is on the list, and never with anything else. -/
theorem cycle_kind_iff [Source ρ] {m : Machine ρ} (hb : InBounds m) (k : Fault.Kind) :
    (∃ f m', cycle m = .error f m' ∧ f.kind = k) ↔ Halts m k := by
  by_cases hcan : m.CanFetch
  · rw [← obstacle_iff_halts hb hcan, Option.map_eq_some_iff]
    constructor
    · rintro ⟨f, m', herr, hk⟩
      rcases (cycle_error_iff m m' f).mp herr with ⟨hcannot, -, -⟩ | ⟨-, hob, -⟩
      · exact absurd hcan hcannot
      · exact ⟨f, hob, hk⟩
    · rintro ⟨f, hob, hk⟩
      exact ⟨f, _, (cycle_error_iff m _ f).mpr (Or.inr ⟨hcan, hob, rfl⟩), hk⟩
  · have hpc : 4095 ≤ m.pc := by
      rw [canFetch_iff hb] at hcan
      omega
    constructor
    · rintro ⟨f, m', herr, hk⟩
      rcases (cycle_error_iff m m' f).mp herr with ⟨-, hf, -⟩ | ⟨hyes, -, -⟩
      · rw [hf] at hk
        rw [← hk]
        exact Halts.fetch hpc
      · exact absurd hyes hcan
    · intro h
      refine ⟨m.fetchFault, m, (cycle_error_iff m m _).mpr (Or.inl ⟨hcan, rfl, rfl⟩), ?_⟩
      -- Every other reason on the list has fetched its word.
      cases h with
      | fetch _ => rfl
      | underflow hw _ => exact absurd hw.1 hcan
      | ret hw _ => exact absurd hw.1 hcan
      | overflow _ hw _ => exact absurd hw.1 hcan
      | jumpFrom _ hw _ => exact absurd hw.1 hcan
      | draw _ _ _ hw _ => exact absurd hw.1 hcan
      | decimal _ hw _ => exact absurd hw.1 hcan
      | save _ hw _ => exact absurd hw.1 hcan
      | restore _ hw _ => exact absurd hw.1 hcan

/-- The kinds of faults on the list. -/
theorem Halts.kind_mem {m : Machine ρ} {k : Fault.Kind} (h : Halts m k) :
    k = .addressOutOfRange ∨ k = .stackUnderflow ∨ k = .stackOverflow := by
  cases h with
  | underflow _ _ => exact Or.inr (Or.inl rfl)
  | overflow _ _ _ => exact Or.inr (Or.inr rfl)
  | _ => exact Or.inl rfl

/-- Waiting for a key is the only way back, and it is open to a machine that has got here by
    running. -/
theorem obstacle_ne_retreat {m : Machine ρ} (hb : InBounds m) (hpc : 2 ≤ m.pc) (i : Instruction)
    (pc n : Int) : obstacle i m ≠ some (.retreat pc n) := by
  have hjump : ∀ a : Int, jumpObstacle a ≠ some (.retreat pc n) := by
    intro a
    unfold jumpObstacle
    split <;> simp
  have hblock : ∀ (k : Nat) (past : Fault), past ≠ .retreat pc n →
      m.blockObstacle k past ≠ some (.retreat pc n) := by
    intro k past hpast
    unfold blockObstacle
    split
    · split
      · simp
      · simpa using hpast
    · simp
  intro hob
  cases i with
  | ret =>
      rw [obstacle] at hob
      cases hlast : m.stack.live.getLast? with
      | none =>
          rw [hlast] at hob
          cases hob
      | some a =>
          rw [hlast] at hob
          exact hjump a hob
  | call a =>
      rw [obstacle] at hob
      split at hob <;> cases hob
  | jumpFrom a =>
      rw [obstacle] at hob
      exact hjump _ hob
  | draw x y k =>
      rw [obstacle] at hob
      exact hblock _ _ (by simp) hob
  | decimal x =>
      rw [obstacle] at hob
      exact hblock _ _ (by simp) hob
  | save x =>
      rw [obstacle] at hob
      exact hblock _ _ (by simp) hob
  | restore x =>
      rw [obstacle] at hob
      exact hblock _ _ (by simp) hob
  | getDelay x =>
      rw [(obstacle_none_of_bounds hb hpc x).1] at hob
      cases hob
  | awaitKey x =>
      rw [(obstacle_none_of_bounds hb hpc x).2] at hob
      cases hob
  | _ => cases hob

/-- A cycle of a reachable machine fails exactly as the list says. Nothing but
    unbalanced calls and addresses outside memory ever comes up, and going back
    to wait for a key is never refused. -/
theorem cycle_fails_iff_halts [Source ρ] {m : Machine ρ} (h : Reachable m) :
    (∀ k, (∃ f m', cycle m = .error f m' ∧ f.kind = k) ↔ Halts m k) ∧
      ∀ f m', cycle m = .error f m' →
        (f.kind = .addressOutOfRange ∨ f.kind = .stackUnderflow ∨ f.kind = .stackOverflow) ∧
          ∀ pc n, f ≠ .retreat pc n := by
  have hb := inBounds_of_reachable h
  refine ⟨cycle_kind_iff hb, ?_⟩
  intro f m' herr
  refine ⟨((cycle_kind_iff hb f.kind).mp ⟨f, m', herr, rfl⟩).kind_mem, ?_⟩
  rintro pc n rfl
  rcases (cycle_error_iff m m' _).mp herr with ⟨-, hf, -⟩ | ⟨hcan, hob, -⟩
  · cases hf
  · rcases inBounds_passed hb hcan with ⟨hbp, hpc⟩
    exact obstacle_ne_retreat hbp hpc.1 m.instruction pc n hob

/-- A program that starts with a return fails at once, for lack of a call. -/
theorem booted_return_fails :
    Reachable (booted (⟨[7], 0⟩ : Replay) true [0x00, 0xEE]) ∧
      ∃ f m', cycle (booted (⟨[7], 0⟩ : Replay) true [0x00, 0xEE]) = .error f m' ∧
        f.kind = .stackUnderflow :=
  have hreach := reachable_booted (⟨[7], 0⟩ : Replay) true [0x00, 0xEE]
  have hword : (booted (⟨[7], 0⟩ : Replay) true [0x00, 0xEE]).Fetches 0x00EE :=
    booted_fetches _ _ (by decide) (by decide) (by decide) (by decide)
  have hdepth : (booted (⟨[7], 0⟩ : Replay) true [0x00, 0xEE]).stack.depth = 0 := by
    rw [booted, after_load]
    rfl
  ⟨hreach, ((cycle_fails_iff_halts hreach).1 _).mpr (.underflow hword hdepth)⟩

end Machine

end Chip8
