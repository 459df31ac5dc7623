import Chip8.Proofs.Keypad
import Chip8.Proofs.Machine.Abstraction

/-!
# Refinement

A cycle of a reachable machine does what the ideal machine does.

The argument has one case for each instruction: where nothing stands in the
way, the effect on the state that a machine is seen as is the state that the
machine is seen as after its effect. The bounds of reachable machines enter
where the two sides cut numbers to size in different places: the delay timer is
a byte when it is read, and the program counter is a word when it is pushed.

From there to whole cycles, fetching reads the same word on both sides, and a
tick of a timer that is not negative stops at zero.

## Main definitions

* `Machine.used`: How many random numbers an instruction uses.

## Theorems

* `Machine.maskByte_eq_land`: Masking by a byte is the conjunction of integers.
* `Machine.ideal_applied`: Effects agree.
* `Machine.next_of_cycle`: What a cycle leads to is a successor.
* `Machine.cycle_refines`: It is the only one, and the cycle is recorded.
-/

namespace Chip8

namespace Machine

variable {ρ : Type}

/-- How many random numbers an instruction uses. -/
def used : Instruction → Nat
  | .random _ _ => 1
  | _ => 0

/-! ### Bitwise operations -/

/-- The bits that an integer has in common with a byte depend on its last eight
    bits only, those of a negative one in two's complement. -/
theorem maskByte_eq_land (v : Int) (kk : Immediate) : maskByte v kk = Int.land v kk.val := by
  have hkk : kk.val < 2 ^ 8 := kk.isLt
  unfold maskByte
  cases v with
  | ofNat a =>
      have hmod : ((Int.ofNat a) % 256).toNat = a % 2 ^ 8 := by
        change ((a : Int) % 256).toNat = a % 256
        omega
      rw [hmod]
      change ((a % 2 ^ 8 &&& kk.val : Nat) : Int) = ((a &&& kk.val : Nat) : Int)
      rw [← Nat.mod_eq_of_lt (Nat.lt_of_le_of_lt Nat.and_le_right hkk : a &&& kk.val < 2 ^ 8),
        Nat.and_mod_two_pow, Nat.mod_eq_of_lt hkk]
  | negSucc a =>
      have hmod : ((Int.negSucc a) % 256).toNat = 2 ^ 8 - (a % 2 ^ 8 + 1) := by
        rw [Int.negSucc_eq]
        omega
      rw [hmod]
      change ((2 ^ 8 - (a % 2 ^ 8 + 1) &&& kk.val : Nat) : Int) = ((Nat.ldiff kk.val a : Nat) : Int)
      rw [Int.natCast_inj]
      apply Nat.eq_of_testBit_eq
      intro i
      rw [Nat.testBit_and, Nat.testBit_two_pow_sub_succ (Nat.mod_lt _ (by omega)),
        Nat.testBit_ldiff, Nat.testBit_mod_two_pow]
      by_cases hi : i < 8
      · simp only [hi, decide_true, Bool.true_and, Bool.and_comm]
      · have hout : kk.val.testBit i = false :=
          Nat.testBit_lt_two_pow (Nat.lt_of_lt_of_le hkk
            (Nat.pow_le_pow_right (by omega) (Nat.le_of_not_lt hi)))
        simp only [hout, Bool.and_false, Bool.false_and]

/-- The bitwise operations of bytes are those of numbers. -/
theorem toInt_or (a b : UInt8) :
    Bytes.toInt (a ||| b) = Int.lor (Bytes.toInt a) (Bytes.toInt b) := by
  unfold Bytes.toInt
  rw [UInt8.toNat_or]
  rfl

theorem toInt_and (a b : UInt8) :
    Bytes.toInt (a &&& b) = Int.land (Bytes.toInt a) (Bytes.toInt b) := by
  unfold Bytes.toInt
  rw [UInt8.toNat_and]
  rfl

theorem toInt_xor (a b : UInt8) :
    Bytes.toInt (a ^^^ b) = Int.xor (Bytes.toInt a) (Bytes.toInt b) := by
  unfold Bytes.toInt
  rw [UInt8.toNat_xor]
  rfl

/-! ### Moves -/

/-- Jumps lead to the same cell. -/
theorem ideal_goto {m : Machine ρ} {a : Int} (ha : Memory.IsAddress a) (n : Nat) :
    (m.ideal n).goto a = some (ideal { m with pc := a } n) :=
  if_pos ha

/-- The state with another stack, at another place. -/
theorem ideal_stack {m : Machine ρ} {c : CallStack} {l : List Int} (hl : l.length ≤ 16)
    (h : l = c.live.reverse) (a : Int) (n : Nat) :
    { m.ideal n with stack := l, stack_le := hl, pc := a } =
      ideal { m with stack := c, pc := a } n := by
  subst h
  rfl

/-- Returns agree. This and the following lemmas take one instruction each, whose two
    descriptions have less in common than those of the others. -/
theorem ideal_ret {m : Machine ρ} {a : Int} (hlast : m.stack.live.getLast? = some a)
    (ha : Memory.IsAddress a) (numbers : Nat → Int) (n : Nat) :
    Ideal.effect numbers .ret (m.ideal n) =
      some (ideal { m with stack := m.stack.dropTop, pc := a } n) := by
  have hhead : (m.ideal n).stack.head? = some a := by
    change m.stack.live.reverse.head? = some a
    rw [List.head?_reverse, hlast]
  have htail : (m.ideal n).stack.tail = m.stack.dropTop.live.reverse := by
    change m.stack.live.reverse.tail = _
    rw [List.tail_reverse, CallStack.live_dropTop]
  rw [Ideal.effect, hhead]
  exact (if_pos ha).trans (congrArg some (ideal_stack (m.ideal n).tail_le htail a n))

/-- Calls agree: the address that is kept in sixteen bits is below 65536. -/
theorem ideal_call {m : Machine ρ} (hdepth : m.stack.depth < 16) (hpc : 0 ≤ m.pc ∧ m.pc < 65536)
    (a : Target) (numbers : Nat → Int) (n : Nat) :
    Ideal.effect numbers (.call a) (m.ideal n) =
      some (ideal { m with stack := m.stack.push m.pc, pc := a.val } n) := by
  have hroom : (m.ideal n).stack.length < 16 := by
    change m.stack.live.reverse.length < 16
    rw [List.length_reverse, CallStack.length_live]
    exact hdepth
  have hpush : m.pc :: (m.ideal n).stack = (m.stack.push m.pc).live.reverse := by
    change m.pc :: m.stack.live.reverse = _
    rw [CallStack.live_push hdepth hpc, List.reverse_concat]
  rw [Ideal.effect, dif_pos hroom]
  exact (if_pos (isAddress_target a)).trans (congrArg some
    (ideal_stack (l := m.pc :: (m.ideal n).stack) hroom hpush a.val n))

/-! ### Keys -/

/-- Waits agree: the least key of the set is the first that is found. -/
theorem ideal_awaitKey (m : Machine ρ) [Source ρ] (x : Nibble) (numbers : Nat → Int) (n : Nat) :
    Ideal.effect numbers (.awaitKey x) (m.ideal n) =
      some ((applied (.awaitKey x) m).ideal n) := by
  rw [Ideal.effect, applied]
  cases hlowest : m.keypad.lowest with
  | none =>
      have hnone : ¬ (m.ideal n).keys.Nonempty := by
        rintro ⟨k, hk⟩
        rw [mem_ideal_keys, Keypad.lowest_eq_none hlowest] at hk
        cases hk
      rw [dif_neg hnone]
      rfl
  | some k =>
      rcases Keypad.lowest_eq_some hlowest with ⟨hheld, hleast⟩
      have hmem := (mem_ideal_keys m n k).mpr hheld
      have hmin : (m.ideal n).keys.min' ⟨k, hmem⟩ = k := by
        apply le_antisymm
        · exact Finset.min'_le _ k hmem
        · refine Finset.le_min' _ _ k ?_
          intro j hj
          exact hleast j ((mem_ideal_keys m n j).mp hj)
      rw [dif_pos ⟨k, hmem⟩, hmin]
      simp only []
      rw [ideal_assign (Bytes.isByte_nibble k)]

/-! ### Sprites -/

/-- Sprites agree: the pixels of the footprint are those that are flipped. -/
theorem ideal_draw {m : Machine ρ} [Source ρ] {x y k : Nibble} {n : Nat}
    (h : (m.ideal n).HasBlock k.val) (numbers : Nat → Int) :
    Ideal.effect numbers (.draw x y k) (m.ideal n) =
      some ((applied (.draw x y k) m).ideal n) := by
  have hlen : (m.sprite k.val).length = k.val := by
    unfold sprite
    rw [List.length_map, Memory.length_slice]
  have hnodup : (Screen.footprint (m.value x) (m.value y) (m.sprite k.val)).Nodup :=
    Screen.footprint_nodup _ _ (by omega)
  have hscreen := Screen.litSet_foldl hnodup m.screen false
  have hhit := Screen.hit_foldl hnodup m.screen false
  rw [← ideal_sprite h] at hscreen hhit
  have hmeet : ((m.ideal n).screen ∩ (m.ideal n).sprite x y k).Nonempty ↔
      (m.screen.draw (m.value x) (m.value y) (m.sprite k.val)).2 = true := by
    unfold Screen.draw
    rw [hhit]
    simp only [Bool.false_eq_true, false_or]
    rfl
  have hdrawn : { m.ideal n with
      screen := symmDiff (m.ideal n).screen ((m.ideal n).sprite x y k) } =
      ideal { m with
        screen := (m.screen.draw (m.value x) (m.value y) (m.sprite k.val)).1 } n := by
    change { m.ideal n with
      screen := symmDiff m.screen.litSet ((m.ideal n).sprite x y k) } = _
    rw [← hscreen]
    rfl
  rw [Ideal.effect, if_pos h, applied, ideal_assign (Bytes.isByte_bit _), hdrawn]
  unfold Ideal.flag Flagged.bit
  simp only [hmeet]

/-! ### Effects -/

variable [Source ρ]

/-- Decimal digits agree. -/
theorem ideal_decimal {m : Machine ρ} {n : Nat} (h : (m.ideal n).HasBlock 3) (x : Nibble)
    (numbers : Nat → Int) :
    Ideal.effect numbers (.decimal x) (m.ideal n) = some ((applied (.decimal x) m).ideal n) := by
  rw [Ideal.effect, applied]
  refine ideal_laid ((decimalDigits (m.value x)).map Bytes.ofInt) h ?_
  intro j hj
  rw [← Ideal.byte_ofByte, toInt_digit (m.isByte_value x) hj]
  rfl

/-- Saved registers agree. -/
theorem ideal_save {m : Machine ρ} {x : Nibble} {n : Nat} (h : (m.ideal n).HasBlock (x.val + 1))
    (numbers : Nat → Int) :
    Ideal.effect numbers (.save x) (m.ideal n) = some ((applied (.save x) m).ideal n) := by
  have hlen := Registers.length_upTo m.registers x.val
  rw [Ideal.effect, applied, ← hlen]
  refine ideal_laid (m.registers.upTo x.val) (by rw [hlen]; exact h) ?_
  intro j hj
  have hlt : j < 16 := by omega
  have hcell : (m.registers.upTo x.val)[j] = m.registers.cell j := by
    simp only [Registers.upTo, List.getElem_map, List.getElem_range]
  rw [List.getD_eq_getElem _ _ hj, hcell, ← Ideal.byte_ofByte]
  change Ideal.byte (Bytes.toInt (m.registers.cell (Word.n j).val)) = _
  rw [show (Word.n j).val = j by have := Word.val_n j; omega]

/-- Where nothing stands in the way, effects agree. -/
theorem ideal_applied {m : Machine ρ} {i : Instruction} (hb : InBounds m)
    (hpc : 2 ≤ m.pc ∧ m.pc ≤ 4096) (hob : obstacle i m = none) {r : ρ} {n : Nat}
    (hn : m.random = Source.after n r) :
    Ideal.effect (Source.number r) i (m.ideal n) = some ((applied i m).ideal (n + used i)) := by
  cases i with
  | clear =>
      rw [Ideal.effect, applied, ← Screen.litSet_dark]
      rfl
  | ret =>
      rw [obstacle] at hob
      rw [applied]
      cases hlast : m.stack.live.getLast? with
      | none =>
          rw [hlast] at hob
          exact absurd hob (Option.some_ne_none _)
      | some a =>
          rw [hlast] at hob
          exact ideal_ret hlast (isAddress_of_jumpObstacle hob) _ n
  | jump a => exact ideal_goto (isAddress_target a) n
  | call a =>
      rw [obstacle] at hob
      by_cases hdepth : m.stack.depth < 16
      · exact ideal_call hdepth (by omega) a _ n
      · rw [if_neg hdepth] at hob
        exact absurd hob (Option.some_ne_none _)
  | jumpFrom a =>
      rw [obstacle] at hob
      exact ideal_goto (isAddress_of_jumpObstacle hob) n
  | skipIs x kk => exact congrArg some (ideal_skipWhen m n Iff.rfl)
  | skipIsNot x kk => exact congrArg some (ideal_skipWhen m n Iff.rfl)
  | skipSame x y => exact congrArg some (ideal_skipWhen m n Iff.rfl)
  | skipDiffer x y => exact congrArg some (ideal_skipWhen m n Iff.rfl)
  | skipHeld x => exact congrArg some (ideal_skipWhen m n (mem_ideal_keys m n _))
  | skipFree x =>
      refine congrArg some (ideal_skipWhen m n ?_)
      rw [← Bool.not_eq_true]
      exact not_congr (mem_ideal_keys m n _)
  | set x kk => exact congrArg some (ideal_assign (Bytes.isByte_immediate kk) n x).symm
  | increase x kk =>
      rw [Ideal.effect, applied, ideal_assign (Bytes.isByte_mod _), Ideal.put_mod]
      rfl
  | copy x y => exact congrArg some (ideal_assign (m.isByte_value y) n x).symm
  | or x y =>
      rw [Ideal.effect, applied, ideal_assign (Bytes.isByte_toInt _), toInt_or]
      rfl
  | and x y =>
      rw [Ideal.effect, applied, ideal_assign (Bytes.isByte_toInt _), toInt_and]
      rfl
  | xor x y =>
      rw [Ideal.effect, applied, ideal_assign (Bytes.isByte_toInt _), toInt_xor]
      rfl
  | add x y => exact congrArg some (ideal_assignFlagged rfl rfl n x).symm
  | sub x y => exact congrArg some (ideal_assignFlagged rfl rfl n x).symm
  | subReverse x y => exact congrArg some (ideal_assignFlagged rfl rfl n x).symm
  | shiftRight x =>
      have hv := m.isByte_value x
      unfold Bytes.IsByte at hv
      refine congrArg some (ideal_assignFlagged ?_ ?_ n x).symm
      · change m.value x / 2 = m.value x / 2 % 256
        omega
      · change m.value x % 2 = if m.value x % 2 = 1 then 1 else 0
        omega
  | shiftLeft x =>
      have hv := m.isByte_value x
      unfold Bytes.IsByte at hv
      refine congrArg some (ideal_assignFlagged ?_ ?_ n x).symm
      · change 2 * m.value x % 256 = m.value x * 2 % 256
        omega
      · change m.value x / 128 % 2 = if 128 ≤ m.value x then 1 else 0
        omega
  | random x kk =>
      rw [Ideal.effect, applied, ideal_assign (isByte_maskByte _ kk), maskByte_eq_land, hn]
      rfl
  | setIndex a => rfl
  | draw x y k =>
      rw [obstacle] at hob
      exact ideal_draw (hasBlock_of_obstacle hob n) _
  | getDelay x => exact congrArg some (ideal_assign hb.delay n x).symm
  | awaitKey x => exact ideal_awaitKey m x _ n
  | setDelay x => rfl
  | setSound x => rfl
  | addIndex x => rfl
  | pointGlyph x => rfl
  | decimal x =>
      rw [obstacle] at hob
      exact ideal_decimal (hasBlock_of_obstacle hob n) x _
  | save x =>
      rw [obstacle] at hob
      exact ideal_save (hasBlock_of_obstacle hob n) _
  | restore x =>
      rw [obstacle] at hob
      have hblock := hasBlock_of_obstacle hob n
      rw [Ideal.effect, if_pos hblock]
      exact congrArg some (ideal_restore hblock)
  | unknown w => rfl

/-- How far an effect goes in the random numbers. -/
theorem random_applied {m : Machine ρ} (i : Instruction) {r : ρ} {n : Nat}
    (hn : m.random = Source.after n r) :
    (applied i m).random = Source.after (n + used i) r := by
  cases i with
  | random x kk =>
      change (Source.next m.random).2 = Source.after (n + 1) r
      rw [Source.after_succ, hn]
  | _ => exact ((kept_applied _ m).random rfl).trans hn

/-! ### Cycles -/

omit [Source ρ] in
/-- The ends of cycles agree, with the tick of the timers. -/
theorem ideal_complete {m : Machine ρ} (hb : InBounds m) (w : Int) (n : Nat) :
    (complete w m).ideal n = (m.ideal n).tick := by
  have hdown : ∀ v : Int, 0 ≤ v → (if 0 < v then v - 1 else v) = max 0 (v - 1) := by
    intro v hv
    omega
  have hdelay : m.tick.delay = max 0 (m.delay - 1) := hdown m.delay hb.delay.1
  have hsound : m.tick.sound = max 0 (m.sound - 1) := hdown m.sound hb.sound.1
  rw [complete_eq, hdelay, hsound]
  unfold Ideal.tick
  by_cases h : m.ticksByCycle = true
  · rw [if_pos h, if_pos h]
    exact (if_pos h).symm
  · rw [if_neg h, if_neg h]
    exact (if_neg h).symm

/-- What a cycle leads to is a successor of the state that the machine was seen
    as. -/
theorem next_of_cycle {m m' : Machine ρ} {notice : Option Notice} (hb : InBounds m)
    (hok : cycle m = .ok notice m') {r : ρ} {n : Nat} (hn : m.random = Source.after n r) :
    Ideal.Next (Source.number r) (m.ideal n) (m'.ideal (n + used m.instruction)) := by
  rcases (cycle_ok_iff m m' notice).mp hok with ⟨hcan, hob, -, rfl⟩
  rcases inBounds_passed hb hcan with ⟨hbp, hpc⟩
  rw [ideal_complete (inBounds_applied _ hbp hpc hob)]
  have heffect := ideal_applied hbp hpc hob hn
  rcases Instruction.listed_decode m.word_bounds with hunknown | hlisted
  · have hi : m.instruction = .unknown m.word := hunknown
    rw [hi]
    refine Ideal.Next.unlisted hcan ?_
    intro i hl
    rw [ideal_word hcan n] at hl
    exact ((Instruction.listed_iff m.word_bounds i).mp hl).2
      ((Instruction.decode_of_listed hl).symm.trans hunknown)
  · refine Ideal.Next.listed hcan ?_ heffect
    rw [ideal_word hcan n]
    exact hlisted

/-- A cycle of a reachable machine that completes leads to the one successor of
    the state that the machine was seen as, as far in the random numbers as the
    successor says. It is counted, and the word that was fetched is kept. -/
theorem cycle_refines {m m' : Machine ρ} {notice : Option Notice} (h : Reachable m)
    (hok : cycle m = .ok notice m') {r : ρ} {n : Nat} (hn : m.random = Source.after n r) :
    (∃ n', m'.random = Source.after n' r ∧
      ∀ s, Ideal.Next (Source.number r) (m.ideal n) s ↔ s = m'.ideal n') ∧
    m'.cycles = m.cycles + 1 ∧ m'.lastWord = some m.word ∧
    m'.lastInstruction = some (.decode m.word) := by
  have hnext := next_of_cycle (inBounds_of_reachable h) hok hn
  rcases (cycle_ok_iff m m' notice).mp hok with ⟨hcan, -, -, rfl⟩
  refine ⟨⟨n + used m.instruction, ?_, ?_⟩, ?_⟩
  · rw [complete_eq]
    exact random_applied m.instruction hn
  · intro s
    constructor
    · intro hs
      exact hs.unique hnext
    · intro hs
      rw [hs]
      exact hnext
  · rw [complete_eq]
    exact ⟨congrArg (· + 1) (cycles_applied m.instruction m.passed), rfl, rfl⟩

/-- A program that starts by drawing a random number does what the ideal
    machine does. -/
theorem booted_random_refines :
    ∃ (m' : Machine Replay) (n' : Nat),
      cycle (booted (⟨[7], 0⟩ : Replay) true [0xC1, 0x0F]) = .ok none m' ∧
      m'.random = Source.after n' ⟨[7], 0⟩ ∧
      Ideal.Next (Source.number (⟨[7], 0⟩ : Replay))
        (ideal (booted (⟨[7], 0⟩ : Replay) true [0xC1, 0x0F]) 0) (m'.ideal n') ∧
      m'.lastInstruction = some (.random 1 0x0F) := by
  have hreach := reachable_booted (⟨[7], 0⟩ : Replay) true [0xC1, 0x0F]
  have hword : (booted (⟨[7], 0⟩ : Replay) true [0xC1, 0x0F]).Fetches
      (0xC000 + 256 * (1 : Nibble).val + (0x0F : Immediate).val) :=
    booted_fetches _ _ (by decide) (by decide) (by decide) (by decide)
  have hrandom : (booted (⟨[7], 0⟩ : Replay) true [0xC1, 0x0F]).random = ⟨[7], 0⟩ := by
    rw [booted, after_load]
    rfl
  have hok := hword.cycle_ok (.random 1 0x0F) rfl
  rcases cycle_refines hreach hok (r := ⟨[7], 0⟩) (n := 0) hrandom with
    ⟨⟨n', hdraws, hnext⟩, -, -, hlast⟩
  refine ⟨_, n', hok, hdraws, (hnext _).mpr rfl, ?_⟩
  rw [hlast]
  exact congrArg some (hword.instruction (.random 1 0x0F))

end Machine

end Chip8
