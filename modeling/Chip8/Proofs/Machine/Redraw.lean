import Chip8.Proofs.Machine.Course
import Chip8.Proofs.Screen.Hits

/-!
# Drawing Twice

What two cycles in a row do that draw the same sprite at the same place.

The second cycle takes the flips of the first one back. It flips the same pixels, since
the first has left alone what a drawing looks at: memory, the index register and the two
registers with the coordinates, unless one of these is the flag register. A sprite of an
instruction has at most fifteen rows and flips no pixel twice, so what it finds the second
time is the opposite of what it found the first time, at each of its pixels. The flags
therefore say of the screen before whether the sprite lay on a lit pixel, and whether it
lay on a dark one.

## Theorems

* `Screen.draw_draw`: A sprite that is drawn twice is gone.
* `Machine.after_draw`: What a cycle does that draws a sprite.
* `Machine.redraw_restores`: What two of them do.
-/

namespace Chip8

/-- A sprite that is drawn twice is gone. -/
theorem Screen.draw_draw (s : Screen) (x y : Int) (rows : List Int) :
    ((s.draw x y rows).1.draw x y rows).1 = s :=
  foldl_flip_restores (fun _ => rfl) s false false

namespace Machine

variable {ρ : Type}

theorem length_sprite (m : Machine ρ) (n : Nat) : (m.sprite n).length = n := by
  unfold sprite
  rw [List.length_map, Memory.length_slice]

variable [Source ρ]

/-- A cycle that draws a sprite changes the screen and the flag register, and otherwise no
    more than any cycle. -/
theorem after_draw {m : Machine ρ} {x y n : Nibble}
    (h : Moment.executed ⟨m, .cycle⟩ = some (.draw x y n)) :
    let drawn := m.screen.draw (m.value x) (m.value y) (m.sprite n.val)
    (∃ registers delay sound lastWord, m.after .cycle =
      { m with
        screen := drawn.1
        registers := registers
        pc := m.pc + 2
        delay := delay
        sound := sound
        cycles := m.cycles + 1
        lastWord := lastWord }) ∧
    ∀ z, (m.after .cycle).value z =
      if Registers.VF = z then Flagged.bit (drawn.2 = true) else m.value z := by
  have hnext : m.after .cycle = complete m.word (applied (.draw x y n) m.passed) :=
    Moment.next_of_executed h
  intro drawn
  rw [hnext, complete_eq]
  refine ⟨⟨_, _, _, _, rfl⟩, fun z => ?_⟩
  exact value_assign { m.passed with screen := drawn.1 } Registers.VF z (Bytes.isByte_bit _)

/-- Two cycles in a row that draw the same sprite at the same place, neither of whose
    coordinates is in the flag register, restore the screen. The flag is set after the first
    if the sprite covers a lit pixel, and after the second if it covers one that was dark
    before the first. Nothing else is changed that is not changed by every cycle. -/
theorem redraw_restores {m : Machine ρ} {x y n : Nibble} (hx : x ≠ Registers.VF)
    (hy : y ≠ Registers.VF) (hfirst : Moment.executed ⟨m, .cycle⟩ = some (.draw x y n))
    (hsecond : Moment.executed ⟨m.after .cycle, .cycle⟩ = some (.draw x y n)) :
    let m₁ := m.after .cycle
    let m₂ := m₁.after .cycle
    let covers := Screen.Covers (m.value x) (m.value y) (m.sprite n.val)
    m₂.screen = m.screen ∧
    (m₁.value Registers.VF = if ∃ p, covers p ∧ m.screen.lit p = true then 1 else 0) ∧
    (m₂.value Registers.VF = if ∃ p, covers p ∧ m.screen.lit p = false then 1 else 0) ∧
    m₂ =
      { m with
        registers := m₂.registers
        pc := m.pc + 4
        delay := m₂.delay
        sound := m₂.sound
        cycles := m.cycles + 2
        lastWord := m₂.lastWord } ∧
    ∀ z, z ≠ Registers.VF → m₂.value z = m.value z := by
  have hrows : (m.sprite n.val).length ≤ 32 := by
    have := n.isLt
    rw [length_sprite]
    omega
  rcases after_draw hfirst with ⟨⟨r₁, d₁, s₁, l₁, h₁⟩, hvalue₁⟩
  rcases after_draw hsecond with ⟨⟨r₂, d₂, s₂, l₂, h₂⟩, hvalue₂⟩
  -- The second drawing is the first one, on the screen that the first has left.
  have hcol : (m.after .cycle).value x = m.value x := (hvalue₁ x).trans (if_neg hx.symm)
  have hrow : (m.after .cycle).value y = m.value y := (hvalue₁ y).trans (if_neg hy.symm)
  have hsprite : (m.after .cycle).sprite n.val = m.sprite n.val := by
    rw [h₁]
    rfl
  have hscreen : (m.after .cycle).screen =
      (m.screen.draw (m.value x) (m.value y) (m.sprite n.val)).1 := congrArg screen h₁
  rw [hcol, hrow, hsprite, hscreen] at h₂ hvalue₂
  rw [Screen.draw_draw] at h₂
  have hframe : (m.after .cycle).after .cycle =
      { m with
        registers := r₂
        pc := m.pc + 4
        delay := d₂
        sound := s₂
        cycles := m.cycles + 2
        lastWord := l₂ } := by
    rw [h₂, h₁]
    simp only [Int.add_assoc]
    rfl
  have hback : ((m.after .cycle).after .cycle).screen = m.screen := by
    rw [hframe]
  intro m₁ m₂ covers
  refine ⟨hback, ?_, ?_, ?_, fun z hz => ?_⟩
  · refine (hvalue₁ _).trans ((if_pos rfl).trans ?_)
    exact if_congr (Screen.hit_draw_iff _ _ _ hrows) rfl rfl
  · refine (hvalue₂ _).trans ((if_pos rfl).trans ?_)
    refine if_congr ((Screen.hit_draw_iff _ _ _ hrows).trans ?_) rfl rfl
    -- A pixel that the sprite covers has changed.
    refine exists_congr fun p => and_congr_right fun hp => ?_
    rw [Screen.lit_draw _ _ _ hrows, if_pos hp, Bool.not_eq_true']
  · rw [show m₂ = _ from hframe]
  · have hthen : m₂.value z = m₁.value z := (hvalue₂ z).trans (if_neg hz.symm)
    exact hthen.trans ((hvalue₁ z).trans (if_neg hz.symm))

/-- A program that draws a row, moves on by two columns, and draws the row twice: the first of
    these covers a pixel that is lit and others that are dark, so that the flag is set both
    times. -/
theorem booted_redraw_restores :
    ∃ m : Machine Replay, Reachable m ∧
      Moment.executed ⟨m, .cycle⟩ = some (.draw 0 1 1) ∧
      Moment.executed ⟨m.after .cycle, .cycle⟩ = some (.draw 0 1 1) ∧
      m.screen.lit (0, 0) = true ∧ ((m.after .cycle).after .cycle).screen = m.screen ∧
      (m.after .cycle).value Registers.VF = 1 ∧
      ((m.after .cycle).after .cycle).value Registers.VF = 1 := by
  have hreach := (reachable_booted (⟨[7], 0⟩ : Replay) true
    [0xA2, 0x00, 0xD0, 0x11, 0x60, 0x02, 0xD0, 0x11, 0xD0, 0x11]).afterAll [.cycle, .cycle, .cycle]
  have hrun :
      let m := (booted (⟨[7], 0⟩ : Replay) true
        [0xA2, 0x00, 0xD0, 0x11, 0x60, 0x02, 0xD0, 0x11, 0xD0, 0x11]).afterAll
          [.cycle, .cycle, .cycle]
      Moment.executed ⟨m, .cycle⟩ = some (.draw 0 1 1) ∧
        Moment.executed ⟨m.after .cycle, .cycle⟩ = some (.draw 0 1 1) ∧
        m.value 0 = 2 ∧ m.value 1 = 0 ∧ m.sprite 1 = [0xA2] ∧
        m.screen.lit (0, 0) = true ∧ m.screen.lit (0, 2) = true ∧
        m.screen.lit (0, 4) = false := by
    decide +kernel
  generalize (booted (⟨[7], 0⟩ : Replay) true
    [0xA2, 0x00, 0xD0, 0x11, 0x60, 0x02, 0xD0, 0x11, 0xD0, 0x11]).afterAll
      [.cycle, .cycle, .cycle] = m at hreach hrun
  rcases hrun with ⟨hfirst, hsecond, hcol, hrow, hsprite, hleft, hlit, hdark⟩
  rcases redraw_restores (by decide) (by decide) hfirst hsecond with ⟨hback, hflag, hflag', -, -⟩
  refine ⟨m, hreach, hfirst, hsecond, hleft, hback, ?_, ?_⟩
  · refine hflag.trans (if_pos ⟨(0, 2), ?_, hlit⟩)
    change Screen.Covers (m.value 0) (m.value 1) (m.sprite 1) (0, 2)
    rw [hcol, hrow, hsprite]
    decide +kernel
  · refine hflag'.trans (if_pos ⟨(0, 4), ?_, hdark⟩)
    change Screen.Covers (m.value 0) (m.value 1) (m.sprite 1) (0, 4)
    rw [hcol, hrow, hsprite]
    decide +kernel

end Machine

end Chip8
