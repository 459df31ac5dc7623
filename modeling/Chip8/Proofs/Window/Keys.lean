import Chip8.Proofs.HostKey
import Chip8.Proofs.Keypad
import Chip8.Proofs.Window.Trace

/-!
# Keys of Windows

Which logical keys are held, by what has happened to the window.

A key goes down when a code that stands for it does, and up when such a code
does or when the window ceases to be active. Repetitions, other changes and
closing do nothing to keys, and neither does a frame, whatever its cycles do.
So each event says of a key that it is held, or that it is free, or nothing, and
the last that says anything decides.

Where a code is given to two logical keys it stands for the later one only, and
the other is never held.

## Main definitions

* `Bindings.presses`, `Bindings.frees`: What an event says of a key.
* `Bindings.lastPressed`: The last event that says anything presses the key.

## Theorems

* `Machine.keypad_cycle`, `Machine.keypad_run`: Cycles leave the keys alone.
* `Window.keyReaction_eq`: The reaction to a key of the host.
* `Window.fault_of_handle`: What goes through from an event is what a cycle has
  failed with.
* `Window.isHeld_after`, `Window.isHeld_afterAll`: What events make of a key.
* `Window.keys_follow_events`: Keys over any history.
-/

namespace Chip8

namespace Bindings

/-- Whether an event presses a logical key: a code goes down that stands for it. -/
def presses (b : Bindings) (k : Fin 16) : Window.Event → Prop
  | .press code repeated => repeated = false ∧ b.translate code = some (k.val : Int)
  | _ => False

/-- Whether an event frees a logical key: a code goes up that stands for it, or the
    window ceases to be active. -/
def frees (b : Bindings) (k : Fin 16) : Window.Event → Prop
  | .release code repeated => repeated = false ∧ b.translate code = some (k.val : Int)
  | .activation isActive => isActive = false
  | _ => False

/-- Whether one of the events presses a logical key and none after it frees it. -/
def lastPressed (b : Bindings) (k : Fin 16) (events : List Window.Event) : Prop :=
  ∃ before e later, events = before ++ e :: later ∧ b.presses k e ∧ ∀ e' ∈ later, ¬ b.frees k e'

theorem not_lastPressed_nil (b : Bindings) (k : Fin 16) : ¬ b.lastPressed k [] := by
  rintro ⟨before, e, later, hsplit, -⟩
  exact List.append_ne_nil_of_right_ne_nil before (List.cons_ne_nil e later) hsplit.symm

/-- The press is the first of the events, or it is one of the others. -/
theorem lastPressed_cons (b : Bindings) (k : Fin 16) (e : Window.Event)
    (events : List Window.Event) :
    b.lastPressed k (e :: events) ↔
      (b.presses k e ∧ ∀ e' ∈ events, ¬ b.frees k e') ∨ b.lastPressed k events := by
  constructor
  · rintro ⟨before, p, later, hsplit, hpress, hlater⟩
    cases before with
    | nil =>
        cases hsplit
        exact Or.inl ⟨hpress, hlater⟩
    | cons e' before =>
        cases hsplit
        exact Or.inr ⟨before, p, later, rfl, hpress, hlater⟩
  · rintro (⟨hpress, hlater⟩ | ⟨before, p, later, rfl, hpress, hlater⟩)
    · exact ⟨[], e, events, rfl, hpress, hlater⟩
    · exact ⟨e :: before, p, later, rfl, hpress, hlater⟩

end Bindings

namespace Machine

variable {ρ : Type} [Source ρ]

theorem keypad_cycle (m : Machine ρ) : (Action.final m.cycle).keypad = m.keypad := by
  rw [cycle_eq]
  by_cases hcan : m.CanFetch
  · rw [if_pos hcan]
    cases obstacle m.instruction m.passed with
    | none =>
        simp only [Action.final_ok]
        rw [complete_eq]
        exact (kept_applied m.instruction m.passed).keypad
    | some f => exact (kept_abandoned m.instruction m.passed).keypad
  · rw [if_neg hcan]
    rfl

theorem keypad_run (m : Machine ρ) (n : Nat) : (m.run n).machine.keypad = m.keypad :=
  run_invariant (P := fun m' => m'.keypad = m.keypad)
    (fun m' h => m'.keypad_cycle.trans h) rfl n

end Machine

namespace Window

variable {ρ : Type}

/-! ### Reactions -/

/-- A key of the host changes no more than the logical key that it stands for, and
    is passed on if it is repeated or stands for none. -/
theorem keyReaction_eq {w : Window ρ} (hkeys : w.bindings.Logical) (code : Int)
    (pressed repeated : Bool) :
    ∃ keys : Keypad,
      w.keyReaction code pressed repeated =
          ⟨{ w with machine := { w.machine with keypad := keys } }, [], none,
            repeated || (w.bindings.translate code).isNone⟩ ∧
        ∀ k : Fin 16, keys.isHeld k =
          if repeated = false ∧ w.bindings.translate code = some (k.val : Int) then pressed
          else w.machine.keypad.isHeld k := by
  cases repeated with
  | true =>
      refine ⟨w.machine.keypad, rfl, fun k => ?_⟩
      rw [if_neg (fun h => Bool.noConfusion h.1)]
  | false =>
      unfold keyReaction keyEvent key
      simp only [Bool.false_eq_true, if_false, true_and, Bool.false_or]
      rw [Action.run_bind, Action.run_bind, Action.run_get]
      simp only []
      cases hfound : w.bindings.translate code with
      | none =>
          refine ⟨w.machine.keypad, rfl, fun k => ?_⟩
          rw [if_neg (Option.some_ne_none _).symm]
      | some key =>
          rcases hkeys code key hfound with ⟨i, rfl⟩
          refine ⟨w.machine.keypad.put i pressed, ?_, fun k => ?_⟩
          · simp only []
            rw [Action.run_bind, Action.run_on]
            unfold Machine.onKeypad
            rw [Action.run_on, Keypad.set_eq]
            rfl
          · rw [Keypad.isHeld_put]
            simp only [Option.some.injEq, Int.natCast_inj, Fin.val_inj]

theorem isHeld_keyReaction {w : Window ρ} (hkeys : w.bindings.Logical) (code : Int)
    (pressed repeated : Bool) (k : Fin 16) :
    (w.keyReaction code pressed repeated).window.machine.keypad.isHeld k =
      if repeated = false ∧ w.bindings.translate code = some (k.val : Int) then pressed
      else w.machine.keypad.isHeld k := by
  rcases keyReaction_eq hkeys code pressed repeated with ⟨keys, hreaction, hheld⟩
  rw [hreaction]
  exact hheld k

variable [Source ρ]

/-- A key of the host is never refused, because it stands for a key that there is. So all
    that can go through from an event is what a cycle has failed with. -/
theorem fault_of_handle {w : Window ρ} (hkeys : w.bindings.Logical) {e : Event} {f : Fault}
    (h : (w.handle e).fault = some f) : w.loop.fault = some f := by
  cases e with
  | timeout =>
      unfold handle timeout at h
      cases hactive : w.active with
      | false =>
          simp only [hactive, Bool.false_eq_true, if_false] at h
          cases h
      | true =>
          simp only [hactive, if_true] at h
          rw [frame_eq] at h
          cases hloop : w.loop.fault with
          | none =>
              rw [hloop] at h
              cases h
          | some g =>
              rw [hloop] at h
              simp only [] at h
              by_cases hhalts : g.halts = true
              · rw [if_pos hhalts] at h
                cases h
              · rw [if_neg hhalts] at h
                exact h
  | press code repeated =>
      rcases keyReaction_eq hkeys code true repeated with ⟨keys, hreaction, -⟩
      change (w.keyReaction code true repeated).fault = some f at h
      rw [hreaction] at h
      cases h
  | release code repeated =>
      rcases keyReaction_eq hkeys code false repeated with ⟨keys, hreaction, -⟩
      change (w.keyReaction code false repeated).fault = some f at h
      rw [hreaction] at h
      cases h
  | _ => cases h

/-! ### Histories -/

/-- The keys of the machine that a frame leaves are those that it has found. -/
theorem keypad_timeout (w : Window ρ) : (w.after .timeout).machine.keypad = w.machine.keypad := by
  have hloop : w.looped.machine.keypad = w.machine.keypad := w.machine.keypad_run _
  have houtcome := w.outcome_after .timeout
  generalize w.after .timeout = w' at houtcome
  cases houtcome with
  | keys keys htimeout hclose => exact absurd rfl htimeout
  | idle hactive => rfl
  | completed hactive hfault =>
      rw [← hloop]
      unfold completeFrame
      simp only []
      by_cases hmode : w.looped.timing.mode = .perFrame
      · rw [if_pos hmode]
        rfl
      · rw [if_neg hmode]
        rfl
  | halted hactive hfault hhalts => exact hloop
  | brokenOff hactive hfault hhalts => exact hloop

/-- A key is held after an event if the event presses it, or if it was held before
    and the event does not free it. -/
theorem isHeld_after {w : Window ρ} (hkeys : w.bindings.Logical) (e : Event) (k : Fin 16) :
    (w.after e).machine.keypad.isHeld k = true ↔
      w.bindings.presses k e ∨ (w.machine.keypad.isHeld k = true ∧ ¬ w.bindings.frees k e) := by
  cases e with
  | timeout =>
      rw [keypad_timeout]
      simp only [Bindings.presses, Bindings.frees, false_or, not_false_eq_true, and_true]
  | press code repeated =>
      change (w.keyReaction code true repeated).window.machine.keypad.isHeld k = true ↔ _
      rw [isHeld_keyReaction hkeys]
      by_cases hmeans : repeated = false ∧ w.bindings.translate code = some (k.val : Int)
      · rw [if_pos hmeans]
        simp only [Bindings.presses, hmeans, and_self, true_or]
      · rw [if_neg hmeans]
        simp only [Bindings.presses, Bindings.frees, hmeans, false_or, not_false_eq_true, and_true]
  | release code repeated =>
      change (w.keyReaction code false repeated).window.machine.keypad.isHeld k = true ↔ _
      rw [isHeld_keyReaction hkeys]
      by_cases hmeans : repeated = false ∧ w.bindings.translate code = some (k.val : Int)
      · rw [if_pos hmeans]
        simp only [Bindings.presses, Bindings.frees, hmeans, and_self, Bool.false_eq_true,
          not_true_eq_false, and_false, or_self]
      · rw [if_neg hmeans]
        simp only [Bindings.presses, Bindings.frees, hmeans, false_or, not_false_eq_true, and_true]
  | activation isActive =>
      cases isActive with
      | true =>
          simp only [Bindings.presses, Bindings.frees, Bool.true_eq_false, not_false_eq_true,
            false_or, and_true]
          rfl
      | false =>
          simp only [Bindings.presses, Bindings.frees, not_true_eq_false, and_false, or_self,
            iff_false]
          exact Bool.eq_false_iff.mp (Keypad.isHeld_released k)
  | otherChange isActive =>
      simp only [Bindings.presses, Bindings.frees, false_or, not_false_eq_true, and_true]
      rfl
  | close =>
      simp only [Bindings.presses, Bindings.frees, false_or, not_false_eq_true, and_true]
      rfl

/-- A key is held if the last that was said of it is that it is pressed, or if it
    was held at first and has not been freed. -/
theorem isHeld_afterAll {w : Window ρ} (hkeys : w.bindings.Logical) (events : List Event)
    (k : Fin 16) :
    (w.afterAll events).machine.keypad.isHeld k = true ↔
      w.bindings.lastPressed k events ∨
        (w.machine.keypad.isHeld k = true ∧ ∀ e ∈ events, ¬ w.bindings.frees k e) := by
  induction events generalizing w with
  | nil =>
      have hnone := w.bindings.not_lastPressed_nil k
      simp only [hnone, false_or, List.not_mem_nil, false_imp_iff, implies_true, and_true]
      rfl
  | cons e events ih =>
      have hsame := w.bindings_after e
      rw [afterAll_cons, ih (by rw [hsame]; exact hkeys), hsame, isHeld_after hkeys,
        Bindings.lastPressed_cons, List.forall_mem_cons]
      tauto

theorem bindings_afterAll (w : Window ρ) (events : List Event) :
    (w.afterAll events).bindings = w.bindings :=
  afterAll_invariant (P := fun v => v.bindings = w.bindings)
    (fun v e hv => (v.bindings_after e).trans hv) rfl events

/-- Whatever happens to a window whose keys have names of a layout, by any names that
    the host has for keys, and over a machine none of whose keys is held at first: a
    logical key is held if and only if a code that stands for it has gone down, without
    a repetition, and neither has such a code gone up since nor has the window ceased to
    be active. No key that there is not is ever asked for, by events or by cycles.
    Frames and cycles change no key. A key of the host is passed on if and only if it is
    a repetition or stands for no logical key. -/
theorem keys_follow_events [KeyNames] {l : Layout} {w : Window ρ}
    (hkeys : Bindings.ofLayout l = .ok w.bindings) (hfree : w.machine.keypad = .released)
    (events : List Event) :
    let v := w.afterAll events
    (∀ k : Fin 16, v.machine.keypad.isHeld k = true ↔ w.bindings.lastPressed k events) ∧
      (∀ e key, (v.handle e).fault ≠ some (.keyIndex key)) ∧
      (∀ n key, (v.machine.run n).fault ≠ some (.keyIndex key)) ∧
      (v.after .timeout).machine.keypad = v.machine.keypad ∧
      (∀ n, (v.machine.run n).machine.keypad = v.machine.keypad) ∧
      ∀ code repeated,
        ((v.handle (.press code repeated)).passedOn = true ↔
            repeated = true ∨ w.bindings.translate code = none) ∧
          ((v.handle (.release code repeated)).passedOn = true ↔
            repeated = true ∨ w.bindings.translate code = none) := by
  intro v
  have hfirst : w.bindings.Logical := Bindings.logical_of_ofLayout hkeys
  have hsame : v.bindings = w.bindings := bindings_afterAll w events
  have hnow : v.bindings.Logical := by
    rw [hsame]
    exact hfirst
  have hpassed : ∀ code pressed repeated, (v.keyReaction code pressed repeated).passedOn = true ↔
      repeated = true ∨ w.bindings.translate code = none := by
    intro code pressed repeated
    rcases keyReaction_eq hnow code pressed repeated with ⟨keys, hreaction, -⟩
    rw [hreaction, hsame, Bool.or_eq_true, Option.isNone_iff_eq_none]
  refine ⟨fun k => ?_, fun e key hfault => ?_, fun n key => v.machine.run_ne_keyIndex n key,
    v.keypad_timeout, v.machine.keypad_run, fun code repeated =>
    ⟨hpassed code true repeated, hpassed code false repeated⟩⟩
  · rw [isHeld_afterAll hfirst, hfree, Keypad.isHeld_released]
    simp only [Bool.false_eq_true, false_and, or_false]
  · exact v.machine.run_ne_keyIndex _ key (fault_of_handle hnow hfault)

/-- With the names of two logical keys for one code, the code holds the later one
    through repetitions and other changes, and never the other. -/
theorem shared_code_holds_later :
    let b : Bindings := ⟨[(1, 0x31), (2, 0x32), (3, 0x33), (12, 0x34), (4, 0x57), (5, 0x57),
      (6, 0x45), (13, 0x52), (7, 0x41), (8, 0x53), (9, 0x44), (14, 0x46), (10, 0x5A), (0, 0x58),
      (11, 0x43), (15, 0x56)]⟩
    let w := make (Machine.initial (⟨[7], 0⟩ : Replay) true) Settings.default b
    Bindings.ofLayout (Layout.default.rename 4 "w") = .ok b ∧ w.machine.keypad = .released ∧
      (w.afterAll [.press 0x57 false, .press 0x57 true, .otherChange false]).machine.keypad.isHeld
        5 = true ∧
      (w.afterAll [.press 0x57 false, .press 0x57 true, .otherChange false]).machine.keypad.isHeld
        4 ≠ true := by
  intro b w
  have hkeys : Bindings.ofLayout (Layout.default.rename 4 "w") = .ok b := by rfl
  have hheld := (keys_follow_events (w := w) hkeys rfl
    [.press 0x57 false, .press 0x57 true, .otherChange false]).1
  refine ⟨hkeys, rfl, (hheld 5).mpr ⟨[], _, _, rfl, ⟨rfl, by decide⟩, ?_⟩, fun hfour => ?_⟩
  · intro e he
    rcases List.mem_cons.mp he with rfl | he
    · exact not_false
    · cases List.mem_singleton.mp he
      exact not_false
  · have hlast := (hheld 4).mp hfour
    rw [Bindings.lastPressed_cons, Bindings.lastPressed_cons, Bindings.lastPressed_cons] at hlast
    rcases hlast with ⟨hpress, -⟩ | ⟨hpress, -⟩ | ⟨hpress, -⟩ | hnone
    · exact absurd hpress.2 (by decide)
    · cases hpress.1
    · exact hpress
    · exact Bindings.not_lastPressed_nil b 4 hnone

end Window

end Chip8
