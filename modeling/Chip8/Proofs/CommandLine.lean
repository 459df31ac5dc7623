import Chip8.CommandLine
import Chip8.Proofs.Action
import Chip8.Proofs.Numeral

/-!
# Command Lines

What can be said of the options that a command line comes to.

Options are collected word by word, and each word either stops the reading or
leaves a reading behind. Amounts enter it in one place, from a numeral in base
ten, so all of them are short enough to be written.

## Main definitions

* `CommandLine.Reading.Writable`, `CommandLine.Options.Writable`: All amounts
  can be written.

## Theorems

* `CommandLine.isWritable_of_amount`: The amount of a value can be written.
* `CommandLine.Reading.writable_words`: Reading words keeps all amounts writable.
* `CommandLine.writable_of_parse`: The amounts of a command line are.
-/

namespace Chip8

namespace CommandLine

/-- The amounts read so far can be written. -/
def Reading.Writable (r : Reading) : Prop :=
  ∀ n, some (.number n) ∈ [r.scale, r.cps, r.seed] → Integer.isWritable n = true

/-- The amounts of the options can be written. -/
def Options.Writable (o : Options) : Prop :=
  ∀ n, some (.number n) ∈ [o.scale, o.cps, o.seed] → Integer.isWritable n = true

/-- A number that was read in base ten is short enough to be written so. -/
theorem isWritable_of_amount {s : Switch} {value : String} {n : Int}
    (h : amount s value = .ok (.number n)) : Integer.isWritable n = true := by
  unfold amount at h
  by_cases hblank : value = blankMark
  · rw [if_pos hblank] at h
    cases h
  · rw [if_neg hblank] at h
    cases hread : Integer.read 10 value.toList with
    | ok k =>
        rw [hread] at h
        cases h
        exact Integer.isWritable_of_read hread
    | error e =>
        rw [hread] at h
        cases h

namespace Reading

/-- Before the first word there are no numbers. -/
theorem writable_start : start.Writable := by
  intro n hn
  simp only [start, List.mem_cons, List.not_mem_nil, or_false, reduceCtorEq] at hn

theorem writable_flag {r r' : Reading} {s : Switch} (hr : r.Writable) (h : r.flag s = .ok r') :
    r'.Writable := by
  cases s with
  | help => cases h
  | verbose =>
      cases h
      exact hr
  | _ =>
      cases h
      exact hr

theorem writable_flags {r r' : Reading} {switches : List Switch} (hr : r.Writable)
    (h : switches.foldlM flag r = .ok r') : r'.Writable := by
  induction switches generalizing r with
  | nil =>
      cases h
      exact hr
  | cons s switches ih =>
      rcases (bind_eq_ok_iff _ _ _).mp h with ⟨r₁, hfirst, hrest⟩
      exact ih (writable_flag hr hfirst) hrest

/-- A switch with its value leaves an amount that can be written, or none. -/
theorem writable_option {r r' : Reading} {s : Switch} {value : String} (hr : r.Writable)
    (h : r.option s value = .ok r') : r'.Writable := by
  -- One of the three amounts is new, and the others are the ones that were read before.
  have hnew : ∀ (a : Amount) (n : Int), amount s value = .ok a →
      some (.number n) ∈ [some a, r.scale, r.cps, r.seed] → Integer.isWritable n = true := by
    intro a n ha hn
    rcases List.mem_cons.mp hn with heq | hmem
    · cases heq
      exact isWritable_of_amount ha
    · exact hr n hmem
  cases s with
  | scale =>
      rcases (bind_eq_ok_iff _ _ _).mp h with ⟨a, ha, hr'⟩
      cases hr'
      intro n hn
      exact hnew a n ha (by grind)
  | cps =>
      rcases (bind_eq_ok_iff _ _ _).mp h with ⟨a, ha, hr'⟩
      cases hr'
      intro n hn
      exact hnew a n ha (by grind)
  | seed =>
      rcases (bind_eq_ok_iff _ _ _).mp h with ⟨a, ha, hr'⟩
      cases hr'
      intro n hn
      exact hnew a n ha (by grind)
  | _ =>
      cases h
      exact hr

/-- The value of an option adds at most a number that was read. -/
theorem writable_assign {r r' : Reading} {s : Switch} {isShort : Bool} {value : String}
    (hr : r.Writable) (h : r.assign s isShort value = .ok r') : r'.Writable := by
  unfold assign at h
  by_cases hvalue : s.takesValue = true
  · rw [if_pos hvalue] at h
    exact writable_option hr h
  · rw [if_neg hvalue] at h
    by_cases hcluster : (isShort && !value.isEmpty) = true
    · rw [if_pos hcluster] at h
      rcases (bind_eq_ok_iff _ _ _).mp h with ⟨switches, -, hflags⟩
      exact writable_flags hr hflags
    · rw [if_neg hcluster] at h
      cases h

/-- No word spoils the numbers that are there, so that this goes through any row of words. -/
theorem writable_words {r r' : Reading} {ws : List Word} (hr : r.Writable)
    (h : r.words ws = .ok r') : r'.Writable := by
  -- By the reader's own cases: only switches touch an amount.
  fun_induction words r ws with
  | case1 r =>
      cases h
      exact hr
  | case10 r s isShort value rest ih =>
      rcases (bind_eq_ok_iff _ _ _).mp h with ⟨r₁, hfirst, hrest⟩
      exact ih r₁ (writable_assign hr hfirst) hrest
  | case11 r s isShort value rest hvalue ih =>
      rcases (bind_eq_ok_iff _ _ _).mp h with ⟨r₁, hfirst, hrest⟩
      exact ih r₁ (writable_option hr hfirst) hrest
  | case12 => cases h
  | case13 r s isShort rest hvalue ih =>
      rcases (bind_eq_ok_iff _ _ _).mp h with ⟨r₁, hfirst, hrest⟩
      exact ih r₁ (writable_flag hr hfirst) hrest
  | _ =>
      rename_i ih
      exact ih hr h

end Reading

/-- All numbers of options that are read from a command line can be written. This is why
    a refusal that quotes one always has its wording. -/
theorem writable_of_parse {arguments : List String} {o : Options}
    (h : parse arguments = .ok o) : o.Writable := by
  rcases (bind_eq_ok_iff _ _ _).mp h with ⟨words, -, hwords⟩
  rcases (bind_eq_ok_iff _ _ _).mp hwords with ⟨r, hr, hrom⟩
  have hwritable := Reading.writable_words Reading.writable_start hr
  cases hr' : r.rom with
  | none =>
      rw [hr'] at hrom
      cases hrom
  | some rom =>
      rw [hr'] at hrom
      by_cases hextras : r.extras.isEmpty = true
      · simp only [hextras] at hrom
        cases hrom
        exact hwritable
      · simp only [hextras] at hrom
        cases hrom

end CommandLine

end Chip8
