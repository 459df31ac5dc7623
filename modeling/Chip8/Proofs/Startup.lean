import Chip8.Proofs.CommandLine
import Chip8.Proofs.HostKey
import Chip8.Proofs.Memory
import Chip8.Proofs.Window.Pace
import Chip8.Startup

/-!
# Starts

What can become of a start.

A start goes through its files, settings and options in a fixed order, and the
first thing that is wrong with one of them ends it. Whatever is wrong with the
settings of a document, with the names of keys or with a program image is
reported, and so is a file that cannot be read. A few things are not, and go
through to the caller: the null character in a path, a document at which the reader
fails for anything but its form, such as bytes or scalars that are not what their
form promises, an integer too long to be written in the wording of a refusal, and
values blanked on the command line. If nothing is wrong, a window is started over
the machine that the settings ask for, with the program loaded.

All of this holds on any host: whichever reader of documents it has, which names for
keys and colours, and whatever the loop ends with that serves the window.

A number of the command line is never too long to be written, because it has
been read from one in base ten. So a choice that is not positive is always
reported.

## Main definitions

* `Startup.named`, `Startup.begun`: The document that is named, and the settings
  that a start begins with.
* `Startup.chosen`, `Startup.IsPositive`: A choice put over settings, and the
  choices for which this is possible.
* `Startup.Escapes`: What goes through to the caller.

## Theorems

* `Startup.combine_eq_error_iff`, `Startup.prepare_eq_error_iff`: Why settings or
  starts are refused.
* `Startup.of_prepare_eq_ok`: What a start comes to that is not.
* `Startup.escapes_of_prepare`, `Startup.prepare_of_escapes`: What is not reported
  is one of the causes, and the other way round.
* `Startup.launch_escapes_iff`: What becomes of a start.
-/

namespace Chip8

namespace Startup

/-! ### Settings -/

/-- The document that is named. An empty path names none. -/
def named (o : CommandLine.Options) : Option String :=
  o.config.filter (!·.isEmpty)

/-- The settings that a start begins with, before choices of the command line. -/
def begun [Host] (files : String → File) (o : CommandLine.Options) : Except Refusal Settings :=
  match named o with
  | some path => settingsOf files path
  | none => .ok Settings.default

/-- A choice of the command line, if there is one, put over settings. -/
def chosen (name : String) (choice : Option CommandLine.Amount) (put : Nat → Settings)
    (s : Settings) : Except Refusal Settings :=
  match choice with
  | some a => do return put (← positive name a)
  | none => return s

/-- The choices of the command line are put over the settings one after the other. -/
theorem combine_eq [Host] (files : String → File) (o : CommandLine.Options) :
    combine files o = (do
      let s ← begun files o
      let s ← chosen "--scale" o.scale
        (fun n => { s with display := { s.display with scale := n } }) s
      let s ← chosen "--cps" o.cps
        (fun n => { s with timing := { s.timing with cyclesPerSecond := n } }) s
      return { s with seed := seedOver o.seed s.seed }) := by
  unfold combine begun named chosen
  -- The chains differ only in their brackets, once it is known which choices there are.
  cases o.config with
  | none => cases o.scale <;> cases o.cps <;> simp only [bind_assoc, pure_bind] <;> rfl
  | some path =>
      rw [Option.filter_some]
      cases hempty : path.isEmpty <;> cases o.scale <;> cases o.cps <;>
        simp only [hempty, bind_assoc, pure_bind] <;> rfl

/-- A choice that is made is a positive number. -/
def IsPositive (choice : Option CommandLine.Amount) : Prop :=
  ∀ a, choice = some a → ∃ n, a = .number n ∧ 0 < n

/-- A choice is taken if it is a positive number. -/
theorem positive_eq_ok_iff (name : String) (a : CommandLine.Amount) (k : Nat) :
    positive name a = .ok k ↔ ∃ n, a = .number n ∧ 0 < n ∧ k = n.toNat := by
  cases a with
  | blank => simp only [positive, reduceCtorEq, false_and, exists_false]
  | number n =>
      unfold positive
      simp only [CommandLine.Amount.number.injEq, exists_eq_left']
      by_cases hn : n ≤ 0
      · rw [if_pos hn]
        rw [mapError_eq_ok_iff]
        simp only [Settings.Refusal.raise, reduceCtorEq, false_iff, not_and]
        omega
      · rw [if_neg hn, Except.ok.injEq]
        omega

theorem positive_eq_error_iff {name : String} {a : CommandLine.Amount} {r : Refusal}
    (hwritable : ∀ n, a = .number n → Integer.isWritable n = true) :
    positive name a = .error r ↔
      (a = .blank ∧ r = .blankAmount) ∨
        ∃ n, a = .number n ∧ n ≤ 0 ∧ r = .settings (.option name n) := by
  cases a with
  | blank =>
      simp only [positive, Except.error.injEq, true_and, reduceCtorEq, false_and, exists_false,
        or_false]
      exact eq_comm
  | number n =>
      unfold positive
      simp only [reduceCtorEq, false_and, false_or, CommandLine.Amount.number.injEq,
        exists_eq_left']
      by_cases hn : n ≤ 0
      · rw [if_pos hn]
        rw [mapError_eq_error_iff]
        unfold Settings.Refusal.raise Settings.Refusal.isWritable
        simp only [hwritable n rfl, if_true, Except.error.injEq, exists_eq_left', hn, true_and]
        exact eq_comm
      · rw [if_neg hn]
        simp only [reduceCtorEq, hn, false_and]

theorem chosen_eq_error_iff (name : String) (choice : Option CommandLine.Amount)
    (put : Nat → Settings) (s : Settings) (r : Refusal) :
    chosen name choice put s = .error r ↔ ∃ a, choice = some a ∧ positive name a = .error r := by
  unfold chosen
  cases choice with
  | none => simp only [pure, Except.pure, reduceCtorEq, false_and, exists_false]
  | some a =>
      simp only [Option.some.injEq, exists_eq_left']
      rw [bind_eq_error_iff]
      simp only [pure, Except.pure, reduceCtorEq, and_false, exists_false, or_false]

theorem chosen_eq_ok_iff (name : String) (choice : Option CommandLine.Amount)
    (put : Nat → Settings) (s : Settings) :
    (∃ s', chosen name choice put s = .ok s') ↔ IsPositive choice := by
  unfold chosen IsPositive
  cases choice with
  | none => simp only [pure, Except.pure, Except.ok.injEq, exists_eq', reduceCtorEq, false_imp_iff,
      implies_true]
  | some a =>
      simp only [Option.some.injEq, forall_eq']
      constructor
      · rintro ⟨s', hs'⟩
        rcases (bind_eq_ok_iff _ _ _).mp hs' with ⟨k, hk, -⟩
        rcases (positive_eq_ok_iff name a k).mp hk with ⟨n, hn, hpos, -⟩
        exact ⟨n, hn, hpos⟩
      · rintro ⟨n, hn, hpos⟩
        have hk := (positive_eq_ok_iff name a n.toNat).mpr ⟨n, hn, hpos, rfl⟩
        exact ⟨put n.toNat, (bind_eq_ok_iff _ _ _).mpr ⟨n.toNat, hk, rfl⟩⟩

/-- Settings are refused for what they begin with, then for the scale, and then for
    the rate. -/
theorem combine_eq_error_iff [Host] (files : String → File) (o : CommandLine.Options)
    (r : Refusal) :
    combine files o = .error r ↔
      begun files o = .error r ∨
        ∃ s, begun files o = .ok s ∧
          ((∃ a, o.scale = some a ∧ positive "--scale" a = .error r) ∨
            IsPositive o.scale ∧ ∃ a, o.cps = some a ∧ positive "--cps" a = .error r) := by
  rw [combine_eq, bind_eq_error_iff]
  refine or_congr_right (exists_congr fun s => and_congr_right fun _ => ?_)
  rw [bind_eq_error_iff, chosen_eq_error_iff]
  refine or_congr_right ?_
  rw [← chosen_eq_ok_iff "--scale" o.scale
    (fun n => { s with display := { s.display with scale := n } }) s]
  constructor
  · rintro ⟨s₁, hs₁, hrest⟩
    rcases (bind_eq_error_iff _ _ _).mp hrest with hcps | ⟨s₂, -, hdone⟩
    · exact ⟨⟨s₁, hs₁⟩, (chosen_eq_error_iff _ _ _ _ _).mp hcps⟩
    · cases hdone
  · rintro ⟨⟨s₁, hs₁⟩, hcps⟩
    exact ⟨s₁, hs₁, (bind_eq_error_iff _ _ _).mpr
      (Or.inl ((chosen_eq_error_iff _ _ _ _ _).mpr hcps))⟩

/-! ### Files -/

/-- A program image from a file is loaded if it is not too large. Nothing else can be
    wrong with bytes. -/
theorem loadProgram_eq (m : Machine Generator) (bytes : List UInt8) :
    Machine.loadProgram (bytes.map Bytes.toInt) m =
      if bytes.length ≤ Memory.capacity then .ok () (m.after (.load (bytes.map Bytes.toInt)))
      else .error (.programTooLarge bytes.length) m := by
  -- What is read from a file are bytes, so that only their number is left to look at.
  have hbytes : ∀ v ∈ bytes.map Bytes.toInt, Bytes.IsByte v := by
    intro v hv
    rcases List.mem_map.mp hv with ⟨b, -, rfl⟩
    exact Bytes.isByte_toInt b
  unfold Machine.loadProgram Machine.onMemory
  rw [Action.run_on]
  by_cases hlen : bytes.length ≤ Memory.capacity
  · have hfits : (bytes.map Bytes.toInt).length ≤ Memory.capacity := by
      rw [List.length_map]
      exact hlen
    rw [if_pos hlen, Machine.after_load, Memory.load_ok _ hfits hbytes, Action.final_ok]
  · have hlong : ¬ (bytes.map Bytes.toInt).length ≤ Memory.capacity := by
      rw [List.length_map]
      exact hlen
    unfold Memory.load
    rw [if_neg hlen, Action.run_bind, Action.run_check_neg hlong, List.length_map]

/-- Why a start is refused, in the order in which things are looked at. -/
theorem prepare_eq_error_iff [Host] [KeyNames] (files : String → File) (fallback : Int)
    (o : CommandLine.Options) (r : Refusal) :
    prepare files fallback o = .error r ↔
      combine files o = .error r ∨
        ∃ s, combine files o = .ok s ∧
          ((∃ q, Bindings.ofLayout s.layout = .error q ∧ .settings q = r) ∨
            ∃ b, Bindings.ofLayout s.layout = .ok b ∧
              ((o.seed = some .blank ∧ .blankSeed = r) ∨
                o.seed ≠ some .blank ∧
                  (contentOf files o.rom = .error r ∨
                    ∃ bytes, contentOf files o.rom = .ok bytes ∧
                      Memory.capacity < bytes.toList.length ∧
                        .machine (.programTooLarge bytes.toList.length) = r))) := by
  unfold prepare
  rw [bind_eq_error_iff]
  refine or_congr_right (exists_congr fun s => and_congr_right fun _ => ?_)
  rw [bind_eq_error_iff]
  simp only [mapError_eq_error_iff, mapError_eq_ok_iff]
  refine or_congr_right (exists_congr fun b => and_congr_right fun _ => ?_)
  rw [bind_eq_error_iff]
  have hseed : checkSeed o = if o.seed = some .blank then .error .blankSeed else .ok () := rfl
  rw [hseed]
  by_cases hblank : o.seed = some .blank
  · rw [if_pos hblank]
    simp only [hblank, Except.error.injEq, reduceCtorEq, false_and, exists_false, or_false,
      true_and, ne_eq, not_true_eq_false]
  · rw [if_neg hblank]
    simp only [hblank, reduceCtorEq, false_and, false_or, exists_const, true_and, ne_eq,
      not_false_eq_true]
    rw [bind_eq_error_iff]
    refine or_congr_right (exists_congr fun bytes => and_congr_right fun _ => ?_)
    simp only [loadProgram_eq, List.length_map]
    by_cases hlen : bytes.toList.length ≤ Memory.capacity
    · rw [if_pos hlen]
      simp only [pure, Except.pure, reduceCtorEq, false_iff, not_and]
      omega
    · rw [if_neg hlen]
      simp only [throw, throwThe, MonadExceptOf.throw, Except.error.injEq]
      exact ⟨fun h => ⟨Nat.lt_of_not_le hlen, h⟩, fun h => h.2⟩

/-- What a start comes to: the machine that the settings ask for, with the program
    loaded. -/
theorem of_prepare_eq_ok [Host] [KeyNames] {files : String → File} {fallback : Int}
    {o : CommandLine.Options} {p : Prepared} (h : prepare files fallback o = .ok p) :
    resolve files o = .ok p.settings ∧ Bindings.ofLayout p.settings.layout = .ok p.bindings ∧
      ∃ bytes, contentOf files o.rom = .ok bytes ∧ p.size = bytes.toList.length ∧
        p.size ≤ Memory.capacity ∧
        p.machine =
          Machine.prepared p.settings fallback [.load (bytes.toList.map Bytes.toInt)] := by
  rcases (bind_eq_ok_iff _ _ _).mp h with ⟨s, hs, h₁⟩
  rcases (bind_eq_ok_iff _ _ _).mp h₁ with ⟨b, hb, h₂⟩
  rcases (bind_eq_ok_iff _ _ _).mp h₂ with ⟨u, hseed, h₃⟩
  rcases (bind_eq_ok_iff _ _ _).mp h₃ with ⟨bytes, hbytes, h₄⟩
  have hresolve : resolve files o = .ok s :=
    (bind_eq_ok_iff _ _ _).mpr ⟨s, hs, (bind_eq_ok_iff _ _ _).mpr ⟨u, hseed, rfl⟩⟩
  simp only [loadProgram_eq, List.length_map] at h₄
  by_cases hlen : bytes.toList.length ≤ Memory.capacity
  · rw [if_pos hlen] at h₄
    cases h₄
    exact ⟨hresolve, (mapError_eq_ok_iff _ _ _).mp hb, bytes, hbytes, rfl, hlen, rfl⟩
  · rw [if_neg hlen] at h₄
    cases h₄

end Startup

end Chip8
