import Chip8.Proofs.Action
import Chip8.Settings.Reader

/-!
# What Documents Ask For

The settings that a document is read as, choice by choice.

A document is read from its top down, and a choice is found in two steps: the
section, which may be missing or empty, and in it the choice, which may be missing
too. Either way the default is taken. What is found has to be fit: a number for a
scale, a rate or a key, the name of a mode, a value that can be shown for a colour
or a name.

The section on keys has an entry for each key that is changed. Entries take effect
one after the other, so that a key has the name that the last entry with its number
gives it.

Reading succeeds if every part does, and gives what the parts give. That is said
here as one relation between a document and settings, to which each section
contributes its own law.

## Main definitions

* `Value.content`, `Document.top`, `Document.under`: The entries of a value, of a
  document, and of a section.
* `Document.AllowsSection`: A section is missing or empty, or it is a mapping.
* `Settings.IsShown`: A text is what a value is shown as.
* `Settings.NamesKey`: An entry changes a logical key.
* `Settings.hostName`: The name that a key has after some entries.
* `Settings.ReadFrom`: Settings are what a document asks for.

## Theorems

* `Settings.integer_eq_ok_iff`, `Settings.shownText_eq_ok_iff`,
  `Settings.timerMode?_eq_some_iff`, `Settings.sectionOf_eq_ok_iff`: Single values
  and sections.
* `Settings.readDisplay_eq_ok_iff`, `Settings.readTiming_eq_ok_iff`,
  `Settings.readLayout_eq_ok_iff`, `Settings.readSeed_eq_ok_iff`: The parts.
* `Settings.read_eq_ok_iff`: What a document is read as.
* `Settings.ofFile_of_isEmpty`, `Settings.ofFile_of_not_isEmpty`: The document of a file,
  which may be empty.
* `Settings.readFrom_of_ofFile`: What it is read as.
-/

namespace Chip8

/-- The entries of a mapping. Other values have none. -/
def Value.content : Value → Value.Entries
  | .mapping es => es
  | _ => []

namespace Document

/-- The entries of a document. -/
def top (d : Document) : Value.Entries :=
  (d.resolve d.root).content

/-- The entries of a section of a document. -/
def under (d : Document) (name : String) : Value.Entries :=
  (((Value.find? name d.top).map d.resolve).map Value.content).getD []

/-- A section can be read: it is missing, it is empty, or it is a mapping. -/
def AllowsSection (d : Document) (name : String) : Prop :=
  ∀ v, (Value.find? name d.top).map d.resolve = some v → v = .null ∨ ∃ es, v = .mapping es

end Document

namespace Layout

theorem name_rename (l : Layout) (j k : Nibble) (t : Text) :
    (l.rename j t).name k = if k = j then t else l.name k := by
  change (l.names.set j.val t j.isLt)[k.val] = _
  rw [Vector.getElem_set]
  by_cases h : k = j
  · rw [if_pos h, if_pos (by rw [h])]
  · rw [if_neg h, if_neg fun heq => h (Fin.ext heq.symm)]
    rfl

/-- A layout is nothing but its names. -/
theorem ext_name {l l' : Layout} (h : ∀ k, l.name k = l'.name k) : l = l' := by
  rcases l with ⟨names⟩
  rcases l' with ⟨names'⟩
  exact congrArg Layout.mk (Vector.ext fun i hi => h ⟨i, hi⟩)

end Layout

namespace Settings

/-! ### Values -/

/-- A text is what a value is shown as. -/
def IsShown (d : Document) (v : Value) (t : Text) : Prop :=
  (d.view v).isWritable = true ∧ t = (d.view v).shown

theorem raise_ne_ok {α : Type} (r : Refusal) (x : α) : r.raise ≠ .ok x := by
  unfold Refusal.raise
  nofun

/-- A value is read as an integer if it stands for one. -/
theorem integer_eq_ok_iff (d : Document) (v : Value) (n : Int) :
    integer d v = .ok n ↔ denoted? v = some n := by
  unfold integer
  cases denoted? v with
  | none => exact iff_of_false (raise_ne_ok _ _) nofun
  | some m => rw [Except.ok.injEq, Option.some.injEq]

theorem shownText_eq_ok_iff (d : Document) (v : Value) (t : Text) :
    shownText d v = .ok t ↔ IsShown d v t := by
  unfold shownText IsShown
  by_cases h : (d.view v).isWritable = true
  · simp only [h, if_true, Except.ok.injEq, true_and]
    exact eq_comm
  · simp only [h, if_false, reduceCtorEq, false_and]

theorem timerMode?_eq_some_iff (v : Value) (m : TimerMode) :
    timerMode? v = some m ↔ v = .text m.name := by
  have hnames : (TimerMode.perCycle.name : Text) ≠ (TimerMode.perFrame.name : Text) := by decide
  cases v with
  | text t =>
      unfold timerMode?
      simp only [Value.text.injEq]
      by_cases hcycle : t = (TimerMode.perCycle.name : Text)
      · rw [if_pos hcycle, hcycle]
        cases m with
        | perCycle => exact iff_of_true rfl rfl
        | perFrame => exact iff_of_false (by decide) hnames
      · rw [if_neg hcycle]
        by_cases hframe : t = (TimerMode.perFrame.name : Text)
        · rw [if_pos hframe, hframe]
          cases m with
          | perCycle => exact iff_of_false (by decide) hnames.symm
          | perFrame => exact iff_of_true rfl rfl
        · rw [if_neg hframe]
          refine iff_of_false nofun fun h => ?_
          cases m with
          | perCycle => exact hcycle h
          | perFrame => exact hframe h
  | _ => exact iff_of_false nofun nofun

theorem sectionOf_eq_ok_iff {d : Document} {root : Value.Entries} (hroot : d.top = root)
    (name : String) (es : Value.Entries) :
    sectionOf d root name = .ok es ↔ d.AllowsSection name ∧ es = d.under name := by
  unfold sectionOf Document.AllowsSection Document.under
  rw [hroot]
  cases (Value.find? name root).map d.resolve with
  | none =>
      rw [Except.ok.injEq]
      exact ⟨fun h => ⟨nofun, h.symm⟩, fun h => h.2.symm⟩
  | some v =>
      simp only [Option.some.injEq, forall_eq', Option.map_some, Option.getD_some]
      cases v with
      | null =>
          rw [Except.ok.injEq]
          exact ⟨fun h => ⟨Or.inl rfl, h.symm⟩, fun h => h.2.symm⟩
      | mapping es' =>
          rw [Except.ok.injEq]
          exact ⟨fun h => ⟨Or.inr ⟨es', rfl⟩, h.symm⟩, fun h => h.2.symm⟩
      | _ =>
          refine iff_of_false (raise_ne_ok _ _) ?_
          rintro ⟨hnull | ⟨es', hmapping⟩, -⟩
          · cases hnull
          · cases hmapping

/-- What is behind a refusal is read if there is nothing to refuse. -/
theorem guard_eq_ok_iff {α : Type} (p : Prop) [Decidable p] (r : Refusal)
    (rest : Unit → Except Refusal α) (x : α) :
    (if p then r.raise >>= rest else rest ()) = .ok x ↔ ¬ p ∧ rest () = .ok x := by
  by_cases h : p
  · rw [if_pos h]
    refine iff_of_false (fun hx => ?_) fun hx => hx.1 h
    rcases (bind_eq_ok_iff _ _ _).mp hx with ⟨u, hu, -⟩
    exact raise_ne_ok r u hu
  · rw [if_neg h]
    exact ⟨fun hx => ⟨h, hx⟩, fun hx => hx.2⟩

/-! ### Sections -/

/-- A display is what the section on the display asks for. -/
structure DisplayOf (d : Document) (es : Value.Entries) (x : Display) : Prop where
  scale :
    denoted? (choice es "scale" (.integer Settings.default.display.scale)) = some (x.scale : Int)
  scale_pos : 0 < x.scale
  foreground :
    IsShown d (choice es "foreground" (.text Settings.default.display.foreground)) x.foreground
  background :
    IsShown d (choice es "background" (.text Settings.default.display.background)) x.background

/-- Rates and a mode are what the section on timing asks for. -/
structure TimingOf (es : Value.Entries) (t : Timing) : Prop where
  cycles :
    denoted? (choice es "cycles_per_second" (.integer Settings.default.timing.cyclesPerSecond)) =
      some (t.cyclesPerSecond : Int)
  cycles_pos : 0 < t.cyclesPerSecond
  frames :
    denoted? (choice es "frames_per_second" (.integer Settings.default.timing.framesPerSecond)) =
      some (t.framesPerSecond : Int)
  frames_pos : 0 < t.framesPerSecond
  mode : choice es "timer_mode" (.text Settings.default.timing.mode.name) = .text t.mode.name

/-- An entry changes the host key of a logical key. -/
def NamesKey (d : Document) (e : Value × Value) : Prop :=
  ∃ n, denoted? e.1 = some n ∧ 0 ≤ n ∧ n < 16 ∧ (d.view e.2).isWritable = true

/-- The host key that a logical key has after some entries: the one in the last entry
    with its number, or else the one that it had before. -/
def hostName (d : Document) (es : Value.Entries) (l : Layout) (k : Nibble) : Text :=
  match es.reverse.find? fun e => denoted? e.1 = some (k.val : Int) with
  | some e => (d.view e.2).shown
  | none => l.name k

/-- A layout is what the section on keys asks for. -/
structure LayoutOf (d : Document) (es : Value.Entries) (l : Layout) : Prop where
  keys : ∀ e ∈ es, NamesKey d e
  name : ∀ k, l.name k = hostName d es Settings.default.layout k

/-- A seed is what the entries of a document ask for. -/
def SeedOf (root : Value.Entries) (seed : Option Int) : Prop :=
  match Value.find? "rng_seed" root with
  | none | some .null => seed = none
  | some v => denoted? v = seed ∧ seed ≠ none

/-- The section on the display is read as what it asks for, and as nothing else. The
    same is said of the other sections below. -/
theorem readDisplay_eq_ok_iff (d : Document) (es : Value.Entries) (x : Display) :
    readDisplay d es = .ok x ↔ DisplayOf d es x := by
  unfold readDisplay
  simp only [bind_eq_ok_iff, guard_eq_ok_iff, integer_eq_ok_iff, shownText_eq_ok_iff]
  constructor
  · rintro ⟨n, hn, hpos, on, hon, off, hoff, hdone⟩
    cases hdone
    have hscale : ((n.toNat : Nat) : Int) = n := by omega
    refine ⟨?_, ?_, hon, hoff⟩
    · rw [hscale]
      exact hn
    · change 0 < n.toNat
      omega
  · intro h
    have hpos := h.scale_pos
    exact ⟨x.scale, h.scale, by omega, x.foreground, h.foreground, x.background, h.background, rfl⟩

theorem readTiming_eq_ok_iff (d : Document) (es : Value.Entries) (t : Timing) :
    readTiming d es = .ok t ↔ TimingOf es t := by
  unfold readTiming
  simp only [bind_eq_ok_iff, guard_eq_ok_iff, integer_eq_ok_iff]
  constructor
  · -- Both rates are read before one of them is refused, and the mode comes last.
    rintro ⟨c, hc, f, hf, hpos, hmode⟩
    cases hm : timerMode? (choice es "timer_mode" (.text Settings.default.timing.mode.name)) with
    | none =>
        rw [hm] at hmode
        exact absurd hmode (raise_ne_ok _ _)
    | some m =>
        rw [hm] at hmode
        cases hmode
        have hcycles : ((c.toNat : Nat) : Int) = c := by omega
        have hframes : ((f.toNat : Nat) : Int) = f := by omega
        refine ⟨?_, ?_, ?_, ?_, (timerMode?_eq_some_iff _ _).mp hm⟩
        · rw [hcycles]
          exact hc
        · change 0 < c.toNat
          omega
        · rw [hframes]
          exact hf
        · change 0 < f.toNat
          omega
  · intro h
    have hcycles := h.cycles_pos
    have hframes := h.frames_pos
    refine ⟨t.cyclesPerSecond, h.cycles, t.framesPerSecond, h.frames, by omega, ?_⟩
    rw [(timerMode?_eq_some_iff _ _).mpr h.mode]
    rfl

/-- An entry on keys is read if its key stands for a logical key and its name can be shown. -/
theorem renameKey_eq_ok_iff (d : Document) (l l' : Layout) (e : Value × Value) :
    renameKey d l e = .ok l' ↔
      ∃ n, denoted? e.1 = some n ∧ 0 ≤ n ∧ n < 16 ∧ (d.view e.2).isWritable = true ∧
        l' = l.rename (Word.n n) (d.view e.2).shown := by
  unfold renameKey
  simp only [bind_eq_ok_iff, integer_eq_ok_iff]
  refine exists_congr fun n => and_congr_right fun _ => ?_
  by_cases hin : 0 ≤ n ∧ n < 16
  · rw [if_pos hin]
    simp only [bind_eq_ok_iff, shownText_eq_ok_iff]
    constructor
    · rintro ⟨t, ⟨hwritable, rfl⟩, hdone⟩
      cases hdone
      exact ⟨hin.1, hin.2, hwritable, rfl⟩
    · rintro ⟨-, -, hwritable, rfl⟩
      exact ⟨_, ⟨hwritable, rfl⟩, rfl⟩
  · rw [if_neg hin]
    exact iff_of_false (raise_ne_ok _ _) fun h => hin ⟨h.1, h.2.1⟩

/-- The first entry counts where no later one does. -/
theorem hostName_cons (d : Document) {e : Value × Value} {n : Int} (hn : denoted? e.1 = some n)
    (hlow : 0 ≤ n) (hhigh : n < 16) (es : Value.Entries) (l : Layout) (k : Nibble) :
    hostName d (e :: es) l k = hostName d es (l.rename (Word.n n) (d.view e.2).shown) k := by
  have hnumber : denoted? e.1 = some (k.val : Int) ↔ k = Word.n n := by
    have hval : (Word.n n).val = n.toNat := congrArg Int.toNat (Int.emod_eq_of_lt hlow hhigh)
    rw [hn, Option.some.injEq, Fin.ext_iff, hval]
    omega
  unfold hostName
  rw [List.reverse_cons, List.find?_append]
  cases es.reverse.find? fun e => denoted? e.1 = some (k.val : Int) with
  | some e' => rfl
  | none =>
      simp only [Option.none_or]
      rw [Layout.name_rename]
      by_cases hk : k = Word.n n
      · rw [if_pos hk]
        simp only [List.find?_cons, hnumber.mpr hk, decide_true]
      · have hother : denoted? e.1 ≠ some (k.val : Int) := fun h => hk (hnumber.mp h)
        rw [if_neg hk]
        simp only [List.find?_cons, hother, decide_false, List.find?_nil]

theorem foldlM_renameKey_eq_ok_iff (d : Document) (es : Value.Entries) (l l' : Layout) :
    es.foldlM (renameKey d) l = .ok l' ↔
      (∀ e ∈ es, NamesKey d e) ∧ ∀ k, l'.name k = hostName d es l k := by
  induction es generalizing l with
  | nil =>
      change Except.ok l = Except.ok l' ↔ _
      rw [Except.ok.injEq]
      constructor
      · rintro rfl
        exact ⟨fun e he => absurd he List.not_mem_nil, fun k => rfl⟩
      · rintro ⟨-, hnames⟩
        exact Layout.ext_name fun k => (hnames k).symm
  | cons e es ih =>
      rw [List.foldlM_cons, bind_eq_ok_iff]
      constructor
      · -- The other entries start from the layout that the first one leaves.
        rintro ⟨l₁, hfirst, hrest⟩
        rcases (renameKey_eq_ok_iff d l l₁ e).mp hfirst with ⟨n, hn, hlow, hhigh, hwritable, rfl⟩
        rcases (ih _).mp hrest with ⟨hkeys, hnames⟩
        refine ⟨List.forall_mem_cons.mpr ⟨⟨n, hn, hlow, hhigh, hwritable⟩, hkeys⟩, fun k => ?_⟩
        rw [hnames k, hostName_cons d hn hlow hhigh]
      · rintro ⟨hkeys, hnames⟩
        rcases List.forall_mem_cons.mp hkeys with ⟨⟨n, hn, hlow, hhigh, hwritable⟩, hrest⟩
        refine ⟨_, (renameKey_eq_ok_iff d l _ e).mpr ⟨n, hn, hlow, hhigh, hwritable, rfl⟩, ?_⟩
        refine (ih _).mpr ⟨hrest, fun k => ?_⟩
        rw [hnames k, hostName_cons d hn hlow hhigh]

theorem readLayout_eq_ok_iff (d : Document) (es : Value.Entries) (l : Layout) :
    readLayout d es = .ok l ↔ LayoutOf d es l := by
  unfold readLayout
  rw [foldlM_renameKey_eq_ok_iff]
  exact ⟨fun h => ⟨h.1, h.2⟩, fun h => ⟨h.keys, h.name⟩⟩

theorem readSeed_eq_ok_iff (d : Document) (root : Value.Entries) (seed : Option Int) :
    readSeed d root = .ok seed ↔ SeedOf root seed := by
  unfold readSeed SeedOf
  -- A number is read as the seed, and anything else that is found is refused.
  have hfound : ∀ v, (integer d v).map some = .ok seed ↔ denoted? v = seed ∧ seed ≠ none := by
    intro v
    unfold integer
    cases hv : denoted? v with
    | none =>
        refine iff_of_false ?_ fun h => h.2 h.1.symm
        unfold Refusal.raise
        nofun
    | some n =>
        change Except.ok (some n) = Except.ok seed ↔ _
        rw [Except.ok.injEq]
        constructor
        · rintro rfl
          exact ⟨rfl, nofun⟩
        · exact fun h => h.1
  have hmissing : (Except.ok none : Except Refusal (Option Int)) = .ok seed ↔ seed = none := by
    rw [Except.ok.injEq]
    exact eq_comm
  cases Value.find? "rng_seed" root with
  | none => exact hmissing
  | some v =>
      cases v with
      | null => exact hmissing
      | _ => exact hfound _

/-! ### Documents -/

/-- Settings are what a document asks for: its sections can be read, and every choice
    is the one that is made there, or the default. -/
structure ReadFrom (d : Document) (s : Settings) : Prop where
  sections : ∀ name ∈ ["display", "timing", "keymap"], d.AllowsSection name
  display : DisplayOf d (d.under "display") s.display
  timing : TimingOf (d.under "timing") s.timing
  layout : LayoutOf d (d.under "keymap") s.layout
  seed : SeedOf d.top s.seed

/-- A document is read if it is a mapping that asks for settings, and as these. -/
theorem read_eq_ok_iff (d : Document) (s : Settings) :
    read d = .ok s ↔ (∃ es, d.resolve d.root = .mapping es) ∧ ReadFrom d s := by
  unfold read
  cases hroot : d.resolve d.root with
  | mapping root =>
      have htop : d.top = root := by
        unfold Document.top
        rw [hroot]
        rfl
      -- Each part of the chain is replaced by what it says about its section.
      simp only [bind_eq_ok_iff, sectionOf_eq_ok_iff htop, readDisplay_eq_ok_iff,
        readTiming_eq_ok_iff, readLayout_eq_ok_iff, readSeed_eq_ok_iff]
      rw [← htop]
      constructor
      · rintro ⟨_, ⟨hd, rfl⟩, x, hx, _, ⟨ht, rfl⟩, t, ht', _, ⟨hk, rfl⟩, l, hl, seed, hseed, hdone⟩
        cases hdone
        refine ⟨⟨_, rfl⟩, ?_, hx, ht', hl, hseed⟩
        exact List.forall_mem_cons.mpr
          ⟨hd, List.forall_mem_cons.mpr ⟨ht, List.forall_mem_singleton.mpr hk⟩⟩
      · rintro ⟨-, h⟩
        exact ⟨_, ⟨h.sections _ (by decide), rfl⟩, _, h.display, _,
          ⟨h.sections _ (by decide), rfl⟩, _, h.timing, _, ⟨h.sections _ (by decide), rfl⟩, _,
          h.layout, _, h.seed, rfl⟩
  | _ =>
      refine iff_of_false (raise_ne_ok _ _) ?_
      rintro ⟨⟨es, hes⟩, -⟩
      cases hes

/-- A document without entries asks for the settings of a user who makes no choice. -/
theorem readFrom_default {d : Document} (h : d.top = []) : ReadFrom d Settings.default := by
  have hmissing : ∀ name, (Value.find? name d.top).map d.resolve = none := by
    intro name
    rw [h]
    rfl
  have hunder : ∀ name, d.under name = [] := by
    intro name
    unfold Document.under
    rw [hmissing]
    rfl
  constructor
  · intro name _ v hv
    rw [hmissing] at hv
    cases hv
  · rw [hunder]
    exact ⟨rfl, by decide, ⟨rfl, rfl⟩, ⟨rfl, rfl⟩⟩
  · rw [hunder]
    exact ⟨rfl, by decide, rfl, by decide, rfl⟩
  · rw [hunder]
    exact ⟨fun e he => absurd he List.not_mem_nil, fun k => rfl⟩
  · rw [h]
    exact rfl

/-- A mapping without entries is read as these settings. -/
theorem read_of_no_entries {d : Document} (h : d.resolve d.root = .mapping []) :
    read d = .ok Settings.default := by
  refine (read_eq_ok_iff d Settings.default).mpr ⟨⟨[], h⟩, readFrom_default ?_⟩
  unfold Document.top
  rw [h]
  rfl

/-- What counts as empty has no entries. -/
theorem top_of_isEmpty {d : Document} (h : (d.resolve d.root).isEmpty = true) : d.top = [] := by
  unfold Document.top
  cases hroot : d.resolve d.root with
  | mapping es =>
      rw [hroot] at h
      exact List.isEmpty_iff.mp h
  | _ => rfl

/-- In a file, what counts as empty is read as these settings. -/
theorem ofFile_of_isEmpty {d : Document} (h : (d.resolve d.root).isEmpty = true) :
    ofFile d = .ok Settings.default := by
  unfold ofFile
  rw [if_pos h]
  exact read_of_no_entries rfl

theorem ofFile_of_not_isEmpty {d : Document} (h : ¬ (d.resolve d.root).isEmpty = true) :
    ofFile d = read d := by
  unfold ofFile
  rw [if_neg h]

theorem readFrom_of_ofFile {d : Document} {s : Settings} (h : ofFile d = .ok s) : ReadFrom d s := by
  by_cases hempty : (d.resolve d.root).isEmpty = true
  · -- Nothing is asked for, and the defaults are read.
    rw [ofFile_of_isEmpty hempty] at h
    cases h
    exact readFrom_default (top_of_isEmpty hempty)
  · rw [ofFile_of_not_isEmpty hempty] at h
    exact ((read_eq_ok_iff d s).mp h).2

end Settings

end Chip8
