import Chip8.Proofs.Settings

/-!
# Accepted Documents

Which documents are read, and how the others are refused.

A document is accepted if each of its choices is fit, and whether one is fit does not
depend on the others. The order in which they are looked at only decides which of
several unfit ones is complained of.

A refusal quotes the value that it is about, and colours and names are taken as they
are shown. Both are impossible if there is an integer in the value that is too long to
be written in decimal. Documents without such integers are read or refused in plain
words, and nothing else happens to them.

## Main definitions

* `Value.items`: The values in another one that stand in a row.
* `Document.Holds`: A value is somewhere in a document.
* `Document.Fits`: All integers of a document are short enough to be written.
* `Document.CanQuote`: A value can be quoted, and so can the integer it stands for.
* `Settings.Acceptable`: Every choice of a document is fit.

## Theorems

* `Value.expand_shared`: Places stand for themselves.
* `Document.isWritable_view`: What is seen of such a document can be written.
* `Settings.exists_displayOf_iff`, `Settings.exists_timingOf_iff`,
  `Settings.exists_layoutOf_iff`, `Settings.exists_seedOf_iff`: The sections that ask
  for something.
* `Settings.read_ne_unwritable`: No refusal is without its wording.
* `Settings.read_iff_acceptable`: Which documents are read, as what, and how the others
  are refused.
-/

namespace Chip8

namespace Value

/-- The values in a list, a tuple or a set. -/
def items : Value → List Value
  | list xs | tuple xs | set xs => xs
  | _ => []

/-- The key of an entry that is found is the name, but the value is what counts here. -/
theorem mem_of_find? {name : String} {es : Entries} {v : Value} (h : find? name es = some v) :
    ∃ e ∈ es, e.2 = v := by
  fun_induction find? name es with
  | case1 => cases h
  | case2 => exact ⟨_, List.mem_cons_self, Option.some.inj h⟩
  | case3 _ _ _ _ ih | case4 _ _ _ ih =>
      rcases ih h with ⟨e, he, hv⟩
      exact ⟨e, List.mem_cons_of_mem _ he, hv⟩

mutual

/-- Nothing changes if places stand for themselves. -/
theorem expand_shared : ∀ v : Value, v.expand shared = v
  | list xs => by rw [expand, expandItems_shared xs]
  | tuple xs => by rw [expand, expandItems_shared xs]
  | set xs => by rw [expand, expandItems_shared xs]
  | mapping es => by rw [expand, expandEntries_shared es]
  | null | bool _ | integer _ | real _ | text _ | date _ | moment _ | foreign _ | shared _ _ => by
      simp only [expand]

theorem expandItems_shared : ∀ xs : List Value, expandItems shared xs = xs
  | [] => by rw [expandItems]
  | x :: xs => by rw [expandItems, expand_shared x, expandItems_shared xs]

theorem expandEntries_shared : ∀ es : Entries, expandEntries shared es = es
  | [] => by rw [expandEntries]
  | (k, v) :: es => by
      rw [expandEntries, expand_shared k, expand_shared v, expandEntries_shared es]

end

end Value

namespace Document

variable {d : Document}

/-! ### What is in a document -/

/-- A value is somewhere in a document. -/
inductive Holds (d : Document) : Value → Prop where
  | root : Holds d d.root
  | item {v x : Value} : Holds d v → x ∈ v.items → Holds d x
  | key {es : Value.Entries} {e : Value × Value} : Holds d (.mapping es) → e ∈ es → Holds d e.1
  | entry {es : Value.Entries} {e : Value × Value} : Holds d (.mapping es) → e ∈ es → Holds d e.2
  | place {isMapping : Bool} {p : Nat} : Holds d (.shared isMapping p) → Holds d (d.atPlace p)

/-- All integers of a document are short enough to be written in decimal, those that
    its texts stand for among them. -/
def Fits (d : Document) : Prop :=
  ∀ v n, d.Holds v → Settings.denoted? v = some n → Integer.isWritable n = true

theorem holds_resolve {v : Value} (hv : d.Holds v) : d.Holds (d.resolve v) := by
  cases v with
  | shared b p => exact .place hv
  | _ => exact hv

theorem holds_content {v : Value} (hv : d.Holds v) :
    ∀ e ∈ v.content, d.Holds e.1 ∧ d.Holds e.2 := by
  cases v with
  | mapping es => exact fun e he => ⟨.key hv he, .entry hv he⟩
  | _ => exact fun e he => absurd he List.not_mem_nil

theorem holds_top : ∀ e ∈ d.top, d.Holds e.1 ∧ d.Holds e.2 :=
  holds_content (holds_resolve .root)

theorem holds_under (name : String) : ∀ e ∈ d.under name, d.Holds e.1 ∧ d.Holds e.2 := by
  unfold under
  cases hfind : Value.find? name d.top with
  | none => exact fun e he => absurd he List.not_mem_nil
  | some v =>
      rcases Value.mem_of_find? hfind with ⟨e, he, rfl⟩
      exact holds_content (holds_resolve (holds_top e he).2)

/-! ### What can be written -/

mutual

/-- Putting what can be written in the places of a value gives what can be written. -/
theorem isWritable_expand (hd : d.Fits) {look : Bool → Nat → Value}
    (hlook : ∀ b p, d.Holds (.shared b p) → (look b p).isWritable = true) :
    ∀ v : Value, d.Holds v → (v.expand look).isWritable = true
  | .list xs => fun hv => by
      rw [Value.expand, Value.isWritable]
      exact areItemsWritable_expand hd hlook xs fun x hx => .item hv hx
  | .tuple xs => fun hv => by
      rw [Value.expand, Value.isWritable]
      exact areItemsWritable_expand hd hlook xs fun x hx => .item hv hx
  | .set xs => fun hv => by
      rw [Value.expand, Value.isWritable]
      exact areItemsWritable_expand hd hlook xs fun x hx => .item hv hx
  | .mapping es => fun hv => by
      rw [Value.expand, Value.isWritable]
      exact areEntriesWritable_expand hd hlook es fun e he => ⟨.key hv he, .entry hv he⟩
  | .shared b p => fun hv => by
      rw [Value.expand]
      exact hlook b p hv
  | .integer n => fun hv => by
      simp only [Value.expand, Value.isWritable]
      exact hd _ n hv rfl
  | .null | .bool _ | .real _ | .text _ | .date _ | .moment _ | .foreign _ => fun _ => by
      simp only [Value.expand, Value.isWritable]

theorem areItemsWritable_expand (hd : d.Fits) {look : Bool → Nat → Value}
    (hlook : ∀ b p, d.Holds (.shared b p) → (look b p).isWritable = true) :
    ∀ xs : List Value, (∀ x ∈ xs, d.Holds x) →
      Value.areItemsWritable (Value.expandItems look xs) = true
  | [] => fun _ => rfl
  | x :: xs => fun h => by
      rw [Value.expandItems, Value.areItemsWritable, Bool.and_eq_true]
      rw [List.forall_mem_cons] at h
      exact ⟨isWritable_expand hd hlook x h.1, areItemsWritable_expand hd hlook xs h.2⟩

theorem areEntriesWritable_expand (hd : d.Fits) {look : Bool → Nat → Value}
    (hlook : ∀ b p, d.Holds (.shared b p) → (look b p).isWritable = true) :
    ∀ es : Value.Entries, (∀ e ∈ es, d.Holds e.1 ∧ d.Holds e.2) →
      Value.areEntriesWritable (Value.expandEntries look es) = true
  | [] => fun _ => rfl
  | (k, v) :: es => fun h => by
      rw [Value.expandEntries, Value.areEntriesWritable, Bool.and_eq_true, Bool.and_eq_true]
      rw [List.forall_mem_cons] at h
      exact ⟨⟨isWritable_expand hd hlook k h.1.1, isWritable_expand hd hlook v h.1.2⟩,
        areEntriesWritable_expand hd hlook es h.2⟩

end

/-- A document that fits can be shown from any of its values, as deep as it is looked into. -/
theorem isWritable_viewFrom (hd : d.Fits) (fuel : Nat) (above : List Nat) {v : Value}
    (hv : d.Holds v) : (d.viewFrom fuel above v).isWritable = true := by
  have hshared : ∀ b p, (Value.shared b p).isWritable = true := fun b p => by
    simp only [Value.isWritable]
  induction fuel generalizing above v with
  | zero =>
      have hself := isWritable_expand hd (fun b p _ => hshared b p) v hv
      rw [Value.expand_shared] at hself
      exact hself
  | succ fuel ih =>
      refine isWritable_expand hd (fun b p hp => ?_) v hv
      by_cases habove : above.contains p = true
      · rw [if_pos habove]
        exact hshared b p
      · rw [if_neg habove]
        exact ih _ (.place hp)

/-- What is seen of a document can be written if its integers are short enough. -/
theorem isWritable_view (hd : d.Fits) {v : Value} (hv : d.Holds v) :
    (d.view v).isWritable = true :=
  isWritable_viewFrom hd _ _ hv

/-- A value can be quoted, and so can the integer it stands for. -/
structure CanQuote (d : Document) (v : Value) : Prop where
  view : (d.view v).isWritable = true
  number : ∀ n, Settings.denoted? v = some n → Integer.isWritable n = true

/-- Whatever is in such a document can be quoted. -/
theorem canQuote_of_holds (hd : d.Fits) {v : Value} (hv : d.Holds v) : d.CanQuote v :=
  ⟨isWritable_view hd hv, fun n hn => hd v n hv hn⟩

theorem canQuote_top (hd : d.Fits) : ∀ e ∈ d.top, d.CanQuote e.1 ∧ d.CanQuote e.2 :=
  fun e he => (holds_top e he).imp (canQuote_of_holds hd) (canQuote_of_holds hd)

theorem canQuote_under (hd : d.Fits) (name : String) :
    ∀ e ∈ d.under name, d.CanQuote e.1 ∧ d.CanQuote e.2 :=
  fun e he => (holds_under name e he).imp (canQuote_of_holds hd) (canQuote_of_holds hd)

theorem canQuote_integer {n : Int} (hn : Integer.isWritable n = true) :
    d.CanQuote (.integer n) := by
  refine ⟨?_, fun m hm => Option.some.inj hm ▸ hn⟩
  unfold view viewFrom
  rw [Value.expand, Value.isWritable]
  · exact hn
  all_goals nofun

theorem canQuote_text {t : Text} (ht : Settings.textInteger? t.chars = none) :
    d.CanQuote (.text t) := by
  refine ⟨?_, fun n hn => ?_⟩
  · unfold view viewFrom
    simp only [Value.expand, Value.isWritable]
  · exact absurd (ht.symm.trans hn) nofun

end Document

namespace Settings

variable {d : Document} {es : Value.Entries}

/-! ### Fit choices -/

/-- A value stands for a positive integer. -/
def IsPositive (v : Value) : Prop :=
  ∃ n, denoted? v = some n ∧ 0 < n

/-- A choice is missing, or its value is fit. -/
def Allows (es : Value.Entries) (name : String) (fit : Value → Prop) : Prop :=
  ∀ v, Value.find? name es = some v → fit v

/-- Every choice of a document is fit. -/
structure Acceptable (d : Document) : Prop where
  root : ∃ es, d.resolve d.root = .mapping es
  sections : ∀ name ∈ ["display", "timing", "keymap"], d.AllowsSection name
  scale : Allows (d.under "display") "scale" IsPositive
  cycles : Allows (d.under "timing") "cycles_per_second" IsPositive
  frames : Allows (d.under "timing") "frames_per_second" IsPositive
  mode : Allows (d.under "timing") "timer_mode" fun v => v = .text "per_cycle" ∨ v = .text "60hz"
  keys : ∀ e ∈ d.under "keymap", ∃ n, denoted? e.1 = some n ∧ 0 ≤ n ∧ n < 16
  seed : Allows d.top "rng_seed" fun v => v = .null ∨ ∃ n, denoted? v = some n

/-- With a fit default, what is taken is fit if the choice is missing or fit. -/
theorem allows_iff (fit : Value → Prop) {standard : Value} (hstandard : fit standard)
    (name : String) : Allows es name fit ↔ fit (choice es name standard) := by
  unfold Allows choice
  cases Value.find? name es with
  | none => exact iff_of_true nofun hstandard
  | some v =>
      rw [Option.getD_some]
      exact ⟨fun h => h v rfl, fun h w hw => Option.some.inj hw ▸ h⟩

theorem isPositive_integer {n : Nat} (hn : 0 < n) : IsPositive (.integer n) :=
  ⟨n, rfl, by omega⟩

theorem isPositive_iff (v : Value) :
    IsPositive v ↔ ∃ n : Nat, denoted? v = some (n : Int) ∧ 0 < n := by
  constructor
  · rintro ⟨n, hn, hpos⟩
    refine ⟨n.toNat, ?_, by omega⟩
    rw [hn, Int.toNat_of_nonneg (by omega)]
  · rintro ⟨n, hn, hpos⟩
    exact ⟨n, hn, by omega⟩

theorem canQuote_choice (hes : ∀ e ∈ es, d.CanQuote e.2) {standard : Value}
    (hstandard : d.CanQuote standard) (name : String) :
    d.CanQuote (choice es name standard) := by
  rw [← allows_iff d.CanQuote hstandard]
  intro v hv
  rcases Value.mem_of_find? hv with ⟨e, he, rfl⟩
  exact hes e he

theorem canQuote_colours (hes : ∀ e ∈ es, d.CanQuote e.2) :
    d.CanQuote (choice es "foreground" (.text Settings.default.display.foreground)) ∧
      d.CanQuote (choice es "background" (.text Settings.default.display.background)) :=
  ⟨canQuote_choice hes (Document.canQuote_text rfl) _,
    canQuote_choice hes (Document.canQuote_text rfl) _⟩

/-! ### Sections that ask for something -/

/-- Only the scale can be wrong with the display, as colours may be any values. -/
theorem exists_displayOf_iff (hes : ∀ e ∈ es, d.CanQuote e.2) :
    (∃ x, DisplayOf d es x) ↔ Allows es "scale" IsPositive := by
  rw [allows_iff _ (isPositive_integer (show 0 < Settings.default.display.scale by decide)),
    isPositive_iff]
  constructor
  · rintro ⟨x, h⟩
    exact ⟨x.scale, h.scale, h.scale_pos⟩
  · rintro ⟨n, hn, hpos⟩
    rcases canQuote_colours hes with ⟨hon, hoff⟩
    exact ⟨⟨n, _, _⟩, hn, hpos, ⟨hon.view, rfl⟩, ⟨hoff.view, rfl⟩⟩

/-- Rates have to be positive, and the mode has to be one of the two. -/
theorem exists_timingOf_iff :
    (∃ t, TimingOf es t) ↔ Allows es "cycles_per_second" IsPositive ∧
      Allows es "frames_per_second" IsPositive ∧
      Allows es "timer_mode" fun v => v = .text "per_cycle" ∨ v = .text "60hz" := by
  have hmode : Value.text Settings.default.timing.mode.name = .text "per_cycle" ∨
      Value.text Settings.default.timing.mode.name = .text "60hz" := Or.inl rfl
  have hcycles : 0 < Settings.default.timing.cyclesPerSecond := by decide
  have hframes : 0 < Settings.default.timing.framesPerSecond := by decide
  rw [allows_iff _ (isPositive_integer hcycles), allows_iff _ (isPositive_integer hframes),
    allows_iff (fun v => v = .text "per_cycle" ∨ v = .text "60hz") hmode, isPositive_iff,
    isPositive_iff]
  constructor
  · rintro ⟨⟨c, f, m⟩, h⟩
    refine ⟨⟨c, h.cycles, h.cycles_pos⟩, ⟨f, h.frames, h.frames_pos⟩, ?_⟩
    cases m with
    | perCycle => exact Or.inl h.mode
    | perFrame => exact Or.inr h.mode
  · rintro ⟨⟨c, hc, hcpos⟩, ⟨f, hf, hfpos⟩, hcycle | hframe⟩
    · exact ⟨⟨c, f, .perCycle⟩, hc, hcpos, hf, hfpos, hcycle⟩
    · exact ⟨⟨c, f, .perFrame⟩, hc, hcpos, hf, hfpos, hframe⟩

/-- Keys have to stand for logical keys, while names may be any values. -/
theorem exists_layoutOf_iff (hes : ∀ e ∈ es, d.CanQuote e.2) :
    (∃ l, LayoutOf d es l) ↔ ∀ e ∈ es, ∃ n, denoted? e.1 = some n ∧ 0 ≤ n ∧ n < 16 := by
  constructor
  · rintro ⟨l, h⟩ e he
    rcases h.keys e he with ⟨n, hn, hlow, hhigh, -⟩
    exact ⟨n, hn, hlow, hhigh⟩
  · intro h
    refine ⟨⟨Vector.ofFn (hostName d es Settings.default.layout)⟩, fun e he => ?_, fun k => ?_⟩
    · rcases h e he with ⟨n, hn, hlow, hhigh⟩
      exact ⟨n, hn, hlow, hhigh, (hes e he).view⟩
    · exact Vector.getElem_ofFn k.isLt

/-- A seed is nothing or any integer. -/
theorem exists_seedOf_iff :
    (∃ seed, SeedOf es seed) ↔
      Allows es "rng_seed" fun v => v = .null ∨ ∃ n, denoted? v = some n := by
  have hfound : ∀ v, (∃ seed, denoted? v = seed ∧ seed ≠ none) ↔ ∃ n, denoted? v = some n := by
    intro v
    simp only [exists_eq_left', Option.ne_none_iff_exists']
  unfold SeedOf Allows
  cases Value.find? "rng_seed" es with
  | none => exact iff_of_true ⟨none, rfl⟩ nofun
  | some v =>
      simp only [Option.some.injEq, forall_eq']
      cases v with
      | null => exact iff_of_true ⟨none, rfl⟩ (Or.inl rfl)
      | _ => exact (hfound _).trans (or_iff_right nofun).symm

/-- Some settings are what a document asks for if it is acceptable. -/
theorem exists_readFrom_iff (hd : d.Fits) :
    (∃ es, d.resolve d.root = .mapping es) ∧ (∃ s, ReadFrom d s) ↔ Acceptable d := by
  have hquote : ∀ name, ∀ e ∈ d.under name, d.CanQuote e.2 := fun name e he =>
    (Document.canQuote_under hd name e he).2
  constructor
  · rintro ⟨hroot, s, h⟩
    rcases exists_timingOf_iff.mp ⟨_, h.timing⟩ with ⟨hcycles, hframes, hmode⟩
    exact ⟨hroot, h.sections, (exists_displayOf_iff (hquote _)).mp ⟨_, h.display⟩, hcycles, hframes,
      hmode, (exists_layoutOf_iff (hquote _)).mp ⟨_, h.layout⟩, exists_seedOf_iff.mp ⟨_, h.seed⟩⟩
  · intro h
    rcases (exists_displayOf_iff (hquote _)).mpr h.scale with ⟨x, hx⟩
    rcases exists_timingOf_iff.mpr ⟨h.cycles, h.frames, h.mode⟩ with ⟨t, ht⟩
    rcases (exists_layoutOf_iff (hquote _)).mpr h.keys with ⟨l, hl⟩
    rcases exists_seedOf_iff.mpr h.seed with ⟨seed, hseed⟩
    exact ⟨h.root, ⟨x, t, l, seed⟩, h.sections, hx, ht, hl, hseed⟩

/-! ### Refusals -/

theorem raise_ne_unwritable {α : Type} {r : Refusal} (hr : r ≠ .unwritable)
    (hwritable : r.isWritable = true) : (r.raise : Except Refusal α) ≠ .error .unwritable := by
  unfold Refusal.raise
  rw [if_pos hwritable, Ne, Except.error.injEq]
  exact hr

/-- What is read in steps is refused without wording only by one of the steps. -/
theorem bind_ne_unwritable {α β : Type} {x : Except Refusal α} {k : α → Except Refusal β}
    (hx : x ≠ .error .unwritable) (hk : ∀ a, x = .ok a → k a ≠ .error .unwritable) :
    x >>= k ≠ .error .unwritable := by
  rw [Ne, bind_eq_error_iff]
  rintro (h | ⟨a, ha, h⟩)
  · exact hx h
  · exact hk a ha h

theorem guard_ne_unwritable {α : Type} {p : Prop} [Decidable p] {r : Refusal}
    {rest : Unit → Except Refusal α} (hr : r ≠ .unwritable) (hwritable : r.isWritable = true)
    (hrest : ¬ p → rest () ≠ .error .unwritable) :
    (if p then r.raise >>= rest else rest ()) ≠ .error .unwritable := by
  by_cases h : p
  · rw [if_pos h]
    exact bind_ne_unwritable (raise_ne_unwritable hr hwritable) fun u hu =>
      absurd hu (raise_ne_ok r u)
  · rw [if_neg h]
    exact hrest h

theorem integer_ne_unwritable {v : Value} (hv : d.CanQuote v) :
    integer d v ≠ .error .unwritable := by
  unfold integer
  cases denoted? v with
  | some n => nofun
  | none => exact raise_ne_unwritable nofun hv.view

theorem shownText_ne_unwritable {v : Value} (hv : d.CanQuote v) :
    shownText d v ≠ .error .unwritable := by
  unfold shownText
  simp only []
  rw [if_pos hv.view]
  nofun

theorem sectionOf_ne_unwritable (name : String) : sectionOf d es name ≠ .error .unwritable := by
  unfold sectionOf
  split
  · nofun
  · nofun
  · nofun
  · exact raise_ne_unwritable nofun rfl

theorem readDisplay_ne_unwritable (hes : ∀ e ∈ es, d.CanQuote e.2) :
    readDisplay d es ≠ .error .unwritable := by
  have hscale : d.CanQuote (choice es "scale" (.integer Settings.default.display.scale)) :=
    canQuote_choice hes (Document.canQuote_integer (by decide +kernel)) _
  rcases canQuote_colours hes with ⟨hon, hoff⟩
  unfold readDisplay
  refine bind_ne_unwritable (integer_ne_unwritable hscale) fun n hn => ?_
  have hwritable := hscale.number n ((integer_eq_ok_iff _ _ _).mp hn)
  refine guard_ne_unwritable nofun hwritable fun _ => ?_
  refine bind_ne_unwritable (shownText_ne_unwritable hon) fun on _ => ?_
  exact bind_ne_unwritable (shownText_ne_unwritable hoff) nofun

theorem readTiming_ne_unwritable (hes : ∀ e ∈ es, d.CanQuote e.2) :
    readTiming d es ≠ .error .unwritable := by
  have hcycles : d.CanQuote
      (choice es "cycles_per_second" (.integer Settings.default.timing.cyclesPerSecond)) :=
    canQuote_choice hes (Document.canQuote_integer (by decide +kernel)) _
  have hframes : d.CanQuote
      (choice es "frames_per_second" (.integer Settings.default.timing.framesPerSecond)) :=
    canQuote_choice hes (Document.canQuote_integer (by decide +kernel)) _
  have hmode : d.CanQuote (choice es "timer_mode" (.text Settings.default.timing.mode.name)) :=
    canQuote_choice hes (Document.canQuote_text rfl) _
  unfold readTiming
  refine bind_ne_unwritable (integer_ne_unwritable hcycles) fun c hc => ?_
  refine bind_ne_unwritable (integer_ne_unwritable hframes) fun f hf => ?_
  -- Both rates are quoted, be only one of them unfit.
  have hwritable : (Refusal.rates c f).isWritable = true := by
    rw [Refusal.isWritable, hcycles.number c ((integer_eq_ok_iff _ _ _).mp hc),
      hframes.number f ((integer_eq_ok_iff _ _ _).mp hf), Bool.and_true]
  refine guard_ne_unwritable nofun hwritable fun _ => ?_
  split
  · nofun
  · exact raise_ne_unwritable nofun hmode.view

theorem renameKey_ne_unwritable {e : Value × Value} (hkey : d.CanQuote e.1)
    (hname : d.CanQuote e.2) (l : Layout) : renameKey d l e ≠ .error .unwritable := by
  unfold renameKey
  refine bind_ne_unwritable (integer_ne_unwritable hkey) fun n _ => ?_
  split
  · exact bind_ne_unwritable (shownText_ne_unwritable hname) nofun
  · exact raise_ne_unwritable nofun hkey.view

theorem readLayout_ne_unwritable (hes : ∀ e ∈ es, d.CanQuote e.1 ∧ d.CanQuote e.2) :
    readLayout d es ≠ .error .unwritable := by
  unfold readLayout
  generalize Settings.default.layout = l
  induction es generalizing l with
  | nil => nofun
  | cons e es ih =>
      rw [List.forall_mem_cons] at hes
      rw [List.foldlM_cons]
      exact bind_ne_unwritable (renameKey_ne_unwritable hes.1.1 hes.1.2 l) fun l' _ => ih hes.2 l'

theorem readSeed_ne_unwritable (hes : ∀ e ∈ es, d.CanQuote e.2) :
    readSeed d es ≠ .error .unwritable := by
  unfold readSeed
  split
  · nofun
  · nofun
  · rename_i v _ hv
    rcases Value.mem_of_find? hv with ⟨e, he, rfl⟩
    have hinteger := integer_ne_unwritable (hes e he)
    cases hread : integer d e.2 with
    | ok n => nofun
    | error r =>
        rw [hread] at hinteger
        exact fun h => hinteger (congrArg Except.error (Except.error.inj h))

/-- Documents whose integers can be written are never refused without wording. -/
theorem read_ne_unwritable (hd : d.Fits) : read d ≠ .error .unwritable := by
  unfold read
  split
  · rename_i root hroot
    have htop : d.top = root := by
      unfold Document.top
      rw [hroot]
      rfl
    -- What a section is read as are its entries, and the document holds these.
    have hunder : ∀ {name : String} {es : Value.Entries}, sectionOf d root name = .ok es →
        ∀ e ∈ es, d.CanQuote e.1 ∧ d.CanQuote e.2 := by
      intro name es h
      rw [((sectionOf_eq_ok_iff htop name es).mp h).2]
      exact Document.canQuote_under hd name
    have hseed : ∀ e ∈ root, d.CanQuote e.2 := by
      rw [← htop]
      exact fun e he => (Document.canQuote_top hd e he).2
    refine bind_ne_unwritable (sectionOf_ne_unwritable _) fun es hes => ?_
    refine bind_ne_unwritable (readDisplay_ne_unwritable fun e he => (hunder hes e he).2) ?_
    refine fun x _ => bind_ne_unwritable (sectionOf_ne_unwritable _) fun es hes => ?_
    refine bind_ne_unwritable (readTiming_ne_unwritable fun e he => (hunder hes e he).2) ?_
    refine fun t _ => bind_ne_unwritable (sectionOf_ne_unwritable _) fun es hes => ?_
    refine bind_ne_unwritable (readLayout_ne_unwritable (hunder hes)) fun l _ => ?_
    exact bind_ne_unwritable (readSeed_ne_unwritable hseed) nofun
  · exact raise_ne_unwritable nofun rfl

/-! ### Reading -/

/-- A document whose integers can be written is read if every choice of it is fit, and
    refused in plain words otherwise. Read, each choice is what the document makes of
    it, or the default if it is missing; a key has the name that the last entry with its
    number gives it. -/
theorem read_iff_acceptable (d : Document) (hd : d.Fits) :
    ((∃ s, read d = .ok s) ↔ Acceptable d) ∧
      (¬ Acceptable d → ∃ r, read d = .error r ∧ r ≠ .unwritable) ∧
      ∀ s, read d = .ok s → ReadFrom d s := by
  have haccepted : (∃ s, read d = .ok s) ↔ Acceptable d := by
    simp only [read_eq_ok_iff, exists_and_left]
    exact exists_readFrom_iff hd
  refine ⟨haccepted, fun hnot => ?_, fun s hs => ((read_eq_ok_iff d s).mp hs).2⟩
  cases hread : read d with
  | ok s => exact absurd (haccepted.mp ⟨s, hread⟩) hnot
  | error r =>
      refine ⟨r, rfl, fun hr => read_ne_unwritable hd ?_⟩
      rw [hread, hr]

/-- A document that spells the number of one key in two ways. -/
def respelled : Document :=
  .ofValue (.mapping [(.text "keymap",
    .mapping [(.integer 5, .text "G"), (.text "0x05", .text "H")])])

/-- What the document holds can be listed, and only the number of the key is an integer. -/
theorem fits_respelled : respelled.Fits := by
  obtain ⟨held, hheld, hnumber⟩ : ∃ held : List Value, (∀ v, respelled.Holds v → v ∈ held) ∧
      ∀ v ∈ held, denoted? v = none ∨ denoted? v = some 5 := by
    refine ⟨[respelled.root, .mapping [(.integer 5, .text "G"), (.text "0x05", .text "H")],
      .text "keymap", .integer 5, .text "G", .text "0x05", .text "H"], ?_, by decide⟩
    intro v hv
    unfold respelled Document.ofValue at *
    induction hv with
    | root => exact List.mem_cons_self
    | @item u _ _ hx ih =>
        have hnone : u.items = [] := by
          simp only [List.mem_cons, List.not_mem_nil, or_false] at ih
          rcases ih with rfl | rfl | rfl | rfl | rfl | rfl | rfl <;> rfl
        rw [hnone] at hx
        cases hx
    | place _ ih =>
        simp only [List.mem_cons, reduceCtorEq, List.not_mem_nil, or_self] at ih
    | key _ he ih | entry _ he ih =>
        simp only [List.mem_cons, Value.mapping.injEq, reduceCtorEq, List.not_mem_nil,
          or_false] at ih
        rcases ih with rfl | rfl
        · rw [List.mem_singleton.mp he]
          simp only [List.mem_cons, true_or, or_true]
        · rw [List.mem_cons, List.mem_singleton] at he
          rcases he with rfl | rfl
          all_goals simp only [List.mem_cons, true_or, or_true]
  intro v n hv hn
  rcases hnumber v (hheld v hv) with hnone | hfive
  · rw [hnone] at hn
    cases hn
  · rw [hfive] at hn
    cases hn
    decide +kernel

/-- The later of two entries on one key counts, whichever way they spell its number. -/
theorem respelled_read :
    respelled.Fits ∧ Acceptable respelled ∧
      ∃ s, read respelled = .ok s ∧ s.layout.name 5 = "H" := by
  rcases read_iff_acceptable respelled fits_respelled with ⟨haccepted, -, hresult⟩
  have hread : ∃ s, read respelled = .ok s := ⟨_, rfl⟩
  rcases hread with ⟨s, hs⟩
  exact ⟨fits_respelled, haccepted.mp ⟨s, hs⟩, s, hs, (hresult s hs).layout.name 5⟩

end Settings

end Chip8
