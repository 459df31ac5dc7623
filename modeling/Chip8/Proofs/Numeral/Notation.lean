import Chip8.Proofs.Numeral

/-!
# Notations of Integers

The ways in which one integer can be written, and that all of them are read as it.

In base ten there may be zeros in front of the digits, a sign in front of these, single
underscores between digits, and blanks around the whole. In base sixteen there is a mark
in front, then zeros and digits, and a letter may be small or a capital each time that it
is used.

The mark comes first. Behind a sign or a blank its zero is a numeral in base ten, if
anything is, and the letter after it is left over.

## Main definitions

* `Digit.blanks`: The blanks that may stand around a numeral.
* `Digit.IsLead`: Signs, blanks and separators.
* `Integer.IsSign`: The signs of an integer.
* `Integer.IsDecimal`, `Integer.IsHexadecimal`: The notations of an integer.
* `Integer.IsMarkedLate`: A mark behind signs or blanks.

## Theorems

* `Digit.ofBase_toLower`: Small letters and capitals are the same digits.
* `Digit.value_padded`: Zeros and digits make the number that was written.
* `Integer.spanDigits_intercalate`: Digits are found around underscores.
* `Integer.read_of_isDecimal`, `Integer.read_of_isHexadecimal`: What is read from each
  notation.
* `Integer.read_of_mark`: Nothing is read in base ten where a mark is.
-/

namespace Chip8

namespace Digit

/-- The blanks, by code point. They are the white space of all scripts. -/
def blanks : List Nat :=
  [0x09, 0x0A, 0x0B, 0x0C, 0x0D, 0x20, 0x85, 0xA0, 0x1680, 0x2000, 0x2001, 0x2002, 0x2003, 0x2004,
    0x2005, 0x2006, 0x2007, 0x2008, 0x2009, 0x200A, 0x2028, 0x2029, 0x202F, 0x205F, 0x3000]

/-- The separators of files, groups, records and units, by code point. They are sometimes
    counted as white space, but may not stand around a numeral. -/
def separators : List Nat :=
  [0x1C, 0x1D, 0x1E, 0x1F]

/-- Blanks are few, and they are listed. -/
theorem isBlank_iff (c : Char) : isBlank c = true ↔ c.toNat ∈ blanks := by
  unfold isBlank blanks
  simp only [Bool.or_eq_true, Bool.and_eq_true, decide_eq_true_eq, beq_iff_eq, List.mem_cons,
    List.not_mem_nil, or_false]
  omega

/-- Signs, blanks and separators. None of them is a digit. -/
def IsLead (c : Char) : Prop :=
  (c = '+' ∨ c = '-') ∨ c.toNat ∈ blanks ++ separators

instance (c : Char) : Decidable (IsLead c) :=
  inferInstanceAs (Decidable ((_ ∨ _) ∨ _))

theorem isLead_of_blank {c : Char} (h : c.toNat ∈ blanks) : IsLead c :=
  Or.inr (List.mem_append_left _ h)

/-- What may stand in front of a numeral is no digit. -/
theorem ofBase_of_isLead {c : Char} (h : IsLead c) (base : Nat) : ofBase base c = none := by
  have hnone : ∀ k ∈ ['+', '-'].map Char.toNat ++ (blanks ++ separators),
      decimal (Char.ofNat k) = none ∧ letter (Char.ofNat k) = none := by
    decide
  have hmem : c.toNat ∈ ['+', '-'].map Char.toNat ++ (blanks ++ separators) := by
    rcases h with (rfl | rfl) | hspace
    · decide
    · decide
    · exact List.mem_append_right _ hspace
  rcases hnone c.toNat hmem with ⟨hdecimal, hletter⟩
  rw [Char.ofNat_toNat] at hdecimal hletter
  unfold ofBase
  rw [hdecimal, hletter]
  rfl

theorem not_isLead_of_isSome {base : Nat} {c : Char} (h : (ofBase base c).isSome = true) :
    ¬ IsLead c := by
  intro hlead
  rw [ofBase_of_isLead hlead] at h
  cases h

theorem not_isBlank_of_isSome {base : Nat} {c : Char} (h : (ofBase base c).isSome = true) :
    ¬ isBlank c = true :=
  fun hblank => not_isLead_of_isSome h (isLead_of_blank ((isBlank_iff c).mp hblank))

/-- A letter is the same digit whether it is small or a capital. -/
theorem ofBase_toLower (base : Nat) (c : Char) : ofBase base c.toLower = ofBase base c := by
  by_cases hcapital : 'A' ≤ c ∧ c ≤ 'Z'
  · have hsame : ∀ k < 26, decimal (Char.ofNat (65 + k)).toLower = decimal (Char.ofNat (65 + k)) ∧
        letter (Char.ofNat (65 + k)).toLower = letter (Char.ofNat (65 + k)) := by
      decide
    have hlow : 65 ≤ c.toNat := hcapital.1
    have hhigh : c.toNat ≤ 90 := hcapital.2
    have hc := hsame (c.toNat - 65) (by omega)
    rw [Nat.add_sub_cancel' hlow, Char.ofNat_toNat] at hc
    unfold ofBase
    rw [hc.1, hc.2]
  · have hself : c.toLower = c := dif_neg hcapital
    rw [hself]

/-- Zeros and the digits that a number is written with are digits, one at least, and make the
    number. -/
theorem value_padded {base : Nat} (hbase : 1 < base)
    (hchar : ∀ d < base, ofBase base d.digitChar = some d) {n zeros : Nat} {cs : List Char}
    (h : cs = List.replicate zeros '0' ++ Nat.toDigits base n) :
    cs ≠ [] ∧ (∀ c ∈ cs, (ofBase base c).isSome = true) ∧
      value base (cs.filterMap (ofBase base)) = n := by
  rcases exists_toDigits hbase n with ⟨ds, hwritten, hlt, hvalue⟩
  have hcs : cs = (List.replicate zeros 0 ++ ds).map Nat.digitChar := by
    rw [h, hwritten, List.map_append, List.map_replicate]
    rfl
  have hdigit : ∀ d ∈ List.replicate zeros 0 ++ ds, ofBase base d.digitChar = some d := by
    intro d hd
    rcases List.mem_append.mp hd with hzero | hd
    · rw [List.eq_of_mem_replicate hzero]
      exact hchar 0 (by omega)
    · exact hchar d (hlt d hd)
  refine ⟨?_, ?_, ?_⟩
  · intro hnil
    rw [hnil] at h
    exact Nat.toDigits_ne_nil (List.append_eq_nil_iff.mp h.symm).2
  · rw [hcs]
    exact isSome_ofBase hdigit
  · rw [hcs, filterMap_ofBase hdigit, value_replicate_zero, hvalue]

end Digit

namespace Integer

/-! ### Notations -/

/-- The signs of an integer. Without a sign it is not negative. -/
inductive IsSign (n : Int) : List Char → Prop
  | none (h : 0 ≤ n) : IsSign n []
  | plus (h : 0 ≤ n) : IsSign n ['+']
  | minus (h : n ≤ 0) : IsSign n ['-']

/-- The notations of an integer in base ten: groups of digits with an underscore between any
    two of them, which make up the digits of the integer with zeros in front. A sign comes
    before them, and blanks may stand around the whole. -/
inductive IsDecimal (n : Int) : List Char → Prop
  | intro {before sign after : List Char} {groups : List (List Char)} {zeros : Nat}
    (hbefore : ∀ c ∈ before, c.toNat ∈ Digit.blanks) (hsign : IsSign n sign)
    (hgroups : ∀ g ∈ groups, g ≠ [])
    (hdigits : groups.flatten = List.replicate zeros '0' ++ Nat.toDigits 10 n.natAbs)
    (hcount : groups.flatten.length ≤ 4300) (hafter : ∀ c ∈ after, c.toNat ∈ Digit.blanks) :
    IsDecimal n (before ++ (sign ++ (['_'].intercalate groups ++ after)))

/-- The letters of the mark of base sixteen. -/
def IsMark (c : Char) : Prop :=
  c = 'x' ∨ c = 'X'

/-- The notations of a natural number in base sixteen: a mark, zeros, and the digits of the
    number in letters of either size. -/
inductive IsHexadecimal (n : Nat) : List Char → Prop
  | intro {mark : Char} {digits : List Char} {zeros : Nat} (hmark : IsMark mark)
    (hdigits : digits.map Char.toLower = List.replicate zeros '0' ++ Nat.toDigits 16 n) :
    IsHexadecimal n ('0' :: mark :: digits)

/-- Signs, blanks or separators, in any number and order, with a mark behind them. -/
inductive IsMarkedLate : List Char → Prop
  | intro {lead rest : List Char} {mark : Char} (hne : lead ≠ [])
    (hlead : ∀ c ∈ lead, Digit.IsLead c) (hmark : IsMark mark) :
    IsMarkedLate (lead ++ '0' :: mark :: rest)

/-! ### Groups of digits -/

/-- An underscore before a digit counts for nothing. -/
theorem spanDigits_line {base : Nat} {c : Char} (h : (Digit.ofBase base c).isSome = true)
    (r : List Char) : spanDigits base ('_' :: c :: r) = spanDigits base (c :: r) := by
  rcases Option.isSome_iff_exists.mp h with ⟨d, hd⟩
  rw [spanDigits_cons hd, spanDigits, hd]
  cases spanDigits base r <;> rfl

theorem spanDigits_of_none {base : Nat} {c : Char} (h : Digit.ofBase base c = none)
    (hline : c ≠ '_') (r : List Char) : spanDigits base (c :: r) = some ([], c :: r) := by
  rw [spanDigits, h]
  · exact if_neg hline
  · intro _ _ heq
    exact absurd heq hline

theorem ne_line_of_isLead {c : Char} (h : Digit.IsLead c) : c ≠ '_' := by
  rintro rfl
  exact absurd h (by decide)

/-- Blanks behind a numeral are no part of it. -/
theorem spanDigits_blanks {cs : List Char} (h : ∀ c ∈ cs, c.toNat ∈ Digit.blanks) (base : Nat) :
    spanDigits base cs = some ([], cs) := by
  cases cs with
  | nil => rw [spanDigits]
  | cons c cs =>
      have hc := Digit.isLead_of_blank (h c List.mem_cons_self)
      exact spanDigits_of_none (Digit.ofBase_of_isLead hc base) (ne_line_of_isLead hc) cs

/-- Groups of digits begin with a digit. -/
theorem exists_intercalate_eq_cons {groups : List (List Char)} (hgroups : ∀ g ∈ groups, g ≠ [])
    (hne : groups ≠ []) :
    ∃ c r, ['_'].intercalate groups = c :: r ∧ c ∈ groups.flatten := by
  cases groups with
  | nil => exact absurd rfl hne
  | cons g gs =>
      cases g with
      | nil => exact absurd rfl (hgroups [] List.mem_cons_self)
      | cons c g =>
          refine ⟨c, ?_⟩
          cases gs with
          | nil => exact ⟨g, List.intercalate_singleton, by simp⟩
          | cons g' gs => exact ⟨_, List.intercalate_cons_cons, by simp⟩

/-- The digits of groups are found, with a single underscore between any two groups. -/
theorem spanDigits_intercalate {base : Nat} {groups : List (List Char)} {rest : List Char}
    (hgroups : ∀ g ∈ groups, g ≠ [])
    (hdigits : ∀ c ∈ groups.flatten, (Digit.ofBase base c).isSome = true)
    (hrest : spanDigits base rest = some ([], rest)) :
    spanDigits base (['_'].intercalate groups ++ rest) =
      some (groups.flatten.filterMap (Digit.ofBase base), rest) := by
  induction groups with
  | nil => exact hrest
  | cons g gs ih =>
      rw [List.flatten_cons, List.forall_mem_append] at hdigits
      rw [List.forall_mem_cons] at hgroups
      rw [List.flatten_cons, List.filterMap_append]
      by_cases hgs : gs = []
      · rw [hgs, List.intercalate_singleton, spanDigits_append hdigits.1, hrest]
        rfl
      · -- The underscore behind the first group stands before the first digit of the next.
        rcases exists_intercalate_eq_cons hgroups.2 hgs with ⟨c, r, hnext, hc⟩
        have hgroup : ['_'].intercalate (g :: gs) ++ rest = g ++ '_' :: c :: (r ++ rest) := by
          rw [List.intercalate_cons_of_ne_nil hgs, hnext]
          simp only [List.append_assoc, List.cons_append, List.nil_append]
        have hothers := ih hgroups.2 hdigits.2
        rw [hnext, List.cons_append] at hothers
        rw [hgroup, spanDigits_append hdigits.1, spanDigits_line (hdigits.2 c hc), hothers]
        rfl

/-- Groups of digits with single lines between them are read as one row. -/
theorem leadingDigits_groups {base : Nat} {groups : List (List Char)} (rest : List Char)
    (hgroups : ∀ g ∈ groups, g ≠ []) (hne : groups ≠ [])
    (hdigits : ∀ c ∈ groups.flatten, (Digit.ofBase base c).isSome = true)
    (hrest : spanDigits base rest = some ([], rest)) :
    leadingDigits base (['_'].intercalate groups ++ rest) =
      some (groups.flatten.filterMap (Digit.ofBase base), rest) := by
  rcases exists_intercalate_eq_cons hgroups hne with ⟨c, r, hfirst, hc⟩
  have hdigit := hdigits c hc
  have hline : ¬ (['_'].intercalate groups ++ rest).head? = some '_' := by
    rw [hfirst, List.cons_append, List.head?_cons, Option.some.injEq]
    intro heq
    rw [heq, Digit.ofBase_line] at hdigit
    cases hdigit
  have hsome : groups.flatten.filterMap (Digit.ofBase base) ≠ [] := by
    intro hnil
    rw [List.filterMap_eq_nil_iff.mp hnil c hc] at hdigit
    cases hdigit
  unfold leadingDigits
  rw [if_neg hline, spanDigits_intercalate hgroups hdigits hrest, Option.filter_some, if_pos]
  rw [Bool.not_eq_true', List.isEmpty_eq_false_iff]
  exact hsome

/-! ### Base ten -/

/-- No letter is a mark in base ten. -/
theorem unmarked_ten (s : List Char) : unmarked 10 s = s := by
  cases s with
  | nil => rfl
  | cons z s =>
      cases s with
      | nil => rfl
      | cons c s => exact if_neg fun h => Bool.false_ne_true h.2

/-- A sign is found before a digit, and no blank stands before it. -/
theorem sign_of_isSign {n : Int} {s r : List Char} {c : Char} (h : IsSign n s)
    (hc : (Digit.ofBase 10 c).isSome = true) :
    (s ++ c :: r).dropWhile Digit.isBlank = s ++ c :: r ∧
      ∃ u : Int, sign (s ++ c :: r) = (u, c :: r) ∧ u * n.natAbs = n := by
  have hother : ¬ (c = '+' ∨ c = '-') := fun h => Digit.not_isLead_of_isSome hc (Or.inl h)
  cases h with
  | none h =>
      refine ⟨List.dropWhile_cons_of_neg (Digit.not_isBlank_of_isSome hc), 1, ?_, by omega⟩
      exact sign_cons (fun heq => hother (Or.inr heq)) (fun heq => hother (Or.inl heq)) r
  | plus h => exact ⟨List.dropWhile_cons_of_neg (by decide), 1, rfl, by omega⟩
  | minus h => exact ⟨List.dropWhile_cons_of_neg (by decide), -1, rfl, by omega⟩

/-- Every decimal numeral is read as the integer that it stands for. -/
theorem read_of_isDecimal {n : Int} {s : List Char} (h : IsDecimal n s) : read 10 s = .ok n := by
  cases h with
  | @intro before sgn after groups zeros hbefore hsign hgroups hdigits hcount hafter =>
      rcases Digit.value_padded (by decide) (by decide) hdigits with ⟨hwritten, hsome, hvalue⟩
      have hblank : ∀ {cs : List Char}, (∀ c ∈ cs, c.toNat ∈ Digit.blanks) →
          ∀ c ∈ cs, Digit.isBlank c = true :=
        fun hcs c hc => (Digit.isBlank_iff c).mpr (hcs c hc)
      have hne : groups ≠ [] := by
        rintro rfl
        exact hwritten rfl
      -- Behind the blanks there is a sign, and behind the sign there is a digit.
      rcases exists_intercalate_eq_cons hgroups hne with ⟨c, r, hfirst, hc⟩
      rcases sign_of_isSign (r := r ++ after) hsign (hsome c hc) with ⟨hdrop, u, hu, hn⟩
      rw [← List.cons_append, ← hfirst] at hdrop hu
      have hsigned : sign ((before ++ (sgn ++ (['_'].intercalate groups ++ after))).dropWhile
          Digit.isBlank) = (u, ['_'].intercalate groups ++ after) := by
        rw [List.dropWhile_append_of_pos (hblank hbefore), hdrop, hu]
      have hleading := leadingDigits_groups after hgroups hne hsome (spanDigits_blanks hafter 10)
      rw [← unmarked_ten (['_'].intercalate groups ++ after)] at hleading
      have hlimit : (groups.flatten.filterMap (Digit.ofBase 10)).length ≤ maxDigits := by
        rw [List.filterMap_length_eq_length.mpr hsome]
        exact hcount
      rw [read_eq_ok hsigned hleading (Or.inr hlimit) (List.all_eq_true.mpr (hblank hafter)),
        hvalue, hn]

/-! ### Base sixteen -/

theorem unmarked_sixteen {mark c : Char} (hmark : IsMark mark) (hline : c ≠ '_')
    (r : List Char) : unmarked 16 ('0' :: mark :: c :: r) = c :: r := by
  have hzero : Digit.decimal '0' = some 0 ∧ isMark 16 mark = true := by
    rcases hmark with rfl | rfl <;> decide
  unfold unmarked
  simp only []
  rw [if_pos hzero]
  split
  · rename_i heq
    exact absurd (List.cons.inj heq).1 hline
  · rfl

/-- So is every numeral in base sixteen. -/
theorem read_of_isHexadecimal {n : Nat} {s : List Char} (h : IsHexadecimal n s) :
    read 16 s = .ok n := by
  cases h with
  | @intro mark digits zeros hmark hdigits =>
      rcases Digit.value_padded (by decide) (by decide) hdigits with ⟨hwritten, hsome, hvalue⟩
      -- The size of letters makes no difference to the digits.
      have hdigit : ∀ c ∈ digits, (Digit.ofBase 16 c).isSome = true := by
        intro c hc
        rw [← Digit.ofBase_toLower]
        exact hsome c.toLower (List.mem_map_of_mem hc)
      have hnumber : (digits.map Char.toLower).filterMap (Digit.ofBase 16) =
          digits.filterMap (Digit.ofBase 16) := by
        rw [List.filterMap_map, Function.comp_def]
        simp only [Digit.ofBase_toLower]
      have hne : digits ≠ [] := by
        rintro rfl
        exact hwritten rfl
      have hunmarked : unmarked 16 ('0' :: mark :: digits) = digits := by
        cases digits with
        | nil => exact absurd rfl hne
        | cons c r =>
            refine unmarked_sixteen hmark ?_ r
            intro hline
            have hc := hdigit c List.mem_cons_self
            rw [hline, Digit.ofBase_line] at hc
            cases hc
      -- There is one group of digits, and nothing behind it.
      have hleading := leadingDigits_groups [] (List.forall_mem_singleton.mpr hne)
        (List.cons_ne_nil digits []) (by rwa [List.flatten_singleton]) rfl
      rw [List.intercalate_singleton, List.flatten_singleton, List.append_nil,
        ← hunmarked] at hleading
      have hsigned : sign (('0' :: mark :: digits).dropWhile Digit.isBlank) =
          (1, '0' :: mark :: digits) := rfl
      rw [read_eq_ok hsigned hleading (Or.inl (by decide)) rfl, hunmarked, ← hnumber, hvalue,
        Int.one_mul]

/-! ### Marks that come late -/

/-- Of what is left of signs and blanks and a mark behind them, nothing or the zero of the
    mark is digits. -/
theorem leadingDigits_late {lead : List Char}
    (hlead : ∀ c ∈ lead, Digit.IsLead c) {mark : Char}
    (hmark : IsMark mark) (rest : List Char) :
    leadingDigits 10 (lead ++ '0' :: mark :: rest) = none ∨
      leadingDigits 10 (lead ++ '0' :: mark :: rest) = some ([0], mark :: rest) := by
  have hletter : Digit.ofBase 10 mark = none ∧ mark ≠ '_' := by
    rcases hmark with rfl | rfl <;> decide
  cases lead with
  | nil =>
      refine Or.inr ?_
      unfold leadingDigits
      rw [List.nil_append, spanDigits_cons (show Digit.ofBase 10 '0' = some 0 by decide),
        spanDigits_of_none hletter.1 hletter.2]
      rfl
  | cons c lead =>
      refine Or.inl ?_
      have hc := hlead c List.mem_cons_self
      have hline := ne_line_of_isLead hc
      unfold leadingDigits
      rw [List.cons_append, spanDigits_of_none (Digit.ofBase_of_isLead hc 10) hline,
        List.head?_cons, if_neg fun heq => hline (Option.some.inj heq)]
      rfl

/-- A sign takes one character or none of signs and blanks with a mark behind them. -/
theorem sign_late (lead : List Char) (mark : Char) (rest : List Char) :
    ∃ l, (∀ c ∈ l, c ∈ lead) ∧
      (sign (lead ++ '0' :: mark :: rest)).2 = l ++ '0' :: mark :: rest := by
  cases lead with
  | nil => exact ⟨[], fun _ hc => hc, rfl⟩
  | cons c lead =>
      rw [List.cons_append]
      by_cases hsign : c = '-' ∨ c = '+'
      · refine ⟨lead, fun _ hc => List.mem_cons_of_mem _ hc, ?_⟩
        rcases hsign with rfl | rfl <;> rfl
      · rw [sign_cons (fun h => hsign (Or.inl h)) (fun h => hsign (Or.inr h))]
        exact ⟨c :: lead, fun _ hc => hc, rfl⟩

/-- In base ten nothing is read where a mark is, be it behind signs and blanks or not. -/
theorem read_of_mark {lead : List Char}
    (hlead : ∀ c ∈ lead, Digit.IsLead c) {mark : Char}
    (hmark : IsMark mark) (rest : List Char) :
    read 10 (lead ++ '0' :: mark :: rest) = .error .unreadable := by
  -- Blanks are passed over first. The zero of the mark ends them.
  have hblanks : (lead ++ '0' :: mark :: rest).dropWhile Digit.isBlank =
      lead.dropWhile Digit.isBlank ++ '0' :: mark :: rest := by
    rw [List.dropWhile_append, List.dropWhile_cons_of_neg (by decide)]
    by_cases hempty : (lead.dropWhile Digit.isBlank).isEmpty = true
    · rw [if_pos hempty, List.isEmpty_iff.mp hempty, List.nil_append]
    · rw [if_neg hempty]
  rcases sign_late (lead.dropWhile Digit.isBlank) mark rest with ⟨l, hl, hsign⟩
  have hleft : ∀ c ∈ l, Digit.IsLead c := by
    intro c hc
    exact hlead c ((List.dropWhile_sublist _).mem (hl c hc))
  unfold read
  rw [hblanks]
  simp only []
  rw [hsign, unmarked_ten]
  rcases leadingDigits_late hleft hmark rest with hnone | hzero
  · rw [hnone]
  · -- The letter of the mark is no blank.
    have hletter : (mark :: rest).all Digit.isBlank = false := by
      rw [List.all_cons]
      rcases hmark with rfl | rfl <;> rfl
    rw [hzero]
    simp only [hletter]
    rfl

end Integer

end Chip8
