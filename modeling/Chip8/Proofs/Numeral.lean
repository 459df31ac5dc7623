import Chip8.Numeral.Integer
import Mathlib.Data.Nat.Digits.Defs

/-!
# Numerals

What is read from a numeral.

The digits of a base are below it, and so the number that they make is below
the power of the base that has one more digit. Since the length of a numeral in
base ten is limited, whatever is read from one can also be written.

Conversely, the digits of a number make it again, and a text is read if it has a
sign, a mark and digits in their places.

## Theorems

* `Digit.value_eq_ofDigits`: The number of digits, the last of them first.
* `Digit.value_lt`: The bound by the number of digits.
* `Digit.exists_toDigits`: The digits that a number is written with.
* `Digit.filterMap_ofBase`, `Digit.isSome_ofBase`: Characters that stand for digits.
* `Integer.digits_of_read`: An integer that is read, as digits.
* `Integer.spanDigits_append`, `Integer.spanDigits_map`: Digits are found where they
  are written.
* `Integer.read_eq_ok`: What is read from the parts of a numeral.
* `Integer.isWritable_of_read`: What is read in base ten can be written.
-/

namespace Chip8

namespace Digit

theorem lt_of_ofBase {base : Nat} {c : Char} {d : Nat} (h : ofBase base c = some d) :
    d < base :=
  of_decide_eq_true (Option.filter_eq_some_iff.mp h).2

/-- The digits of a value are written from the greatest down. -/
theorem value_eq_ofDigits (base : Nat) (ds : List Nat) :
    value base ds = Nat.ofDigits base ds.reverse := by
  unfold value
  rw [Nat.ofDigits_eq_foldr, List.foldr_reverse]
  simp only [Nat.add_comm, Nat.cast_id]

/-- So many digits are worth less than the power of the base with that exponent. -/
theorem value_lt {base : Nat} (hbase : 1 < base) {ds : List Nat} (h : ∀ d ∈ ds, d < base) :
    value base ds < base ^ ds.length := by
  rw [value_eq_ofDigits, ← List.length_reverse]
  exact Nat.ofDigits_lt_base_pow_length hbase fun d hd => h d (List.mem_reverse.mp hd)

/-- One more digit at the end moves the others up by a place. -/
theorem value_concat (base : Nat) (ds : List Nat) (d : Nat) :
    value base (ds ++ [d]) = base * value base ds + d := by
  unfold value
  rw [List.foldl_append]
  rfl

theorem value_replicate_zero (base k : Nat) (ds : List Nat) :
    value base (List.replicate k 0 ++ ds) = value base ds := by
  unfold value
  rw [List.foldl_append]
  induction k with
  | zero => rfl
  | succ k ih => rw [List.replicate_succ, List.foldl_cons, Nat.mul_zero, ih]

/-- The digits that a number is written with make it again. -/
theorem exists_toDigits {base : Nat} (hbase : 1 < base) (n : Nat) :
    ∃ ds, Nat.toDigits base n = ds.map Nat.digitChar ∧ (∀ d ∈ ds, d < base) ∧
      value base ds = n := by
  induction n using Nat.base_induction base hbase with
  | single d hd =>
      refine ⟨[d], ?_, List.forall_mem_singleton.mpr hd, ?_⟩
      · rw [Nat.toDigits_of_lt_base hd]
        rfl
      · change base * 0 + d = d
        omega
  | digit m d hd hm ih =>
      rcases ih with ⟨ds, hwritten, hlt, hvalue⟩
      refine ⟨ds ++ [d], ?_, ?_, ?_⟩
      · rw [← Nat.toDigits_append_toDigits hbase hm hd, Nat.toDigits_of_lt_base hd, hwritten,
          List.map_append]
        rfl
      · exact List.forall_mem_append.mpr ⟨hlt, List.forall_mem_singleton.mpr hd⟩
      · rw [value_concat, hvalue]

/-! ### Characters that are digits -/

/-- The underscore is a digit in no base. -/
theorem ofBase_line (base : Nat) : ofBase base '_' = none := by
  have hdigit : decimal '_' = none := by decide
  have hletter : letter '_' = none := by decide
  unfold ofBase
  rw [hdigit, hletter]
  rfl

theorem filterMap_ofBase {base : Nat} {f : Nat → Char} {ds : List Nat}
    (h : ∀ d ∈ ds, ofBase base (f d) = some d) :
    (ds.map f).filterMap (ofBase base) = ds := by
  induction ds with
  | nil => rfl
  | cons d ds ih =>
      rw [List.forall_mem_cons] at h
      rw [List.map_cons, List.filterMap_cons_some h.1, ih h.2]

theorem isSome_ofBase {base : Nat} {f : Nat → Char} {ds : List Nat}
    (h : ∀ d ∈ ds, ofBase base (f d) = some d) :
    ∀ c ∈ ds.map f, (ofBase base c).isSome = true := by
  intro c hc
  rcases List.mem_map.mp hc with ⟨d, hd, rfl⟩
  rw [h d hd]
  rfl

end Digit

namespace Integer

theorem lt_of_spanDigits {base : Nat} {s : List Char} {p : List Nat × List Char}
    (h : spanDigits base s = some p) : ∀ d ∈ p.1, d < base := by
  -- One digit in front of others, with or without an underscore.
  have hcons : ∀ {d : Nat} {r : Option (List Nat × List Char)} {p : List Nat × List Char},
      d < base → (∀ {q}, r = some q → ∀ d ∈ q.1, d < base) →
      (r.bind fun q => some (d :: q.1, q.2)) = some p → ∀ d ∈ p.1, d < base := by
    intro d r p hd hr hbind
    rcases Option.bind_eq_some_iff.mp hbind with ⟨q, hq, hp⟩
    cases hp
    exact List.forall_mem_cons.mpr ⟨hd, hr hq⟩
  fun_induction spanDigits base s generalizing p with
  | case1 =>
      cases h
      exact List.forall_mem_nil _
  | case2 c r ih =>
      rcases Option.bind_eq_some_iff.mp h with ⟨d, hd, hrest⟩
      exact hcons (Digit.lt_of_ofBase hd) ih hrest
  | case3 c r _ d hd ih => exact hcons (Digit.lt_of_ofBase hd) ih h
  | case4 => cases h
  | case5 =>
      cases h
      exact List.forall_mem_nil _

theorem natAbs_sign (s : List Char) : (sign s).1.natAbs = 1 := by
  fun_cases sign s <;> rfl

theorem spanDigits_of_leadingDigits {base : Nat} {s : List Char} {p : List Nat × List Char}
    (h : leadingDigits base s = some p) : spanDigits base s = some p := by
  unfold leadingDigits at h
  by_cases hhead : s.head? = some '_'
  · rw [if_pos hhead] at h
    cases h
  · rw [if_neg hhead] at h
    exact (Option.filter_eq_some_iff.mp h).1

/-- An integer that is read is made of digits, as many as the limit admits. -/
theorem digits_of_read {base : Nat} {s : List Char} {n : Int} (h : read base s = .ok n) :
    ∃ ds, (∀ d ∈ ds, d < base) ∧ (isBinary base = false → ds.length ≤ maxDigits) ∧
      n.natAbs = Digit.value base ds := by
  -- The sign counts for nothing in what follows but its being a unit.
  have hsign := natAbs_sign (s.dropWhile Digit.isBlank)
  unfold read at h
  generalize sign (s.dropWhile Digit.isBlank) = signed at h hsign
  rcases signed with ⟨sgn, r⟩
  simp only [] at h
  cases hdigits : leadingDigits base (unmarked base r) with
  | none =>
      rw [hdigits] at h
      cases h
  | some p =>
      rw [hdigits] at h
      simp only [] at h
      by_cases hlong : (!isBinary base && decide (maxDigits < p.1.length)) = true
      · rw [if_pos hlong] at h
        cases h
      · rw [if_neg hlong] at h
        by_cases hblank : p.2.all Digit.isBlank = true
        · rw [if_pos hblank] at h
          cases h
          refine ⟨p.1, lt_of_spanDigits (spanDigits_of_leadingDigits hdigits), ?_, ?_⟩
          · intro hbase
            rw [hbase] at hlong
            simpa only [Bool.not_false, Bool.true_and, decide_eq_true_eq, Nat.not_lt] using hlong
          · rw [Int.natAbs_mul, hsign, Nat.one_mul, Int.natAbs_natCast]
        · rw [if_neg hblank] at h
          cases h

/-- What was read in base ten is short enough to be written, as the same limit holds
    both ways. -/
theorem isWritable_of_read {s : List Char} {n : Int} (h : read 10 s = .ok n) :
    isWritable n = true := by
  rcases digits_of_read h with ⟨ds, hlt, hlen, hn⟩
  have hlimit := hlen rfl
  unfold isWritable
  -- The limit itself does not matter, and its power is not to be worked out.
  generalize maxDigits = limit at hlimit ⊢
  rw [decide_eq_true_eq, hn]
  exact Nat.lt_of_lt_of_le (Digit.value_lt (by decide) hlt)
    (Nat.pow_le_pow_right (by decide) hlimit)

/-! ### Texts that are read -/

theorem spanDigits_cons {base d : Nat} {c : Char} (h : Digit.ofBase base c = some d)
    (r : List Char) :
    spanDigits base (c :: r) = (spanDigits base r).map fun p => (d :: p.1, p.2) := by
  rw [spanDigits, h]
  · cases spanDigits base r <;> rfl
  · intro c' r' heq
    rw [heq, Digit.ofBase_line] at h
    cases h

/-- Digits are found where they are written, before whatever follows them. -/
theorem spanDigits_append {base : Nat} {cs : List Char}
    (h : ∀ c ∈ cs, (Digit.ofBase base c).isSome = true) (r : List Char) :
    spanDigits base (cs ++ r) =
      (spanDigits base r).map fun p => (cs.filterMap (Digit.ofBase base) ++ p.1, p.2) := by
  induction cs with
  | nil => cases hr : spanDigits base r <;> rw [List.nil_append, hr] <;> rfl
  | cons c cs ih =>
      rw [List.forall_mem_cons] at h
      rcases Option.isSome_iff_exists.mp h.1 with ⟨d, hd⟩
      rw [List.cons_append, spanDigits_cons hd, ih h.2, Option.map_map,
        List.filterMap_cons_some hd]
      rfl

theorem spanDigits_map {base : Nat} {f : Nat → Char} {ds : List Nat}
    (h : ∀ d ∈ ds, Digit.ofBase base (f d) = some d) :
    spanDigits base (ds.map f) = some (ds, []) := by
  have happend := spanDigits_append (Digit.isSome_ofBase h) []
  rw [List.append_nil, Digit.filterMap_ofBase h] at happend
  rw [happend]
  change some (ds ++ [], []) = _
  rw [List.append_nil]

theorem sign_cons {c : Char} (hminus : c ≠ '-') (hplus : c ≠ '+') (r : List Char) :
    sign (c :: r) = (1, c :: r) := by
  rw [sign]
  · intro _ heq
    exact hminus (List.cons.inj heq).1
  · intro _ heq
    exact hplus (List.cons.inj heq).1

/-- What is read from a text whose parts are known. -/
theorem read_eq_ok {base : Nat} {s r : List Char} {sgn : Int} {ds : List Nat} {rest : List Char}
    (hsign : sign (s.dropWhile Digit.isBlank) = (sgn, r))
    (hdigits : leadingDigits base (unmarked base r) = some (ds, rest))
    (hlimit : isBinary base = true ∨ ds.length ≤ maxDigits)
    (hrest : rest.all Digit.isBlank = true) :
    read base s = .ok (sgn * Digit.value base ds) := by
  have hshort : ¬ (!isBinary base && decide (maxDigits < ds.length)) = true := by
    rw [Bool.and_eq_true, Bool.not_eq_true', decide_eq_true_eq]
    rintro ⟨hbase, hlong⟩
    rcases hlimit with hbinary | hle
    · rw [hbinary] at hbase
      cases hbase
    · omega
  unfold read
  rw [hsign]
  simp only []
  rw [hdigits]
  simp only []
  rw [if_neg hshort, if_pos hrest]

end Integer

end Chip8
