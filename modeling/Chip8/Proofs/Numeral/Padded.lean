import Chip8.Numeral.Padded
import Chip8.Proofs.Numeral

/-!
# Padded Numerals Read Back

What is written in base sixteen is read back as the integer that it was written
from, however it is padded: zeros in front make no difference. A numeral is no
longer than asked for unless its digits do not fit.

## Main definitions

* `Padded.capital`: A digit as written.

## Theorems

* `Padded.exists_hex`: A numeral as a sign and digits.
* `Padded.read_hex`: A numeral is read back.
* `Padded.le_length_hex`, `Padded.length_hex`: The length of a numeral.
-/

namespace Chip8

namespace Padded

/-- A digit as written. -/
def capital (d : Nat) : Char :=
  d.digitChar.toUpper

/-- The digits of base sixteen are read as they are written. -/
theorem ofBase_capital : ∀ d < 16, Digit.ofBase 16 (capital d) = some d := by
  decide

theorem isBlank_capital : ∀ d < 16, Digit.isBlank (capital d) = false := by
  decide

theorem isMark_capital : ∀ d < 16, Integer.isMark 16 (capital d) = false := by
  decide

/-- Signs, underscores and what stands between words are no digits. -/
theorem capital_ne (d : Nat) (hd : d < 16) (c : Char) (hc : c ∈ ['-', '+', '_', ' ', ',']) :
    capital d ≠ c := by
  have hother : ∀ d < 16, capital d ∉ ['-', '+', '_', ' ', ','] := by decide
  exact fun h => hother d hd (h ▸ hc)

/-- A numeral in base sixteen is a sign and digits. -/
theorem exists_hex (width : Nat) (n : Int) :
    ∃ d ds, (∀ e ∈ d :: ds, e < 16) ∧ Digit.value 16 (d :: ds) = n.natAbs ∧
      (hex width n).toList = (if n < 0 then ['-'] else []) ++ (d :: ds).map capital := by
  rcases Digit.exists_toDigits (show 1 < 16 by decide) n.natAbs with ⟨ds, hwritten, hlt, hvalue⟩
  have hbody : capitals n.natAbs = ds.map capital := by
    unfold capitals
    rw [hwritten, List.map_map]
    rfl
  -- The zeros of the padding are digits like any others.
  have hpad : ∀ k, List.replicate k '0' ++ ds.map capital =
      (List.replicate k 0 ++ ds).map capital := by
    intro k
    rw [List.map_append, List.map_replicate]
    rfl
  have hne : ds ≠ [] := by
    rintro rfl
    exact Nat.toDigits_ne_nil hwritten
  unfold hex write
  simp only [String.toList_ofList, String.toList_empty, List.append_nil, hbody, List.append_assoc,
    hpad]
  generalize width - _ - _ = k
  cases hall : List.replicate k 0 ++ ds with
  | nil => exact absurd (List.append_eq_nil_iff.mp hall).2 hne
  | cons d rest =>
      refine ⟨d, rest, ?_, ?_, rfl⟩
      · rw [← hall]
        refine List.forall_mem_append.mpr ⟨fun e he => ?_, hlt⟩
        rw [List.eq_of_mem_replicate he]
        decide
      · rw [← hall, Digit.value_replicate_zero, hvalue]

/-- No digit is the letter of a base mark, so there is no mark to be taken off. -/
theorem unmarked_capitals {ds : List Nat} (h : ∀ d ∈ ds, d < 16) :
    Integer.unmarked 16 (ds.map capital) = ds.map capital := by
  cases ds with
  | nil => rfl
  | cons d ds =>
      cases ds with
      | nil => rfl
      | cons e ds =>
          have he := isMark_capital e (h e (List.mem_cons_of_mem d List.mem_cons_self))
          simp only [List.map_cons, Integer.unmarked, he, Bool.false_eq_true, and_false, if_false]

/-- A numeral is read back as the integer that it was written from. -/
theorem read_hex (width : Nat) (n : Int) : Integer.read 16 (hex width n).toList = .ok n := by
  rcases exists_hex width n with ⟨d, ds, hlt, hvalue, htext⟩
  have hd := hlt d List.mem_cons_self
  have hleading : Integer.leadingDigits 16 (Integer.unmarked 16 ((d :: ds).map capital)) =
      some (d :: ds, []) := by
    unfold Integer.leadingDigits
    rw [unmarked_capitals hlt, Integer.spanDigits_map fun e he => ofBase_capital e (hlt e he),
      if_neg]
    · rfl
    · rw [List.map_cons, List.head?_cons, Option.some.injEq]
      exact capital_ne d hd '_' (by decide)
  -- Behind its sign, the numeral is read as its magnitude.
  have hread : ∀ {s : List Char} {sgn : Int},
      Integer.sign (s.dropWhile Digit.isBlank) = (sgn, (d :: ds).map capital) →
        Integer.read 16 s = .ok (sgn * n.natAbs) := by
    intro s sgn hsign
    rw [Integer.read_eq_ok hsign hleading (Or.inl (by decide)) rfl, hvalue]
  rw [htext]
  by_cases hn : n < 0
  · have hsign : Integer.sign ((['-'] ++ (d :: ds).map capital).dropWhile Digit.isBlank) =
        (-1, (d :: ds).map capital) := rfl
    rw [if_pos hn, hread hsign]
    congr 1
    omega
  · have hsign : Integer.sign (((d :: ds).map capital).dropWhile Digit.isBlank) =
        (1, (d :: ds).map capital) := by
      rw [List.map_cons, List.dropWhile_cons_of_neg, Integer.sign_cons]
      · exact capital_ne d hd '-' (by decide)
      · exact capital_ne d hd '+' (by decide)
      · rw [isBlank_capital d hd]
        exact Bool.false_ne_true
    rw [if_neg hn, List.nil_append, hread hsign]
    congr 1
    omega

/-! ### Lengths -/

/-- A numeral is at least as wide as it is asked to be. -/
theorem le_length_hex (width : Nat) (n : Int) : width ≤ (hex width n).toList.length := by
  unfold hex write
  simp only [String.toList_ofList, List.length_append, List.length_replicate]
  omega

/-- A numeral has the length that was asked for if its digits fit. -/
theorem length_hex {width n : Nat} (hwidth : 0 < width) (hn : n < 16 ^ width) :
    (hex width n).toList.length = width := by
  have hbody : (capitals n).length ≤ width := by
    unfold capitals
    rw [List.length_map]
    exact (Nat.length_toDigits_le_iff (by decide) hwidth).mpr hn
  have hsign : ¬ (n : Int) < 0 := by omega
  unfold hex write
  simp only [String.toList_ofList, List.length_append, List.length_replicate, if_neg hsign,
    String.toList_empty, List.length_nil, Int.natAbs_natCast]
  omega

end Padded

end Chip8
