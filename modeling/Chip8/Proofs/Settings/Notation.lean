import Chip8.Proofs.Numeral.Notation
import Chip8.Settings.Reader

/-!
# Integers in Documents

Which integers the values of a document stand for.

A document may hold an integer itself or a text in which it is written. A text with the
mark of base sixteen in front is read in that base, and any other text in base ten. So the
mark decides which notation a text has to follow, and it does so only where it comes first.

What stands for no integer is refused, with the value in the wording.

## Theorems

* `Settings.isMarkedHex_iff`: The texts that are read in base sixteen.
* `Settings.denoted?_of_isDecimal`, `Settings.denoted?_of_isHexadecimal`,
  `Settings.denoted?_of_isMarkedLate`: The integer that a text stands for.
* `Settings.integer_of_none`: What stands for no integer is refused.
* `Settings.notations_agree`: All notations of an integer.
-/

namespace Chip8

namespace Settings

/-! ### Texts -/

/-- A text is marked by what it begins with. -/
theorem isMarkedHex_iff (s : List Char) :
    isMarkedHex s = true ↔ ∃ c r, s = '0' :: c :: r ∧ Integer.IsMark c := by
  unfold Integer.IsMark
  constructor
  · intro h
    unfold isMarkedHex at h
    split at h
    · rename_i c r
      rw [Bool.or_eq_true, beq_iff_eq, beq_iff_eq] at h
      exact ⟨c, r, rfl, h⟩
    · cases h
  · intro h
    rcases h with ⟨c, r, rfl, rfl | rfl⟩ <;> rfl

/-- A numeral in base sixteen stands for its integer. -/
theorem denoted?_of_isHexadecimal {n : Nat} {t : Text} (h : Integer.IsHexadecimal n t.chars) :
    denoted? (.text t) = some (n : Int) := by
  have hmarked : isMarkedHex t.chars = true := by
    generalize t.chars = s at h
    cases h with
    | intro hmark _ => exact (isMarkedHex_iff _).mpr ⟨_, _, rfl, hmark⟩
  unfold denoted? textInteger?
  simp only []
  rw [if_pos hmarked, Integer.read_of_isHexadecimal h]
  rfl

/-- A text is read in base ten if it can be. -/
theorem denoted?_of_isDecimal {n : Int} {t : Text} (h : Integer.IsDecimal n t.chars) :
    denoted? (.text t) = some n := by
  have hread := Integer.read_of_isDecimal h
  have hmarked : ¬ isMarkedHex t.chars = true := by
    intro hmarked
    rcases (isMarkedHex_iff _).mp hmarked with ⟨c, r, hchars, hmark⟩
    have hnone := Integer.read_of_mark (List.forall_mem_nil _) hmark r
    rw [hchars] at hread
    rw [List.nil_append, hread] at hnone
    cases hnone
  unfold denoted? textInteger?
  simp only []
  rw [if_neg hmarked, hread]
  rfl

/-- A mark behind a sign or a blank is none, and the text is no decimal either. -/
theorem denoted?_of_isMarkedLate {t : Text} (h : Integer.IsMarkedLate t.chars) :
    denoted? (.text t) = none := by
  unfold denoted? textInteger?
  simp only []
  generalize t.chars = s at h
  cases h with
  | @intro lead rest mark hne hlead hmark =>
      have hmarked : ¬ isMarkedHex (lead ++ '0' :: mark :: rest) = true := by
        intro hmarked
        rcases (isMarkedHex_iff _).mp hmarked with ⟨c, r, hchars, -⟩
        cases lead with
        | nil => exact hne rfl
        | cons z lead =>
            -- What comes first is a sign or white space, and no zero.
            have hz := hlead z List.mem_cons_self
            rw [(List.cons.inj hchars).1] at hz
            exact absurd hz (by decide)
      rw [if_neg hmarked, Integer.read_of_mark hlead hmark]
      rfl

/-! ### Values -/

/-- Values that refer to nothing, and are none of the integers that may be too long to be
    written. -/
inductive IsPlain : Value → Prop
  | null : IsPlain .null
  | bool (b : Bool) : IsPlain (.bool b)
  | real (x : Float) : IsPlain (.real x)
  | text (t : Text) : IsPlain (.text t)

/-- Plain values refer to nothing. -/
theorem view_of_isPlain {v : Value} (h : IsPlain v) (d : Document) : d.view v = v := by
  unfold Document.view Document.viewFrom
  cases h <;> simp only [Value.expand]

theorem isWritable_of_isPlain {v : Value} (h : IsPlain v) : v.isWritable = true := by
  cases h <;> simp only [Value.isWritable]

/-- What stands for no integer is refused with the value in the wording. -/
theorem integer_of_none {d : Document} {v : Value} (h : IsPlain v) (hnone : denoted? v = none) :
    integer d v = .error (.notInteger v) := by
  unfold integer Refusal.raise Refusal.isWritable
  simp only [hnone, view_of_isPlain h d, isWritable_of_isPlain h, if_true]

theorem integer_of_some {d : Document} {v : Value} {n : Int} (h : denoted? v = some n) :
    integer d v = .ok n := by
  unfold integer
  rw [h]

/-- An integer is read as itself. A text is read as an integer in each of its notations, of
    at most 4300 digits in base ten and of any length in base sixteen. A text with the mark
    behind signs or white space is refused, and so are truth values, fractions and nothing at
    all. -/
theorem notations_agree (d : Document) :
    (∀ n, integer d (.integer n) = .ok n) ∧
      (∀ (n : Int) (t : Text), Integer.IsDecimal n t.chars → integer d (.text t) = .ok n) ∧
      (∀ (n : Nat) (t : Text), Integer.IsHexadecimal n t.chars → integer d (.text t) = .ok n) ∧
      (∀ t : Text, Integer.IsMarkedLate t.chars →
        integer d (.text t) = .error (.notInteger (.text t))) ∧
      (∀ b, integer d (.bool b) = .error (.notInteger (.bool b))) ∧
      (∀ x, integer d (.real x) = .error (.notInteger (.real x))) ∧
      integer d .null = .error (.notInteger .null) := by
  refine ⟨?_, ?_, ?_, ?_, ?_, ?_, ?_⟩
  · intro n
    exact integer_of_some rfl
  · intro n t h
    exact integer_of_some (denoted?_of_isDecimal h)
  · intro n t h
    exact integer_of_some (denoted?_of_isHexadecimal h)
  · intro t h
    exact integer_of_none (.text t) (denoted?_of_isMarkedLate h)
  · intro b
    exact integer_of_none (.bool b) rfl
  · intro x
    exact integer_of_none (.real x) rfl
  · exact integer_of_none .null rfl

/-- Forty-two, in base ten between blanks and with an underscore, and in base sixteen with
    letters of both sizes. The same with a sign in front of the mark is no integer. -/
theorem forty_two_agrees :
    let d := Document.ofValue .null
    integer d (.text "\t+0_42 ") = .ok 42 ∧ integer d (.text "0X02a") = .ok 42 ∧
      integer d (.text "+0x2A") = .error (.notInteger (.text "+0x2A")) := by
  intro d
  have hdecimal : Integer.IsDecimal 42 ("\t+0_42 " : Text).chars :=
    @Integer.IsDecimal.intro 42 ['\t'] ['+'] [' '] [['0'], ['4', '2']] 1
      (List.forall_mem_singleton.mpr (by decide)) (.plus (by decide)) (by decide) rfl
      (by decide) (List.forall_mem_singleton.mpr (by decide))
  have hhexadecimal : Integer.IsHexadecimal 42 ("0X02a" : Text).chars :=
    @Integer.IsHexadecimal.intro 42 'X' ['0', '2', 'a'] 1 (Or.inr rfl) rfl
  have hlate : Integer.IsMarkedLate ("+0x2A" : Text).chars :=
    @Integer.IsMarkedLate.intro ['+'] ['2', 'A'] 'x' (by decide)
      (List.forall_mem_singleton.mpr (by decide)) (Or.inl rfl)
  rcases notations_agree d with ⟨-, hten, hsixteen, hrefused, -⟩
  exact ⟨hten 42 _ hdecimal, hsixteen 42 _ hhexadecimal, hrefused _ hlate⟩

end Settings

end Chip8
