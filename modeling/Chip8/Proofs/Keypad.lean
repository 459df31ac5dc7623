import Chip8.Keypad
import Mathlib.Data.Finset.Max
import Mathlib.Order.Fin.Basic

/-!
# The Lowest Key

Waiting for a key looks at the keys in order and takes the first that is held,
which is the lowest of those held. A key that is pressed or released is the only
one that this changes anything about.

## Main definitions

* `Keypad.put`: The keypad with a key pressed or released.

## Theorems

* `Keypad.set_eq`, `Keypad.isHeld_put`: Pressing and releasing keys.
* `Keypad.lowest_eq_none`: There is none if no key is held.
* `Keypad.lowest_eq_some`: It is held, and no lower one is.
* `Keypad.lowest_eq_min'`: It is the least of the keys that are held.
-/

namespace Chip8

namespace Keypad

/-- The keypad with a key pressed or released. -/
def put (k : Keypad) (i : Fin 16) (pressed : Bool) : Keypad :=
  ⟨k.held.set i.val pressed⟩

/-- A key that there is can always be pressed or released. -/
theorem set_eq (k : Keypad) (i : Fin 16) (pressed : Bool) :
    set i.val pressed k = .ok () (k.put i pressed) := by
  have hkey : 0 ≤ (i.val : Int) ∧ (i.val : Int) < 16 := by omega
  unfold set
  rw [dif_pos hkey]
  rfl

/-- This changes the one key and no other. -/
theorem isHeld_put (k : Keypad) (i j : Fin 16) (pressed : Bool) :
    (k.put i pressed).isHeld j = if i = j then pressed else k.isHeld j := by
  change (k.held.set i.val pressed)[j.val] = _
  rw [Vector.getElem_set]
  by_cases h : i = j
  · rw [if_pos (congrArg Fin.val h), if_pos h]
  · rw [if_neg (fun hval => h (Fin.ext hval)), if_neg h]
    rfl

theorem isHeld_released (i : Fin 16) : released.isHeld i = false := by
  change (Vector.replicate 16 false)[i.val] = false
  exact Vector.getElem_replicate _

/-- If no key is found, none is held. -/
theorem lowest_eq_none {k : Keypad} (h : k.lowest = none) (i : Fin 16) : k.isHeld i = false := by
  unfold lowest at h
  rw [List.find?_eq_none] at h
  exact Bool.eq_false_iff.mpr (h i (List.mem_finRange i))

/-- The key that is found is held, and no lower one is. -/
theorem lowest_eq_some {k : Keypad} {i : Fin 16} (h : k.lowest = some i) :
    k.isHeld i = true ∧ ∀ j, k.isHeld j = true → i ≤ j := by
  unfold lowest at h
  rw [List.find?_eq_some_iff_getElem] at h
  rcases h with ⟨hheld, a, ha, hi, hbefore⟩
  refine ⟨hheld, ?_⟩
  intro j hj
  rw [List.getElem_finRange] at hi
  -- A held key before the one that was found would have been found instead.
  rcases Nat.lt_or_ge j.val a with hlt | hge
  · have hfree := hbefore j.val hlt
    rw [List.getElem_finRange] at hfree
    change (!k.isHeld j) = true at hfree
    rw [hj] at hfree
    cases hfree
  · rw [← hi]
    exact hge

theorem lowest_of_free {k : Keypad} (h : ∀ i, k.isHeld i = false) : k.lowest = none := by
  cases hlow : k.lowest with
  | none => rfl
  | some i =>
      have hheld := (lowest_eq_some hlow).1
      rw [h i] at hheld
      cases hheld

/-- The key that is found is the least of the keys that are held. -/
theorem lowest_eq_min' {k : Keypad} {S : Finset (Fin 16)} (hS : S.Nonempty)
    (h : ∀ i, k.isHeld i = true ↔ i ∈ S) : k.lowest = some (S.min' hS) := by
  have hmin : k.isHeld (S.min' hS) = true := (h _).mpr (S.min'_mem hS)
  cases hlow : k.lowest with
  | none =>
      rw [lowest_eq_none hlow] at hmin
      cases hmin
  | some i =>
      rcases lowest_eq_some hlow with ⟨hheld, hleast⟩
      exact congrArg some (le_antisymm (hleast _ hmin) (S.min'_le i ((h i).mp hheld)))

end Keypad

end Chip8
