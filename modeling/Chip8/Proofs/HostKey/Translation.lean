import Chip8.Proofs.HostKey
import Mathlib.Data.List.Nodup

/-!
# Translation of Codes

Which logical key a code of the host stands for.

Two names may well have one code: a name is found in small letters too, and nothing keeps
a user from giving one name to two keys. The bindings are searched from their end, so that
of the keys with one code the last one in the order of the layout has it, wherever in a
document it got its name. This is so for any host, whatever codes it has for names.

## Main definitions

* `Layout.Before`: The order of logical keys.
* `Layout.Binds`: A logical key has a name with some code.

## Theorems

* `find?_reverse_eq_some_iff`: The last member of a list that passes a test.
* `Bindings.translate_eq_some_iff`, `Bindings.translate_eq_none_iff`: What a code stands
  for.
* `Bindings.exists_translate`: A code that some key has stands for a key.
-/

namespace Chip8

/-- Without repetitions, the last member that passes a test is the one that passes it
    while no member behind it does. -/
theorem find?_reverse_eq_some_iff {α : Type} [DecidableEq α] {xs : List α} (hxs : xs.Nodup)
    (p : α → Bool) (x : α) :
    xs.reverse.find? p = some x ↔
      x ∈ xs ∧ p x = true ∧ ∀ y ∈ xs, xs.idxOf x < xs.idxOf y → p y = false := by
  induction xs generalizing x with
  | nil => exact iff_of_false nofun fun h => List.not_mem_nil h.1
  | cons a xs ih =>
      rcases List.nodup_cons.mp hxs with ⟨ha, hrest⟩
      -- The first member is in front of the others, and these keep their order.
      have hplace : ∀ y ∈ xs, (a :: xs).idxOf y = xs.idxOf y + 1 := fun y hy =>
        List.idxOf_cons_ne xs fun heq => ha (heq ▸ hy)
      have hfirst : (a :: xs).idxOf a = 0 := List.idxOf_cons_self
      rw [List.reverse_cons, List.find?_append]
      cases hfound : xs.reverse.find? p with
      | some z =>
          rcases (ih hrest z).mp hfound with ⟨hz, hpz, hlater⟩
          rw [Option.some_or, Option.some.injEq]
          constructor
          · rintro rfl
            refine ⟨List.mem_cons_of_mem a hz, hpz, fun y hy hlt => ?_⟩
            rcases List.mem_cons.mp hy with rfl | hy
            · omega
            · rw [hplace z hz, hplace y hy] at hlt
              exact hlater y hy (by omega)
          · rintro ⟨hx, hpx, hnone⟩
            rcases List.mem_cons.mp hx with rfl | hx
            · have hno := hnone z (List.mem_cons_of_mem x hz) (by rw [hfirst, hplace z hz]; omega)
              exact absurd hpz (Bool.eq_false_iff.mp hno)
            · have hlast : xs.reverse.find? p = some x := by
                refine (ih hrest x).mpr ⟨hx, hpx, fun y hy hlt => ?_⟩
                exact hnone y (List.mem_cons_of_mem a hy) (by rw [hplace x hx, hplace y hy]; omega)
              rw [hfound] at hlast
              exact Option.some.inj hlast
      | none =>
          have hnone : ∀ y ∈ xs, ¬ p y = true := fun y hy =>
            List.find?_eq_none.mp hfound y (List.mem_reverse.mpr hy)
          rw [Option.none_or, List.find?_singleton]
          constructor
          · intro h
            by_cases hpa : p a = true
            · rw [if_pos hpa] at h
              cases h
              refine ⟨List.mem_cons_self, hpa, fun y hy hlt => ?_⟩
              rcases List.mem_cons.mp hy with rfl | hy
              · omega
              · exact Bool.eq_false_iff.mpr (hnone y hy)
            · rw [if_neg hpa] at h
              cases h
          · rintro ⟨hx, hpx, -⟩
            rcases List.mem_cons.mp hx with rfl | hx
            · rw [if_pos hpx]
            · exact absurd hpx (hnone x hx)

namespace Layout

/-- A logical key is listed before another one. -/
def Before (j k : Nibble) : Prop :=
  order.idxOf j < order.idxOf k

instance (j k : Nibble) : Decidable (Before j k) :=
  inferInstanceAs (Decidable (_ < _))

/-- A logical key has a name with some code. -/
def Binds [KeyNames] (l : Layout) (k : Nibble) (code : Int) : Prop :=
  ∃ n : Nat, HostKey.code (l.name k) = .ok n ∧ (n : Int) = code

/-- No key is listed twice, so that a place in the order names a key. -/
theorem nodup_order : order.Nodup := by decide

/-- With its name looked up, a key binds just the code that was found. -/
theorem binds_iff [KeyNames] {l : Layout} {k : Nibble} {n : Nat}
    (h : HostKey.code (l.name k) = .ok n) (code : Int) : l.Binds k code ↔ (n : Int) = code := by
  unfold Binds
  rw [h]
  simp only [Except.ok.injEq, exists_eq_left']

end Layout

namespace Bindings

/-- The last of the keys that have a code is what it stands for. -/
theorem translate_ofCodes (codes : Nibble → Nat) (code : Int) :
    (ofCodes codes).translate code =
      (Layout.order.reverse.find? fun k => (codes k : Int) = code).map fun k => (k.val : Int) := by
  unfold translate ofCodes
  rw [← List.map_reverse, List.find?_map, Option.map_map]
  rfl

variable [KeyNames] {l : Layout} {b : Bindings}

/-- A code stands for a logical key if the name of the key has that code and no key that is
    listed later has a name with the same. -/
theorem translate_eq_some_iff (h : ofLayout l = .ok b) (code : Int) (k : Nibble) :
    b.translate code = some (k.val : Int) ↔
      l.Binds k code ∧ ∀ j, Layout.Before k j → ¬ l.Binds j code := by
  rcases ofLayout_eq_ok_iff.mp h with ⟨codes, hcodes, rfl⟩
  have hbinds : ∀ j, l.Binds j code ↔ (codes j : Int) = code := fun j =>
    Layout.binds_iff (hcodes j) code
  have hval : ∀ o : Option Nibble, o.map (fun k => (k.val : Int)) = some (k.val : Int) ↔
      o = some k := by
    intro o
    cases o with
    | none => exact iff_of_false nofun nofun
    | some j => simp only [Option.map_some, Option.some.injEq, Int.natCast_inj, Fin.val_inj]
  rw [translate_ofCodes, hval, find?_reverse_eq_some_iff Layout.nodup_order]
  simp only [hbinds, Layout.mem_order, true_and, true_imp_iff, decide_eq_true_eq,
    decide_eq_false_iff_not]
  exact Iff.rfl

/-- A code stands for nothing if no name has it. -/
theorem translate_eq_none_iff (h : ofLayout l = .ok b) (code : Int) :
    b.translate code = none ↔ ∀ k, ¬ l.Binds k code := by
  rcases ofLayout_eq_ok_iff.mp h with ⟨codes, hcodes, rfl⟩
  have hbinds : ∀ k, l.Binds k code ↔ (codes k : Int) = code := fun k =>
    Layout.binds_iff (hcodes k) code
  rw [translate_ofCodes, Option.map_eq_none_iff, List.find?_eq_none]
  simp only [hbinds, List.mem_reverse, Layout.mem_order, true_imp_iff, decide_eq_true_eq]

/-- A code that the name of some key has stands for a key. -/
theorem exists_translate (h : ofLayout l = .ok b) {k : Nibble} {code : Int}
    (hk : l.Binds k code) : ∃ j : Nibble, b.translate code = some (j.val : Int) := by
  cases ht : b.translate code with
  | none => exact absurd hk ((translate_eq_none_iff h code).mp ht k)
  | some key =>
      rcases logical_of_ofLayout h code key ht with ⟨j, rfl⟩
      exact ⟨j, rfl⟩

end Bindings

end Chip8
