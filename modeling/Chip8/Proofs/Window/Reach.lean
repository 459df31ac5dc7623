import Chip8.Proofs.HostKey.Translation
import Chip8.Proofs.Window.Keys
import Chip8.Settings.Reader

/-!
# Keys in Reach

Which logical key goes down with the host key that is configured for one.

A user may give any of the sixteen keys another name, and the others keep theirs. That
can put a key out of reach: the new name of one may be the old name of another, and a host
key presses one logical key only. It is the last one that has the code of the name, in the
order of the layout. So a key answers to its own name as long as no key behind it has a
name with the same code, and otherwise the name presses that one.

## Theorems

* `Window.named_key_pressed`: What the name of a key presses.
* `Window.fourth_out_of_reach`: Not every key answers to its name.
-/

namespace Chip8

namespace Window

variable {ρ : Type} [Source ρ]

/-- Whichever names the host has for keys, and whatever the layout: the name of a logical
    key has a code, and this stands for the last logical key that has a name with the code.
    It is the key itself if and only if no later one has such a name. In a window with the
    layout, a host key with the code presses the key that it stands for and no other. -/
theorem named_key_pressed [KeyNames] {l : Layout} {b : Bindings}
    (h : Bindings.ofLayout l = .ok b) (k : Nibble) :
    ∃ (c : Nat) (j : Nibble), HostKey.code (l.name k) = .ok c ∧
      b.translate c = some (j.val : Int) ∧
      (l.Binds j c ∧ ∀ i, Layout.Before j i → ¬ l.Binds i c) ∧
      (j = k ↔ ∀ i, Layout.Before k i → ¬ l.Binds i c) ∧
      ∀ w : Window ρ, w.bindings = b → ∀ i : Nibble,
        (w.after (.press c false)).machine.keypad.isHeld i =
          if i = j then true else w.machine.keypad.isHeld i := by
  rcases Bindings.ofLayout_eq_ok_iff.mp h with ⟨codes, hcodes, -⟩
  have hown : l.Binds k (codes k) := ⟨codes k, hcodes k, rfl⟩
  rcases Bindings.exists_translate h hown with ⟨j, hj⟩
  have hlast := (Bindings.translate_eq_some_iff h _ j).mp hj
  refine ⟨codes k, j, hcodes k, hj, hlast, ⟨?_, fun hnone => ?_⟩, ?_⟩
  · rintro rfl
    exact hlast.2
  · -- Nothing behind the key has its code, so that the code stands for it.
    have hk := (Bindings.translate_eq_some_iff h _ k).mpr ⟨hown, hnone⟩
    rw [hj] at hk
    exact Fin.ext (Int.ofNat.inj (Option.some.inj hk))
  · rintro w rfl i
    change (w.keyReaction (codes k) true false).window.machine.keypad.isHeld i = _
    rw [isHeld_keyReaction (Bindings.logical_of_ofLayout h), hj]
    simp only [true_and, Option.some.injEq, Int.natCast_inj, Fin.val_inj, eq_comm]

/-- With the name of one key for two, the name presses the later of them and leaves the
    other as it is. -/
theorem shared_name_presses_later :
    let b : Bindings := Bindings.ofCodes (#v[0x58, 0x31, 0x32, 0x33, 0x51, 0x51, 0x45, 0x41, 0x53,
      0x44, 0x5A, 0x43, 0x34, 0x52, 0x46, 0x56] : Vector Nat 16).get
    Bindings.ofLayout (Layout.default.rename 5 "Q") = .ok b ∧
      HostKey.code ((Layout.default.rename 5 "Q").name 4) = .ok 0x51 ∧
      ∀ w : Window Replay, w.bindings = b → ∀ i : Nibble,
        (w.after (.press 0x51 false)).machine.keypad.isHeld i =
          if i = 5 then true else w.machine.keypad.isHeld i := by
  intro b
  have hb : Bindings.ofLayout (Layout.default.rename 5 "Q") = .ok b := by rfl
  have hcode : HostKey.code ((Layout.default.rename 5 "Q").name 4) = .ok 0x51 := by rfl
  rcases named_key_pressed (ρ := Replay) hb 4 with ⟨c, j, hc, hj, -, -, hpress⟩
  cases hc.symm.trans hcode
  have hfive : b.translate 0x51 = some 5 := by decide
  have hkey : j = 5 := Fin.ext (Int.ofNat.inj (Option.some.inj (hj.symm.trans hfive)))
  rw [hkey] at hpress
  exact ⟨hb, hcode, hpress⟩

/-- The key `4` does not answer to its name if a document gives the same to the key `5`. -/
theorem fourth_out_of_reach :
    ¬ ∀ (d : Document) (s : Settings) (b : Bindings) (k : Nibble) (c : Nat),
      Settings.read d = .ok s → Bindings.ofLayout s.layout = .ok b →
        HostKey.code (s.layout.name k) = .ok c → b.translate c = some (k.val : Int) := by
  intro hall
  have hread : Settings.read (.ofValue (.mapping [(.text "keymap",
      .mapping [(.integer 5, .text "Q")])])) =
        .ok { Settings.default with layout := Layout.default.rename 5 "Q" } := by rfl
  have hbindings : ∃ b, Bindings.ofLayout (Layout.default.rename 5 "Q") = .ok b ∧
      b.translate 0x51 = some 5 := ⟨_, rfl, by decide⟩
  rcases hbindings with ⟨b, hb, hfive⟩
  have hfour := hall _ _ b 4 0x51 hread hb (by rfl)
  exact absurd (hfive.symm.trans hfour) (by decide)

end Window

end Chip8
