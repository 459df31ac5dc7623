import Chip8.CallStack
import Chip8.Proofs.Action

/-!
# The Call Stack as a List

What a program can learn of the call stack is the list of return addresses in
use. Entering a subroutine puts one at its end and leaving takes it away, and
the leftovers in the slots beyond play no part.

An address is kept modulo 65536. For the addresses that come up while a
program runs, all of them at most 4096, nothing is lost by this.

## Main definitions

* `CallStack.live`: The return addresses in use as integers, oldest first.
* `CallStack.push`, `CallStack.dropTop`: The stack after entering and after
  leaving a subroutine.

## Theorems

* `CallStack.length_live`: There are as many as the depth says.
* `CallStack.live_push_mod`, `CallStack.live_push`, `CallStack.live_dropTop`: What is in
  use afterwards.
* `CallStack.call_eq`, `CallStack.pop_eq`: When either is refused.
-/

namespace Chip8

namespace CallStack

/-- The return addresses in use, oldest first. -/
def live (s : CallStack) : List Int :=
  s.toList.map fun a => (a.toNat : Int)

/-- The stack with one more address in use, if there is a slot for it. -/
def push (s : CallStack) (a : Int) : CallStack :=
  if h : s.depth < 16 then ⟨s.slots.set s.depth (BitVec.ofInt 16 a), s.depth + 1, h⟩ else s

/-- The stack without the latest address. Its slot keeps what it held. -/
def dropTop (s : CallStack) : CallStack :=
  ⟨s.slots, s.depth - 1, Nat.le_trans (Nat.sub_le s.depth 1) s.depth_le⟩

/-- There are as many addresses as the stack is deep. -/
theorem length_live (s : CallStack) : s.live.length = s.depth := by
  have := s.depth_le
  simp only [live, toList, List.length_map, List.length_take, Vector.length_toList]
  omega

/-- A call needs a free level. Without one it fails and leaves the stack alone. -/
theorem call_eq (s : CallStack) (a : Int) :
    call a s =
      if s.depth < 16 then .ok () (s.push a) else .error (.stackOverflow a) s := by
  unfold call push
  by_cases h : s.depth < 16
  · rw [dif_pos h, if_pos h, dif_pos h]
  · rw [dif_neg h, if_neg h]

/-- An address is put at the end, modulo 65536. -/
theorem live_push_mod {s : CallStack} (h : s.depth < 16) (a : Int) :
    (s.push a).live = s.live ++ [a % 65536] := by
  have hlen : s.depth < s.slots.toList.length := by
    rw [Vector.length_toList]
    exact h
  have hval : ((BitVec.ofInt 16 a).toNat : Int) = a % 65536 := by
    rw [BitVec.toNat_ofInt]
    omega
  unfold live toList push
  rw [dif_pos h]
  simp only []
  rw [Vector.toList_set, List.take_succ_eq_append_getElem (by rw [List.length_set]; exact hlen),
    List.take_set_of_le (Nat.le_refl _), List.getElem_set_self, List.map_append, List.map_cons,
    List.map_nil, hval]

/-- An address that fits in sixteen bits is put at the end as it is. -/
theorem live_push {s : CallStack} (h : s.depth < 16) {a : Int} (ha : 0 ≤ a ∧ a < 65536) :
    (s.push a).live = s.live ++ [a] := by
  rw [live_push_mod h, Int.emod_eq_of_lt ha.1 ha.2]

/-- With one more slot in use, the list has the address of that slot at its end. -/
theorem live_succ (slots : Vector (BitVec 16) 16) (d : Nat) (h : d + 1 ≤ 16) :
    (⟨slots, d + 1, h⟩ : CallStack).live =
      (⟨slots, d, Nat.le_of_succ_le h⟩ : CallStack).live ++ [(slots[d].toNat : Int)] := by
  have hlen : d < slots.toList.length := by
    rw [Vector.length_toList]
    omega
  unfold live toList
  simp only []
  rw [List.take_succ_eq_append_getElem hlen, List.map_append, List.map_cons, List.map_nil,
    Vector.getElem_toList]

/-- To drop the top is to take the last address away. -/
theorem live_dropTop (s : CallStack) : s.dropTop.live = s.live.dropLast := by
  rcases s with ⟨slots, depth, h⟩
  cases depth with
  | zero => rfl
  | succ d =>
      rw [live_succ, List.dropLast_concat]
      rfl

/-- Leaving the outermost level would change nothing. -/
theorem dropTop_of_live_eq_nil {s : CallStack} (h : s.live = []) : s.dropTop = s := by
  rcases s with ⟨slots, depth, hle⟩
  have hzero : depth = 0 := by
    have hlen := length_live ⟨slots, depth, hle⟩
    rw [h, List.length_nil] at hlen
    exact hlen.symm
  subst hzero
  rfl

/-- A return takes the last address, and fails without one. -/
theorem pop_eq (s : CallStack) :
    pop s =
      match s.live.getLast? with
      | some a => .ok a s.dropTop
      | none => .error .stackUnderflow s := by
  rcases s with ⟨slots, depth, h⟩
  cases depth with
  | zero => rfl
  | succ d =>
      rw [live_succ, List.getLast?_concat]
      rfl

end CallStack

end Chip8
