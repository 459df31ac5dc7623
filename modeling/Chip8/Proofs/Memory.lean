import Chip8.Memory
import Chip8.Proofs.Action

/-!
# Memory Access

Each access to memory as an equation, and what a cell holds after a write.
An access to a block looks at where it starts and then at where it ends, and
nothing is written before both have been looked at; a block that is laid down
changes the cells that it covers and no others.

Reading a range that ends before it starts is a misuse. An instruction never
asks for one, since it gives a start and a length.

## Main definitions

* `Memory.slice`: The bytes of a block.
* `Memory.origin`: What a cell holds before a program has run.

## Theorems

* `Memory.ext_cell`: Memory is what its cells hold.
* `Memory.cell_place`: What a cell holds after a block has been laid down.
* `Memory.read_ok`, `Memory.read_error`: One cell.
* `Memory.readRange_eq`: A block is read if it lies inside memory.
* `Memory.writeBytes_eq`, `Memory.writeRange_eq`: A block is written if it
  lies inside memory.
* `Memory.load_ok`: An image of bytes that fits is laid down.
* `Memory.load_eq_ok`: No other image is.
* `Memory.cell_image`: What memory holds then.
-/

namespace Chip8

namespace Memory

/-- A memory is known by its cells. -/
theorem ext_cell {m m' : Memory} (h : ∀ a < 4096, m.cell a = m'.cell a) : m = m' := by
  rcases m with ⟨cells⟩
  rcases m' with ⟨cells'⟩
  refine congrArg Memory.mk (Vector.ext fun a ha => ?_)
  have hcell := h a ha
  unfold cell at hcell
  rwa [Vector.getElem?_eq_getElem ha, Vector.getElem?_eq_getElem ha] at hcell

/-- Laying a block down changes the cells that it covers and no others. -/
theorem cell_place (m : Memory) (start : Nat) (bytes : List UInt8) {k : Nat} (hk : k < 4096) :
    (m.place start bytes).cell k =
      if start ≤ k ∧ k < start + bytes.length then bytes.getD (k - start) 0 else m.cell k := by
  induction bytes generalizing m start with
  | nil =>
      rw [if_neg (by rw [List.length_nil]; omega)]
      rfl
  | cons b bs ih =>
      unfold place
      rw [ih]
      by_cases hlater : start + 1 ≤ k ∧ k < start + 1 + bs.length
      · rw [if_pos hlater, if_pos (by rw [List.length_cons]; omega),
          show k - start = k - (start + 1) + 1 by omega, List.getD_cons_succ]
      · rw [if_neg hlater]
        unfold cell
        simp only []
        rw [Vector.getElem?_setIfInBounds]
        by_cases hfirst : start = k
        · rw [if_pos hfirst, if_pos (by omega), if_pos (by rw [List.length_cons]; omega),
            show k - start = 0 by omega]
          rfl
        · rw [if_neg hfirst, if_neg (by rw [List.length_cons]; omega)]

/-! ### One cell -/

/-- Any cell can be read. -/
theorem read_ok {a : Int} (h : IsAddress a) (m : Memory) :
    read a m = .ok (m.cell a.toNat) m := by
  unfold read check
  rw [Action.run_bind, Action.run_check_pos h]
  rfl

/-- Outside memory there is nothing to read. -/
theorem read_error {a : Int} (h : ¬ IsAddress a) (m : Memory) :
    read a m = .error (.address a) m := by
  unfold read check
  rw [Action.run_bind, Action.run_check_neg h]

/-! ### Blocks -/

/-- The `n` bytes from `start` on. -/
def slice (m : Memory) (start n : Nat) : List UInt8 :=
  (List.range n).map fun j => m.cell (start + j)

/-- A slice is as long as it is asked for, even past the end of memory. -/
theorem length_slice (m : Memory) (start n : Nat) : (m.slice start n).length = n := by
  simp only [slice, List.length_map, List.length_range]

/-- Cells that are taken out of the array are a slice, as long as they are all there. -/
theorem extract_eq_slice (m : Memory) {start n : Nat} (h : start + n ≤ 4096) :
    (m.cells.toArray.extract start (start + n)).toList = m.slice start n := by
  apply List.ext_getElem
  · rw [length_slice, Array.length_toList, Array.size_extract, Vector.size_toArray]
    omega
  · intro j h1 h2
    rw [length_slice] at h2
    simp only [slice, List.getElem_map, List.getElem_range, Array.getElem_toList,
      Array.getElem_extract, cell]
    rw [Vector.getElem?_eq_getElem (by omega)]
    simp only [Option.getD_some, Vector.getElem_toArray]

/-- A block is read if it starts and ends inside memory. Where it starts is
    looked at first, also when it is empty. -/
theorem readRange_eq (m : Memory) (start : Int) (n : Nat) :
    readRange start (start + n) m =
      if IsAddress start then
        if start + n ≤ 4096 then .ok (m.slice start.toNat n) m
        else .error (.readPastEnd start (start + n)) m
      else .error (.address start) m := by
  unfold readRange check
  rw [Action.run_bind, Action.run_check_pos (by omega)]
  simp only []
  rw [Action.run_bind]
  by_cases hs : IsAddress start
  · rw [Action.run_check_pos hs, if_pos hs]
    simp only []
    rw [Action.run_bind]
    by_cases he : start + n ≤ 4096
    · have hsize : start + n ≤ (size : Int) := he
      have hfit : start.toNat + n ≤ 4096 := by
        unfold IsAddress at hs
        omega
      have hstop : (start + n).toNat = start.toNat + n := by
        unfold IsAddress at hs
        omega
      rw [Action.run_check_pos hsize, if_pos he]
      simp only []
      rw [Action.run_bind, Action.run_get]
      simp only []
      rw [Action.run_pure, hstop, extract_eq_slice m hfit]
    · have hsize : ¬ start + n ≤ (size : Int) := he
      rw [Action.run_check_neg hsize, if_neg he]
  · rw [Action.run_check_neg hs, if_neg hs]

/-- A block is written if it starts and ends inside memory, and not at all
    otherwise. -/
theorem writeBytes_eq (m : Memory) (start : Int) (bytes : List UInt8) :
    writeBytes start bytes m =
      if IsAddress start then
        if start + bytes.length ≤ 4096 then .ok () (m.place start.toNat bytes)
        else .error (.writePastEnd start bytes.length) m
      else .error (.address start) m := by
  unfold writeBytes check
  rw [Action.run_bind]
  by_cases hs : IsAddress start
  · rw [Action.run_check_pos hs, if_pos hs]
    simp only []
    rw [Action.run_bind]
    by_cases he : start + bytes.length ≤ 4096
    · have hsize : start + bytes.length ≤ (size : Int) := he
      rw [Action.run_check_pos hsize, if_pos he]
      rfl
    · have hsize : ¬ start + bytes.length ≤ (size : Int) := he
      rw [Action.run_check_neg hsize, if_neg he]
  · rw [Action.run_check_neg hs, if_neg hs]

/-- Integers that are bytes are written as these. -/
theorem writeRange_eq (m : Memory) (start : Int) {data : List Int}
    (h : ∀ v ∈ data, Bytes.IsByte v) :
    writeRange start data m = writeBytes start (data.map Bytes.ofInt) m := by
  unfold writeRange
  rw [Action.run_bind, Action.run_lift_ofInts h]

/-! ### Images -/

/-- An image that fits is placed where programs start. -/
theorem load_ok (m : Memory) {image : List Int} (hlen : image.length ≤ capacity)
    (h : ∀ v ∈ image, Bytes.IsByte v) :
    load image m = .ok () (m.place programStart (image.map Bytes.ofInt)) := by
  unfold load
  rw [Action.run_bind, Action.run_check_pos hlen]
  simp only []
  rw [Action.run_bind, Action.run_lift_ofInts h]
  rfl

/-- An image that is laid down fits and is made of bytes. -/
theorem load_eq_ok {m m' : Memory} {image : List Int} (h : load image m = .ok () m') :
    image.length ≤ capacity ∧ (∀ v ∈ image, Bytes.IsByte v) ∧
      m' = m.place programStart (image.map Bytes.ofInt) := by
  by_cases hlen : image.length ≤ capacity
  · by_cases hbytes : ∀ v ∈ image, Bytes.IsByte v
    · rw [load_ok m hlen hbytes] at h
      cases h
      exact ⟨hlen, hbytes, rfl⟩
    · unfold load at h
      rw [Action.run_bind, Action.run_check_pos hlen, Bytes.ofInts_eq_error hbytes] at h
      cases h
  · unfold load at h
    rw [Action.run_bind, Action.run_check_neg hlen] at h
    cases h

/-- What a cell holds before a program has run: a byte of the image, of a glyph,
    or zero. -/
def origin (image : List Int) (a : Nat) : Int :=
  if 0x200 ≤ a ∧ a < 0x200 + image.length then image.getD (a - 0x200) 0
  else if 0x50 ≤ a ∧ a < 0xA0 then Bytes.toInt (glyphs.getD (a - 0x50) 0)
  else 0

/-- At first there are the glyphs, and nothing else. -/
theorem cell_initial {k : Nat} (hk : k < 4096) :
    initial.cell k = if 0x50 ≤ k ∧ k < 0xA0 then glyphs.getD (k - 0x50) 0 else 0 := by
  have hzero : (⟨Vector.replicate 4096 0⟩ : Memory).cell k = 0 := by
    unfold cell
    simp only [Vector.getElem?_replicate, hk, if_true, Option.getD_some]
  unfold initial
  rw [cell_place _ _ _ hk, hzero]
  rfl

/-- Over these lies the image. -/
theorem cell_image {image : List Int} (h : ∀ v ∈ image, Bytes.IsByte v) {k : Nat}
    (hk : k < 4096) :
    Bytes.toInt ((initial.place programStart (image.map Bytes.ofInt)).cell k) =
      origin image k := by
  rw [cell_place _ _ _ hk, List.length_map]
  change Bytes.toInt (if 0x200 ≤ k ∧ k < 0x200 + image.length then _ else _) = _
  unfold origin
  by_cases hin : 0x200 ≤ k ∧ k < 0x200 + image.length
  · have hlt : k - 0x200 < image.length := by omega
    rw [if_pos hin, if_pos hin]
    change Bytes.toInt ((image.map Bytes.ofInt).getD (k - 0x200) 0) = _
    rw [List.getD_eq_getElem?_getD, List.getD_eq_getElem?_getD, List.getElem?_map,
      List.getElem?_eq_getElem hlt, Option.map_some, Option.getD_some, Option.getD_some,
      Bytes.toInt_ofInt (h _ (List.getElem_mem hlt))]
  · rw [if_neg hin, if_neg hin, cell_initial hk]
    by_cases hglyph : 0x50 ≤ k ∧ k < 0xA0
    · rw [if_pos hglyph, if_pos hglyph]
    · rw [if_neg hglyph, if_neg hglyph]
      rfl

end Memory

end Chip8
