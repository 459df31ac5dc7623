import Chip8.Proofs.Machine.Cycle

/-!
# Accesses All or Nothing

Memory and the two cursors as a bounded array, for integers of any size and sign.

Every access makes its tests before its first change: some look at the address first and some
at the bytes, but none has written anything when it is refused. So each of them comes with a
condition on its arguments under which it is done as a whole, and without which nothing
happens. Once the tests are passed the cells that are meant are all there, the last byte of a
block being looked at together with its first, and a negative address is no way round to the
cells at the end.

The conditions are put together in the order of the tests, and restated as bounds on numbers in
the end.

## Main definitions

* `Memory.Overlaid`: Numbers laid down in memory, and nothing else changed.
* `Machine.Wrote`: The same of a machine.

## Theorems

* `Memory.overlaid_place`: What laying bytes down comes to.
* `Memory.allOrNothing_read` and its kin: The accesses to memory.
* `Machine.allOrNothing_reading`, `Machine.allOrNothing_writing`: An access to memory is one to
  the machine.
* `Machine.accesses_all_or_nothing`: All accesses.
-/

namespace Chip8

namespace Memory

/-- What memory is after numbers have been laid down from an address on: the cells that they
    cover hold them, and the others what they held. -/
def Overlaid (m : Memory) (start : Int) (data : List Int) (m' : Memory) : Prop :=
  ∀ k : Nat, k < 4096 →
    Bytes.toInt (m'.cell k) =
      if start ≤ k ∧ k < start + data.length then data.getD (k - start).toNat 0
      else Bytes.toInt (m.cell k)

/-- Addresses in the wording of the statements below. -/
theorem isAddress_iff (a : Int) : IsAddress a ↔ 0 ≤ a ∧ a ≤ 4095 := by
  unfold IsAddress size
  omega

/-- Placed bytes are the only cells that change. -/
theorem overlaid_place (m : Memory) {start : Int} (hs : 0 ≤ start) {data : List Int}
    (h : ∀ v ∈ data, Bytes.IsByte v) :
    m.Overlaid start data (m.place start.toNat (data.map Bytes.ofInt)) := by
  intro k hk
  rw [cell_place m _ _ hk, List.length_map]
  by_cases hin : start ≤ k ∧ k < start + data.length
  · have hlt : k - start.toNat < data.length := by omega
    rw [if_pos hin, if_pos (by omega), show (k - start).toNat = k - start.toNat by omega,
      List.getD_eq_getElem?_getD, List.getD_eq_getElem?_getD, List.getElem?_map,
      List.getElem?_eq_getElem hlt, Option.map_some, Option.getD_some, Option.getD_some,
      Bytes.toInt_ofInt (h _ (List.getElem_mem hlt))]
  · rw [if_neg hin, if_neg (by omega)]

/-! ### Accesses to memory -/

/-- A read needs an address, and changes nothing. -/
theorem allOrNothing_read (m : Memory) (a : Int) :
    (read a).AllOrNothing m (IsAddress a) fun x m' => x = m.cell a.toNat ∧ m' = m := by
  have h : (read a).AllOrNothing m (IsAddress a ∧ True ∧ True) fun x m' =>
      x = m.cell a.toNat ∧ m' = m :=
    -- The accesses in their order, each of which has left things as they are.
    .bind (.check _ m) fun _ => .bind (.get m) fun _ => .pure _ m
  exact h.imp (by rw [and_true, and_true]) fun _ _ _ => id

/-- A write needs a byte as well. -/
theorem allOrNothing_write (m : Memory) (a v : Int) :
    (write a v).AllOrNothing m (IsAddress a ∧ Bytes.IsByte v) fun _ m' =>
      m.Overlaid a [v] m' := by
  have h : (write a v).AllOrNothing m (IsAddress a ∧ Bytes.IsByte v ∧ True) fun _ m' =>
      m' = m.place a.toNat [Bytes.ofInt v] :=
    .bind (.check _ m) fun _ => .bind (.check _ m) fun _ => .modify _ m
  refine h.imp (by rw [and_true]) fun _ m' hp hm' => ?_
  rw [hm']
  exact overlaid_place m hp.1.1 (List.forall_mem_singleton.mpr hp.2.1)

/-- A range is read as a whole: its end may be the end of memory, and not before its start. -/
theorem allOrNothing_readRange (m : Memory) (start stop : Int) :
    (readRange start stop).AllOrNothing m
      (start ≤ stop ∧ IsAddress start ∧ stop ≤ (size : Int)) fun bytes m' =>
        bytes = m.slice start.toNat (stop - start).toNat ∧ m' = m := by
  have h : (readRange start stop).AllOrNothing m
      (start ≤ stop ∧ IsAddress start ∧ stop ≤ (size : Int) ∧ True ∧ True) fun bytes m' =>
        bytes = (m.cells.toArray.extract start.toNat stop.toNat).toList ∧ m' = m :=
    .bind (.check _ m) fun _ => .bind (.check _ m) fun _ => .bind (.check _ m) fun _ =>
      .bind (.get m) fun _ => .pure _ m
  refine h.imp (by rw [and_true, and_true]) fun bytes m' hp hm' => ?_
  -- A range that is in order is a start and a length.
  rcases hp with ⟨horder, hs, hstop, -⟩
  have hlow : 0 ≤ start := hs.1
  have hfit : start.toNat + (stop - start).toNat ≤ 4096 := by
    unfold size at hstop
    omega
  rw [show stop.toNat = start.toNat + (stop - start).toNat by omega,
    extract_eq_slice m hfit] at hm'
  exact hm'

/-- A row of bytes is written as a whole, if its last cell is in memory too. -/
theorem allOrNothing_writeRange (m : Memory) (start : Int) (data : List Int) :
    (writeRange start data).AllOrNothing m
      ((∀ v ∈ data, Bytes.IsByte v) ∧ IsAddress start ∧ start + data.length ≤ (size : Int))
      fun _ m' => m.Overlaid start data m' := by
  have h : (writeRange start data).AllOrNothing m
      ((∀ v ∈ data, Bytes.IsByte v) ∧ IsAddress start ∧
        start + (data.map Bytes.ofInt).length ≤ (size : Int) ∧ True)
      fun _ m' => m' = m.place start.toNat (data.map Bytes.ofInt) :=
    -- The bytes are looked at before the address.
    .bind (.lift_ofInts data m) fun _ => .bind (.check _ m) fun _ => .bind (.check _ m) fun _ =>
      .modify _ m
  rw [List.length_map, and_true] at h
  refine h.imp Iff.rfl fun _ m' hp hm' => ?_
  rw [hm']
  exact overlaid_place m hp.2.1.1 hp.1

/-- A program image is loaded as a whole, from where programs start. -/
theorem allOrNothing_load (m : Memory) (image : List Int) :
    (load image).AllOrNothing m (image.length ≤ capacity ∧ ∀ v ∈ image, Bytes.IsByte v)
      fun _ m' => m.Overlaid programStart image m' := by
  have h : (load image).AllOrNothing m
      (image.length ≤ capacity ∧ (∀ v ∈ image, Bytes.IsByte v) ∧ True)
      fun _ m' => m' = m.place programStart (image.map Bytes.ofInt) :=
    -- The length is looked at before the bytes.
    .bind (.check _ m) fun _ => .bind (.lift_ofInts image m) fun _ => .modify _ m
  refine h.imp (by rw [and_true]) fun _ m' hp hm' => ?_
  rw [hm']
  exact overlaid_place m (Int.natCast_nonneg _) hp.2.1

end Memory

namespace Machine

variable {ρ : Type}

/-- A machine in which numbers have been laid down in memory from an address on, and nothing
    else has changed. -/
def Wrote (m : Machine ρ) (start : Int) (data : List Int) (m' : Machine ρ) : Prop :=
  m' = { m with memory := m'.memory } ∧ m.memory.Overlaid start data m'.memory

/-- What holds of reading memory holds of a machine that reads its memory. -/
theorem allOrNothing_reading {α : Type} {a : Action Memory α} {m : Machine ρ} {p : Prop} {x : α}
    (h : a.AllOrNothing m.memory p fun y mem => y = x ∧ mem = m.memory) :
    (onMemory a).AllOrNothing m p fun y m' => y = x ∧ m' = m := by
  refine (Action.AllOrNothing.on rfl h).imp Iff.rfl fun y m' _ hm' => ?_
  rcases hm' with ⟨mem, ⟨hy, rfl⟩, rfl⟩
  exact ⟨hy, rfl⟩

/-- The same for writing. -/
theorem allOrNothing_writing {a : Action Memory Unit} {m : Machine ρ} {p : Prop} {start : Int}
    {data : List Int}
    (h : a.AllOrNothing m.memory p fun _ mem => m.memory.Overlaid start data mem) :
    (onMemory a).AllOrNothing m p fun _ m' => m.Wrote start data m' := by
  refine (Action.AllOrNothing.on rfl h).imp Iff.rfl fun _ m' _ hm' => ?_
  rcases hm' with ⟨mem, hmem, rfl⟩
  exact ⟨rfl, hmem⟩

/-! ### Cursors -/

/-- A jump needs an address. -/
theorem allOrNothing_jump (m : Machine ρ) (a : Int) :
    (Machine.jump a).AllOrNothing m (Memory.IsAddress a) fun _ m' => m' = { m with pc := a } := by
  have h : (Machine.jump a).AllOrNothing m (Memory.IsAddress a ∧ True) fun _ m' =>
      m' = { m with pc := a } :=
    .bind (.check _ m) fun _ => .modify _ m
  exact h.imp (by rw [and_true]) fun _ _ _ => id

/-- A retreat has to end at zero or above. -/
theorem allOrNothing_retreat (m : Machine ρ) (n : Int) :
    (retreat n).AllOrNothing m (0 ≤ m.pc - n) fun _ m' => m' = { m with pc := m.pc - n } := by
  have h : (retreat n).AllOrNothing m (True ∧ 0 ≤ m.pc - n ∧ True) fun _ m' =>
      m' = { m with pc := m.pc - n } :=
    .bind (.get m) fun _ => .bind (.check _ m) fun _ => .modify _ m
  exact h.imp (by rw [and_true, true_and]) fun _ _ _ => id

/-- A fetch needs two cells, and goes past them. -/
theorem allOrNothing_fetch (m : Machine ρ) :
    fetch.AllOrNothing m m.CanFetch fun w m' => w = m.word ∧ m' = m.passed := by
  refine ⟨fun h => ⟨m.word, m.passed, ?_, rfl, rfl⟩, fun h => ⟨m.fetchFault, ?_⟩⟩
  · rw [fetch_eq, if_pos h]
  · rw [fetch_eq, if_neg h]

/-! ### Digits -/

/-- The digits of a number are bytes as long as its hundreds are. -/
theorem decimalDigits_isByte_iff (v : Int) :
    (∀ d ∈ decimalDigits v, Bytes.IsByte d) ↔ 0 ≤ v ∧ v ≤ 25599 := by
  unfold decimalDigits Bytes.IsByte
  simp only [List.forall_mem_cons, List.not_mem_nil, false_implies, implies_true, and_true]
  omega

/-- Up to 25599 the hundreds are a byte, since they are not reduced to a digit. So this
    is what can be stored, and not only the numbers of three digits. -/
theorem allOrNothing_storeDecimal (m : Machine ρ) (v : Int) :
    (storeDecimal v).AllOrNothing m
      ((0 ≤ v ∧ v ≤ 25599) ∧ Memory.IsAddress m.index ∧ m.index + 3 ≤ (Memory.size : Int))
      fun _ m' => m.Wrote m.index (decimalDigits v) m' := by
  have h : (storeDecimal v).AllOrNothing m
      (True ∧ (∀ d ∈ decimalDigits v, Bytes.IsByte d) ∧ Memory.IsAddress m.index ∧
        m.index + (decimalDigits v).length ≤ (Memory.size : Int))
      fun _ m' => m.Wrote m.index (decimalDigits v) m' :=
    .bind (.get m) fun _ => allOrNothing_writing (Memory.allOrNothing_writeRange _ _ _)
  rw [true_and, decimalDigits_isByte_iff] at h
  exact h

/-! ### All accesses -/

/-- Whatever memory holds and wherever the cursors are, each access is done as a whole if its
    arguments are in bounds, and refused without a trace if they are not. The bounds are those
    of the cells that are meant, so that no address is taken round the end. What is done changes
    the cells that are named, or the cursor, and nothing else. -/
theorem accesses_all_or_nothing (m : Machine ρ) :
    (∀ a, (onMemory (Memory.read a)).AllOrNothing m (0 ≤ a ∧ a ≤ 4095)
      fun x m' => x = m.memory.cell a.toNat ∧ m' = m) ∧
    (∀ a v, (onMemory (Memory.write a v)).AllOrNothing m
      ((0 ≤ a ∧ a ≤ 4095) ∧ 0 ≤ v ∧ v ≤ 255) fun _ m' => m.Wrote a [v] m') ∧
    (∀ start stop, (onMemory (Memory.readRange start stop)).AllOrNothing m
      ((0 ≤ start ∧ start ≤ 4095) ∧ start ≤ stop ∧ stop ≤ 4096)
      fun bytes m' => bytes = m.memory.slice start.toNat (stop - start).toNat ∧ m' = m) ∧
    (∀ start data, (onMemory (Memory.writeRange start data)).AllOrNothing m
      ((∀ v ∈ data, 0 ≤ v ∧ v ≤ 255) ∧ (0 ≤ start ∧ start ≤ 4095) ∧
        start + data.length ≤ 4096) fun _ m' => m.Wrote start data m') ∧
    (∀ image, (loadProgram image).AllOrNothing m
      (image.length ≤ 3584 ∧ ∀ v ∈ image, 0 ≤ v ∧ v ≤ 255) fun _ m' => m.Wrote 512 image m') ∧
    (∀ a, (Machine.jump a).AllOrNothing m (0 ≤ a ∧ a ≤ 4095)
      fun _ m' => m' = { m with pc := a }) ∧
    (∀ n, (advance n).AllOrNothing m True fun _ m' => m' = { m with pc := m.pc + n }) ∧
    (∀ n, (retreat n).AllOrNothing m (0 ≤ m.pc - n)
      fun _ m' => m' = { m with pc := m.pc - n }) ∧
    fetch.AllOrNothing m (0 ≤ m.pc ∧ m.pc ≤ 4094)
      (fun w m' =>
        w = 256 * Bytes.toInt (m.memory.cell m.pc.toNat) +
          Bytes.toInt (m.memory.cell (m.pc + 1).toNat) ∧
        m' = { m with pc := m.pc + 2 }) ∧
    (∀ v, (pointGlyph v).AllOrNothing m True
      fun _ m' => m' = { m with index := 80 + 5 * (v % 16) }) ∧
    ∀ v, (storeDecimal v).AllOrNothing m ((0 ≤ v ∧ v ≤ 25599) ∧ 0 ≤ m.index ∧ m.index ≤ 4093)
      fun _ m' => ∃ p q r : Int, 100 * p + 10 * q + r = v ∧ (0 ≤ q ∧ q ≤ 9) ∧ (0 ≤ r ∧ r ≤ 9) ∧
        m.Wrote m.index [p, q, r] m' := by
  refine ⟨fun a => ?_, fun a v => ?_, fun start stop => ?_, fun start data => ?_, fun image => ?_,
    fun a => ?_, fun n => .modify _ m, allOrNothing_retreat m, ?_, fun v => .modify _ m,
    fun v => ?_⟩
  · rw [← Memory.isAddress_iff]
    exact allOrNothing_reading (Memory.allOrNothing_read _ a)
  · rw [← Memory.isAddress_iff]
    exact allOrNothing_writing (Memory.allOrNothing_write _ a v)
  · rw [← Memory.isAddress_iff, and_left_comm]
    exact allOrNothing_reading (Memory.allOrNothing_readRange _ start stop)
  · rw [← Memory.isAddress_iff]
    exact allOrNothing_writing (Memory.allOrNothing_writeRange _ start data)
  · exact allOrNothing_writing (Memory.allOrNothing_load _ image)
  · rw [← Memory.isAddress_iff]
    exact allOrNothing_jump m a
  · exact (allOrNothing_fetch m).imp (by unfold CanFetch; omega) fun _ _ _ => id
  · refine (allOrNothing_storeDecimal m v).imp ?_ fun _ m' hp hm' => ?_
    · rw [Memory.isAddress_iff]
      unfold Memory.size
      omega
    · -- The hundreds are not reduced to a digit, so that the three make up the number.
      exact ⟨v / 100, v / 10 % 10, v % 10, by omega, by omega, by omega, hm'⟩

end Machine

end Chip8
