import Chip8.Proofs.Registers

/-!
# Register Operations as a Whole

What the registers are after an operation on them, for integers of any size and sign.

An operation looks at the numbers of its registers first and at the values that it was given
after that. A number that no register has is refused as such, anything else as a misuse. As a
rule all tests have been made by the first write, so that an operation that is refused leaves
the registers as they were.

Storing a result with its flag takes two writes, each of which makes its own test. The
arithmetic of the machine comes up with bytes only, and there the second test is never failed.
A result that was made up elsewhere can have a flag that is no byte. By the time this is
noticed the result itself is in its register, and there it stays.

## Main definitions

* `Registers.stored`: A result and its flag in their registers.
* `Registers.Ends`: An operation is done, or is refused without a trace.
* `Registers.Splits`: A result that can be written, with a flag that cannot.

## Theorems

* `Registers.ends_read`, `Registers.ends_read_read`: Readings before an operation.
* `Registers.ends_write`, `Registers.ends_store`, `Registers.ends_load` and their kin: The
  operations.
* `Registers.store_of_splits`: What is left of a result without its flag.
* `Registers.operations_all_or_nothing`: All of them.
-/

namespace Chip8

namespace Registers

variable {α : Type}

/-- The registers with a result in one of them, and then its flag in VF. -/
def stored (r : Registers) (i : Int) (res : Flagged) : Registers :=
  (r.put i.toNat (Bytes.ofInt res.value)).put 15 (Bytes.ofInt res.flag)

/-- An operation for which `p` has to hold of numbers of registers and `q` of values is done if
    they do. Otherwise it is refused, for a number if one is wrong and for a value if not, and
    the registers are as they were. -/
structure Ends (r : Registers) (p q : Prop) (Q : α → Registers → Prop)
    (res : EStateM.Result Fault Registers α) : Prop where
  completes : p → q → ∃ x r', res = .ok x r' ∧ Q x r'
  noRegister : ¬ p → ∃ i, res = .error (.registerIndex i) r
  misused : p → ¬ q → ∃ m, res = .error (.misuse m) r

/-- A result that can be written to its register has a flag that cannot be written to VF. -/
def Splits (i : Int) (res : Flagged) : Prop :=
  IsIndex i ∧ Bytes.IsByte res.value ∧ ¬ Bytes.IsByte res.flag

variable {r : Registers} {p q : Prop} {Q : α → Registers → Prop}

theorem Ends.imp {p' : Prop} {res : EStateM.Result Fault Registers α} (h : r.Ends p q Q res)
    (hp : p' ↔ p) : r.Ends p' q Q res := by
  rw [propext hp]
  exact h

/-! ### Readings -/

theorem ends_done {x : α} {r' : Registers} (h : Q x r') : r.Ends True True Q (.ok x r') :=
  ⟨fun _ _ => ⟨x, r', rfl, h⟩, fun hfalse => absurd trivial hfalse,
    fun _ hfalse => absurd trivial hfalse⟩

/-- A reading is a test of a number and changes nothing. -/
theorem ends_read {i : Int} {k : UInt8 → Action Registers α}
    (h : IsIndex i → r.Ends p q Q (k (r.cell i.toNat) r)) :
    r.Ends (IsIndex i ∧ p) q Q ((read i >>= k) r) := by
  rw [Action.run_bind]
  by_cases hi : IsIndex i
  · rw [read_ok hi]
    exact (h hi).imp (and_iff_right hi)
  · rw [read_error hi]
    exact ⟨fun hboth => absurd hboth.1 hi, fun _ => ⟨i, rfl⟩, fun hboth => absurd hboth.1 hi⟩

/-- Two reads in a row need both indices, and what follows need not look at them again. -/
theorem ends_read_read {a b : Int} {k : UInt8 → UInt8 → Action Registers α}
    (h : IsIndex a → IsIndex b → r.Ends True q Q (k (r.cell a.toNat) (r.cell b.toNat) r)) :
    r.Ends (IsIndex a ∧ IsIndex b) q Q ((read a >>= fun va => read b >>= k va) r) :=
  (ends_read fun ha => ends_read fun hb => h ha hb).imp (by rw [and_true])

/-! ### Writes -/

/-- A write needs its index first and its byte then. -/
theorem ends_write (r : Registers) (i v : Int) :
    r.Ends (IsIndex i) (Bytes.IsByte v) (fun _ r' => r' = r.put i.toNat (Bytes.ofInt v))
      (write i v r) :=
  ⟨fun hi hv => ⟨(), _, write_ok hi hv r, rfl⟩, fun hi => ⟨i, write_error hi v r⟩,
    fun hi hv => ⟨_, write_misuse hi hv r⟩⟩

/-- What refuses the result refuses the whole, and the flag is not looked at. -/
theorem store_of_write_error {i : Int} {res : Flagged} {f : Fault} {r' : Registers}
    (h : write i res.value r = .error f r') : store i res r = .error f r' := by
  unfold store
  rw [Action.run_bind, h]

/-- A result that is a value with a flag is stored whole, unless the value goes through
    and the flag does not. -/
theorem ends_store (r : Registers) {i : Int} {res : Flagged} (h : ¬ Splits i res) :
    r.Ends (IsIndex i) (Bytes.IsByte res.value) (fun x r' => x = res ∧ r' = r.stored i x)
      (store i res r) := by
  refine ⟨fun hi hv => ?_, fun hi => ?_, fun hi hv => ?_⟩
  · have hf : Bytes.IsByte res.flag := Decidable.not_not.mp fun hno => h ⟨hi, hv, hno⟩
    exact ⟨res, _, store_ok hi hv hf r, rfl, rfl⟩
  · exact ⟨i, store_of_write_error (write_error hi res.value r)⟩
  · exact ⟨_, store_of_write_error (write_misuse hi hv r)⟩

/-- A flag that cannot be written is noticed when the result has been. -/
theorem store_of_splits (r : Registers) {i : Int} {res : Flagged} (h : Splits i res) :
    store i res r =
      .error (.misuse (.register res.flag)) (r.put i.toNat (Bytes.ofInt res.value)) := by
  rcases h with ⟨hi, hv, hf⟩
  unfold store
  rw [Action.run_bind, write_ok hi hv]
  simp only []
  rw [Action.run_bind, write_misuse isIndex_flag hf]

/-- A result of the machine's own arithmetic is stored with its flag. -/
theorem ends_arithmetic (r : Registers) {i : Int} {res : Flagged} (hi : IsIndex i)
    (h : Bytes.IsByte res.value ∧ Bytes.IsByte res.flag) :
    r.Ends True True (fun x r' => x = res ∧ r' = r.stored i x) (store i res r) := by
  rw [store_ok hi h.1 h.2]
  exact ends_done ⟨rfl, rfl⟩

/-! ### Blocks -/

theorem ends_dump (r : Registers) (last : Int) :
    r.Ends (IsIndex last) True (fun x r' => x = r.upTo last.toNat ∧ r' = r) (dump last r) := by
  refine ⟨fun hi _ => ⟨_, r, dump_ok hi r, rfl, rfl⟩, fun hi => ⟨last, ?_⟩,
    fun _ hfalse => absurd trivial hfalse⟩
  unfold dump check
  rw [Action.run_bind, Action.run_check_neg hi]

theorem ends_load (r : Registers) (last : Int) (data : List Int) :
    r.Ends (IsIndex last) ((∀ v ∈ data, Bytes.IsByte v) ∧ data.length = last.toNat + 1)
      (fun _ r' => r' = r.fill (data.map Bytes.ofInt)) (load last data r) := by
  refine ⟨fun hi hq => ⟨(), _, load_ok hi hq.1 hq.2 r, rfl⟩, fun hi => ⟨last, ?_⟩,
    fun hi hq => ?_⟩
  · unfold load check
    rw [Action.run_bind, Action.run_check_neg hi]
  · -- The bytes are looked at first, and how many there are after that.
    unfold load check
    rw [Action.run_bind, Action.run_check_pos hi]
    simp only []
    rw [Action.run_bind]
    by_cases hd : ∀ v ∈ data, Bytes.IsByte v
    · have hl : ¬ (data.map Bytes.ofInt).length = last.toNat + 1 := by
        rw [List.length_map]
        exact fun hl => hq ⟨hd, hl⟩
      rw [Action.run_lift_ofInts hd]
      simp only []
      rw [Action.run_bind, Action.run_check_neg hl]
      exact ⟨_, rfl⟩
    · rw [Action.run_lift_notBytes hd]
      exact ⟨_, rfl⟩

/-! ### All operations -/

/-- Whatever the registers hold and whatever integers an operation is given, it is done as a
    whole, or it is refused and the registers are as they were. It is refused for a number that
    no register has, and otherwise for a value that is no byte or for the wrong count of bytes,
    and for nothing else. The exception is a result that comes with a flag that is no byte: if
    there is nothing wrong with the result, it is written before the flag is refused. -/
theorem operations_all_or_nothing (r : Registers) :
    (∀ i v, r.Ends (IsIndex i) (Bytes.IsByte v)
      (fun _ r' => r' = r.put i.toNat (Bytes.ofInt v)) (write i v r)) ∧
    (∀ i res, ¬ Splits i res → r.Ends (IsIndex i) (Bytes.IsByte res.value)
      (fun x r' => x = res ∧ r' = r.stored i x) (store i res r)) ∧
    (∀ i res, Splits i res → store i res r =
      .error (.misuse (.register res.flag)) (r.put i.toNat (Bytes.ofInt res.value))) ∧
    (∀ a b,
      let x := r.cell a.toNat
      let y := r.cell b.toNat
      let p := IsIndex a ∧ IsIndex b
      r.Ends p True (fun res r' => res = x ||| y ∧ r' = r) (Registers.or a b r) ∧
      r.Ends p True (fun res r' => res = x &&& y ∧ r' = r) (Registers.and a b r) ∧
      r.Ends p True (fun res r' => res = x ^^^ y ∧ r' = r) (Registers.xor a b r) ∧
      r.Ends p True (fun res r' => res = .add (Bytes.toInt x) (Bytes.toInt y) ∧
        r' = r.stored a res) (add a b r) ∧
      r.Ends p True (fun res r' => res = .sub (Bytes.toInt x) (Bytes.toInt y) ∧
        r' = r.stored a res) (sub a b r) ∧
      r.Ends p True (fun res r' => res = .sub (Bytes.toInt y) (Bytes.toInt x) ∧
        r' = r.stored a res) (subReverse a b r)) ∧
    (∀ i,
      let x := Bytes.toInt (r.cell i.toNat)
      r.Ends (IsIndex i) True (fun res r' => res = .shiftRight x ∧ r' = r.stored i res)
        (shiftRight i r) ∧
      r.Ends (IsIndex i) True (fun res r' => res = .shiftLeft x ∧ r' = r.stored i res)
        (shiftLeft i r)) ∧
    (∀ last, r.Ends (IsIndex last) True (fun bytes r' => bytes = r.upTo last.toNat ∧ r' = r)
      (dump last r)) ∧
    ∀ last data,
      r.Ends (IsIndex last) ((∀ v ∈ data, Bytes.IsByte v) ∧ data.length = last.toNat + 1)
        (fun _ r' => r' = r.fill (data.map Bytes.ofInt)) (load last data r) := by
  refine ⟨ends_write r, fun i res h => ends_store r h, fun i res h => store_of_splits r h,
    fun a b => ?_, fun i => ?_, ends_dump r, ends_load r⟩
  · -- A reading changes nothing, and the bytes that are read make bytes again.
    intro x y p
    refine ⟨?_, ?_, ?_, ?_, ?_, ?_⟩
    · exact ends_read_read fun _ _ => ends_done ⟨rfl, rfl⟩
    · exact ends_read_read fun _ _ => ends_done ⟨rfl, rfl⟩
    · exact ends_read_read fun _ _ => ends_done ⟨rfl, rfl⟩
    · exact ends_read_read fun ha _ => ends_arithmetic r ha (Flagged.isByte_add _ _)
    · exact ends_read_read fun ha _ => ends_arithmetic r ha (Flagged.isByte_sub _ _)
    · -- The second register is read first.
      exact (ends_read_read fun _ ha => ends_arithmetic r ha (Flagged.isByte_sub _ _)).imp and_comm
  · intro x
    refine ⟨?_, ?_⟩
    · exact (ends_read fun hi => ends_arithmetic r hi
        (Flagged.isByte_shiftRight (Bytes.isByte_toInt _))).imp (and_iff_left trivial).symm
    · exact (ends_read fun hi => ends_arithmetic r hi
        (Flagged.isByte_shiftLeft _)).imp (and_iff_left trivial).symm

/-- A result with a flag of 300 is neither stored nor refused without a trace. -/
theorem store_not_whole :
    ¬ ((∃ x r', store 0 ⟨5, 300⟩ initial = .ok x r') ∨
      ∃ f, store 0 ⟨5, 300⟩ initial = .error f initial) := by
  have hsplits : Splits 0 ⟨5, 300⟩ := ⟨by decide, by decide, by decide⟩
  rw [store_of_splits initial hsplits]
  rintro (⟨x, r', hok⟩ | ⟨f, herror⟩)
  · cases hok
  · rw [EStateM.Result.error.injEq] at herror
    exact absurd herror.2 (by decide)

end Registers

end Chip8
