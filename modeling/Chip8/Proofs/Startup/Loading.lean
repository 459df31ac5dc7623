import Chip8.Proofs.Settings
import Chip8.Startup

/-!
# Settings from Files

What the settings of a file have to do with those of the document in it.

A document is read only if it is a mapping. A file may also hold nothing, and nothing asks
for the defaults. But a file counts as holding nothing whenever its document is the zero of
its type, and the zeros of types other than mappings are no documents that would be read:
a truth value, a number, a text, a list, a tuple, a set and a row of bytes. Such a file has
the defaults for its settings where its document is refused.

In all other files the settings are those of the document, and so are the refusals. Which
documents files have is left to the reader of the host.

## Main definitions

* `Value.Vacant`: The values that a file counts as nothing, and that are no mapping.
* `Value.items?`: The items of a list.

## Theorems

* `Value.isEmpty_iff`: What counts as empty is vacant, or a mapping without entries.
* `Value.eq_list_nil`: A list that counts as empty has no items.
* `Settings.read_of_not_mapping`: What is no mapping is refused.
* `Settings.ofFile_of_vacant`, `Settings.ofFile_of_not_vacant`: The document of a file.
* `Startup.settingsOf_eq`: The settings of a file whose document is known.
* `Startup.loaded_as_read_iff`: Files that are read as their documents are.
-/

namespace Chip8

namespace Value

/-- Nothing, and the zeros of the types other than mappings. -/
inductive Vacant : Value → Prop
  | null : Vacant .null
  | untrue : Vacant (.bool false)
  | zero : Vacant (.integer 0)
  | zeroReal {x : Float} (h : (x == 0) = true) : Vacant (.real x)
  | noText : Vacant (.text "")
  | noItems : Vacant (.list [])
  | noPlaces : Vacant (.tuple [])
  | noMembers : Vacant (.set [])
  /-- The zero of another type, such as a row of no bytes. -/
  | zeroForeign {x : Foreign} (h : x.isZero = true) : Vacant (.foreign x)

/-- A value counts as empty if it is vacant, or a mapping without entries. -/
theorem isEmpty_iff (v : Value) : v.isEmpty = true ↔ v.Vacant ∨ v = .mapping [] := by
  constructor
  · intro h
    cases v with
    | null => exact Or.inl .null
    | bool b =>
        cases b with
        | false => exact Or.inl .untrue
        | true => cases h
    | integer n =>
        cases beq_iff_eq.mp h
        exact Or.inl .zero
    | real x => exact Or.inl (.zeroReal h)
    | text t =>
        rcases t with ⟨points⟩
        cases List.isEmpty_iff.mp h
        exact Or.inl .noText
    | list xs =>
        cases List.isEmpty_iff.mp h
        exact Or.inl .noItems
    | tuple xs =>
        cases List.isEmpty_iff.mp h
        exact Or.inl .noPlaces
    | set xs =>
        cases List.isEmpty_iff.mp h
        exact Or.inl .noMembers
    | foreign x => exact Or.inl (.zeroForeign h)
    | mapping es =>
        cases List.isEmpty_iff.mp h
        exact Or.inr rfl
    | date _ => cases h
    | moment _ => cases h
    | shared _ _ => cases h
  · intro h
    rcases h with hvacant | hmapping
    · cases hvacant with
      | zeroReal hx => exact hx
      | zeroForeign hx => exact hx
      | _ => rfl
    · rw [hmapping]
      rfl

theorem Vacant.ne_mapping {v : Value} (h : v.Vacant) (es : Entries) : v ≠ .mapping es := by
  intro heq
  rw [heq] at h
  cases h

/-- The items of a list. Other values have none. -/
def items? : Value → Option (List Value)
  | list xs => some xs
  | _ => none

theorem eq_list_nil {v : Value} (h : v.items?.any List.isEmpty = true) : v = .list [] := by
  cases v with
  | list xs =>
      cases List.isEmpty_iff.mp h
      rfl
  | _ => cases h

end Value

namespace Settings

variable {d : Document}

/-- A document that is no mapping is refused by the name of its type. -/
theorem read_of_not_mapping (h : ∀ es, d.resolve d.root ≠ .mapping es) :
    read d = .error (.rootKind (d.resolve d.root).kind) := by
  unfold read
  cases hroot : d.resolve d.root with
  | mapping es => exact absurd hroot (h es)
  | _ => rfl

/-- In a file it asks for the defaults if it is vacant. -/
theorem ofFile_of_vacant (h : (d.resolve d.root).Vacant) : ofFile d = .ok Settings.default :=
  ofFile_of_isEmpty ((Value.isEmpty_iff _).mpr (Or.inl h))

/-- Any other document is read as if it came from nowhere. -/
theorem ofFile_of_not_vacant (h : ¬ (d.resolve d.root).Vacant) : ofFile d = read d := by
  by_cases hempty : (d.resolve d.root).isEmpty = true
  · rcases (Value.isEmpty_iff _).mp hempty with hvacant | hmapping
    · exact absurd hvacant h
    · -- A mapping without entries makes no difference.
      rw [ofFile_of_isEmpty hempty, read_of_no_entries hmapping]
  · exact ofFile_of_not_isEmpty hempty

end Settings

namespace Startup

variable {bytes : ByteArray} {d : Document}

theorem settingsOf_eq [Host] {files : String → File} {path : String}
    (hcontent : contentOf files path = .ok bytes) (hdocument : Host.documentOf bytes = .ok d) :
    settingsOf files path = (Settings.ofFile d).mapError .settings := by
  have hread : (Host.documentOf bytes).mapError Refusal.document = .ok d := by
    rw [hdocument]
    rfl
  simp only [settingsOf, hcontent, hread, bind, Except.bind]

/-- Whichever document a reader finds in a file: the settings of the file are those of the
    document, and it is refused as the document is, unless the document is vacant. A vacant
    one is refused by itself, as it is no mapping, and in a file it asks for the defaults.
    Any other document that is no mapping is refused in a file as well, by the name of its
    type. -/
theorem loaded_as_read_iff [Host] (files : String → File) (path : String)
    (hcontent : contentOf files path = .ok bytes) (hdocument : Host.documentOf bytes = .ok d) :
    let v := d.resolve d.root
    (settingsOf files path = (Settings.read d).mapError .settings ↔ ¬ v.Vacant) ∧
      (v.Vacant → settingsOf files path = .ok Settings.default ∧
        Settings.read d = .error (.rootKind v.kind)) ∧
      (¬ v.Vacant → (∀ es, v ≠ .mapping es) →
        settingsOf files path = .error (.settings (.rootKind v.kind))) := by
  intro v
  rw [settingsOf_eq hcontent hdocument]
  have hvacant : v.Vacant → Settings.ofFile d = .ok Settings.default ∧
      Settings.read d = .error (.rootKind v.kind) := by
    intro h
    exact ⟨Settings.ofFile_of_vacant h, Settings.read_of_not_mapping h.ne_mapping⟩
  refine ⟨⟨?_, ?_⟩, ?_, ?_⟩
  · intro hsame h
    rcases hvacant h with ⟨hfile, hread⟩
    rw [hfile, hread] at hsame
    cases hsame
  · intro h
    rw [Settings.ofFile_of_not_vacant h]
  · intro h
    rcases hvacant h with ⟨hfile, hread⟩
    rw [hfile]
    exact ⟨rfl, hread⟩
  · intro h hroot
    rw [Settings.ofFile_of_not_vacant h, Settings.read_of_not_mapping hroot]
    rfl

/-! ### A list without items -/

theorem documentOf_brackets :
    ∃ d, Host.documentOf "[]\n".toUTF8 = .ok d ∧ d.resolve d.root = .list [] := by
  have hfound : (Host.documentOf "[]\n".toUTF8).toOption.any
      (fun d => (d.resolve d.root).items?.any List.isEmpty) = true := by
    decide +kernel
  rcases (Option.any_eq_true _ _).mp hfound with ⟨d, hd, hitems⟩
  exact ⟨d, (toOption_eq_some_iff _ _).mp hd, Value.eq_list_nil hitems⟩

/-- In a file, a list without items asks for the defaults. By itself it is refused. -/
theorem brackets_ask_for_defaults :
    settingsOf (fun _ => .content "[]\n".toUTF8) "settings" = .ok Settings.default ∧
      ∃ d, Host.documentOf "[]\n".toUTF8 = .ok d ∧
        Settings.read d = .error (.rootKind "list") := by
  rcases documentOf_brackets with ⟨d, hdocument, hroot⟩
  have hvacant : (d.resolve d.root).Vacant := by
    rw [hroot]
    exact .noItems
  rcases loaded_as_read_iff (fun _ => .content "[]\n".toUTF8) "settings" rfl hdocument with
    ⟨-, hdefaults, -⟩
  rcases hdefaults hvacant with ⟨hfile, hread⟩
  rw [hroot] at hread
  exact ⟨hfile, d, hdocument, hread⟩

/-- Not every file that holds something is read as its document is. -/
theorem not_all_loaded_as_read :
    ¬ ∀ (files : String → File) (path : String) (bytes : ByteArray) (d : Document),
        contentOf files path = .ok bytes → Host.documentOf bytes = .ok d →
        d.resolve d.root ≠ .null →
      settingsOf files path = (Settings.read d).mapError .settings := by
  intro hall
  rcases documentOf_brackets with ⟨d, hdocument, hroot⟩
  have hsame := hall (fun _ => .content "[]\n".toUTF8) "settings" _ d rfl hdocument
    (by rw [hroot]; nofun)
  rw [settingsOf_eq rfl hdocument, Settings.ofFile_of_vacant (by rw [hroot]; exact .noItems),
    Settings.read_of_not_mapping (by rw [hroot]; nofun)] at hsame
  cases hsame

end Startup

end Chip8
