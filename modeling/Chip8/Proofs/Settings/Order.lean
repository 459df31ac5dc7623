import Chip8.Proofs.HostKey.Translation
import Chip8.Proofs.Settings

/-!
# Order of Entries

What the order means in which a document lists the names of keys.

Entries on different keys do not interfere: each changes the name of its own key, and the
layout that they leave does not depend on which came first. Bindings are then made in the
order of the layout and not in that of the entries. So which of several keys with one code
has it is settled by the layout alone.

For two entries on one key the order counts, since the later name replaces the earlier
one. Here the keys of the entries stand for different numbers, or for none.

## Main definitions

* `Document.found`: What a document has under a name.
* `Document.assign`: A document with another value under a name of its top.
* `Settings.Distinct`: The keys of entries stand for different numbers.
* `Bindings.AskedBy`: A document asks for these bindings.

## Theorems

* `find?_perm`: A search for something unique does not depend on the order.
* `Value.find?_insert`: Looking up what has been put in.
* `Document.view_eq`: What is seen of a value depends on the places only.
* `Settings.hostName_perm`: Names of keys do not depend on the order.
* `Settings.read_reordered`: Neither does what a document is read as.
* `Settings.reordered_bind_alike`: Bindings over all orders.
-/

namespace Chip8

/-- If no two members have the same value, the search for a value finds the same one in
    every order. -/
theorem find?_perm {α β : Type} [DecidableEq β] (f : α → Option β) {xs ys : List α}
    (h : xs.Perm ys) (hxs : (xs.filterMap f).Nodup) (b : β) :
    xs.find? (fun x => f x = some b) = ys.find? fun x => f x = some b := by
  induction h with
  | nil => rfl
  | cons x _ ih =>
      have hrest := hxs.sublist ((List.sublist_cons_self x _).filterMap f)
      rw [List.find?_cons, List.find?_cons, ih hrest]
  | swap x y xs =>
      by_cases hx : f x = some b
      · have hy : f y ≠ some b := by
          intro hy
          rw [List.filterMap_cons_some hy, List.filterMap_cons_some hx] at hxs
          exact (List.nodup_cons.mp hxs).1 List.mem_cons_self
        simp only [List.find?_cons, hx, hy, decide_true, decide_false]
      · simp only [List.find?_cons, hx, decide_false]
  | trans h₁ _ ih₁ ih₂ =>
      rw [ih₁ hxs, ih₂ ((h₁.filterMap f).nodup_iff.mp hxs)]

namespace Value

theorem sameKey_text (t : Text) (k : Value) : sameKey (.text t) k = true ↔ k = .text t := by
  cases k with
  | text s =>
      change (t == s) = true ↔ _
      rw [beq_iff_eq, Value.text.injEq]
      exact eq_comm
  | real x =>
      -- A fraction may be an integer, but a text is none.
      unfold sameKey
      cases (real x).integral? with
      | none => exact iff_of_false nofun nofun
      | some n => exact iff_of_false nofun nofun
  | _ => exact iff_of_false nofun nofun

/-- What has been put in under a name is found under it, and what is found under the
    others stays the same. -/
theorem find?_insert (name other : String) (v : Value) (es : Entries) :
    find? other (insert (.text name) v es) =
      if (name : Text) = (other : Text) then some v else find? other es := by
  unfold insert
  induction es with
  | nil => rfl
  | cons e es ih =>
      rcases e with ⟨k, w⟩
      unfold insertBy
      by_cases hk : sameKey (.text name) k = true
      · rw [if_pos hk, (sameKey_text _ _).mp hk]
        simp only [find?]
        by_cases hname : (name : Text) = (other : Text)
        · rw [if_pos hname, if_pos hname]
        · rw [if_neg hname, if_neg hname, if_neg hname]
      · rw [if_neg hk]
        cases k with
        | text t =>
            have hother : t ≠ (name : Text) := fun h => hk ((sameKey_text _ _).mpr (congrArg _ h))
            simp only [find?, ih]
            by_cases ht : t = (other : Text)
            · rw [if_pos ht, if_pos ht, if_neg fun h => hother (ht.trans h.symm)]
            · rw [if_neg ht, if_neg ht]
        | _ => exact ih

end Value

namespace Document

/-- What a document has under a name. -/
def found (d : Document) (name : String) : Option Value :=
  (Value.find? name d.top).map d.resolve

/-- A document with another value under a name of its top. -/
def assign (d : Document) (name : String) (v : Value) : Document :=
  { d with root := .mapping (Value.insert (.text name) v d.top) }

theorem top_assign (d : Document) (name : String) (v : Value) :
    (d.assign name v).top = Value.insert (.text name) v d.top := rfl

/-- What is seen of a value depends on what stands at the places, and on nothing else of
    the document. -/
theorem view_eq {d d' : Document} (h : d'.places = d.places) (v : Value) :
    d'.view v = d.view v := by
  have hfrom : ∀ fuel above v, d'.viewFrom fuel above v = d.viewFrom fuel above v := by
    intro fuel
    induction fuel with
    | zero => exact fun _ _ => rfl
    | succ fuel ih =>
        intro above v
        have hplace : ∀ p, d'.atPlace p = d.atPlace p := fun p => by rw [atPlace, atPlace, h]
        simp only [viewFrom, ih, hplace]
  unfold view
  rw [h, hfrom]

theorem resolve_assign (d : Document) (name : String) (v w : Value) :
    (d.assign name v).resolve w = d.resolve w := by
  cases w <;> rfl

theorem under_of_found {d : Document} {name : String} {es : Value.Entries}
    (h : d.found name = some (.mapping es)) : d.under name = es := by
  change ((d.found name).map Value.content).getD [] = es
  rw [h]
  rfl

theorem under_congr {d d' : Document} {name : String} (h : d'.found name = d.found name) :
    d'.under name = d.under name :=
  congrArg (fun o => (o.map Value.content).getD []) h

theorem allowsSection_of_found {d : Document} {name : String} {es : Value.Entries}
    (h : d.found name = some (.mapping es)) : d.AllowsSection name := by
  intro v hv
  cases h.symm.trans hv
  exact Or.inr ⟨es, rfl⟩

theorem allowsSection_congr {d d' : Document} {name : String} (h : d'.found name = d.found name) :
    d'.AllowsSection name ↔ d.AllowsSection name := by
  change (∀ v, d'.found name = some v → _) ↔ ∀ v, d.found name = some v → _
  rw [h]

/-- Such a document has the value that has been put in, and otherwise the same as the
    other one. -/
theorem found_assign (d : Document) (name other : String) (v : Value) :
    (d.assign name v).found other =
      if (name : Text) = (other : Text) then some (d.resolve v) else d.found other := by
  unfold found
  rw [top_assign, Value.find?_insert, funext (d.resolve_assign name v)]
  by_cases hname : (name : Text) = (other : Text)
  · rw [if_pos hname, if_pos hname]
    rfl
  · rw [if_neg hname, if_neg hname]

/-- Only a mapping has something under a name. -/
theorem root_of_found {d : Document} {name : String} {v : Value} (h : d.found name = some v) :
    ∃ es, d.resolve d.root = .mapping es := by
  unfold found top at h
  cases hroot : d.resolve d.root with
  | mapping es => exact ⟨es, rfl⟩
  | _ =>
      rw [hroot] at h
      cases h

end Document

namespace Settings

/-- The keys of entries stand for different numbers, or for none. -/
def Distinct (es : Value.Entries) : Prop :=
  (es.filterMap fun e => denoted? e.1).Nodup

instance (es : Value.Entries) : Decidable (Distinct es) :=
  inferInstanceAs (Decidable (List.Nodup _))

variable {d d' : Document} {es es' : Value.Entries}

/-! ### Documents with the same places -/

theorem isShown_iff (h : d'.places = d.places) (v : Value) (t : Text) :
    IsShown d' v t ↔ IsShown d v t := by
  unfold IsShown
  rw [Document.view_eq h]

theorem displayOf_iff (h : d'.places = d.places) (x : Display) :
    DisplayOf d' es x ↔ DisplayOf d es x :=
  ⟨fun hx => ⟨hx.scale, hx.scale_pos, (isShown_iff h _ _).mp hx.foreground,
      (isShown_iff h _ _).mp hx.background⟩,
    fun hx => ⟨hx.scale, hx.scale_pos, (isShown_iff h _ _).mpr hx.foreground,
      (isShown_iff h _ _).mpr hx.background⟩⟩

/-! ### Entries in another order -/

/-- The names of keys do not depend on the order of the entries. -/
theorem hostName_perm (d : Document) (hperm : es.Perm es') (hes : Distinct es) (l : Layout)
    (k : Nibble) : hostName d es' l k = hostName d es l k := by
  have hreverse : es.reverse.Perm es'.reverse :=
    (List.reverse_perm es).trans (hperm.trans (List.reverse_perm es').symm)
  have hunique : (es.reverse.filterMap fun e => denoted? e.1).Nodup :=
    ((List.reverse_perm es).filterMap _).nodup_iff.mpr hes
  unfold hostName
  rw [find?_perm _ hreverse hunique]

/-- A section on keys asks for the same layout in every order. -/
theorem layoutOf_reordered (h : d'.places = d.places) (hperm : es.Perm es') (hes : Distinct es)
    (l : Layout) : LayoutOf d' es' l ↔ LayoutOf d es l := by
  have hview := funext (Document.view_eq h)
  have hkeys : (∀ e ∈ es', NamesKey d' e) ↔ ∀ e ∈ es, NamesKey d e := by
    simp only [NamesKey, hview, hperm.mem_iff]
  have hname : ∀ k, hostName d' es' Settings.default.layout k =
      hostName d es Settings.default.layout k := by
    intro k
    rw [← hostName_perm d hperm hes]
    unfold hostName
    rw [hview]
  constructor
  · exact fun hl => ⟨hkeys.mp hl.keys, fun k => (hl.name k).trans (hname k)⟩
  · exact fun hl => ⟨hkeys.mpr hl.keys, fun k => (hl.name k).trans (hname k).symm⟩

/-- Documents that differ in the order of the entries on keys ask for the same. -/
theorem readFrom_reordered (hplaces : d'.places = d.places)
    (hothers : ∀ name ∈ ["display", "timing"], d'.found name = d.found name)
    (hseed : Value.find? "rng_seed" d'.top = Value.find? "rng_seed" d.top)
    (hsection : d.found "keymap" = some (.mapping es))
    (hsection' : d'.found "keymap" = some (.mapping es'))
    (hperm : es.Perm es') (hes : Distinct es) (s : Settings) : ReadFrom d' s ↔ ReadFrom d s := by
  have hallows : ∀ name ∈ ["display", "timing", "keymap"],
      (d'.AllowsSection name ↔ d.AllowsSection name) := by
    intro name hname
    by_cases hother : name ∈ ["display", "timing"]
    · exact Document.allowsSection_congr (hothers name hother)
    · have hkeymap : name = "keymap" := by
        simp only [List.mem_cons, List.not_mem_nil, or_false] at hname hother
        tauto
      subst hkeymap
      exact iff_of_true (Document.allowsSection_of_found hsection')
        (Document.allowsSection_of_found hsection)
  have hseeds : SeedOf d'.top s.seed ↔ SeedOf d.top s.seed := by
    unfold SeedOf
    rw [hseed]
  have hdisplay : DisplayOf d' (d'.under "display") s.display ↔
      DisplayOf d (d.under "display") s.display := by
    rw [Document.under_congr (hothers "display" (by decide))]
    exact displayOf_iff hplaces s.display
  have htiming : TimingOf (d'.under "timing") s.timing ↔ TimingOf (d.under "timing") s.timing := by
    rw [Document.under_congr (hothers "timing" (by decide))]
  have hlayout : LayoutOf d' (d'.under "keymap") s.layout ↔
      LayoutOf d (d.under "keymap") s.layout := by
    rw [Document.under_of_found hsection, Document.under_of_found hsection']
    exact layoutOf_reordered hplaces hperm hes s.layout
  constructor
  · intro h
    exact ⟨fun name hname => (hallows name hname).mp (h.sections name hname),
      hdisplay.mp h.display, htiming.mp h.timing, hlayout.mp h.layout, hseeds.mp h.seed⟩
  · intro h
    exact ⟨fun name hname => (hallows name hname).mpr (h.sections name hname),
      hdisplay.mpr h.display, htiming.mpr h.timing, hlayout.mpr h.layout, hseeds.mpr h.seed⟩

/-- What a document is read as does not depend on the order of the entries on keys. -/
theorem read_reordered (hsection : d.found "keymap" = some (.mapping es)) (hperm : es.Perm es')
    (hes : Distinct es) (s : Settings) :
    read (d.assign "keymap" (.mapping es')) = .ok s ↔ read d = .ok s := by
  have hnames : ∀ name ∈ ["display", "timing", "rng_seed"],
      ("keymap" : Text) ≠ Text.ofString name := by
    decide
  have hplaces : (d.assign "keymap" (.mapping es')).places = d.places := rfl
  have hown : (d.assign "keymap" (.mapping es')).found "keymap" = some (.mapping es') :=
    (d.found_assign _ _ _).trans (if_pos rfl)
  have hothers : ∀ name ∈ ["display", "timing"],
      (d.assign "keymap" (.mapping es')).found name = d.found name := by
    intro name hname
    rw [d.found_assign, if_neg (hnames name (by simp only [List.mem_cons] at hname ⊢; tauto))]
  have hseed : Value.find? "rng_seed" (d.assign "keymap" (.mapping es')).top =
      Value.find? "rng_seed" d.top := by
    rw [d.top_assign, Value.find?_insert, if_neg (hnames "rng_seed" (by decide))]
  rw [read_eq_ok_iff, read_eq_ok_iff]
  exact and_congr (iff_of_true (Document.root_of_found hown) (Document.root_of_found hsection))
    (readFrom_reordered hplaces hothers hseed hsection hown hperm hes s)

end Settings

namespace Bindings

/-- A document asks for these bindings: they are those of the layout in its settings. -/
def AskedBy [KeyNames] (d : Document) (b : Bindings) : Prop :=
  ∃ s, Settings.read d = .ok s ∧ ofLayout s.layout = .ok b

end Bindings

namespace Settings

/-- Whichever names the host has for keys: a section on keys, the keys of which stand for
    different numbers, gives the same bindings in every order of its entries, or none in any.
    In the bindings of a document, whether it has such a section or not, a code stands for
    the last logical key of the layout that has a name with the code, and for none if there
    is no such name. -/
theorem reordered_bind_alike [KeyNames] (d : Document) :
    (∀ es es' : Value.Entries, d.found "keymap" = some (.mapping es) → es.Perm es' →
      Distinct es → ∀ b : Bindings,
        b.AskedBy d ↔ b.AskedBy (d.assign "keymap" (.mapping es'))) ∧
    ∀ s b, read d = .ok s → Bindings.ofLayout s.layout = .ok b →
      (∀ (code : Int) (k : Nibble), b.translate code = some (k.val : Int) ↔
        s.layout.Binds k code ∧ ∀ j, Layout.Before k j → ¬ s.layout.Binds j code) ∧
      ∀ code, b.translate code = none ↔ ∀ k, ¬ s.layout.Binds k code := by
  refine ⟨fun es es' hsection hperm hes b => ?_, fun s b _ hlayout => ?_⟩
  · exact exists_congr fun s => and_congr_left fun _ => (read_reordered hsection hperm hes s).symm
  · exact ⟨Bindings.translate_eq_some_iff hlayout, Bindings.translate_eq_none_iff hlayout⟩

/-- Two keys that are given the name of a third, in either order: the name stands for the
    last of the three. -/
theorem exchanged_names_bind_alike :
    let es : Value.Entries := [(.integer 5, .text "Q"), (.text "0x6", .text "Q")]
    let es' : Value.Entries := [(.text "0x6", .text "Q"), (.integer 5, .text "Q")]
    let d := Document.ofValue (.mapping [(.text "keymap", .mapping es)])
    d.found "keymap" = some (.mapping es) ∧ es.Perm es' ∧ Distinct es ∧
      ∃ b : Bindings, b.AskedBy d ∧ b.AskedBy (d.assign "keymap" (.mapping es')) ∧
        b.translate 0x51 = some 6 := by
  intro es es' d
  have hperm : es.Perm es' := List.Perm.swap _ _ _
  have hdistinct : Distinct es := by decide
  rcases reordered_bind_alike d with ⟨hsame, -⟩
  have hread : ∃ b : Bindings, b.AskedBy d ∧ b.translate 0x51 = some 6 :=
    ⟨_, ⟨_, rfl, rfl⟩, by decide⟩
  rcases hread with ⟨b, hb, hlast⟩
  exact ⟨rfl, hperm, hdistinct, b, hb, (hsame es es' rfl hperm hdistinct b).mp hb, hlast⟩

end Settings

end Chip8
