import Chip8.Proofs.HostKey
import Chip8.Proofs.Settings
import Chip8.Proofs.Startup
import Chip8.Proofs.Window.Trace

/-!
# Precedence of Settings

With which settings a window is opened.

A start begins with the settings of the document that is named, or with the
defaults if none is. The scale, the rate of the cycles and the seed may be given on
the command line as well, and are then taken from there, a seed of zero included.
Everything else stays what the document asks for.

A document is read only if its scale and its rates are positive, and a number of
the command line that is not positive ends the start. The names of keys are looked
up before the window is made. So a window never has to do with a rate of zero or
with a key that nothing stands for, whichever names and whichever reader of
documents the host has.

## Main definitions

* `Startup.document`: The document that a start reads.
* `Startup.given`: The number that is given with an option.
* `Startup.Prevails`: The command line takes precedence over settings.
* `Startup.Sound`: Settings and keys that a window can be made of.

## Theorems

* `Startup.begun_eq`: A start begins with the settings of its document.
* `Startup.of_combine_eq_ok`: What the command line changes about them.
* `Startup.sound_of_prepare`: What is prepared is sound.
* `Startup.combine_of_nonpositive`: A number that is not positive is refused.
* `Startup.launch_of_combine_eq_error`, `Startup.launch_eq_opened_iff`: Starts that
  fail for their settings, and starts that open a window.
* `Startup.opened_with_settings`: The settings of a window that is opened.
-/

namespace Chip8

namespace Startup

/-! ### Precedence -/

/-- The document that a start reads. Where none is named there is nothing in it. -/
def document [Host] (files : String → File) (o : CommandLine.Options) :
    Except Refusal Document :=
  match named o with
  | some path => do
    let bytes ← contentOf files path
    (Host.documentOf bytes).mapError .document
  | none => .ok (.ofValue .null)

/-- The number that is given with an option, if one is. -/
def given : Option CommandLine.Amount → Option Int
  | some (.number n) => some n
  | _ => none

/-- Settings are the first ones with what the command line gives instead: the scale,
    the rate of the cycles and the seed, and nothing else. -/
structure Prevails (o : CommandLine.Options) (first s : Settings) : Prop where
  scale : (s.display.scale : Int) = (given o.scale).getD first.display.scale
  cycles : (s.timing.cyclesPerSecond : Int) = (given o.cps).getD first.timing.cyclesPerSecond
  seed : s.seed = (given o.seed).or first.seed
  rest :
    s =
      { first with
        display := { first.display with scale := s.display.scale }
        timing := { first.timing with cyclesPerSecond := s.timing.cyclesPerSecond }
        seed := s.seed }

/-- A start begins with the settings of the document that it reads. -/
theorem begun_eq [Host] (files : String → File) (o : CommandLine.Options) :
    begun files o = (do
      let d ← document files o
      (Settings.ofFile d).mapError .settings) := by
  unfold begun document
  cases named o with
  | none => rfl
  | some path =>
      unfold settingsOf
      simp only [bind_assoc]

/-- A choice puts the number that is given in the place of the one that is there. -/
theorem of_chosen_eq_ok {name : String} {choice : Option CommandLine.Amount}
    {put : Nat → Settings} {s s' : Settings} (n : Nat) (hput : put n = s)
    (h : chosen name choice put s = .ok s') :
    ∃ n' : Nat, s' = put n' ∧ (n' : Int) = (given choice).getD n ∧ (0 < n → 0 < n') := by
  unfold chosen at h
  cases choice with
  | none =>
      cases h
      exact ⟨n, hput.symm, rfl, fun hn => hn⟩
  | some a =>
      rcases (bind_eq_ok_iff _ _ _).mp h with ⟨n', hn', hdone⟩
      rcases (positive_eq_ok_iff _ _ _).mp hn' with ⟨k, rfl, hpos, rfl⟩
      cases hdone
      refine ⟨k.toNat, rfl, ?_, fun _ => by omega⟩
      change ((k.toNat : Nat) : Int) = k
      omega

/-- The command line takes precedence, and what was positive stays so. -/
theorem of_combine_eq_ok [Host] {files : String → File} {o : CommandLine.Options} {s : Settings}
    (h : combine files o = .ok s) :
    ∃ first, begun files o = .ok first ∧ Prevails o first s ∧
      (0 < first.display.scale → 0 < s.display.scale) ∧
      (0 < first.timing.cyclesPerSecond → 0 < s.timing.cyclesPerSecond) := by
  rw [combine_eq] at h
  rcases (bind_eq_ok_iff _ _ _).mp h with ⟨first, hfirst, h₁⟩
  rcases (bind_eq_ok_iff _ _ _).mp h₁ with ⟨s₁, hs₁, h₂⟩
  rcases (bind_eq_ok_iff _ _ _).mp h₂ with ⟨s₂, hs₂, hdone⟩
  -- The scale is put in first, then the rate, and neither touches what the other does.
  rcases of_chosen_eq_ok first.display.scale rfl hs₁ with ⟨scale, rfl, hscale, hscale_pos⟩
  rcases of_chosen_eq_ok first.timing.cyclesPerSecond rfl hs₂
    with ⟨cycles, rfl, hcycles, hcycles_pos⟩
  cases hdone
  refine ⟨first, hfirst, ⟨hscale, hcycles, ?_, rfl⟩, hscale_pos, hcycles_pos⟩
  -- Without a number there is only the seed that was there before.
  change seedOver o.seed first.seed = _
  cases o.seed with
  | none => rfl
  | some a => cases a <;> rfl

/-! ### Soundness -/

/-- Settings and keys that a window can be made of. -/
structure Sound [KeyNames] (s : Settings) (b : Bindings) : Prop where
  scale : 0 < s.display.scale
  cycles : 0 < s.timing.cyclesPerSecond
  frames : 0 < s.timing.framesPerSecond
  mode : s.timing.mode.name = "per_cycle" ∨ s.timing.mode.name = "60hz"
  /-- The keys are the numbers below sixteen, each of them once. -/
  keys : (b.codes.map Prod.fst).Perm ((List.range 16).map fun n => (n : Int))
  /-- Each of them is bound to the code of its name. -/
  codes : ∀ k, ∃ c, HostKey.code (s.layout.name k) = .ok c ∧ ((k.val : Int), c) ∈ b.codes

theorem random_prepared_load (s : Settings) (fallback : Int) (image : List Int) :
    (Machine.prepared s fallback [.load image]).random = .ofSeed (s.seed.getD fallback) := by
  unfold Machine.prepared
  rw [Machine.afterAll_cons, Machine.after_load]
  rfl

/-- Whatever is prepared is sound, on any host. -/
theorem sound_of_prepare [Host] [KeyNames] {files : String → File} {fallback : Int}
    {o : CommandLine.Options} {p : Prepared} (h : prepare files fallback o = .ok p) :
    ∃ d first, document files o = .ok d ∧ Settings.ofFile d = .ok first ∧
      Settings.ReadFrom d first ∧ Prevails o first p.settings ∧ Sound p.settings p.bindings := by
  rcases of_prepare_eq_ok h with ⟨hresolve, hkeys, -⟩
  rcases (bind_eq_ok_iff _ _ _).mp hresolve with ⟨s, hs, hrest⟩
  rcases (bind_eq_ok_iff _ _ _).mp hrest with ⟨u, -, hdone⟩
  cases hdone
  rcases of_combine_eq_ok hs with ⟨first, hbegun, hprevails, hscale, hcycles⟩
  rw [begun_eq] at hbegun
  rcases (bind_eq_ok_iff _ _ _).mp hbegun with ⟨d, hdocument, hread⟩
  rw [mapError_eq_ok_iff] at hread
  have hfrom : Settings.ReadFrom d first := Settings.readFrom_of_ofFile hread
  -- The rate of the frames is the only one that the command line cannot give.
  have hframes : p.settings.timing.framesPerSecond = first.timing.framesPerSecond := by
    rw [hprevails.rest]
  refine ⟨d, first, hdocument, hread, hfrom, hprevails, ?_⟩
  constructor
  · exact hscale hfrom.display.scale_pos
  · exact hcycles hfrom.timing.cycles_pos
  · rw [hframes]
    exact hfrom.timing.frames_pos
  · cases p.settings.timing.mode with
    | perCycle => exact Or.inl rfl
    | perFrame => exact Or.inr rfl
  · rw [Bindings.keys_of_ofLayout hkeys]
    decide
  · exact Bindings.code_of_ofLayout hkeys

/-! ### Numbers that are not positive -/

theorem positive_of_nonpositive {n : Int} (hn : n ≤ 0) (hwritable : Integer.isWritable n = true)
    (name : String) : positive name (.number n) = .error (.settings (.option name n)) := by
  refine (positive_eq_error_iff fun k hk => ?_).mpr (Or.inr ⟨n, rfl, hn, rfl⟩)
  cases hk
  exact hwritable

/-- A choice that is not blanked is positive, or it is a number that is not. -/
theorem nonpositive_of_not_isPositive {choice : Option CommandLine.Amount}
    (hblank : choice ≠ some .blank) (h : ¬ IsPositive choice) :
    ∃ n, choice = some (.number n) ∧ n ≤ 0 := by
  cases choice with
  | none => exact absurd nofun h
  | some a =>
      cases a with
      | blank => exact absurd rfl hblank
      | number n =>
          refine ⟨n, rfl, Int.not_lt.mp fun hpos => h fun a ha => ?_⟩
          exact ⟨n, (Option.some.inj ha).symm, hpos⟩

/-- Settings are refused for a number of the command line that is not positive, the
    scale before the rate. -/
theorem combine_of_nonpositive [Host] {files : String → File} {o : CommandLine.Options}
    {first : Settings} (hwritable : o.Writable) (hbegun : begun files o = .ok first)
    (hblank : o.scale ≠ some .blank) {n : Int} (hn : n ≤ 0)
    (h : o.scale = some (.number n) ∨ o.cps = some (.number n)) :
    ∃ name k, combine files o = .error (.settings (.option name k)) := by
  by_cases hscale : IsPositive o.scale
  · -- Then it is the rate that the number was given for.
    have hcps : o.cps = some (.number n) := by
      refine h.resolve_left fun hnumber => ?_
      rcases hscale _ hnumber with ⟨k, hk, hpos⟩
      cases hk
      omega
    have hbad := positive_of_nonpositive hn (hwritable n (by simp [hcps])) "--cps"
    exact ⟨_, n, (combine_eq_error_iff files o _).mpr
      (Or.inr ⟨first, hbegun, Or.inr ⟨hscale, _, hcps, hbad⟩⟩)⟩
  · rcases nonpositive_of_not_isPositive hblank hscale with ⟨k, hnumber, hk⟩
    have hbad := positive_of_nonpositive hk (hwritable k (by simp [hnumber])) "--scale"
    exact ⟨_, k, (combine_eq_error_iff files o _).mpr
      (Or.inr ⟨first, hbegun, Or.inl ⟨_, hnumber, hbad⟩⟩)⟩

theorem launch_of_combine_eq_error [Host] [KeyNames] [Palette] {files : String → File}
    {o : CommandLine.Options} {r : Refusal} (h : combine files o = .error r)
    (hreported : r.isReported = true) (fallback : Int) :
    launch files fallback o = .ok (.failed r) := by
  unfold launch
  rw [(prepare_eq_error_iff files fallback o r).mpr (Or.inl h)]
  exact if_pos hreported

/-! ### Windows that are opened -/

/-- A window is opened if and only if everything could be prepared. -/
theorem launch_eq_opened_iff [Host] [KeyNames] [Palette] (files : String → File)
    (fallback : Int) (o : CommandLine.Options) (size : Nat) (w : Window Generator) :
    launch files fallback o = .ok (.opened size w) ↔
      ∃ p, prepare files fallback o = .ok p ∧ p.size = size ∧
        (Window.make p.machine p.settings p.bindings).start = w := by
  unfold launch
  cases prepare files fallback o with
  | ok p =>
      simp only [Except.ok.injEq, Launch.opened.injEq, exists_eq_left']
  | error r =>
      simp only [reduceCtorEq, false_and, exists_false, iff_false]
      by_cases hreported : r.isReported = true
      · rw [if_pos hreported]
        nofun
      · rw [if_neg hreported]
        nofun

/-- On any host, a window that a command line opens has sound settings and keys. The
    settings are what its document asks for, or the defaults, with the scale, the rate
    and the seed of the command line in their place; the machine has the source and the
    timers that they ask for, and the window keeps the rates, none of which is zero,
    whatever happens to it. With a document that is read, a scale or a rate of the
    command line that is not positive ends the start with status one. -/
theorem opened_with_settings [Host] [KeyNames] [Palette] {arguments : List String}
    {o : CommandLine.Options} (h : CommandLine.parse arguments = .ok o) (files : String → File)
    (fallback : Int) :
    (∀ size w, launch files fallback o = .ok (.opened size w) →
      ∃ d first s b image,
        document files o = .ok d ∧ Settings.ofFile d = .ok first ∧ Settings.ReadFrom d first ∧
        Prevails o first s ∧ Sound s b ∧
        w = Window.opened s fallback [.load image] b ∧
        w.machine.random = .ofSeed (s.seed.getD fallback) ∧
        (w.machine.ticksByCycle = true ↔ s.timing.mode.name ≠ "60hz") ∧
        1 ≤ w.interval ∧
        ∀ events, (w.afterAll events).timing = s.timing ∧
          (w.afterAll events).timing.framesPerSecond ≠ 0) ∧
      ∀ first n, begun files o = .ok first → o.scale ≠ some .blank → n ≤ 0 →
        o.scale = some (.number n) ∨ o.cps = some (.number n) →
        ∃ r, launch files fallback o = .ok (.failed r) ∧ (Launch.failed r).status = 1 := by
  refine ⟨fun size w hopened => ?_, fun first n hbegun hblank hn hchoice => ?_⟩
  · rcases (launch_eq_opened_iff files fallback o size w).mp hopened with ⟨p, hprepare, -, rfl⟩
    rcases sound_of_prepare hprepare with ⟨d, first, hdocument, hread, hfrom, hprevails, hsound⟩
    rcases of_prepare_eq_ok hprepare with ⟨-, -, bytes, -, -, -, hmachine⟩
    refine ⟨d, first, p.settings, p.bindings, bytes.toList.map Bytes.toInt, hdocument, hread,
      hfrom, hprevails, hsound, ?_, ?_, ?_, Nat.le_max_left 1 _, fun events => ?_⟩
    · rw [hmachine]
      rfl
    · change p.machine.random = _
      rw [hmachine, random_prepared_load]
    · change p.machine.ticksByCycle = true ↔ _
      rw [hmachine, Machine.ticksByCycle_prepared]
      cases p.settings.timing.mode <;> decide
    · rw [Window.timing_afterAll]
      exact ⟨rfl, Nat.ne_of_gt hsound.frames⟩
  · have hwritable := CommandLine.writable_of_parse h
    rcases combine_of_nonpositive hwritable hbegun hblank hn hchoice with ⟨name, k, hrefused⟩
    exact ⟨_, launch_of_combine_eq_error hrefused rfl fallback, rfl⟩

theorem parse_zero_seed :
    CommandLine.parse ["game", "--config", "settings", "--scale", "3", "--seed", "0"] =
      .ok ⟨"game", some "settings", some (.number 3), none, some (.number 0), false⟩ := by
  decide +kernel

theorem parse_zero_rate :
    CommandLine.parse ["game", "--config", "settings", "--cps", "0"] =
      .ok ⟨"game", some "settings", none, some (.number 0), none, false⟩ := by
  decide +kernel

/-- A seed of zero takes the place of the one in the document, and a scale that of the
    default, while the mode is the document's. A rate of zero ends the start. -/
theorem zero_seed_prevails :
    let files : String → File := fun path => .content
      (if path = "settings" then "timing:\n  timer_mode: 60hz\nrng_seed: 7\n".toUTF8
        else ⟨#[0x12, 0x00]⟩)
    (∃ size w,
      launch files 5
          ⟨"game", some "settings", some (.number 3), none, some (.number 0), false⟩ =
        .ok (.opened size w) ∧
      w.timing = ⟨500, 60, .perFrame⟩ ∧ w.view.width = 64 * 3 ∧
      w.machine.random = .ofSeed 0 ∧ w.machine.ticksByCycle ≠ true) ∧
    ∃ r,
      launch files 5 ⟨"game", some "settings", none, some (.number 0), none, false⟩ =
        .ok (.failed r) ∧
      (Launch.failed r).status = 1 := by
  intro files
  constructor
  · have hrun : (match launch files 5
          ⟨"game", some "settings", some (.number 3), none, some (.number 0), false⟩ with
        | .ok (.opened _ w) => some (w.timing, w.view.width)
        | _ => none) = some (⟨500, 60, .perFrame⟩, 64 * 3) := by
      decide +kernel
    have hall := (opened_with_settings parse_zero_seed files 5).1
    generalize launch files 5 _ = l at hrun hall ⊢
    rcases l with r | ⟨r⟩ | ⟨size, w⟩
    · cases hrun
    · cases hrun
    · have htiming := congrArg Prod.fst (Option.some.inj hrun)
      have hwidth := congrArg Prod.snd (Option.some.inj hrun)
      rcases hall size w rfl with
        ⟨d, first, s, b, image, -, -, -, hprevails, -, -, hrandom, hticks, -, hkept⟩
      have hseed : s.seed = some 0 := hprevails.seed
      have hmode : s.timing = ⟨500, 60, .perFrame⟩ := (hkept []).1.symm.trans htiming
      rw [hseed] at hrandom
      rw [hmode] at hticks
      exact ⟨size, w, rfl, htiming, hwidth, hrandom, fun hby => hticks.mp hby rfl⟩
  · have hread : (begun files
          ⟨"game", some "settings", none, some (.number 0), none, false⟩).toOption.isSome := by
      decide +kernel
    rcases Option.isSome_iff_exists.mp hread with ⟨first, hfirst⟩
    have hbegun := (toOption_eq_some_iff _ _).mp hfirst
    exact (opened_with_settings parse_zero_rate files 5).2 first 0 hbegun nofun (Int.le_refl 0)
      (Or.inr rfl)

end Startup

end Chip8
