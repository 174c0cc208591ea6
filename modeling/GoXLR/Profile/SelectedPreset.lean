import GoXLR.Profile.Accessors
import GoXLR.Profile.LoadPreset

/-! `load_preset` on a profile that `load` read (`profile.rs`). `load_preset` sets the name of
the selected preset's effects through `effects_mut(current)`, which unwraps the entry, as soon as
it reads the top element of the preset document. `load` fills the entry of a preset only from
the `effects` tag whose name is that preset's `contextTitle`, and does not check that every
preset got one. So on a loaded profile, `load_preset` panics exactly when the profile's document
had no `effects` tag for the selected preset. -/

namespace GoXLR.Profile

variable {ε : Type} {C : Components ε} {Faders SimpleElements : Type}

section Effects

variable [DecidableEq Faders] [DecidableEq SimpleElements] (E : Enums Faders SimpleElements)

def EffectsTag (name : String) (preset : Preset) : Prop :=
  startsWith name "effects" = true ∧ Preset.iter.find? (E.contextTitle · = name) = some preset

variable {E} {name : String} {s t : Loading C Faders SimpleElements}

theorem Loading.Started.effects_fill (h : s.Started E name t) :
    t.settings.effects = s.settings.effects ∨ ∃ preset effect, EffectsTag E name preset ∧
      t.settings.effects = Function.update s.settings.effects preset (some effect) := by
  cases h with
  | effects preset effect hname hpreset =>
    exact .inr ⟨preset, effect, ⟨hname, hpreset⟩, rfl⟩
  | _ => exact .inl rfl

theorem Loading.startElement_effectsTag (attributes : List Attribute) {preset : Preset}
    (htag : EffectsTag E name preset) (h : s.startElement E name attributes = .ok t) :
    (t.settings.effects preset).isSome := by
  obtain ⟨hname, hpreset⟩ := htag
  simp (disch := decide) only [Loading.startElement, Loading.branches, List.findSome?_cons, id,
    Loading.rootBranch, Loading.sectionBranch, Loading.muteBranch, Loading.faderBranch,
    Loading.effectsBranch, ne_of_startsWith hname, startsWith_false_of_startsWith hname, hname,
    Bool.false_eq_true, false_and, if_true, if_false, hpreset, Option.getD_some] at h
  obtain ⟨effect, -, h⟩ := Run.bind_eq_ok.1 h
  cases h
  simp

variable (E)

theorem load_effects_isSome (events : List XmlEvent)
    {settings : ProfileSettings C Faders SimpleElements}
    (h : load C E (events.map .ok) = .ok settings) (preset : Preset) :
    (settings.effects preset).isSome ↔
      ∃ name attributes,
        .startElement name attributes ∈ events ∧ EffectsTag E name preset :=
  load_slot E (·.effects) (EffectsTag E) (fun h => h.effects_fill)
    (fun htag h => Loading.startElement_effectsTag _ htag h) (fun _ => rfl) events h preset

end Effects

section Preset

variable (P : PresetParts C) {current : Preset}

theorem ProfileSettings.presetEvents_before_top (rest : List (Except String XmlEvent)) :
    ∀ (pre : List (Except String XmlEvent)),
      (∀ name attributes, .ok (.startElement name attributes) ∉ pre) →
      ∀ (readTop : Bool) (self : ProfileSettings C Faders SimpleElements),
        self.presetEvents P current readTop (pre ++ rest) = self.presetEvents P current readTop rest
  | [], _, _, _ => rfl
  | .error _ :: pre, hpre, readTop, self =>
    presetEvents_before_top rest pre (fun n a h => hpre n a (.tail _ h)) readTop self
  | .ok (.startElement name attributes) :: _, hpre, _, _ => absurd (.head _) (hpre name attributes)
  | .ok (.endElement _) :: pre, hpre, readTop, self =>
    presetEvents_before_top rest pre (fun n a h => hpre n a (.tail _ h)) readTop self
  | .ok .other :: pre, hpre, readTop, self =>
    presetEvents_before_top rest pre (fun n a h => hpre n a (.tail _ h)) readTop self

theorem ProfileSettings.loadPreset_panic_iff (self : ProfileSettings C Faders SimpleElements)
    (pre : List (Except String XmlEvent))
    (hpre : ∀ name attributes, .ok (.startElement name attributes) ∉ pre) (name : String)
    {attributes : List Attribute} (hname : ∃ attr ∈ attributes, attr.name = "name")
    (rest : List (Except String XmlEvent)) :
    (self.loadPreset P (pre ++ .ok (.startElement name attributes) :: rest)).1 = .panic ↔
      self.effects (P.selectedEffects (self.parts .context)) = none := by
  constructor
  · intro h
    exact (presetEvents_panic P (Prod.ext h rfl)).2.2
  · intro hnone
    obtain ⟨attr, hattr⟩ := Option.isSome_iff_exists.1
      (List.find?_isSome.2 (by simpa using hname) : (attributes.find? (·.name = "name")).isSome)
    rw [ProfileSettings.loadPreset, presetEvents_before_top P _ pre hpre]
    simp only [ProfileSettings.presetEvents, ProfileSettings.presetStart, Bool.false_eq_true,
      if_false, ProfileSettings.readTop, hattr, hnone]

end Preset

variable [DecidableEq Faders] [DecidableEq SimpleElements] (E : Enums Faders SimpleElements)
  (P : PresetParts C)

/-- For every profile document that `load` reads without a reader error, and every preset
document whose top element has a `name`: `load_preset` on the loaded profile panics exactly when
the profile document has no `effects` tag naming the preset its context selects. -/
theorem load_loadPreset_panic (events : List XmlEvent)
    {settings : ProfileSettings C Faders SimpleElements}
    (h : load C E (events.map .ok) = .ok settings) (pre : List (Except String XmlEvent))
    (hpre : ∀ name attributes, .ok (.startElement name attributes) ∉ pre) (name : String)
    {attributes : List Attribute} (hname : ∃ attr ∈ attributes, attr.name = "name")
    (rest : List (Except String XmlEvent)) :
    (settings.loadPreset P (pre ++ .ok (.startElement name attributes) :: rest)).1 = .panic ↔
      ∀ n a,
        .startElement n a ∈ events →
          ¬ EffectsTag E n (P.selectedEffects (settings.parts .context)) := by
  rw [settings.loadPreset_panic_iff P pre hpre name hname rest, ← Option.not_isSome_iff_eq_none,
    load_effects_isSome E events h]
  simp

def firstPreset : PresetParts acceptAll := ⟨fun _ => .Preset1, fun _ effects => .ok effects⟩

theorem firstPreset_withoutEffects :
    ∃ settings : ProfileSettings acceptAll (Fin 4) Unit,
      load acceptAll fourFaders (firstFaderOnly.map .ok) = .ok settings ∧
      (∀ name attributes,
        .ok (.startElement name attributes) ∉ ([.ok .other] : List (Except String XmlEvent))) ∧
      (∃ attr ∈ [(⟨"name", "Preset"⟩ : Attribute)], attr.name = "name") ∧
      ((settings.loadPreset firstPreset
          ([.ok .other] ++ .ok (.startElement "preset" [⟨"name", "Preset"⟩]) :: [])).1 =
            .panic ↔
        ∀ n a, .startElement n a ∈ firstFaderOnly →
          ¬ EffectsTag fourFaders n (firstPreset.selectedEffects (settings.parts .context))) :=
  ⟨_, rfl, fun _ _ h => by simp at h, ⟨_, List.mem_singleton_self _, rfl⟩,
    load_loadPreset_panic (C := acceptAll) fourFaders firstPreset firstFaderOnly rfl [.ok .other]
      (fun _ _ h => by simp at h) "preset" ⟨_, List.mem_singleton_self _, rfl⟩ []⟩

end GoXLR.Profile
