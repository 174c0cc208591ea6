import GoXLR.Profile.Hardtune

/-! `ProfileSettings::load` and `write_to` (`profile.rs`). The components a profile is made of
live in modules outside `src/`; their parsers and writers are any functions here, and what is
modelled is how `load` dispatches the events of the XML reader to them and how `write_to`
walks what `load` built. -/

namespace GoXLR.Profile

/-- What `xml-rs`'s `EventReader` yields, as far as `load` tells events apart. -/
inductive XmlEvent
  | startElement (name : String) (attributes : List Attribute)
  | endElement (name : String)
  | other
  deriving DecidableEq, Repr

/-- The parts of a profile that `load` parses in place, each by a method of its own module:
the root, the browser tree, the mixer, the context, the chat mute, and the effect and encoder
bases. -/
inductive Section
  | root
  | browser
  | mixer
  | context
  | muteChat
  | megaphone
  | robot
  | hardtune
  | reverb
  | echo
  | pitch
  | gender
  deriving DecidableEq, Repr

/-- The sample buttons, in the order `EnumMap` walks them. -/
inductive SampleButtons
  | TopLeft
  | TopRight
  | BottomLeft
  | BottomRight
  | Clear
  deriving DecidableEq, Repr

def SampleButtons.tag : SampleButtons → String
  | .TopLeft => "sampleTopLeft"
  | .TopRight => "sampleTopRight"
  | .BottomLeft => "sampleBottomLeft"
  | .BottomRight => "sampleBottomRight"
  | .Clear => "sampleClear"

def SampleButtons.iter : List SampleButtons := [.TopLeft, .TopRight, .BottomLeft, .BottomRight, .Clear]

/-- `Preset::iter()`. -/
def Preset.iter : List Preset := [.Preset1, .Preset2, .Preset3, .Preset4, .Preset5, .Preset6]

/-- The enums of the crate root `load` and `write_to` index by, outside `src/`: the faders and
the simple elements in `iter()` order, `SimpleElements::from_str`, and the `contextTitle` of a
preset. `GlobalColour`, which `src/` names, is one of the simple elements. -/
structure Enums (Faders SimpleElements : Type) where
  fadersIter : List Faders
  simpleIter : List SimpleElements
  simpleFromStr : String → Option SimpleElements
  contextTitle : Preset → String
  globalColour : SimpleElements
  globalColour_mem : globalColour ∈ simpleIter

/-- The component modules, outside `src/`: for each part parsed in place, its type with its
`new`, its parsers and its writer, and for each part `load` builds from one element (a mute
button, a fader, a preset's effects, a scribble, a sample button, a simple element) its type, its
`new` followed by its parser, and its writer. Errors are `ε`, and the writers write to a `Sink`. -/
structure Components (ε : Type) where
  Part : Section → Type
  new : (sec : Section) → Part sec
  parse : (sec : Section) → List Attribute → Part sec → Except ε (Part sec)
  parsePreset : (sec : Section) → Preset → List Attribute → Part sec → Except ε (Part sec)
  version : Part .root → Nat
  MuteButton : Type
  muteButton : UInt8 → List Attribute → Except ε MuteButton
  Fader : Type
  fader : UInt8 → List Attribute → Except ε Fader
  Effects : Type
  effects : Preset → List Attribute → Except ε Effects
  Scribble : Type
  scribble : UInt8 → List Attribute → Except ε Scribble
  SampleBase : Type
  sampleBase : String → List Attribute → Except ε SampleBase
  parseSampleStack : Char → List Attribute → SampleBase → Except ε SampleBase
  SimpleElement : Type
  simpleElement : String → List Attribute → Except ε SimpleElement
  Sink : Type
  writeInitial : Part .root → Sink → Except ε Sink
  write : (sec : Section) → Part sec → Sink → Except ε Sink
  writeFinal : Part .root → Sink → Except ε Sink
  writeButton : MuteButton → Sink → Except ε Sink
  writeFader : Fader → Sink → Except ε Sink
  writeEffects : Effects → Sink → Except ε Sink
  writeScribble : Scribble → Sink → Except ε Sink
  writeSample : SampleBase → Sink → Except ε Sink
  writeSimple : SimpleElement → Sink → Except ε Sink

/-- An error `load` or `write_to` returns: a component's, or one of their own. -/
inductive LoadError (ε : Type)
  | component (e : ε)
  | parseInt
  | parseEnum
  | anyhow (message : String)
  deriving DecidableEq, Repr

/-- How a call ends: with a value, with an `Err`, in a panic (an `unwrap` of `None`), or with
the process leaving through `exit`. -/
inductive Run (ε α : Type)
  | ok (a : α)
  | err (e : LoadError ε)
  | panic
  | exit (code : Int)

instance {ε : Type} : Monad (Run ε) where
  pure := .ok
  bind r f := match r with
    | .ok a => f a
    | .err e => .err e
    | .panic => .panic
    | .exit code => .exit code

variable {ε : Type}

/-- `?` on what a component returns. -/
def lift {α : Type} : Except ε α → Run ε α
  | .ok a => .ok a
  | .error e => .err (.component e)

/-- `unwrap`. -/
def unwrap {α : Type} : Option α → Run ε α
  | some a => .ok a
  | none => .panic

namespace Run

variable {α β γ : Type}

@[simp] theorem pure_eq (a : α) : (pure a : Run ε α) = .ok a := rfl

@[simp] theorem ok_bind (a : α) (f : α → Run ε β) : (Run.ok a >>= f) = f a := rfl

@[simp] theorem panic_bind (f : α → Run ε β) : (Run.panic >>= f) = .panic := rfl

theorem bind_eq_ok {r : Run ε α} {f : α → Run ε β} {b : β} :
    r >>= f = .ok b ↔ ∃ a, r = .ok a ∧ f a = .ok b := by
  cases r <;> simp [bind]

theorem bind_assoc (r : Run ε α) (f : α → Run ε β) (g : β → Run ε γ) :
    r >>= f >>= g = r >>= fun a => f a >>= g := by
  cases r <;> rfl

theorem bind_pure (r : Run ε α) : r >>= pure = r := by
  cases r <;> rfl

theorem bind_ok_of {r : Run ε α} {f : α → Run ε β} (hr : ∃ a, r = .ok a) (hf : ∀ a, ∃ b, f a = .ok b) :
    ∃ b, r >>= f = .ok b := by
  obtain ⟨a, rfl⟩ := hr
  exact hf a

theorem bind_const {r : Run ε α} {f : α → Run ε β} {c : Run ε β} (hr : ∃ a, r = .ok a)
    (hf : ∀ a, f a = c) : r >>= f = c := by
  obtain ⟨a, rfl⟩ := hr
  exact hf a

end Run

section Lift

variable {α : Type}

@[simp] theorem lift_ok (a : α) : lift (.ok a : Except ε α) = .ok a := rfl

@[simp] theorem lift_error (e : ε) : lift (.error e : Except ε α) = .err (.component e) := rfl

@[simp] theorem unwrap_some (a : α) : (unwrap (some a) : Run ε α) = .ok a := rfl

@[simp] theorem unwrap_none : (unwrap none : Run ε α) = .panic := rfl

theorem lift_ok_of {x : Except ε α} (h : ∃ a, x = .ok a) : ∃ a, lift x = .ok a := by
  obtain ⟨a, rfl⟩ := h
  exact ⟨a, rfl⟩

end Lift

/-- `str::starts_with`, on the characters of the two strings. -/
def startsWith (name pre : String) : Bool := pre.toList.isPrefixOf name.toList

/-- `u8::from_str` of a digit. -/
def digitValue (c : Char) : UInt8 := (c.toNat - 48).toUInt8

/-- `u8::from_str` of the last character of a tag name, `transpose`d: `load` and `parse_preset`
return its error with `?`. -/
def lastDigit (name : String) : Except (LoadError ε) (Option UInt8) :=
  match name.toList.getLast? with
  | none => .ok none
  | some c => if c.isDigit then .ok (some (digitValue c)) else .error .parseInt

/-- `ProfileSettings::parse_preset`: the preset the last digit of the tag numbers from 1. -/
def parsePreset (key : String) : Except (LoadError ε) Preset :=
  match lastDigit key with
  | .error e => .error e
  | .ok none => .error (.anyhow "Unable to Parse Preset from Number")
  | .ok (some id) =>
    match Preset.iter[(id - 1).toNat]? with
    | some preset => .ok preset
    | none => .error (.anyhow "Unable to Parse Preset from Number")

variable (C : Components ε) (Faders SimpleElements : Type)

/-- `ProfileSettings`. -/
structure ProfileSettings where
  parts : (sec : Section) → C.Part sec
  muteButtons : Faders → Option C.MuteButton
  faders : Faders → Option C.Fader
  effects : Preset → Option C.Effects
  scribbles : Faders → Option C.Scribble
  samplerMap : SampleButtons → Option C.SampleBase
  simpleElements : SimpleElements → Option C.SimpleElement

/-- What `load` holds while it reads: the settings so far, and the sample button whose stacks
the next `sampleStack` tags belong to. -/
structure Loading where
  settings : ProfileSettings C Faders SimpleElements
  activeSampleButton : Option SampleButtons

variable {C Faders SimpleElements}

section Model

variable [DecidableEq Faders] [DecidableEq SimpleElements] (E : Enums Faders SimpleElements)

/-- The settings `load` starts from: every part `new`, every map empty. -/
def ProfileSettings.initial : ProfileSettings C Faders SimpleElements :=
  ⟨C.new, fun _ => none, fun _ => none, fun _ => none, fun _ => none, fun _ => none, fun _ => none⟩

/-- `if name == tag { part.parse_x(&attributes)?; continue; }`, for a part parsed in place. -/
def Loading.sectionBranch (tag : String) (sec : Section) (name : String)
    (attributes : List Attribute) (s : Loading C Faders SimpleElements) :
    Option (Run ε (Loading C Faders SimpleElements)) :=
  if name = tag then some do
    let part ← lift (C.parse sec attributes (s.settings.parts sec))
    pure { s with
      settings := { s.settings with parts := Function.update s.settings.parts sec part } }
  else none

/-- The root element: `parse_root`, and `exit(-1)` on a version above 2. -/
def Loading.rootBranch (name : String) (attributes : List Attribute)
    (s : Loading C Faders SimpleElements) : Option (Run ε (Loading C Faders SimpleElements)) :=
  if name = "ValueTreeRoot" then some do
    let root ← lift (C.parse .root attributes (s.settings.parts .root))
    if C.version root > 2 then .exit (-1)
    else pure { s with settings := { s.settings with
      parts := Function.update s.settings.parts .root root } }
  else none

/-- `if name.starts_with(tag) { if let Ok(preset) = parse_preset(name) { .. } }`: the preset's
parser when `parse_preset` reads the tag, else the tag falls through. -/
def Loading.presetBranch (tag : String) (sec : Section) (name : String)
    (attributes : List Attribute) (s : Loading C Faders SimpleElements) :
    Option (Run ε (Loading C Faders SimpleElements)) :=
  if startsWith name tag then
    match (parsePreset name : Except (LoadError ε) Preset) with
    | .ok preset => some do
      let part ← lift (C.parsePreset sec preset attributes (s.settings.parts sec))
      pure { s with settings := { s.settings with
        parts := Function.update s.settings.parts sec part } }
    | .error _ => none
  else none

/-- A `mute<n>` tag: the button of the fader numbered `n` from 1. -/
def Loading.muteBranch (name : String) (attributes : List Attribute)
    (s : Loading C Faders SimpleElements) : Option (Run ε (Loading C Faders SimpleElements)) :=
  if startsWith name "mute" ∧ name ≠ "muteChat" then
    match (lastDigit name : Except (LoadError ε) (Option UInt8)) with
    | .error e => some (.err e)
    | .ok none => none
    | .ok (some id) => some do
      let button ← lift (C.muteButton id attributes)
      let fader ← unwrap E.fadersIter[(id - 1).toNat]?
      pure { s with settings := { s.settings with
        muteButtons := Function.update s.settings.muteButtons fader (some button) } }
  else none

/-- A `FaderMeter<n>` tag: the fader numbered `n` from 0. -/
def Loading.faderBranch (name : String) (attributes : List Attribute)
    (s : Loading C Faders SimpleElements) : Option (Run ε (Loading C Faders SimpleElements)) :=
  if startsWith name "FaderMeter" then
    match (lastDigit name : Except (LoadError ε) (Option UInt8)) with
    | .error e => some (.err e)
    | .ok none => none
    | .ok (some id) => some do
      let f ← lift (C.fader id attributes)
      let fader ← unwrap E.fadersIter[id.toNat]?
      pure { s with settings := { s.settings with
        faders := Function.update s.settings.faders fader (some f) } }
  else none

/-- An `effects<title>` tag: the effects of the preset whose `contextTitle` it is. -/
def Loading.effectsBranch (name : String) (attributes : List Attribute)
    (s : Loading C Faders SimpleElements) : Option (Run ε (Loading C Faders SimpleElements)) :=
  if startsWith name "effects" then
    match Preset.iter.find? (E.contextTitle · = name) with
    | some preset => some do
      let effect ← lift (C.effects preset attributes)
      pure { s with settings := { s.settings with
        effects := Function.update s.settings.effects preset (some effect) } }
    | none => none
  else none

/-- A `scribble<n>` tag: the scribble strip of the fader numbered `n` from 1. -/
def Loading.scribbleBranch (name : String) (attributes : List Attribute)
    (s : Loading C Faders SimpleElements) : Option (Run ε (Loading C Faders SimpleElements)) :=
  if startsWith name "scribble" then
    match (lastDigit name : Except (LoadError ε) (Option UInt8)) with
    | .error e => some (.err e)
    | .ok none => none
    | .ok (some id) => some do
      let scribble ← lift (C.scribble id attributes)
      let fader ← unwrap E.fadersIter[(id - 1).toNat]?
      pure { s with settings := { s.settings with
        scribbles := Function.update s.settings.scribbles fader (some scribble) } }
  else none

/-- The branch of a sample button's element: a new `SampleBase` stored under the button, which
becomes the active one. -/
def Loading.sampleBranch (button : SampleButtons) (name : String) (attributes : List Attribute)
    (s : Loading C Faders SimpleElements) : Option (Run ε (Loading C Faders SimpleElements)) :=
  if name = button.tag then some do
    let sampler ← lift (C.sampleBase button.tag attributes)
    pure {
      settings := { s.settings with
        samplerMap := Function.update s.settings.samplerMap button (some sampler) }
      activeSampleButton := some button }
  else none

/-- A `sampleStack<c>` tag: a stack of the active sample button. -/
def Loading.sampleStackBranch (name : String) (attributes : List Attribute)
    (s : Loading C Faders SimpleElements) : Option (Run ε (Loading C Faders SimpleElements)) :=
  if startsWith name "sampleStack" then
    match name.toList.getLast?, s.activeSampleButton with
    | some id, some button =>
      -- the active button's entry was filled when it became active
      match s.settings.samplerMap button with
      | some sampler => some do
        let sampler ← lift (C.parseSampleStack id attributes sampler)
        pure { s with settings := { s.settings with
          samplerMap := Function.update s.settings.samplerMap button (some sampler) } }
      | none => none
    | _, _ => none
  else none

def simpleTag (name : String) : Bool :=
  startsWith name "sampleBank" || name == "fxClear" || name == "swear" || name == "globalColour" ||
    name == "logoX"

/-- The simple elements, stored under `SimpleElements::from_str` of their tag. -/
def Loading.simpleBranch (name : String) (attributes : List Attribute)
    (s : Loading C Faders SimpleElements) : Option (Run ε (Loading C Faders SimpleElements)) :=
  if simpleTag name then some do
    let element ← lift (C.simpleElement name attributes)
    let key ← match E.simpleFromStr name with
      | some key => pure key
      | none => Run.err .parseEnum
    pure { s with settings := { s.settings with
      simpleElements := Function.update s.settings.simpleElements key (some element) } }
  else none

/-- The branches of the `StartElement` arm of `load`, in the order the source tries them: each
is `none` when the tag falls through it. -/
def Loading.branches (name : String) (attributes : List Attribute)
    (s : Loading C Faders SimpleElements) : List (Option (Run ε (Loading C Faders SimpleElements))) :=
  [s.rootBranch name attributes,
    s.sectionBranch "browserPreviewTree" .browser name attributes,
    s.sectionBranch "mixerTree" .mixer name attributes,
    s.sectionBranch "selectedContext" .context name attributes,
    s.sectionBranch "muteChat" .muteChat name attributes,
    s.muteBranch E name attributes,
    s.faderBranch E name attributes,
    s.effectsBranch E name attributes,
    s.scribbleBranch E name attributes,
    s.sectionBranch "megaphoneEffect" .megaphone name attributes,
    s.presetBranch "megaphoneEffectpreset" .megaphone name attributes,
    s.sectionBranch "robotEffect" .robot name attributes,
    s.presetBranch "robotEffectpreset" .robot name attributes,
    s.sectionBranch "hardtuneEffect" .hardtune name attributes,
    s.presetBranch "hardtuneEffectpreset" .hardtune name attributes,
    s.sectionBranch "reverbEncoder" .reverb name attributes,
    s.presetBranch "reverbEncoderpreset" .reverb name attributes,
    s.sectionBranch "echoEncoder" .echo name attributes,
    s.presetBranch "echoEncoderpreset" .echo name attributes,
    s.sectionBranch "pitchEncoder" .pitch name attributes,
    s.presetBranch "pitchEncoderpreset" .pitch name attributes,
    s.sectionBranch "genderEncoder" .gender name attributes,
    s.presetBranch "genderEncoderpreset" .gender name attributes,
    s.sampleBranch .TopLeft name attributes,
    s.sampleBranch .TopRight name attributes,
    s.sampleBranch .BottomLeft name attributes,
    s.sampleBranch .BottomRight name attributes,
    s.sampleBranch .Clear name attributes,
    s.sampleStackBranch name attributes,
    s.simpleBranch E name attributes,
    if name = "AppTree" then some (pure s) else none]

/-- The `StartElement` arm: the first branch that takes the tag, or `warn!` and on. -/
def Loading.startElement (name : String) (attributes : List Attribute)
    (s : Loading C Faders SimpleElements) : Run ε (Loading C Faders SimpleElements) :=
  ((s.branches E name attributes).findSome? id).getD (pure s)

/-- The `EndElement` arm: the end of a sample button's element ends its stacks. -/
def Loading.endElement (name : String) (s : Loading C Faders SimpleElements) :
    Loading C Faders SimpleElements :=
  if SampleButtons.iter.any (·.tag = name) then { s with activeSampleButton := none } else s

/-- The loop of `load` over the reader's events; a reader error ends it (`error!`, `break`). -/
def Loading.loadEvents : List (Except String XmlEvent) → Loading C Faders SimpleElements →
    Run ε (Loading C Faders SimpleElements)
  | [], s => pure s
  | .error _ :: _, s => pure s
  | .ok (.startElement name attributes) :: events, s => do
    let s ← s.startElement E name attributes
    loadEvents events s
  | .ok (.endElement name) :: events, s => loadEvents events (s.endElement name)
  | .ok .other :: events, s => loadEvents events s

variable (C) in
/-- `ProfileSettings::load`. -/
def load (events : List (Except String XmlEvent)) : Run ε (ProfileSettings C Faders SimpleElements) := do
  let s ← Loading.loadEvents E events ⟨.initial, none⟩
  pure s.settings

/-- One `for (_, value) in &map { if let Some(value) = value { value.write(..)?; } }` of
`write_to`. -/
def writeEach {κ α : Type} (keys : List κ) (map : κ → Option α) (write : α → C.Sink → Except ε C.Sink)
    (sink : C.Sink) : Run ε C.Sink :=
  keys.foldlM (fun sink key => match map key with
    | some value => lift (write value sink)
    | none => pure sink) sink

/-- The loop of `write_to` over `SimpleElements::iter()`, which unwraps every element. -/
def ProfileSettings.writeSimpleElements (self : ProfileSettings C Faders SimpleElements)
    (keys : List SimpleElements) (sink : C.Sink) : Run ε C.Sink :=
  keys.foldlM (fun sink key => do
    let element ← unwrap (self.simpleElements key)
    lift (C.writeSimple element sink)) sink

/-- `ProfileSettings::write_to`. -/
def ProfileSettings.writeTo (self : ProfileSettings C Faders SimpleElements) (sink : C.Sink) :
    Run ε C.Sink := do
  let sink ← lift (C.writeInitial (self.parts .root) sink)
  let sink ← lift (C.write .browser (self.parts .browser) sink)
  let sink ← lift (C.write .mixer (self.parts .mixer) sink)
  let sink ← lift (C.write .context (self.parts .context) sink)
  let sink ← lift (C.write .muteChat (self.parts .muteChat) sink)
  let sink ← writeEach E.fadersIter self.muteButtons C.writeButton sink
  let sink ← writeEach E.fadersIter self.faders C.writeFader sink
  let sink ← writeEach Preset.iter self.effects C.writeEffects sink
  let sink ← writeEach E.fadersIter self.scribbles C.writeScribble sink
  let sink ← lift (C.write .megaphone (self.parts .megaphone) sink)
  let sink ← lift (C.write .robot (self.parts .robot) sink)
  let sink ← lift (C.write .hardtune (self.parts .hardtune) sink)
  let sink ← lift (C.write .reverb (self.parts .reverb) sink)
  let sink ← lift (C.write .echo (self.parts .echo) sink)
  let sink ← lift (C.write .pitch (self.parts .pitch) sink)
  let sink ← lift (C.write .gender (self.parts .gender) sink)
  let sink ← writeEach SampleButtons.iter self.samplerMap C.writeSample sink
  let sink ← self.writeSimpleElements E.simpleIter sink
  lift (C.writeFinal (self.parts .root) sink)

/-- `ProfileSettings::simple_element`: a missing element falls back to the global colour. -/
def ProfileSettings.simpleElement (self : ProfileSettings C Faders SimpleElements)
    (name : SimpleElements) : Run ε C.SimpleElement :=
  match self.simpleElements name with
  | some element => pure element
  | none => unwrap (self.simpleElements E.globalColour)

end Model

theorem startsWith_push (pre : String) (c : Char) : startsWith (pre.push c) pre = true := by
  simp [startsWith, String.push]

theorem lastDigit_push (name : String) {c : Char} (hc : c.isDigit) :
    (lastDigit (name.push c) : Except (LoadError ε) (Option UInt8)) = .ok (some (digitValue c)) := by
  simp [lastDigit, String.push, hc]

theorem parsePreset_out_of_range (name : String) {c : Char} (hc : c.isDigit)
    (h : 6 ≤ (digitValue c - 1).toNat) :
    (parsePreset (name.push c) : Except (LoadError ε) Preset) =
      .error (.anyhow "Unable to Parse Preset from Number") := by
  simp only [parsePreset, lastDigit_push _ hc]
  rw [List.getElem?_eq_none (by simpa [Preset.iter] using h)]

@[simp] theorem Loading.endElement_settings (name : String) (s : Loading C Faders SimpleElements) :
    (s.endElement name).settings = s.settings := by
  unfold Loading.endElement
  split <;> rfl

section Dispatch

variable (E : Enums Faders SimpleElements) (s : Loading C Faders SimpleElements)
  (attributes : List Attribute) {name : String}

theorem Loading.rootBranch_of_ne (h : name ≠ "ValueTreeRoot") : s.rootBranch name attributes = none :=
  if_neg h

theorem Loading.sectionBranch_of_ne {tag : String} (sec : Section) (h : name ≠ tag) :
    s.sectionBranch tag sec name attributes = none :=
  if_neg h

theorem Loading.effectsBranch_of_not (h : startsWith name "effects" = false) :
    s.effectsBranch E name attributes = none := by
  simp [Loading.effectsBranch, h]

theorem Loading.presetBranch_out_of_range {tag : String} (sec : Section) (name : String) {c : Char}
    (hc : c.isDigit) (h : 6 ≤ (digitValue c - 1).toNat) :
    s.presetBranch tag sec (name.push c) attributes = none := by
  unfold Loading.presetBranch
  rw [parsePreset_out_of_range name hc h]
  split <;> rfl

section Digits

variable [DecidableEq Faders]

theorem Loading.muteBranch_of_not (h : startsWith name "mute" = false) :
    s.muteBranch E name attributes = none := by
  simp [Loading.muteBranch, h]

theorem Loading.faderBranch_of_not (h : startsWith name "FaderMeter" = false) :
    s.faderBranch E name attributes = none := by
  simp [Loading.faderBranch, h]

end Digits

variable [DecidableEq Faders] [DecidableEq SimpleElements]

theorem Loading.findSome_branches_of_late
    (h : name ≠ "ValueTreeRoot" ∧ name ≠ "browserPreviewTree" ∧ name ≠ "mixerTree" ∧
      name ≠ "selectedContext" ∧ name ≠ "muteChat") :
    (s.branches E name attributes).findSome? id =
      ((s.branches E name attributes).drop 5).findSome? id := by
  obtain ⟨h₁, h₂, h₃, h₄, h₅⟩ := h
  simp only [Loading.branches, List.findSome?_cons, id, s.rootBranch_of_ne attributes h₁,
    s.sectionBranch_of_ne attributes _ h₂, s.sectionBranch_of_ne attributes _ h₃,
    s.sectionBranch_of_ne attributes _ h₄, s.sectionBranch_of_ne attributes _ h₅,
    List.drop_succ_cons, List.drop_zero]

end Dispatch

section Events

variable [DecidableEq Faders] [DecidableEq SimpleElements] (E : Enums Faders SimpleElements)

theorem Loading.loadEvents_append (events : List XmlEvent) (rest : List (Except String XmlEvent)) :
    ∀ s : Loading C Faders SimpleElements, Loading.loadEvents E (events.map .ok ++ rest) s =
      Loading.loadEvents E (events.map .ok) s >>= Loading.loadEvents E rest := by
  induction events with
  | nil => exact fun _ => rfl
  | cons event events ih =>
    intro s
    cases event with
    | startElement name attributes =>
      simp only [List.map_cons, List.cons_append, Loading.loadEvents, List.append_eq, Run.bind_assoc,
        ih]
    | endElement name => exact ih _
    | other => exact ih _

theorem Loading.loadEvents_readerError (events : List XmlEvent) (message : String)
    (rest : List (Except String XmlEvent)) (s : Loading C Faders SimpleElements) :
    Loading.loadEvents E (events.map .ok ++ .error message :: rest) s =
      Loading.loadEvents E (events.map .ok) s := by
  rw [Loading.loadEvents_append]
  exact Run.bind_pure _

end Events

end GoXLR.Profile
