import GoXLR.Profile.CFloat

/-! The hardtune effect of a profile (`components/hardtune.rs`): its six presets, how the
sub-element of a preset is written and read back, and the setters the rest of the utility
edits a preset through. -/

namespace GoXLR.Profile

/-- An attribute of a start tag, as `xml-rs` hands it over: `name.local_name` and `value`. -/
structure Attribute where
  name : String
  value : String
  deriving DecidableEq, Repr

/-- `Preset` of the crate root; `Preset::iter()` yields the variants in this order. -/
inductive Preset
  | Preset1
  | Preset2
  | Preset3
  | Preset4
  | Preset5
  | Preset6
  deriving DecidableEq, Repr

/-- `ParseError` of `hardtune.rs`, as far as the hardtune parsers raise it. -/
inductive ParseError
  | ExpectedFloat (kind : FloatErrorKind)
  | ExpectedEnum
  deriving DecidableEq, Repr

inductive HardTuneStyle
  | Normal
  | Medium
  | Hard
  deriving DecidableEq, Repr

/-- The `uiIndex` property of a style. -/
def HardTuneStyle.uiIndex : HardTuneStyle → String
  | .Normal => "0"
  | .Medium => "1"
  | .Hard => "2"

/-- `HardTuneStyle::iter()`. -/
def HardTuneStyle.iter : List HardTuneStyle := [.Normal, .Medium, .Hard]

inductive HardTuneSource
  | All
  | Music
  | Game
  | LineIn
  | System
  deriving DecidableEq, Repr

/-- The `to_string` of a source, which is also what `EnumString` parses. -/
def HardTuneSource.toString : HardTuneSource → String
  | .All => "ALL"
  | .Music => "MUSIC"
  | .Game => "GAME"
  | .LineIn => "LINEIN"
  | .System => "SYSTEM"

/-- `HardTuneSource::from_str`. -/
def HardTuneSource.fromStr (s : String) : Except ParseError HardTuneSource :=
  match [HardTuneSource.All, .Music, .Game, .LineIn, .System].find? (·.toString = s) with
  | some source => .ok source
  | none => .error .ExpectedEnum

structure HardTuneEffect where
  state : Bool
  style : HardTuneStyle
  keySource : UInt8
  amount : UInt8
  window : UInt16
  rate : UInt8
  scale : UInt8
  pitchAmt : UInt8
  source : Option HardTuneSource
  deriving DecidableEq, Repr

/-- `HardTuneEffect::new()`, which is also its `Default`. -/
def HardTuneEffect.new : HardTuneEffect := ⟨false, .Normal, 0, 0, 0, 0, 0, 0, none⟩

/-- `HardtuneEffectBase`, over the `ColourMap` of a module outside `src/`. -/
structure HardtuneEffectBase (ColourMap : Type) where
  colourMap : ColourMap
  presetMap : Preset → HardTuneEffect
  source : HardTuneSource

variable {ColourMap : Type}

/-- `HardtuneEffectBase::new`, given the `ColourMap::new(element_name)` it builds. -/
def HardtuneEffectBase.new (colourMap : ColourMap) : HardtuneEffectBase ColourMap :=
  ⟨colourMap, fun _ => .new, .All⟩

/-- `attr.value.parse::<c_float>()?`, whose error `?` turns into a `ParseError`. -/
def parseFloat (value : String) : Except ParseError CFloat :=
  (parseCFloat value).mapError .ExpectedFloat

/-- One pass of the attribute loop of `parse_hardtune_preset`. -/
def parsePresetAttribute (preset : HardTuneEffect) (attr : Attribute) :
    Except ParseError HardTuneEffect :=
  if attr.name = "hardtuneEffectstate" then .ok { preset with state := attr.value = "1" }
  else if attr.name = "HARDTUNE_STYLE" then
    .ok <| match HardTuneStyle.iter.find? (·.uiIndex = attr.value) with
      | some style => { preset with style }
      | none => preset
  else if attr.name = "HARDTUNE_KEYSOURCE" then
    (fun f => { preset with keySource := f.asU8 }) <$> parseFloat attr.value
  else if attr.name = "HARDTUNE_AMOUNT" then
    (fun f => { preset with amount := f.asU8 }) <$> parseFloat attr.value
  else if attr.name = "HARDTUNE_WINDOW" then
    (fun f => { preset with window := f.asU16 }) <$> parseFloat attr.value
  else if attr.name = "HARDTUNE_RATE" then
    (fun f => { preset with rate := f.asU8 }) <$> parseFloat attr.value
  else if attr.name = "HARDTUNE_SCALE" then
    (fun f => { preset with scale := f.asU8 }) <$> parseFloat attr.value
  else if attr.name = "HARDTUNE_PITCH_AMT" then
    (fun f => { preset with pitchAmt := f.asU8 }) <$> parseFloat attr.value
  else if attr.name = "HARDTUNE_SOURCE" then
    (fun source => { preset with source := some source }) <$> HardTuneSource.fromStr attr.value
  else .ok preset

/-- The preset `parse_hardtune_preset` stores what it read under. -/
def presetOfId (id : UInt8) : Option Preset :=
  if id = 1 then some .Preset1
  else if id = 2 then some .Preset2
  else if id = 3 then some .Preset3
  else if id = 4 then some .Preset4
  else if id = 5 then some .Preset5
  else if id = 6 then some .Preset6
  else none

/-- `parse_hardtune_preset`: a fresh `HardTuneEffect` takes the attributes in turn, and is stored
under the preset its `id` names. -/
def HardtuneEffectBase.parseHardtunePreset (self : HardtuneEffectBase ColourMap) (id : UInt8)
    (attributes : List Attribute) : Except ParseError (HardtuneEffectBase ColourMap) := do
  let preset ← attributes.foldlM parsePresetAttribute .new
  pure <| match presetOfId id with
    | some p => { self with presetMap := Function.update self.presetMap p preset }
    | none => self

/-- The entries of the `HashMap` `write_hardtune` fills for the sub-element of a preset holding
`value`. The map hands them to the element in an order of its own. -/
def presetAttributes (value : HardTuneEffect) : List Attribute :=
  [⟨"hardtuneEffectstate", if value.state then "1" else "0"⟩,
    ⟨"HARDTUNE_STYLE", value.style.uiIndex⟩,
    ⟨"HARDTUNE_KEYSOURCE", toString value.keySource⟩,
    ⟨"HARDTUNE_AMOUNT", toString value.amount⟩,
    ⟨"HARDTUNE_WINDOW", toString value.window⟩,
    ⟨"HARDTUNE_RATE", toString value.rate⟩,
    ⟨"HARDTUNE_SCALE", toString value.scale⟩,
    ⟨"HARDTUNE_PITCH_AMT", toString value.pitchAmt⟩] ++
  match value.source with
  | some source => [⟨"HARDTUNE_SOURCE", source.toString⟩]
  | none => []

/-- What an `EventWriter` is handed. -/
inductive XmlWriterEvent
  | startElement (name : String) (attributes : List Attribute)
  | endElement
  deriving DecidableEq, Repr

/-- `write_hardtune`, given the `tagSuffix` property of `Preset` and what `write_colours` adds
to the main element, both outside `src/`: the main element, one empty sub-element per preset in
`Preset` order, and the end of the main element. -/
def HardtuneEffectBase.writeHardtune (tagSuffix : Preset → String)
    (writeColours : ColourMap → List Attribute) (self : HardtuneEffectBase ColourMap) :
    List XmlWriterEvent :=
  .startElement "hardtuneEffect" (⟨"HARDTUNE_SOURCE", self.source.toString⟩ ::
      writeColours self.colourMap) ::
    ([Preset.Preset1, .Preset2, .Preset3, .Preset4, .Preset5, .Preset6].flatMap fun p =>
      [.startElement ("hardtuneEffect" ++ tagSuffix p) (presetAttributes (self.presetMap p)),
        .endElement]) ++
    [.endElement]

/-- The checked setters of `HardTuneEffect`: a value above `bound` is refused with `message`,
and leaves the effect as it was. -/
def HardTuneEffect.setBounded {α : Type} [LT α] [DecidableRel (α := α) (· < ·)] (bound : α)
    (message : String) (store : HardTuneEffect → α → HardTuneEffect) (value : α) :
    EStateM String HardTuneEffect Unit := fun self =>
  if bound < value then .error message self else .ok () (store self value)

def HardTuneEffect.setAmount (value : UInt8) : EStateM String HardTuneEffect Unit :=
  setBounded 100 "Amount should be a percentage" (fun self value => { self with amount := value })
    value

def HardTuneEffect.setWindow (value : UInt16) : EStateM String HardTuneEffect Unit :=
  setBounded 600 "Window should be between 0 and 600"
    (fun self value => { self with window := value }) value

def HardTuneEffect.setRate (value : UInt8) : EStateM String HardTuneEffect Unit :=
  setBounded 100 "Rate should be a percentage" (fun self value => { self with rate := value })
    value

/-- `set_pitch_amt`, which refuses anything but 0. -/
def HardTuneEffect.setPitchAmt (value : UInt8) : EStateM String HardTuneEffect Unit := fun self =>
  if value ≠ 0 then .error "Hardtune Pitch Amt should be 0.." self
  else .ok () { self with pitchAmt := value }

def HardTuneEffect.setScale (value : UInt8) (self : HardTuneEffect) : HardTuneEffect :=
  { self with scale := value }

def HardTuneEffect.setState (state : Bool) (self : HardTuneEffect) : HardTuneEffect :=
  { self with state }

def HardTuneEffect.setSource (source : HardTuneSource) (self : HardTuneEffect) : HardTuneEffect :=
  { self with source := some source }

/-- `HardtunePreset`, the values a style stands for. -/
structure HardtunePreset where
  amount : UInt8
  window : UInt16
  rate : UInt8
  scale : UInt8
  pitchAmt : UInt8

/-- `HardtunePreset::get_preset`. -/
def HardtunePreset.getPreset : HardTuneStyle → HardtunePreset
  | .Normal => ⟨70, 20, 20, 5, 0⟩
  | .Medium => ⟨53, 20, 99, 5, 0⟩
  | .Hard => ⟨100, 60, 100, 5, 0⟩

/-- `set_style`: the style, then the values of its preset through the setters, returning at
the first that fails. -/
def HardTuneEffect.setStyle (style : HardTuneStyle) : EStateM String HardTuneEffect Unit := do
  modify fun self => { self with style }
  let preset := HardtunePreset.getPreset style
  setAmount preset.amount
  setWindow preset.window
  setRate preset.rate
  modify (setScale preset.scale)
  setPitchAmt preset.pitchAmt

def afterCall {ε σ : Type} (call : EStateM ε σ Unit) (s : σ) : σ :=
  match call s with
  | .ok _ s => s
  | .error _ s => s

/-- A call on a preset through `get_preset_mut`. -/
inductive HardTuneEdit
  | setStyle (style : HardTuneStyle)
  | setAmount (value : UInt8)
  | setWindow (value : UInt16)
  | setRate (value : UInt8)
  | setState (state : Bool)
  | setSource (source : HardTuneSource)

def HardTuneEdit.call : HardTuneEdit → EStateM String HardTuneEffect Unit
  | .setStyle style => HardTuneEffect.setStyle style
  | .setAmount value => HardTuneEffect.setAmount value
  | .setWindow value => HardTuneEffect.setWindow value
  | .setRate value => HardTuneEffect.setRate value
  | .setState state => modify (HardTuneEffect.setState state)
  | .setSource source => modify (HardTuneEffect.setSource source)

inductive HardtuneOp
  | parseHardtunePreset (id : UInt8) (attributes : List Attribute)
  | edit (preset : Preset) (edit : HardTuneEdit)

def HardtuneEffectBase.apply (self : HardtuneEffectBase ColourMap) :
    HardtuneOp → HardtuneEffectBase ColourMap
  | .parseHardtunePreset id attributes =>
    match self.parseHardtunePreset id attributes with
    | .ok self => self
    | .error _ => self
  | .edit preset edit =>
    { self with
      presetMap := Function.update self.presetMap preset (afterCall edit.call (self.presetMap preset)) }

def HardtuneEffectBase.run (self : HardtuneEffectBase ColourMap) (ops : List HardtuneOp) :
    HardtuneEffectBase ColourMap :=
  ops.foldl apply self

structure HardTuneEffect.Bounded (e : HardTuneEffect) : Prop where
  amount_le : e.amount ≤ 100
  window_le : e.window ≤ 600
  rate_le : e.rate ≤ 100
  pitchAmt_eq : e.pitchAmt = 0

theorem HardTuneEffect.new_bounded : HardTuneEffect.new.Bounded :=
  ⟨by decide, by decide, by decide, rfl⟩

theorem afterCall_setBounded {α : Type} [LT α] [DecidableRel (α := α) (· < ·)] (bound : α)
    (message : String) (store : HardTuneEffect → α → HardTuneEffect) (value : α)
    (self : HardTuneEffect) :
    afterCall (HardTuneEffect.setBounded bound message store value) self =
      if bound < value then self else store self value := by
  unfold afterCall HardTuneEffect.setBounded
  split_ifs <;> rfl

theorem setStyle_eq (style : HardTuneStyle) (self : HardTuneEffect) :
    HardTuneEffect.setStyle style self = .ok () { self with
      style, amount := (HardtunePreset.getPreset style).amount,
      window := (HardtunePreset.getPreset style).window,
      rate := (HardtunePreset.getPreset style).rate,
      scale := (HardtunePreset.getPreset style).scale,
      pitchAmt := (HardtunePreset.getPreset style).pitchAmt } := by
  cases style <;> rfl

theorem HardtunePreset.getPreset_bounded (style : HardTuneStyle) :
    (getPreset style).amount ≤ 100 ∧ (getPreset style).window ≤ 600 ∧
      (getPreset style).rate ≤ 100 ∧ (getPreset style).pitchAmt = 0 := by
  cases style <;> decide

theorem HardTuneEdit.call_bounded (edit : HardTuneEdit) {e : HardTuneEffect} (he : e.Bounded) :
    (afterCall edit.call e).Bounded := by
  cases edit with
  | setStyle style =>
    rw [afterCall, HardTuneEdit.call, setStyle_eq]
    obtain ⟨h₁, h₂, h₃, h₄⟩ := HardtunePreset.getPreset_bounded style
    exact ⟨h₁, h₂, h₃, h₄⟩
  | setAmount value =>
    rw [HardTuneEdit.call, HardTuneEffect.setAmount, afterCall_setBounded]
    split_ifs with h
    · exact he
    · exact { he with amount_le := UInt8.not_lt.1 h }
  | setWindow value =>
    rw [HardTuneEdit.call, HardTuneEffect.setWindow, afterCall_setBounded]
    split_ifs with h
    · exact he
    · exact { he with window_le := UInt16.not_lt.1 h }
  | setRate value =>
    rw [HardTuneEdit.call, HardTuneEffect.setRate, afterCall_setBounded]
    split_ifs with h
    · exact he
    · exact { he with rate_le := UInt8.not_lt.1 h }
  | setState | setSource => exact ⟨he.amount_le, he.window_le, he.rate_le, he.pitchAmt_eq⟩

theorem HardtuneEffectBase.run_edits_bounded (self : HardtuneEffectBase ColourMap)
    (hself : ∀ p, (self.presetMap p).Bounded) (edits : List (Preset × HardTuneEdit)) :
    ∀ p, ((self.run (edits.map fun e => .edit e.1 e.2)).presetMap p).Bounded := by
  induction edits generalizing self with
  | nil => exact hself
  | cons e edits ih =>
    refine ih _ fun p => ?_
    simp only [apply, Function.update_apply]
    split_ifs with h
    · exact e.2.call_bounded (h ▸ hself _)
    · exact hself p

/-- Through the setters, every preset of a `HardtuneEffectBase` keeps `amount` and `rate` at
most 100, `window` at most 600 and `pitch_amt` at 0, from `new` on. -/
theorem hardtuneEdits_bounded (colourMap : ColourMap) (edits : List (Preset × HardTuneEdit))
    (preset : Preset) :
    (((HardtuneEffectBase.new colourMap).run (edits.map fun e => .edit e.1 e.2)).presetMap
      preset).Bounded :=
  (HardtuneEffectBase.new colourMap).run_edits_bounded
    (fun _ => HardTuneEffect.new_bounded) edits preset

inductive HardTuneField
  | state
  | style
  | keySource
  | amount
  | window
  | rate
  | scale
  | pitchAmt
  | source
  deriving DecidableEq

def attributeField (name : String) : Option HardTuneField :=
  if name = "hardtuneEffectstate" then some .state
  else if name = "HARDTUNE_STYLE" then some .style
  else if name = "HARDTUNE_KEYSOURCE" then some .keySource
  else if name = "HARDTUNE_AMOUNT" then some .amount
  else if name = "HARDTUNE_WINDOW" then some .window
  else if name = "HARDTUNE_RATE" then some .rate
  else if name = "HARDTUNE_SCALE" then some .scale
  else if name = "HARDTUNE_PITCH_AMT" then some .pitchAmt
  else if name = "HARDTUNE_SOURCE" then some .source
  else none

def HardTuneEffect.merge (mask : HardTuneField → Bool) (p e : HardTuneEffect) : HardTuneEffect where
  state := if mask .state then e.state else p.state
  style := if mask .style then e.style else p.style
  keySource := if mask .keySource then e.keySource else p.keySource
  amount := if mask .amount then e.amount else p.amount
  window := if mask .window then e.window else p.window
  rate := if mask .rate then e.rate else p.rate
  scale := if mask .scale then e.scale else p.scale
  pitchAmt := if mask .pitchAmt then e.pitchAmt else p.pitchAmt
  source := if mask .source then e.source else p.source

theorem ite_ite_eq_ite_or {α : Type} (b₁ b₂ : Bool) (x y : α) :
    (if b₂ = true then x else if b₁ = true then x else y) = if (b₁ || b₂) = true then x else y := by
  cases b₁ <;> cases b₂ <;> rfl

theorem HardTuneEffect.merge_merge (m₁ m₂ : HardTuneField → Bool) (p e : HardTuneEffect) :
    (p.merge m₁ e).merge m₂ e = p.merge (fun f => m₁ f || m₂ f) e := by
  simp only [merge, ite_ite_eq_ite_or]

theorem HardTuneEffect.merge_false (p e : HardTuneEffect) : p.merge (fun _ => false) e = p := by
  simp [merge]

theorem parseFloat_toString_uint8 (x : UInt8) : parseFloat (toString x) = .ok (.finite x.toNat) := by
  have hx : x.toNat < 2 ^ 24 := x.toNat_lt_size.trans (by decide)
  simp [parseFloat, show toString x = toString x.toNat from rfl, parseCFloat_toString hx]; rfl

theorem parseFloat_toString_uint16 (x : UInt16) : parseFloat (toString x) = .ok (.finite x.toNat) := by
  have hx : x.toNat < 2 ^ 24 := x.toNat_lt_size.trans (by decide)
  simp [parseFloat, show toString x = toString x.toNat from rfl, parseCFloat_toString hx]; rfl

theorem parsePresetAttribute_presetAttributes {e : HardTuneEffect} {a : Attribute}
    (ha : a ∈ presetAttributes e) (p : HardTuneEffect) :
    parsePresetAttribute p a = .ok (p.merge (fun f => attributeField a.name = some f) e) := by
  have hsource : ∀ s : HardTuneSource, HardTuneSource.fromStr s.toString = .ok s := by
    intro s; cases s <;> rfl
  have hstyle : HardTuneStyle.iter.find? (·.uiIndex = e.style.uiIndex) = some e.style := by
    cases e.style <;> rfl
  rcases List.mem_append.1 ha with ha | ha
  · simp only [List.mem_cons, List.not_mem_nil, or_false] at ha
    rcases ha with rfl | rfl | rfl | rfl | rfl | rfl | rfl | rfl
    · cases h : e.state <;> simp [parsePresetAttribute, attributeField, HardTuneEffect.merge, h]
    all_goals simp [parsePresetAttribute, attributeField, HardTuneEffect.merge, hstyle,
      parseFloat_toString_uint8, parseFloat_toString_uint16, CFloat.asU8_natCast,
      CFloat.asU16_natCast]
  · cases hs : e.source with
    | none => simp [hs] at ha
    | some source =>
      simp only [hs, List.mem_singleton] at ha
      subst ha
      simp [parsePresetAttribute, attributeField, HardTuneEffect.merge, hsource, hs]

theorem foldlM_presetAttributes {e : HardTuneEffect} (l : List Attribute)
    (hl : ∀ a ∈ l, a ∈ presetAttributes e) (p : HardTuneEffect) :
    l.foldlM parsePresetAttribute p =
      .ok (p.merge (fun f => l.any fun a => attributeField a.name = some f) e) := by
  induction l generalizing p with
  | nil => simp [HardTuneEffect.merge_false]; rfl
  | cons a l ih =>
    rw [List.foldlM_cons, parsePresetAttribute_presetAttributes (hl a (List.mem_cons_self a l))]
    show l.foldlM parsePresetAttribute _ = _
    rw [ih (fun b hb => hl b (List.mem_cons_of_mem a hb)), HardTuneEffect.merge_merge]
    simp only [List.any_cons]

/-- The attributes `write_hardtune` emits for a preset holding `value`, in any order, read by
`parse_hardtune_preset` under that preset's number, store exactly `value` in that preset and
change nothing else. -/
theorem parseHardtunePreset_presetAttributes (value : HardTuneEffect) {id : UInt8}
    {preset : Preset} (hid : presetOfId id = some preset) {attributes : List Attribute}
    (h : attributes.Perm (presetAttributes value)) (self : HardtuneEffectBase ColourMap) :
    self.parseHardtunePreset id attributes =
      .ok { self with presetMap := Function.update self.presetMap preset value } := by
  have hmask : (fun f => attributes.any fun a => attributeField a.name = some f) =
      fun f => (presetAttributes value).any fun a => attributeField a.name = some f := by
    funext f; simp only [List.any_eq, h.mem_iff]
  have hall : HardTuneEffect.new.merge
      (fun f => (presetAttributes value).any fun a => attributeField a.name = some f) value =
        value := by
    obtain ⟨_, _, _, _, _, _, _, _, source⟩ := value
    cases source <;> rfl
  rw [HardtuneEffectBase.parseHardtunePreset,
    foldlM_presetAttributes attributes (fun a ha => h.subset ha), hmask, hall]
  simp [hid]

theorem parseHardtunePreset_presetAttributes_reversed :
    (HardtuneEffectBase.new ()).parseHardtunePreset 3
        (presetAttributes ⟨true, .Hard, 7, 100, 600, 42, 5, 0, some .Game⟩).reverse =
      .ok { HardtuneEffectBase.new () with
        presetMap := Function.update (fun _ => .new) .Preset3 ⟨true, .Hard, 7, 100, 600, 42, 5, 0, some .Game⟩ } :=
  parseHardtunePreset_presetAttributes _ (show presetOfId 3 = some .Preset3 from rfl)
    (List.reverse_perm _) _

/-- `parse_hardtune_preset` checks none of the setters' bounds: an `HARDTUNE_AMOUNT` of `"250"`
is stored as 250. -/
theorem parseHardtunePreset_amount_unchecked :
    ((HardtuneEffectBase.new ()).run [.parseHardtunePreset 1 [⟨"HARDTUNE_AMOUNT", "250"⟩]]).presetMap
        .Preset1 = { HardTuneEffect.new with amount := 250 } ∧
      ¬(((HardtuneEffectBase.new ()).run
        [.parseHardtunePreset 1 [⟨"HARDTUNE_AMOUNT", "250"⟩]]).presetMap .Preset1).Bounded := by
  have hp : parseFloat "250" = .ok (.finite (250 : UInt8).toNat) := parseFloat_toString_uint8 250
  have h : ((HardtuneEffectBase.new ()).run
      [.parseHardtunePreset 1 [⟨"HARDTUNE_AMOUNT", "250"⟩]]).presetMap .Preset1 =
        { HardTuneEffect.new with amount := 250 } := by
    simp [HardtuneEffectBase.run, HardtuneEffectBase.apply, HardtuneEffectBase.parseHardtunePreset,
      parsePresetAttribute, hp, presetOfId]
    exact CFloat.asU8_natCast 250
  exact ⟨h, fun hb => absurd (h ▸ hb.amount_le) (by decide)⟩

end GoXLR.Profile
