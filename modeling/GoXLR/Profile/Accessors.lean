import GoXLR.Profile.Dispatch
import GoXLR.Profile.Tags

/-! The accessors of the parts of `ProfileSettings` kept per fader (`profile.rs`): `fader`,
`mute_button` and `scribble` unwrap the entry of the fader they are given, as their `_mut`
versions do. `load` fills an entry only from a tag that numbers that fader by its last digit
(`FaderMeter<n>` from 0, `mute<n>` and `scribble<n>` from 1) and does not check at the end that
every fader got one, so a document without the tag for a fader loads, and the accessor then
panics. Over every document that loads, each accessor panics exactly on the faders no tag of its
family names. -/

namespace GoXLR.Profile

variable {ε : Type} {C : Components ε} {Faders SimpleElements : Type}

section Accessors

variable (self : ProfileSettings C Faders SimpleElements)

/-- `ProfileSettings::fader`: `self.faders[fader].as_ref().unwrap()`. -/
def ProfileSettings.fader (fader : Faders) : Run ε C.Fader := unwrap (self.faders fader)

/-- `ProfileSettings::mute_button`: `self.mute_buttons[fader].as_ref().unwrap()`. -/
def ProfileSettings.muteButton (fader : Faders) : Run ε C.MuteButton :=
  unwrap (self.muteButtons fader)

/-- `ProfileSettings::scribble`: `self.scribbles[fader].as_ref().unwrap()`. -/
def ProfileSettings.scribble (fader : Faders) : Run ε C.Scribble := unwrap (self.scribbles fader)

end Accessors

variable (E : Enums Faders SimpleElements)

/-- The fader a tag numbers: its last character read by `u8::from_str`, counted by `index`, in
`Faders::iter()` order. -/
def numberedFader (index : UInt8 → Nat) (name : String) : Option Faders :=
  match name.toList.getLast? with
  | some c => if c.isDigit then E.fadersIter[index (digitValue c)]? else none
  | none => none

def MuteTag (name : String) (fader : Faders) : Prop :=
  (startsWith name "mute" = true ∧ name ≠ "muteChat") ∧
    numberedFader E (fun id => (id - 1).toNat) name = some fader

def FaderTag (name : String) (fader : Faders) : Prop :=
  startsWith name "FaderMeter" = true ∧ numberedFader E (fun id => id.toNat) name = some fader

def ScribbleTag (name : String) (fader : Faders) : Prop :=
  startsWith name "scribble" = true ∧ numberedFader E (fun id => (id - 1).toNat) name = some fader

variable {E}

theorem numberedFader_of_lastDigit {index : UInt8 → Nat} {name : String} {id : UInt8}
    (hid : (lastDigit name : Except (LoadError ε) (Option UInt8)) = .ok (some id)) :
    numberedFader E index name = E.fadersIter[index id]? := by
  unfold lastDigit at hid
  unfold numberedFader
  split at hid
  · cases hid
  · split at hid
    · cases hid
      simp only [*, if_true]
    · cases hid

theorem numberedFader_eq_some {index : UInt8 → Nat} {name : String} {fader : Faders}
    (h : numberedFader E index name = some fader) :
    ∃ c, name.toList.getLast? = some c ∧ c.isDigit = true ∧
      E.fadersIter[index (digitValue c)]? = some fader := by
  unfold numberedFader at h
  split at h
  next c hc =>
    split at h
    next hd => exact ⟨c, hc, hd, h⟩
    · cases h
  · cases h

theorem lastDigit_of_getLast {name : String} {c : Char} (hc : name.toList.getLast? = some c)
    (hd : c.isDigit = true) :
    (lastDigit name : Except (LoadError ε) (Option UInt8)) = .ok (some (digitValue c)) := by
  rw [lastDigit, hc]
  exact if_pos hd

section Step

variable [DecidableEq Faders] [DecidableEq SimpleElements] {name : String}
  {s t : Loading C Faders SimpleElements}

theorem Loading.Started.muteButtons_fill (h : s.Started E name t) :
    t.settings.muteButtons = s.settings.muteButtons ∨ ∃ fader button, MuteTag E name fader ∧
      t.settings.muteButtons = Function.update s.settings.muteButtons fader (some button) := by
  cases h with
  | mute id button fader hname hid hfader =>
    exact .inr ⟨fader, button, ⟨hname, (numberedFader_of_lastDigit hid).trans hfader⟩, rfl⟩
  | _ => exact .inl rfl

theorem Loading.Started.faders_fill (h : s.Started E name t) :
    t.settings.faders = s.settings.faders ∨ ∃ fader f, FaderTag E name fader ∧
      t.settings.faders = Function.update s.settings.faders fader (some f) := by
  cases h with
  | fader id f fader hname hid hfader =>
    exact .inr ⟨fader, f, ⟨hname, (numberedFader_of_lastDigit hid).trans hfader⟩, rfl⟩
  | _ => exact .inl rfl

theorem Loading.Started.scribbles_fill (h : s.Started E name t) :
    t.settings.scribbles = s.settings.scribbles ∨ ∃ fader scribble, ScribbleTag E name fader ∧
      t.settings.scribbles = Function.update s.settings.scribbles fader (some scribble) := by
  cases h with
  | scribble id scribble fader hname hid hfader =>
    exact .inr ⟨fader, scribble, ⟨hname, (numberedFader_of_lastDigit hid).trans hfader⟩,
      rfl⟩
  | _ => exact .inl rfl

variable (attributes : List Attribute) {fader : Faders}

theorem Loading.startElement_muteTag (htag : MuteTag E name fader)
    (h : s.startElement E name attributes = .ok t) : (t.settings.muteButtons fader).isSome := by
  obtain ⟨⟨hname, hchat⟩, hnum⟩ := htag
  obtain ⟨c, hc, hd, hfader⟩ := numberedFader_eq_some hnum
  simp (disch := decide) only [Loading.startElement, Loading.branches, List.findSome?_cons, id,
    Loading.rootBranch, Loading.sectionBranch, Loading.muteBranch, ne_of_startsWith hname, hname,
    hchat, ne_eq, not_false_eq_true, and_self, if_true, if_false, lastDigit_of_getLast hc hd,
    hfader, unwrap_some, Run.ok_bind, Option.getD_some] at h
  obtain ⟨button, -, h⟩ := Run.bind_eq_ok.1 h
  cases h
  simp

theorem Loading.startElement_faderTag (htag : FaderTag E name fader)
    (h : s.startElement E name attributes = .ok t) : (t.settings.faders fader).isSome := by
  obtain ⟨hname, hnum⟩ := htag
  obtain ⟨c, hc, hd, hfader⟩ := numberedFader_eq_some hnum
  simp (disch := decide) only [Loading.startElement, Loading.branches, List.findSome?_cons, id,
    Loading.rootBranch, Loading.sectionBranch, Loading.muteBranch, Loading.faderBranch,
    ne_of_startsWith hname, startsWith_false_of_startsWith hname, hname, Bool.false_eq_true,
    false_and, if_true, if_false, lastDigit_of_getLast hc hd, hfader, unwrap_some, Run.ok_bind,
    Option.getD_some] at h
  obtain ⟨f, -, h⟩ := Run.bind_eq_ok.1 h
  cases h
  simp

theorem Loading.startElement_scribbleTag (htag : ScribbleTag E name fader)
    (h : s.startElement E name attributes = .ok t) : (t.settings.scribbles fader).isSome := by
  obtain ⟨hname, hnum⟩ := htag
  obtain ⟨c, hc, hd, hfader⟩ := numberedFader_eq_some hnum
  simp (disch := decide) only [Loading.startElement, Loading.branches, List.findSome?_cons, id,
    Loading.rootBranch, Loading.sectionBranch, Loading.muteBranch, Loading.faderBranch,
    Loading.effectsBranch, Loading.scribbleBranch, ne_of_startsWith hname,
    startsWith_false_of_startsWith hname, hname, Bool.false_eq_true, false_and, if_true, if_false,
    lastDigit_of_getLast hc hd, hfader, unwrap_some, Run.ok_bind, Option.getD_some] at h
  obtain ⟨scribble, -, h⟩ := Run.bind_eq_ok.1 h
  cases h
  simp

end Step

section Run

variable [DecidableEq Faders] [DecidableEq SimpleElements] (E) {κ β : Type} [DecidableEq κ]
  (slot : ProfileSettings C Faders SimpleElements → κ → Option β)
  (Names : String → κ → Prop)
  (hstep : ∀ {s t : Loading C Faders SimpleElements} {name}, s.Started E name t →
    slot t.settings = slot s.settings ∨
      ∃ key x, Names name key ∧
        slot t.settings = Function.update (slot s.settings) key (some x))
  (htake : ∀ {s t : Loading C Faders SimpleElements} {name attributes key},
    Names name key → s.startElement E name attributes = .ok t → (slot t.settings key).isSome)
include hstep htake

theorem Loading.startElement_slot {s t : Loading C Faders SimpleElements} {name : String}
    {attributes : List Attribute} (h : s.startElement E name attributes = .ok t) (key : κ) :
    (slot t.settings key).isSome ↔ (slot s.settings key).isSome ∨ Names name key := by
  rcases hstep (s.startElement_started E attributes h) with heq | ⟨other, x, hother, heq⟩
  · rw [heq]
    exact ⟨.inl, fun hold => hold.elim id fun hn => heq ▸ htake hn h⟩
  · rw [heq, Function.update_apply]
    by_cases hk : key = other
    · subst hk
      simpa using .inr hother
    · simp only [hk, if_false]
      exact ⟨.inl, fun hold => hold.elim id fun hn => by simpa [heq, hk] using htake hn h⟩

theorem Loading.loadEvents_slot (events : List XmlEvent) :
    ∀ {s t : Loading C Faders SimpleElements}, Loading.loadEvents E (events.map .ok) s = .ok t →
      ∀ key, (slot t.settings key).isSome ↔
        (slot s.settings key).isSome ∨
          ∃ name attributes, .startElement name attributes ∈ events ∧ Names name key := by
  induction events with
  | nil =>
    rintro s t ⟨⟩ key
    simp
  | cons event events ih =>
    intro s t ht key
    rcases event with ⟨name, attributes⟩ | name | _
    · obtain ⟨s', hs', ht⟩ := Run.bind_eq_ok.1 ht
      rw [ih ht key, Loading.startElement_slot E slot Names hstep htake hs' key]
      simp [or_and_right, exists_or, or_assoc]
    · simp only [List.mem_cons, reduceCtorEq, false_and, false_or]
      exact (ih ht key).trans (by rw [Loading.endElement_settings])
    · simp only [List.mem_cons, reduceCtorEq, false_and, false_or]
      exact ih ht key

theorem load_slot (hinit : ∀ key, slot ProfileSettings.initial key = none)
    (events : List XmlEvent)
    {settings : ProfileSettings C Faders SimpleElements}
    (h : load C E (events.map .ok) = .ok settings) (key : κ) :
    (slot settings key).isSome ↔
      ∃ name attributes, .startElement name attributes ∈ events ∧ Names name key := by
  obtain ⟨t, ht, h⟩ := Run.bind_eq_ok.1 h
  cases h
  rw [Loading.loadEvents_slot E slot Names hstep htake events ht, hinit]
  simp

end Run

variable [DecidableEq Faders] [DecidableEq SimpleElements] (E)

/-- Over every document that loads without a reader error, `fader`, `mute_button` and `scribble`
panic exactly on the faders that no tag of their family names: `load` fills an entry only from a
`FaderMeter<n>`, `mute<n>` or `scribble<n>` tag whose digit numbers the fader, and does not check
that every fader got one. -/
theorem load_fader_accessors_panic (events : List XmlEvent)
    {settings : ProfileSettings C Faders SimpleElements}
    (h : load C E (events.map .ok) = .ok settings) (fader : Faders) :
    (settings.fader fader = .panic ↔
      ∀ name attributes,
        .startElement name attributes ∈ events → ¬ FaderTag E name fader) ∧
    (settings.muteButton fader = .panic ↔
      ∀ name attributes,
        .startElement name attributes ∈ events → ¬ MuteTag E name fader) ∧
    (settings.scribble fader = .panic ↔
      ∀ name attributes,
        .startElement name attributes ∈ events → ¬ ScribbleTag E name fader) := by
  refine ⟨?_, ?_, ?_⟩
  · rw [ProfileSettings.fader, unwrap_eq_panic, Bool.eq_false_iff, ne_eq,
      load_slot E (·.faders) (FaderTag E) (fun h => h.faders_fill)
        (fun htag h => Loading.startElement_faderTag _ htag h) (fun _ => rfl) events h]
    simp
  · rw [ProfileSettings.muteButton, unwrap_eq_panic, Bool.eq_false_iff, ne_eq,
      load_slot E (·.muteButtons) (MuteTag E) (fun h => h.muteButtons_fill)
        (fun htag h => Loading.startElement_muteTag _ htag h) (fun _ => rfl) events h]
    simp
  · rw [ProfileSettings.scribble, unwrap_eq_panic, Bool.eq_false_iff, ne_eq,
      load_slot E (·.scribbles) (ScribbleTag E) (fun h => h.scribbles_fill)
        (fun htag h => Loading.startElement_scribbleTag _ htag h) (fun _ => rfl) events h]
    simp

def firstFaderOnly : List XmlEvent :=
  [.startElement "FaderMeter0" [], .startElement "mute1" []]

theorem firstFaderOnly_accessors :
    ∃ settings : ProfileSettings acceptAll (Fin 4) Unit,
      load acceptAll fourFaders (firstFaderOnly.map .ok) = .ok settings ∧ ∀ fader,
        (settings.fader fader = .panic ↔ ∀ name attributes, .startElement name attributes ∈
          firstFaderOnly → ¬ FaderTag fourFaders name fader) ∧
        (settings.muteButton fader = .panic ↔ ∀ name attributes,
          .startElement name attributes ∈ firstFaderOnly → ¬ MuteTag fourFaders name fader) ∧
        (settings.scribble fader = .panic ↔ ∀ name attributes, .startElement name attributes ∈
          firstFaderOnly → ¬ ScribbleTag fourFaders name fader) :=
  ⟨_, rfl, load_fader_accessors_panic (C := acceptAll) fourFaders firstFaderOnly rfl⟩

end GoXLR.Profile
