import GoXLR.Profile.Dispatch

/-! Where `load` and `write_to` panic. `write_to` unwraps every simple element, and `load` fills
only those whose tags it reads, so a document without them, a truncated one above all, loads and
then cannot be written. `load` indexes the faders by the digit a tag ends with and unwraps what it
finds, so a digit past the faders panics while loading. The component modules are any functions
here; the panics need only that their parsers and writers accept what they are given. -/

namespace GoXLR.Profile

variable {ε : Type} {C : Components ε} {Faders SimpleElements : Type}

section KeepsSimple

variable [DecidableEq Faders] [DecidableEq SimpleElements] (E : Enums Faders SimpleElements)

theorem Loading.Started.simpleElements_eq {s t : Loading C Faders SimpleElements} {name : String}
    (h : s.Started E name t) (hname : simpleTag name = false) :
    t.settings.simpleElements = s.settings.simpleElements := by
  cases h with
  | simple _ _ hsimple => exact absurd (hname.symm.trans hsimple) Bool.false_ne_true
  | _ => rfl

theorem Loading.loadEvents_keepsSimple {events : List (Except String XmlEvent)}
    (hev : ∀ name attributes, .ok (.startElement name attributes) ∈ events → simpleTag name = false) :
    ∀ {s t : Loading C Faders SimpleElements}, Loading.loadEvents E events s = .ok t →
      t.settings.simpleElements = s.settings.simpleElements := by
  induction events with
  | nil =>
    rintro s t ⟨⟩
    rfl
  | cons event events ih =>
    have hev' : ∀ name attributes, .ok (.startElement name attributes) ∈ events →
        simpleTag name = false := fun name attributes hm => hev name attributes (.tail _ hm)
    intro s t ht
    rcases event with _ | (⟨name, attributes⟩ | ⟨name⟩ | _)
    · cases ht
      rfl
    · obtain ⟨s', hs', ht⟩ := Run.bind_eq_ok.1 ht
      rw [ih hev' ht, (s.startElement_started E attributes hs').simpleElements_eq E
        (hev name attributes (.head _))]
    · rw [ih hev' ht, Loading.endElement_settings]
    · exact ih hev' ht

end KeepsSimple

section WriteTo

structure Components.Writes (C : Components ε) : Prop where
  initial : ∀ state sink, ∃ sink', C.writeInitial state sink = .ok sink'
  write : ∀ sec state sink, ∃ sink', C.write sec state sink = .ok sink'
  button : ∀ button sink, ∃ sink', C.writeButton button sink = .ok sink'
  fader : ∀ fader sink, ∃ sink', C.writeFader fader sink = .ok sink'
  effects : ∀ effects sink, ∃ sink', C.writeEffects effects sink = .ok sink'
  scribble : ∀ scribble sink, ∃ sink', C.writeScribble scribble sink = .ok sink'
  sample : ∀ sampler sink, ∃ sink', C.writeSample sampler sink = .ok sink'
  simple : ∀ element sink, ∃ sink', C.writeSimple element sink = .ok sink'

theorem writeEach_ok {κ α : Type} {write : α → C.Sink → Except ε C.Sink}
    (hw : ∀ value sink, ∃ sink', write value sink = .ok sink') (keys : List κ) (map : κ → Option α) :
    ∀ sink, ∃ sink', writeEach keys map write sink = .ok sink' := by
  induction keys with
  | nil => exact fun sink => ⟨sink, rfl⟩
  | cons key keys ih =>
    refine fun sink => Run.bind_ok_of ?_ ih
    dsimp only
    cases map key with
    | some value => exact lift_ok_of (hw value sink)
    | none => exact ⟨sink, rfl⟩

theorem ProfileSettings.writeSimpleElements_panics (self : ProfileSettings C Faders SimpleElements)
    (hw : ∀ element sink, ∃ sink', C.writeSimple element sink = .ok sink')
    {keys : List SimpleElements} (hmiss : ∃ key ∈ keys, self.simpleElements key = none) :
    ∀ sink, self.writeSimpleElements keys sink = .panic := by
  induction keys with
  | nil => simp at hmiss
  | cons key keys ih =>
    intro sink
    simp only [ProfileSettings.writeSimpleElements, List.foldlM_cons]
    cases hkey : self.simpleElements key with
    | none => rfl
    | some element =>
      have hmiss' : ∃ key ∈ keys, self.simpleElements key = none := by simpa [hkey] using hmiss
      obtain ⟨sink', h⟩ := hw element sink
      simp only [unwrap_some, Run.ok_bind, h, lift_ok]
      exact ih hmiss' sink'

variable (E : Enums Faders SimpleElements)

theorem ProfileSettings.writeTo_panics (hC : C.Writes) (self : ProfileSettings C Faders SimpleElements)
    (hmiss : ∃ key ∈ E.simpleIter, self.simpleElements key = none) (sink : C.Sink) :
    self.writeTo E sink = .panic := by
  unfold ProfileSettings.writeTo
  -- the root's opening tag and the four parts before the maps
  refine Run.bind_const (lift_ok_of (hC.initial _ _)) fun sink => ?_
  iterate 4 refine Run.bind_const (lift_ok_of (hC.write _ _ _)) fun sink => ?_
  refine Run.bind_const (writeEach_ok hC.button _ _ _) fun sink => ?_
  refine Run.bind_const (writeEach_ok hC.fader _ _ _) fun sink => ?_
  refine Run.bind_const (writeEach_ok hC.effects _ _ _) fun sink => ?_
  refine Run.bind_const (writeEach_ok hC.scribble _ _ _) fun sink => ?_
  -- the seven effect and encoder bases
  iterate 7 refine Run.bind_const (lift_ok_of (hC.write _ _ _)) fun sink => ?_
  refine Run.bind_const (writeEach_ok hC.sample _ _ _) fun sink => ?_
  rw [self.writeSimpleElements_panics hC.simple hmiss sink]
  rfl

theorem ProfileSettings.simpleElement_ok (self : ProfileSettings C Faders SimpleElements)
    {colour : C.SimpleElement} (h : self.simpleElements E.globalColour = some colour)
    (name : SimpleElements) : ∃ element, (self.simpleElement E name : Run ε C.SimpleElement) = .ok element := by
  unfold ProfileSettings.simpleElement
  split
  · exact ⟨_, rfl⟩
  · exact ⟨colour, by rw [h]; rfl⟩

variable [DecidableEq Faders] [DecidableEq SimpleElements]

theorem load_writeTo_panics (hC : C.Writes) (events : List (Except String XmlEvent))
    (hev : ∀ name attributes, .ok (.startElement name attributes) ∈ events → simpleTag name = false)
    {s : ProfileSettings C Faders SimpleElements} (hs : load C E events = .ok s) (sink : C.Sink) :
    s.writeTo E sink = .panic := by
  obtain ⟨t, ht, hts⟩ := Run.bind_eq_ok.1 hs
  cases hts
  refine t.settings.writeTo_panics E hC ⟨E.globalColour, E.globalColour_mem, ?_⟩ sink
  rw [Loading.loadEvents_keepsSimple E hev ht]
  rfl

end WriteTo

def acceptAll : Components Unit where
  Part _ := Unit
  new _ := ()
  parse _ _ _ := .ok ()
  parsePreset _ _ _ _ := .ok ()
  version _ := 2
  MuteButton := Unit
  muteButton _ _ := .ok ()
  Fader := Unit
  fader _ _ := .ok ()
  Effects := Unit
  effects _ _ := .ok ()
  Scribble := Unit
  scribble _ _ := .ok ()
  SampleBase := Unit
  sampleBase _ _ := .ok ()
  parseSampleStack _ _ _ := .ok ()
  SimpleElement := Unit
  simpleElement _ _ := .ok ()
  Sink := Unit
  writeInitial _ _ := .ok ()
  write _ _ _ := .ok ()
  writeFinal _ _ := .ok ()
  writeButton _ _ := .ok ()
  writeFader _ _ := .ok ()
  writeEffects _ _ := .ok ()
  writeScribble _ _ := .ok ()
  writeSample _ _ := .ok ()
  writeSimple _ _ := .ok ()

theorem acceptAll_writes : acceptAll.Writes :=
  ⟨fun _ _ => ⟨(), rfl⟩, fun _ _ _ => ⟨(), rfl⟩, fun _ _ => ⟨(), rfl⟩, fun _ _ => ⟨(), rfl⟩,
    fun _ _ => ⟨(), rfl⟩, fun _ _ => ⟨(), rfl⟩, fun _ _ => ⟨(), rfl⟩, fun _ _ => ⟨(), rfl⟩⟩

def fourFaders : Enums (Fin 4) Unit where
  fadersIter := [0, 1, 2, 3]
  simpleIter := [()]
  simpleFromStr name := if name = "globalColour" then some () else none
  contextTitle _ := "effectsA"
  globalColour := ()
  globalColour_mem := List.mem_singleton_self ()

theorem truncatedProfile_writeTo_panics :
    load acceptAll fourFaders [.error "no root element"] = .ok .initial ∧
      (ProfileSettings.initial : ProfileSettings acceptAll (Fin 4) Unit).writeTo fourFaders () =
        .panic :=
  ⟨rfl, load_writeTo_panics fourFaders acceptAll_writes [.error "no root element"] (by simp)
    (s := .initial) rfl ()⟩

section Digits

variable [DecidableEq Faders] [DecidableEq SimpleElements] (E : Enums Faders SimpleElements)
  (s : Loading C Faders SimpleElements) (attributes : List Attribute) {c : Char} (hc : c.isDigit)
include hc

theorem Loading.startElement_faderMeter {f : C.Fader}
    (hf : C.fader (digitValue c) attributes = .ok f)
    (hlen : E.fadersIter.length ≤ (digitValue c).toNat) :
    s.startElement E ("FaderMeter".push c) attributes = .panic := by
  have hmute : startsWith ("FaderMeter".push c) "mute" = false := rfl
  rw [Loading.startElement, s.findSome_branches_of_late E attributes (by simp [String.ext_iff])]
  simp only [Loading.branches, List.drop_succ_cons, List.drop_zero, List.findSome?_cons, id,
    s.muteBranch_of_not E attributes hmute, Loading.faderBranch, startsWith_push,
    lastDigit_push _ hc, if_true, hf, lift_ok, Run.ok_bind, List.getElem?_eq_none hlen, unwrap_none,
    Run.panic_bind, Option.getD_some]

theorem Loading.startElement_mute {b : C.MuteButton}
    (hb : C.muteButton (digitValue c) attributes = .ok b)
    (hlen : E.fadersIter.length ≤ (digitValue c - 1).toNat) :
    s.startElement E ("mute".push c) attributes = .panic := by
  have hchat : "mute".push c ≠ "muteChat" := by simp [String.ext_iff]
  rw [Loading.startElement, s.findSome_branches_of_late E attributes (by simp [String.ext_iff])]
  simp only [Loading.branches, List.drop_succ_cons, List.drop_zero, List.findSome?_cons, id,
    Loading.muteBranch, startsWith_push, hchat, ne_eq, not_false_eq_true, and_self, if_true,
    lastDigit_push _ hc, hb, lift_ok, Run.ok_bind, List.getElem?_eq_none hlen, unwrap_none,
    Run.panic_bind, Option.getD_some]

theorem Loading.startElement_scribble {b : C.Scribble}
    (hb : C.scribble (digitValue c) attributes = .ok b)
    (hlen : E.fadersIter.length ≤ (digitValue c - 1).toNat) :
    s.startElement E ("scribble".push c) attributes = .panic := by
  have hmute : startsWith ("scribble".push c) "mute" = false := rfl
  have hfader : startsWith ("scribble".push c) "FaderMeter" = false := rfl
  have heffects : startsWith ("scribble".push c) "effects" = false := rfl
  rw [Loading.startElement, s.findSome_branches_of_late E attributes (by simp [String.ext_iff])]
  simp only [Loading.branches, List.drop_succ_cons, List.drop_zero, List.findSome?_cons, id,
    s.muteBranch_of_not E attributes hmute, s.faderBranch_of_not E attributes hfader,
    s.effectsBranch_of_not E attributes heffects, Loading.scribbleBranch, startsWith_push, if_true,
    lastDigit_push _ hc, hb, lift_ok, Run.ok_bind, List.getElem?_eq_none hlen, unwrap_none,
    Run.panic_bind, Option.getD_some]

end Digits

variable [DecidableEq Faders] [DecidableEq SimpleElements] (E : Enums Faders SimpleElements)

theorem load_panics_of_startElement {events : List XmlEvent} {s : Loading C Faders SimpleElements}
    (hs : Loading.loadEvents E (events.map .ok) ⟨.initial, none⟩ = .ok s) {name : String}
    {attributes : List Attribute} (h : s.startElement E name attributes = .panic)
    (rest : List (Except String XmlEvent)) :
    load C E (events.map .ok ++ .ok (.startElement name attributes) :: rest) = .panic := by
  simp only [load, Loading.loadEvents_append, hs, Run.ok_bind, Loading.loadEvents, h, Run.panic_bind]

theorem load_fader_index_panics (events : List XmlEvent) {s : Loading C Faders SimpleElements}
    (hs : Loading.loadEvents E (events.map .ok) ⟨.initial, none⟩ = .ok s) (attributes : List Attribute)
    (rest : List (Except String XmlEvent)) {c : Char} (hc : c.isDigit) :
    ((∃ f, C.fader (digitValue c) attributes = .ok f) →
      E.fadersIter.length ≤ (digitValue c).toNat →
      load C E (events.map .ok ++ .ok (.startElement ("FaderMeter".push c) attributes) :: rest) =
        .panic) ∧
    ((∃ b, C.muteButton (digitValue c) attributes = .ok b) →
      E.fadersIter.length ≤ (digitValue c - 1).toNat →
      load C E (events.map .ok ++ .ok (.startElement ("mute".push c) attributes) :: rest) =
        .panic) ∧
    ((∃ b, C.scribble (digitValue c) attributes = .ok b) →
      E.fadersIter.length ≤ (digitValue c - 1).toNat →
      load C E (events.map .ok ++ .ok (.startElement ("scribble".push c) attributes) :: rest) =
        .panic) :=
  ⟨fun ⟨_, hf⟩ hlen =>
      load_panics_of_startElement E hs (s.startElement_faderMeter E attributes hc hf hlen) rest,
    fun ⟨_, hb⟩ hlen =>
      load_panics_of_startElement E hs (s.startElement_mute E attributes hc hb hlen) rest,
    fun ⟨_, hb⟩ hlen =>
      load_panics_of_startElement E hs (s.startElement_scribble E attributes hc hb hlen) rest⟩

theorem faderMeter9_mute0_panic :
    load acceptAll fourFaders [.ok (.startElement "ValueTreeRoot" [⟨"version", "2"⟩]),
        .ok (.startElement "FaderMeter9" [])] = .panic ∧
      load acceptAll fourFaders [.ok (.startElement "ValueTreeRoot" [⟨"version", "2"⟩]),
        .ok (.startElement "mute0" [])] = .panic :=
  ⟨(load_fader_index_panics fourFaders [.startElement "ValueTreeRoot" [⟨"version", "2"⟩]]
      (C := acceptAll) (s := ⟨.initial, none⟩) rfl [] [] (c := '9') rfl).1 ⟨(), rfl⟩ (by decide),
    (load_fader_index_panics fourFaders [.startElement "ValueTreeRoot" [⟨"version", "2"⟩]]
      (C := acceptAll) (s := ⟨.initial, none⟩) rfl [] [] (c := '0') rfl).2.1 ⟨(), rfl⟩ (by decide)⟩

end GoXLR.Profile
