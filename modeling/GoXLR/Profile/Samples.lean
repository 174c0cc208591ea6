import GoXLR.Profile.Panics

/-! The sample buttons while `load` reads (`profile.rs`). A sample button's start tag stores a
new `SampleBase` under the button, and `active_sample_button` then refers to it inside
`sampler_map`; the `sampleStack` tags after it are parsed into that sampler, and the end tag of
any sample button drops the reference. The model names the active button instead, and looks its
sampler up when a stack comes; each step keeps a sampler for the active button, as the reference
of the source always has one to point at.

`sample_button` unwraps a button's sampler. `load` fills it from the button's own tag, and a stack
only into the active button's, so over every document that loads, `sample_button` panics exactly
on the buttons whose tag the document lacks. -/

namespace GoXLR.Profile

variable {ε : Type} {C : Components ε} {Faders SimpleElements : Type}

def Loading.ActiveFilled (s : Loading C Faders SimpleElements) : Prop :=
  ∀ button, s.activeSampleButton = some button → (s.settings.samplerMap button).isSome

section Run

variable [DecidableEq Faders] [DecidableEq SimpleElements] (E : Enums Faders SimpleElements)

theorem Loading.Started.activeFilled {s t : Loading C Faders SimpleElements} {name : String}
    (h : s.Started E name t) (hs : s.ActiveFilled) : t.ActiveFilled := by
  cases h with
  | sample button sampler _ =>
    rintro _ ⟨⟩
    simp
  | sampleStack button sampler _ _ => exact fun b hb => isSome_update_some button sampler (hs b hb)
  | _ => exact hs

omit [DecidableEq Faders] [DecidableEq SimpleElements] in
theorem Loading.endElement_activeFilled {s : Loading C Faders SimpleElements} (name : String)
    (hs : s.ActiveFilled) : (s.endElement name).ActiveFilled := by
  unfold Loading.endElement
  split
  · exact fun _ h => nomatch h
  · exact hs

end Run

/-- `ProfileSettings::sample_button`: `self.sampler_map[button].as_ref().unwrap()`. -/
def ProfileSettings.sampleButton (self : ProfileSettings C Faders SimpleElements)
    (button : SampleButtons) : Run ε C.SampleBase :=
  unwrap (self.samplerMap button)

section Samplers

variable [DecidableEq Faders] [DecidableEq SimpleElements] {E : Enums Faders SimpleElements}
  {name : String} {s t : Loading C Faders SimpleElements} {button : SampleButtons}

theorem Loading.Started.samplerMap_keep (h : s.Started E name t)
    (hold : (s.settings.samplerMap button).isSome) : (t.settings.samplerMap button).isSome := by
  cases h with
  | sample b sampler _ => exact isSome_update_some b sampler hold
  | sampleStack b sampler _ _ => exact isSome_update_some b sampler hold
  | _ => exact hold

theorem Loading.Started.samplerMap_fill (h : s.Started E name t) (hs : s.ActiveFilled)
    (ht : (t.settings.samplerMap button).isSome) :
    (s.settings.samplerMap button).isSome ∨ name = button.tag := by
  cases h with
  | sample b sampler hname =>
    by_cases hb : button = b
    · subst hb
      exact .inr hname
    · exact .inl (by simpa [hb] using ht)
  | sampleStack b sampler _ hactive =>
    by_cases hb : button = b
    · subst hb
      exact .inl (hs button hactive)
    · exact .inl (by simpa [hb] using ht)
  | _ => exact .inl ht

variable (attributes : List Attribute)

theorem Loading.startElement_sampleButton (button : SampleButtons) :
    s.startElement E button.tag attributes = (do
      let sampler ← lift (C.sampleBase button.tag attributes)
      pure {
        settings := { s.settings with
          samplerMap := Function.update s.settings.samplerMap button (some sampler) }
        activeSampleButton := some button }) := by
  cases button <;> rfl

theorem Loading.startElement_sampleTag (h : s.startElement E button.tag attributes = .ok t) :
    (t.settings.samplerMap button).isSome := by
  rw [Loading.startElement_sampleButton] at h
  obtain ⟨sampler, -, h⟩ := Run.bind_eq_ok.1 h
  cases h
  simp

theorem Loading.startElement_samplerMap (hs : s.ActiveFilled)
    (h : s.startElement E name attributes = .ok t) (button : SampleButtons) :
    (t.settings.samplerMap button).isSome ↔
      (s.settings.samplerMap button).isSome ∨ name = button.tag := by
  have hstep := s.startElement_started E attributes h
  refine ⟨hstep.samplerMap_fill hs, fun hold => hold.elim hstep.samplerMap_keep fun hn => ?_⟩
  subst hn
  exact Loading.startElement_sampleTag attributes h

variable (E)

theorem Loading.loadEvents_samplerMap (events : List XmlEvent) :
    ∀ {s t : Loading C Faders SimpleElements}, s.ActiveFilled →
      Loading.loadEvents E (events.map .ok) s = .ok t → ∀ button,
        (t.settings.samplerMap button).isSome ↔ (s.settings.samplerMap button).isSome ∨
          ∃ attributes, .startElement button.tag attributes ∈ events := by
  induction events with
  | nil =>
    rintro s t - ⟨⟩ button
    simp
  | cons event events ih =>
    intro s t hs ht button
    rcases event with ⟨name, attributes⟩ | name | _
    · obtain ⟨s', hs', ht⟩ := Run.bind_eq_ok.1 ht
      rw [ih ((s.startElement_started E attributes hs').activeFilled E hs) ht button,
        Loading.startElement_samplerMap attributes hs hs' button]
      simp only [List.mem_cons, XmlEvent.startElement.injEq, exists_or, exists_eq_right, or_assoc,
        @eq_comm _ name]
    · simp only [List.mem_cons, reduceCtorEq, false_or]
      exact (ih (s.endElement_activeFilled name hs) ht button).trans
        (by rw [Loading.endElement_settings])
    · simp only [List.mem_cons, reduceCtorEq, false_or]
      exact ih hs ht button

end Samplers

variable [DecidableEq Faders] [DecidableEq SimpleElements] (E : Enums Faders SimpleElements)

/-- Over every document that loads without a reader error, `sample_button` panics exactly on the
buttons whose tag the document lacks. -/
theorem load_sampleButton_panic (events : List XmlEvent)
    {settings : ProfileSettings C Faders SimpleElements}
    (h : load C E (events.map .ok) = .ok settings) (button : SampleButtons) :
    settings.sampleButton button = .panic ↔
      ∀ attributes, .startElement button.tag attributes ∉ events := by
  obtain ⟨t, ht, h⟩ := Run.bind_eq_ok.1 h
  cases h
  rw [ProfileSettings.sampleButton, unwrap_eq_panic, Bool.eq_false_iff, ne_eq,
    Loading.loadEvents_samplerMap E events (fun _ h => by cases h) ht]
  simp [ProfileSettings.initial]

theorem sampleTopLeft_sampleButtons :
    ∃ settings : ProfileSettings acceptAll (Fin 4) Unit,
      load acceptAll fourFaders ([XmlEvent.startElement "sampleTopLeft" []].map .ok) =
        .ok settings ∧
      (settings.sampleButton .Clear = .panic ↔
        ∀ attributes, .startElement SampleButtons.Clear.tag attributes ∉
          [XmlEvent.startElement "sampleTopLeft" []]) :=
  ⟨_, rfl, load_sampleButton_panic (C := acceptAll) fourFaders [.startElement "sampleTopLeft" []]
    rfl .Clear⟩

end GoXLR.Profile
