import GoXLR.Profile.Panics

/-! The tags `load` numbers by their last character (`profile.rs`). `mute<n>`, `FaderMeter<n>` and
`scribble<n>` read it with `u8::from_str(..)?`, so a tag of these families that does not end in a
digit makes `load` return an `Err`. The preset tags of the effect and encoder bases read it with
`if let Ok(preset) = parse_preset(..)`, so one whose number names no preset falls through to the
`warn!` and is skipped, as `AppTree` is: taking it out of a document changes nothing. -/

namespace GoXLR.Profile

variable {ε : Type} {C : Components ε} {Faders SimpleElements : Type}

theorem startsWith_false_of_startsWith {name pre other : String}
    (h : startsWith name pre = true) (h₁ : startsWith pre other = false)
    (h₂ : startsWith other pre = false) : startsWith name other = false := by
  simp only [startsWith, Bool.eq_false_iff, ne_eq, List.isPrefixOf_iff_prefix] at h h₁ h₂ ⊢
  intro h'
  rcases List.prefix_or_prefix_of_prefix h h' with hp | hp
  exacts [h₂ hp, h₁ hp]

theorem ne_of_startsWith {name pre other : String} (h : startsWith name pre = true)
    (h' : startsWith other pre = false) : name ≠ other := by
  rintro rfl
  simp_all

section Digits

variable [DecidableEq Faders] [DecidableEq SimpleElements] (E : Enums Faders SimpleElements)
  (s : Loading C Faders SimpleElements) (attributes : List Attribute) {name : String} {c : Char}

theorem Loading.startElement_lastDigit_err
    (hname : (startsWith name "mute" = true ∧ name ≠ "muteChat") ∨
      startsWith name "FaderMeter" = true ∨ startsWith name "scribble" = true)
    (hc : name.toList.getLast? = some c) (hd : c.isDigit = false) :
    s.startElement E name attributes = .err .parseInt := by
  have hlast : (lastDigit name : Except (LoadError ε) (Option UInt8)) = .error .parseInt := by
    rw [lastDigit, hc]
    simp [hd]
  rcases hname with ⟨h, hchat⟩ | h | h
  all_goals
    simp (disch := decide) only [Loading.startElement, Loading.branches, List.findSome?_cons, id,
      Loading.rootBranch, Loading.sectionBranch, Loading.muteBranch, Loading.faderBranch,
      Loading.effectsBranch, Loading.scribbleBranch, ne_of_startsWith h,
      startsWith_false_of_startsWith h, h, hlast, Bool.false_eq_true, false_and, if_false,
      if_true, true_and, ne_eq, not_false_eq_true, Option.getD_some]
  · simp [hchat]

theorem load_of_startElement_err {events : List XmlEvent} {s : Loading C Faders SimpleElements}
    (hs : Loading.loadEvents E (events.map .ok) ⟨.initial, none⟩ = .ok s)
    {e : LoadError ε} (h : s.startElement E name attributes = .err e)
    (rest : List (Except String XmlEvent)) :
    load C E (events.map .ok ++ .ok (.startElement name attributes) :: rest) = .err e := by
  simp only [load, Loading.loadEvents_append, hs, Run.ok_bind, Loading.loadEvents, h]
  rfl

/-- Whatever came before and whatever follows, a tag that starts with `mute` (other than
`muteChat`), `FaderMeter` or `scribble` and does not end in a digit makes `load` return the
`ParseIntError` of `u8::from_str`. -/
theorem load_lastDigit_err (events : List XmlEvent) {s : Loading C Faders SimpleElements}
    (hs : Loading.loadEvents E (events.map .ok) ⟨.initial, none⟩ = .ok s)
    (hname : (startsWith name "mute" = true ∧ name ≠ "muteChat") ∨
      startsWith name "FaderMeter" = true ∨ startsWith name "scribble" = true)
    (hc : name.toList.getLast? = some c) (hd : c.isDigit = false)
    (rest : List (Except String XmlEvent)) :
    load C E (events.map .ok ++ .ok (.startElement name attributes) :: rest) = .err .parseInt :=
  load_of_startElement_err E attributes hs (s.startElement_lastDigit_err E attributes hname hc hd)
    rest

end Digits

theorem muteButton_tag_err :
    Loading.loadEvents fourFaders (([] : List XmlEvent).map .ok) ⟨.initial, none⟩ =
        .ok ⟨(ProfileSettings.initial : ProfileSettings acceptAll (Fin 4) Unit), none⟩ ∧
      ((startsWith "muteButton" "mute" = true ∧ "muteButton" ≠ "muteChat") ∨
        startsWith "muteButton" "FaderMeter" = true ∨ startsWith "muteButton" "scribble" = true) ∧
      "muteButton".toList.getLast? = some 'n' ∧ 'n'.isDigit = false ∧
      load acceptAll fourFaders
        (([] : List XmlEvent).map .ok ++ .ok (.startElement "muteButton" []) :: []) =
        .err .parseInt :=
  ⟨rfl, .inl ⟨rfl, by decide⟩, rfl, rfl,
    load_lastDigit_err fourFaders [] [] (by rfl) (.inl ⟨by rfl, by decide⟩) (by rfl) (by rfl) []⟩

def presetTags : List String :=
  ["megaphoneEffectpreset", "robotEffectpreset", "hardtuneEffectpreset", "reverbEncoderpreset",
    "echoEncoderpreset", "pitchEncoderpreset", "genderEncoderpreset"]

section Skipped

variable [DecidableEq Faders] [DecidableEq SimpleElements] (E : Enums Faders SimpleElements)
  (s : Loading C Faders SimpleElements) (attributes : List Attribute) {name : String}

omit [DecidableEq Faders] [DecidableEq SimpleElements] in
theorem Loading.presetBranch_of_error {tag : String} (sec : Section)
    (h : ∃ e, (parsePreset name : Except (LoadError ε) Preset) = .error e) :
    s.presetBranch tag sec name attributes = none := by
  obtain ⟨e, he⟩ := h
  unfold Loading.presetBranch
  rw [he]
  split <;> rfl

theorem Loading.startElement_appTree : s.startElement E "AppTree" attributes = pure s := rfl

theorem Loading.startElement_presetTag {tag : String} (htag : tag ∈ presetTags)
    (h : startsWith name tag = true)
    (hp : ∃ e, (parsePreset name : Except (LoadError ε) Preset) = .error e) :
    s.startElement E name attributes = pure s := by
  simp only [presetTags, List.mem_cons, List.not_mem_nil, or_false] at htag
  rcases htag with rfl | rfl | rfl | rfl | rfl | rfl | rfl
  all_goals
    simp (disch := decide) only [Loading.startElement, Loading.branches, List.findSome?_cons, id,
      Loading.rootBranch, Loading.sectionBranch, Loading.muteBranch, Loading.faderBranch,
      Loading.effectsBranch, Loading.scribbleBranch, Loading.sampleBranch,
      Loading.sampleStackBranch, Loading.simpleBranch, simpleTag, SampleButtons.tag,
      s.presetBranch_of_error attributes _ hp, ne_of_startsWith h, startsWith_false_of_startsWith h,
      Bool.false_eq_true, false_and, if_false, Bool.false_or, Bool.or_eq_true, beq_iff_eq, or_self,
      List.findSome?_nil, Option.getD_none]

theorem Loading.loadEvents_erase
    (hskip : ∀ s : Loading C Faders SimpleElements, s.startElement E name attributes = pure s)
    (rest : List (Except String XmlEvent)) :
    ∀ (pre : List (Except String XmlEvent)) (s : Loading C Faders SimpleElements),
      Loading.loadEvents E (pre ++ .ok (.startElement name attributes) :: rest) s =
        Loading.loadEvents E (pre ++ rest) s
  | [], s => by simp only [List.nil_append, Loading.loadEvents, hskip, Run.pure_eq, Run.ok_bind]
  | .error _ :: _, _ => rfl
  | .ok (.startElement _ _) :: pre, _ => by
    simp only [List.cons_append, Loading.loadEvents, List.append_eq,
      Loading.loadEvents_erase hskip rest pre]
  | .ok (.endElement _) :: pre, _ => Loading.loadEvents_erase hskip rest pre _
  | .ok .other :: pre, s => Loading.loadEvents_erase hskip rest pre s

/-- `load` skips an `AppTree` tag and a preset tag whose number `parse_preset` rejects (a last
character that is not a digit, `0`, where the index wraps, or `7` to `9`): whatever the document
around it, taking the tag out does not change what `load` returns. A `mute`, `FaderMeter` or
`scribble` tag that does not end in a digit is an `Err` instead. -/
theorem load_skipped_tag (pre rest : List (Except String XmlEvent))
    (hname : name = "AppTree" ∨ (∃ tag ∈ presetTags, startsWith name tag = true) ∧
      ∃ e, (parsePreset name : Except (LoadError ε) Preset) = .error e) :
    load C E (pre ++ .ok (.startElement name attributes) :: rest) = load C E (pre ++ rest) := by
  have hskip (s : Loading C Faders SimpleElements) : s.startElement E name attributes = pure s := by
    rcases hname with rfl | ⟨⟨tag, htag, h⟩, hp⟩
    exacts [s.startElement_appTree E attributes, s.startElement_presetTag E attributes htag h hp]
  rw [load, load, Loading.loadEvents_erase E attributes hskip]

end Skipped

theorem reverbEncoderpreset0_skipped :
    ("reverbEncoderpreset0" = "AppTree" ∨
        (∃ tag ∈ presetTags, startsWith "reverbEncoderpreset0" tag = true) ∧
        ∃ e, (parsePreset "reverbEncoderpreset0" : Except (LoadError Unit) Preset) = .error e) ∧
      load acceptAll fourFaders
          ([.ok (.startElement "reverbEncoder" [])] ++
            .ok (.startElement "reverbEncoderpreset0" []) :: [.ok (.endElement "reverbEncoder")]) =
        load acceptAll fourFaders
          ([.ok (.startElement "reverbEncoder" [])] ++ [.ok (.endElement "reverbEncoder")]) :=
  ⟨.inr ⟨⟨"reverbEncoderpreset", by decide, rfl⟩, _, rfl⟩,
    load_skipped_tag fourFaders [] _ _
      (.inr ⟨⟨"reverbEncoderpreset", by decide, by rfl⟩, _, by rfl⟩)⟩

end GoXLR.Profile
