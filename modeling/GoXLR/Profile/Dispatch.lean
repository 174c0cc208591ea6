import GoXLR.Profile.Settings

/-! What one start tag does to the state `load` holds (`profile.rs`). A branch of the
`StartElement` arm that returns `Ok` writes one part of the settings, or none: the state the
components parse in place, the mute button, fader or scribble strip of the fader the tag numbers,
the effects of the preset the tag names, a sample button's sampler (which becomes the active one),
a stack of the active sampler, or a simple element. A tag no branch takes is only `warn!`ed.
`Loading.Started` lists these steps with the checks the branch made on the tag; it is proved once
from the branches, and the invariants of `load` over whole runs are read off it. -/

namespace GoXLR.Profile

variable {ε : Type} {C : Components ε} {Faders SimpleElements : Type}

theorem unwrap_eq_ok {α : Type} {a : α} :
    ∀ {o : Option α}, (unwrap o : Run ε α) = .ok a → o = some a
  | some _, h => by cases h; rfl
  | none, h => by cases h

theorem unwrap_eq_panic {α : Type} {o : Option α} :
    (unwrap o : Run ε α) = .panic ↔ o.isSome = false := by
  cases o <;> simp [unwrap]

theorem isSome_update_some {α β : Type} [DecidableEq α] {f : α → Option β} (a : α) (b : β)
    {a' : α} (h : (f a').isSome) : (Function.update f a (some b) a').isSome := by
  rw [Function.update_apply]
  split <;> simp [h]

section Started

variable [DecidableEq Faders] [DecidableEq SimpleElements] (E : Enums Faders SimpleElements)
  (name : String) (s : Loading C Faders SimpleElements)

inductive Loading.Started : Loading C Faders SimpleElements → Prop
  | skipped : Loading.Started s
  | parsed (sec : Section) (part : C.Part sec) :
      Loading.Started { s with settings := { s.settings with
        parts := Function.update s.settings.parts sec part } }
  | mute (id : UInt8) (button : C.MuteButton) (fader : Faders)
      (hname : startsWith name "mute" = true ∧ name ≠ "muteChat")
      (hid : (lastDigit name : Except (LoadError ε) (Option UInt8)) = .ok (some id))
      (hfader : E.fadersIter[(id - 1).toNat]? = some fader) :
      Loading.Started { s with settings := { s.settings with
        muteButtons := Function.update s.settings.muteButtons fader (some button) } }
  | fader (id : UInt8) (f : C.Fader) (fader : Faders)
      (hname : startsWith name "FaderMeter" = true)
      (hid : (lastDigit name : Except (LoadError ε) (Option UInt8)) = .ok (some id))
      (hfader : E.fadersIter[id.toNat]? = some fader) :
      Loading.Started { s with settings := { s.settings with
        faders := Function.update s.settings.faders fader (some f) } }
  | effects (preset : Preset) (effect : C.Effects) (hname : startsWith name "effects" = true)
      (hpreset : Preset.iter.find? (E.contextTitle · = name) = some preset) :
      Loading.Started { s with settings := { s.settings with
        effects := Function.update s.settings.effects preset (some effect) } }
  | scribble (id : UInt8) (scribble : C.Scribble) (fader : Faders)
      (hname : startsWith name "scribble" = true)
      (hid : (lastDigit name : Except (LoadError ε) (Option UInt8)) = .ok (some id))
      (hfader : E.fadersIter[(id - 1).toNat]? = some fader) :
      Loading.Started { s with settings := { s.settings with
        scribbles := Function.update s.settings.scribbles fader (some scribble) } }
  | sample (button : SampleButtons) (sampler : C.SampleBase) (hname : name = button.tag) :
      Loading.Started {
        settings := { s.settings with
          samplerMap := Function.update s.settings.samplerMap button (some sampler) }
        activeSampleButton := some button }
  | sampleStack (button : SampleButtons) (sampler : C.SampleBase)
      (hname : startsWith name "sampleStack" = true)
      (hactive : s.activeSampleButton = some button) :
      Loading.Started { s with settings := { s.settings with
        samplerMap := Function.update s.settings.samplerMap button (some sampler) } }
  | simple (key : SimpleElements) (element : C.SimpleElement) (hname : simpleTag name = true)
      (hkey : E.simpleFromStr name = some key) :
      Loading.Started { s with settings := { s.settings with
        simpleElements := Function.update s.settings.simpleElements key (some element) } }

def Loading.BranchStarted (o : Option (Run ε (Loading C Faders SimpleElements))) : Prop :=
  ∀ t, o = some (.ok t) → s.Started E name t

variable {E name s}

theorem Loading.branchStarted_none : s.BranchStarted E name none := fun _ h => nomatch h

theorem Loading.branchStarted_err (e : LoadError ε) : s.BranchStarted E name (some (.err e)) :=
  fun _ h => nomatch h

theorem Loading.branchStarted_pure {t : Loading C Faders SimpleElements}
    (h : s.Started E name t) : s.BranchStarted E name (some (pure t)) := by
  rintro _ ⟨⟩
  exact h

theorem Loading.branchStarted_bind {α : Type} {r : Run ε α}
    {f : α → Run ε (Loading C Faders SimpleElements)}
    (hf : ∀ a, r = .ok a → s.BranchStarted E name (some (f a))) :
    s.BranchStarted E name (some (r >>= f)) := by
  intro t h
  obtain ⟨a, ha, h⟩ := Run.bind_eq_ok.1 (Option.some.inj h)
  exact hf a ha t (congrArg some h)

theorem Loading.branchStarted_parsed {sec : Section} {r : Run ε (C.Part sec)} :
    s.BranchStarted E name (some (r >>= fun part =>
      pure { s with settings := { s.settings with
        parts := Function.update s.settings.parts sec part } })) :=
  branchStarted_bind fun part _ => branchStarted_pure (.parsed sec part)

variable (E s) (attributes : List Attribute)

theorem Loading.rootBranch_started : s.BranchStarted E name (s.rootBranch name attributes) := by
  unfold Loading.rootBranch
  split
  · refine branchStarted_bind fun root _ => ?_
    split
    · exact fun _ h => nomatch h
    · exact branchStarted_pure (.parsed .root root)
  · exact branchStarted_none

theorem Loading.sectionBranch_started (tag : String) (sec : Section) :
    s.BranchStarted E name (s.sectionBranch tag sec name attributes) := by
  unfold Loading.sectionBranch
  split
  · exact branchStarted_parsed
  · exact branchStarted_none

theorem Loading.presetBranch_started (tag : String) (sec : Section) :
    s.BranchStarted E name (s.presetBranch tag sec name attributes) := by
  unfold Loading.presetBranch
  split
  · split
    · exact branchStarted_parsed
    · exact branchStarted_none
  · exact branchStarted_none

theorem Loading.muteBranch_started : s.BranchStarted E name (s.muteBranch E name attributes) := by
  unfold Loading.muteBranch
  split
  next hname =>
    split
    · exact branchStarted_err _
    · exact branchStarted_none
    next id hid =>
      exact branchStarted_bind fun button _ => branchStarted_bind fun fader hfader =>
        branchStarted_pure (.mute id button fader hname hid (unwrap_eq_ok hfader))
  · exact branchStarted_none

theorem Loading.faderBranch_started : s.BranchStarted E name (s.faderBranch E name attributes) := by
  unfold Loading.faderBranch
  split
  next hname =>
    split
    · exact branchStarted_err _
    · exact branchStarted_none
    next id hid =>
      exact branchStarted_bind fun f _ => branchStarted_bind fun fader hfader =>
        branchStarted_pure (.fader id f fader hname hid (unwrap_eq_ok hfader))
  · exact branchStarted_none

theorem Loading.effectsBranch_started :
    s.BranchStarted E name (s.effectsBranch E name attributes) := by
  unfold Loading.effectsBranch
  split
  next hname =>
    split
    next preset hpreset =>
      exact branchStarted_bind fun effect _ =>
        branchStarted_pure (.effects preset effect hname hpreset)
    · exact branchStarted_none
  · exact branchStarted_none

theorem Loading.scribbleBranch_started :
    s.BranchStarted E name (s.scribbleBranch E name attributes) := by
  unfold Loading.scribbleBranch
  split
  next hname =>
    split
    · exact branchStarted_err _
    · exact branchStarted_none
    next id hid =>
      exact branchStarted_bind fun scribble _ => branchStarted_bind fun fader hfader =>
        branchStarted_pure (.scribble id scribble fader hname hid (unwrap_eq_ok hfader))
  · exact branchStarted_none

theorem Loading.sampleBranch_started (button : SampleButtons) :
    s.BranchStarted E name (s.sampleBranch button name attributes) := by
  unfold Loading.sampleBranch
  split
  next hname =>
    exact branchStarted_bind fun sampler _ => branchStarted_pure (.sample button sampler hname)
  · exact branchStarted_none

theorem Loading.sampleStackBranch_started :
    s.BranchStarted E name (s.sampleStackBranch name attributes) := by
  unfold Loading.sampleStackBranch
  split
  next hname =>
    split
    next button _ hactive =>
      split
      · exact branchStarted_bind fun sampler _ =>
          branchStarted_pure (.sampleStack button sampler hname hactive)
      · exact branchStarted_none
    · exact branchStarted_none
  · exact branchStarted_none

theorem Loading.simpleBranch_started :
    s.BranchStarted E name (s.simpleBranch E name attributes) := by
  unfold Loading.simpleBranch
  split
  next hname =>
    refine branchStarted_bind fun element _ => ?_
    dsimp only
    split
    next key hkey =>
      exact branchStarted_bind fun _ h => by
        cases h
        exact branchStarted_pure (.simple key element hname hkey)
    · exact branchStarted_bind fun _ h => nomatch h
  · exact branchStarted_none

theorem Loading.branches_started :
    ∀ o ∈ s.branches E name attributes, s.BranchStarted E name o := by
  simp only [Loading.branches, List.forall_mem_cons, List.not_mem_nil, false_implies, implies_true,
    and_true, Loading.rootBranch_started E s attributes,
    Loading.sectionBranch_started E s attributes, Loading.presetBranch_started E s attributes,
    Loading.sampleBranch_started E s attributes, Loading.muteBranch_started E s attributes,
    Loading.faderBranch_started E s attributes,
    Loading.effectsBranch_started E s attributes, Loading.scribbleBranch_started E s attributes,
    Loading.sampleStackBranch_started E s attributes, Loading.simpleBranch_started E s attributes,
    true_and]
  -- what is left is the `AppTree` branch, which keeps the state as it is
  split
  · exact branchStarted_pure .skipped
  · exact branchStarted_none

theorem Loading.startElement_started {t : Loading C Faders SimpleElements}
    (h : s.startElement E name attributes = .ok t) : s.Started E name t := by
  unfold Loading.startElement at h
  cases hf : (s.branches E name attributes).findSome? id with
  | none =>
    rw [hf] at h
    cases h
    exact .skipped
  | some r =>
    obtain ⟨o, ho, rfl⟩ := List.exists_of_findSome?_eq_some hf
    rw [hf] at h
    exact s.branches_started E attributes _ ho t (congrArg some h)

end Started

end GoXLR.Profile
