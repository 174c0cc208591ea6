import GoXLR.Profile.Accessors

/-! The simple elements of a loaded profile (`profile.rs`). `load` stores a simple element under
`SimpleElements::from_str` of its tag and does not check at the end that every element got one.
`simple_element` falls back on the global colour when an element is missing, and `write_to`
unwraps every element of `SimpleElements::iter()`. So over every document that loads,
`simple_element` panics exactly when neither the element nor the global colour had a tag, and
`write_to`, when the writers succeed, panics exactly when some element had none. -/

namespace GoXLR.Profile

variable {ε : Type} {C : Components ε} {Faders SimpleElements : Type}

def SimpleTag (E : Enums Faders SimpleElements) (name : String) (key : SimpleElements) : Prop :=
  simpleTag name = true ∧ E.simpleFromStr name = some key

theorem simpleTag_prefix {name : String} (h : simpleTag name = true) :
    ∃ tag ∈ ["sampleBank", "fxClear", "swear", "globalColour", "logoX"],
      startsWith name tag = true := by
  simp only [simpleTag, Bool.or_eq_true, beq_iff_eq] at h
  rcases h with (((h | rfl) | rfl) | rfl) | rfl
  exacts [⟨_, .head _, h⟩, ⟨"fxClear", by decide, rfl⟩, ⟨"swear", by decide, rfl⟩,
    ⟨"globalColour", by decide, rfl⟩, ⟨"logoX", by decide, rfl⟩]

section Step

variable {E : Enums Faders SimpleElements} [DecidableEq Faders] [DecidableEq SimpleElements]
  {name : String} {s t : Loading C Faders SimpleElements}

theorem Loading.Started.simpleElements_fill (h : s.Started E name t) :
    t.settings.simpleElements = s.settings.simpleElements ∨ ∃ key element, SimpleTag E name key ∧
      t.settings.simpleElements = Function.update s.settings.simpleElements key (some element) := by
  cases h with
  | simple key element hname hkey => exact .inr ⟨key, element, ⟨hname, hkey⟩, rfl⟩
  | _ => exact .inl rfl

theorem Loading.startElement_simpleTag (attributes : List Attribute) {key : SimpleElements}
    (htag : SimpleTag E name key) (h : s.startElement E name attributes = .ok t) :
    (t.settings.simpleElements key).isSome := by
  obtain ⟨hsimple, hkey⟩ := htag
  obtain ⟨tag, htag, hname⟩ := simpleTag_prefix hsimple
  simp only [List.mem_cons, List.not_mem_nil, or_false] at htag
  rcases htag with rfl | rfl | rfl | rfl | rfl
  all_goals
    simp (disch := decide) only [Loading.startElement, Loading.branches, List.findSome?_cons, id,
      Loading.rootBranch, Loading.sectionBranch, Loading.muteBranch, Loading.faderBranch,
      Loading.effectsBranch, Loading.scribbleBranch, Loading.presetBranch, Loading.sampleBranch,
      Loading.sampleStackBranch, Loading.simpleBranch, SampleButtons.tag, ne_of_startsWith hname,
      startsWith_false_of_startsWith hname, hsimple, hkey, Bool.false_eq_true, false_and,
      if_true, if_false, Run.pure_eq, Run.ok_bind, Option.getD_some] at h
    obtain ⟨element, -, h⟩ := Run.bind_eq_ok.1 h
    cases h
    simp

end Step

section Settings

variable (E : Enums Faders SimpleElements) (self : ProfileSettings C Faders SimpleElements)

theorem ProfileSettings.simpleElement_eq_panic (key : SimpleElements) :
    self.simpleElement E key = .panic ↔
      self.simpleElements key = none ∧ self.simpleElements E.globalColour = none := by
  unfold ProfileSettings.simpleElement
  split <;> simp_all [unwrap_eq_panic]

theorem Run.bind_ne_panic {α β : Type} {r : Run ε α} {f : α → Run ε β} (hr : ∃ a, r = .ok a)
    (hf : ∀ a, f a ≠ .panic) : r >>= f ≠ .panic := by
  obtain ⟨a, rfl⟩ := hr
  exact hf a

theorem ProfileSettings.writeSimpleElements_ok
    (hw : ∀ element sink, ∃ sink', C.writeSimple element sink = .ok sink') {keys : List SimpleElements}
    (hall : ∀ key ∈ keys, (self.simpleElements key).isSome) :
    ∀ sink, ∃ sink', self.writeSimpleElements keys sink = .ok sink' := by
  induction keys with
  | nil => exact fun sink => ⟨sink, rfl⟩
  | cons key keys ih =>
    intro sink
    obtain ⟨element, helement⟩ := Option.isSome_iff_exists.1 (hall key (.head _))
    obtain ⟨sink', hsink⟩ := hw element sink
    simp only [ProfileSettings.writeSimpleElements, List.foldlM_cons, helement, unwrap_some,
      Run.ok_bind, hsink, lift_ok]
    exact ih (fun key hkey => hall key (.tail _ hkey)) sink'

theorem ProfileSettings.writeTo_ne_panic (hC : C.Writes)
    (hall : ∀ key ∈ E.simpleIter, (self.simpleElements key).isSome) (sink : C.Sink) :
    self.writeTo E sink ≠ .panic := by
  unfold ProfileSettings.writeTo
  refine Run.bind_ne_panic (lift_ok_of (hC.initial _ _)) fun sink => ?_
  iterate 4 refine Run.bind_ne_panic (lift_ok_of (hC.write _ _ _)) fun sink => ?_
  refine Run.bind_ne_panic (writeEach_ok hC.button _ _ _) fun sink => ?_
  refine Run.bind_ne_panic (writeEach_ok hC.fader _ _ _) fun sink => ?_
  refine Run.bind_ne_panic (writeEach_ok hC.effects _ _ _) fun sink => ?_
  refine Run.bind_ne_panic (writeEach_ok hC.scribble _ _ _) fun sink => ?_
  iterate 7 refine Run.bind_ne_panic (lift_ok_of (hC.write _ _ _)) fun sink => ?_
  refine Run.bind_ne_panic (writeEach_ok hC.sample _ _ _) fun sink => ?_
  refine Run.bind_ne_panic (self.writeSimpleElements_ok hC.simple hall sink) fun sink => ?_
  cases C.writeFinal (self.parts .root) sink <;> nofun

theorem ProfileSettings.writeTo_eq_panic (hC : C.Writes) (sink : C.Sink) :
    self.writeTo E sink = .panic ↔ ∃ key ∈ E.simpleIter, self.simpleElements key = none := by
  refine ⟨fun h => by_contra fun hmiss => ?_, fun hmiss => self.writeTo_panics E hC hmiss sink⟩
  exact self.writeTo_ne_panic E hC
    (fun key hkey => Option.ne_none_iff_isSome.1 fun hk => hmiss ⟨key, hkey, hk⟩) sink h

end Settings

variable [DecidableEq Faders] [DecidableEq SimpleElements] (E : Enums Faders SimpleElements)

/-- Over every document that loads without a reader error: `write_to`, with writers that
succeed, panics exactly when some element of `SimpleElements::iter()` has no tag in the
document, and `simple_element` panics exactly when neither the element asked for nor the global
colour has one. -/
theorem load_simpleElements_panic (hC : C.Writes) (events : List XmlEvent)
    {settings : ProfileSettings C Faders SimpleElements}
    (h : load C E (events.map .ok) = .ok settings) :
    (∀ sink, settings.writeTo E sink = .panic ↔ ∃ key ∈ E.simpleIter,
      ∀ name attributes, .startElement name attributes ∈ events → ¬ SimpleTag E name key) ∧
    (∀ key, settings.simpleElement E key = .panic ↔ ∀ name attributes,
      .startElement name attributes ∈ events →
        ¬ SimpleTag E name key ∧ ¬ SimpleTag E name E.globalColour) := by
  have hslot := load_slot E (·.simpleElements) (SimpleTag E) (fun h => h.simpleElements_fill)
    (fun htag h => Loading.startElement_simpleTag _ htag h) (fun _ => rfl) events h
  have hnone (key : SimpleElements) : settings.simpleElements key = none ↔
      ∀ name attributes, .startElement name attributes ∈ events → ¬ SimpleTag E name key := by
    rw [← Option.not_isSome_iff_eq_none, hslot key]
    simp
  refine ⟨fun sink => ?_, fun key => ?_⟩
  · simp only [settings.writeTo_eq_panic E hC sink, hnone]
  · simp only [settings.simpleElement_eq_panic E key, hnone, imp_and, forall_and]

def globalColourOnly : List XmlEvent :=
  [.startElement "globalColour" []]

theorem globalColourOnly_simpleElements :
    acceptAll.Writes ∧ ∃ settings : ProfileSettings acceptAll (Fin 4) Unit,
      load acceptAll fourFaders (globalColourOnly.map .ok) = .ok settings ∧
      (∀ sink, settings.writeTo fourFaders sink = .panic ↔ ∃ key ∈ fourFaders.simpleIter,
        ∀ name attributes,
          .startElement name attributes ∈ globalColourOnly → ¬ SimpleTag fourFaders name key) ∧
      (∀ key, settings.simpleElement fourFaders key = .panic ↔ ∀ name attributes,
        .startElement name attributes ∈ globalColourOnly →
          ¬ SimpleTag fourFaders name key ∧ ¬ SimpleTag fourFaders name fourFaders.globalColour) :=
  ⟨acceptAll_writes, _, rfl,
    load_simpleElements_panic (C := acceptAll) fourFaders acceptAll_writes globalColourOnly rfl⟩

end GoXLR.Profile
