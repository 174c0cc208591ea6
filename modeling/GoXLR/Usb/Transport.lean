import GoXLR.Usb.Recovery

/-! What the transport answers, and what the handle records of it (`device/usb.rs`). Every cycle a
call of `perform_request` records is drawn from the transport: what `write_control` returned on
its frame after the cycles before it, and the polls the loop of `perform_request` made of what
`read_control` returned. So an assumption on the transport's answers carries over to the cycles
of a call, and from them to what the call returns. -/

namespace GoXLR.Usb

variable {Command : Type} (E : Env Command)

def Cycle.Drawn (past : List (Cycle Command)) (x : Cycle Command) : Prop :=
  x.written = E.writeControl past x.frame ∧
    x.polls = match x.written with
      | .ok () => (pollLoop E past x.frame (readU16 x.frame 6) (List.range 20) []).2
      | .error _ => []

def DrawnFrom : List (Cycle Command) → List (Cycle Command) → Prop
  | _, [] => True
  | past, x :: new => x.Drawn E past ∧ DrawnFrom (past ++ [x]) new

def Env.RespondsTo (past : List (Cycle Command)) (frame responseHeader : List UInt8) : Prop :=
  E.writeControl past frame = .ok () ∧
    (∃ k < 20,
      (∀ j < k, E.readControl past frame (List.replicate j (.error .Pipe)) = .error .Pipe) ∧
      E.readControl past frame (List.replicate k (.error .Pipe)) = .ok responseHeader) ∧
    16 ≤ responseHeader.length

def Env.Answers (past : List (Cycle Command)) (frame : List UInt8) : Prop :=
  ∃ responseHeader, E.RespondsTo past frame responseHeader ∧
    readU16 responseHeader 6 = readU16 frame 6

theorem drawnFrom_append (past a b : List (Cycle Command)) :
    DrawnFrom E past (a ++ b) ↔ DrawnFrom E past a ∧ DrawnFrom E (past ++ a) b := by
  induction a generalizing past with
  | nil => simp [DrawnFrom]
  | cons x a ih => simp [DrawnFrom, ih, and_assoc]

theorem DrawnFrom.drawn {past new pre post : List (Cycle Command)} {x : Cycle Command}
    (h : DrawnFrom E past new) (hn : new = pre ++ x :: post) : x.Drawn E (past ++ pre) := by
  subst hn
  exact ((drawnFrom_append E past pre _).1 h).2.1

theorem pollLoop_respondsTo {past : List (Cycle Command)} {frame : List UInt8}
    {commandIndex : UInt16} {responseHeader : List UInt8} :
    ∀ (is : List Nat), (∀ i ∈ is, i < 20) → ∀ (polls : List ReadResult) (k : Nat), k < is.length →
      (∀ j < k,
        E.readControl past frame (polls ++ List.replicate j (.error .Pipe)) = .error .Pipe) →
      E.readControl past frame (polls ++ List.replicate k (.error .Pipe)) = .ok responseHeader →
      (pollLoop E past frame commandIndex is polls).2 =
        polls ++ (List.replicate k (.error .Pipe) ++ [.ok responseHeader])
  | [], _, _, _, hk, _, _ => absurd hk (Nat.not_lt_zero _)
  | i :: is, his, polls, 0, _, _, hr => by
    rw [pollLoop_cons E is polls (his i (.head _))]
    simp only [List.replicate_zero, List.append_nil] at hr
    simp [hr, readVerdict]
  | i :: is, his, polls, k + 1, hk, hpipe, hr => by
    have hpipe₀ := hpipe 0 k.succ_pos
    simp only [List.replicate_zero, List.append_nil] at hpipe₀
    rw [pollLoop_cons E is polls (his i (.head _)), hpipe₀]
    simp only [readVerdict]
    rw [pollLoop_respondsTo is (fun j hj => his j (.tail _ hj)) _ k (by simpa using hk)
      (fun j hj => by simpa [List.replicate_succ] using hpipe (j + 1) (by omega))
      (by simpa [List.replicate_succ] using hr)]
    simp [List.replicate_succ]

section Drawn

variable {E} {past : List (Cycle Command)} {x : Cycle Command} {responseHeader : List UInt8}

theorem Cycle.Drawn.respondsWith (hd : x.Drawn E past)
    (hr : E.RespondsTo past x.frame responseHeader) : x.RespondsWith responseHeader := by
  obtain ⟨hw, ⟨k, hk, hpipe, hread⟩, hlen⟩ := hr
  have hw : x.written = .ok () := hd.1.trans hw
  refine ⟨hw, ⟨k, hk, ?_⟩, hlen⟩
  rw [hd.2, hw]
  simpa using pollLoop_respondsTo E (List.range 20) (fun i hi => List.mem_range.1 hi) [] k
    (by simpa using hk) (by simpa using hpipe) (by simpa using hread)

theorem Cycle.Drawn.ends_done (hd : x.Drawn E past) (hr : E.RespondsTo past x.frame responseHeader)
    (hs : readU16 responseHeader 6 = readU16 x.frame 6) :
    x.Ends (.done (responseHeader.drop 16)) := by
  simpa [Cycle.seq, hs] using (hd.respondsWith hr).ends

end Drawn

def GoXLRUSB.Draws (s t : GoXLRUSB Command) : Prop :=
  ∃ new, t.cycles = s.cycles ++ new ∧ DrawnFrom E s.cycles new

section Draws

variable {E}

theorem GoXLRUSB.Draws.trans {s t u : GoXLRUSB Command} (h₁ : s.Draws E t) (h₂ : t.Draws E u) :
    s.Draws E u := by
  obtain ⟨new₁, hc₁, hd₁⟩ := h₁
  obtain ⟨new₂, hc₂, hd₂⟩ := h₂
  exact ⟨new₁ ++ new₂, by rw [hc₂, hc₁, List.append_assoc],
    (drawnFrom_append E _ _ _).2 ⟨hd₁, hc₁ ▸ hd₂⟩⟩

variable (E)

variable [DecidableEq Command]

end Draws

section Answers

variable {E} [DecidableEq Command] {command : Command} {body : List UInt8} {retry : Bool}
  {s t : GoXLRUSB Command} {o : Outcome Command}

theorem Sent.ok_of_answers (h : Sent E command body retry t o)
    (hd : DrawnFrom E t.cycles (o.2.since t))
    (ha : E.Answers t.cycles (fullRequest (E.commandId command) t.commandCount body)) :
    ∃ x responseHeader, o.2.since t = [x] ∧ x.Sends E command body retry t.commandCount ∧
      E.RespondsTo t.cycles x.frame responseHeader ∧ o.1 = .ok (responseHeader.drop 16) := by
  obtain ⟨r, hr, hs⟩ := ha
  cases h with
  | @settled x p hx hp =>
    have hdx : x.Drawn E t.cycles := by
      simpa using hd.drawn E (show _ = [] ++ x :: [] by simp [GoXLRUSB.since])
    rw [← hx.frame_eq] at hr hs
    exact ⟨x, r, by simp [GoXLRUSB.since], hx, hr, by rw [hp.unique (hdx.ends_done hr hs)]; rfl⟩
  | @resyncFailed x y _ _ hx hp =>
    have hdx : x.Drawn E t.cycles := by
      simpa using hd.drawn E (show _ = [] ++ x :: [y] by simp [GoXLRUSB.since])
    rw [← hx.frame_eq] at hr hs
    cases hp.unique (hdx.ends_done hr hs)
  | @resent x y _ _ z _ hx hp =>
    have hdx : x.Drawn E t.cycles := by
      simpa using hd.drawn E (show _ = [] ++ x :: [y, z] by simp [GoXLRUSB.since])
    rw [← hx.frame_eq] at hr hs
    cases hp.unique (hdx.ends_done hr hs)

theorem Sent.preReset_answered {v : List UInt8} {s' : GoXLRUSB Command}
    (hpre : Sent E E.ResetCommandIndex [] E.requestDataRetry { s with commandCount := 0 }
      (.ok v, s'))
    (hs : Sent E command body retry { s' with commandCount := s'.commandCount + 1 } o)
    (hd : DrawnFrom E s.cycles (o.2.since s))
    (ha : E.Answers s.cycles (fullRequest (E.commandId E.ResetCommandIndex) 0 [])) :
    ∃ p, o.2.since s = [p] ++ o.2.since s' ∧ s'.cycles = s.cycles ++ [p] ∧
      s'.commandCount = 0 ∧ DrawnFrom E s'.cycles (o.2.since s') := by
  have hsplit := GoXLRUSB.since_trans hpre.cycles_eq hs.cycles_eq
  obtain ⟨hd₁, hd₂⟩ := (drawnFrom_append E _ _ _).1 (hsplit ▸ hd)
  obtain ⟨p, _, hp, -, -, -⟩ := hpre.ok_of_answers hd₁ ha
  have hc' : s'.cycles = s.cycles ++ [p] := by rw [hpre.cycles_eq, hp]
  rw [hp] at hsplit hd₂
  rw [← hc'] at hd₂
  exact ⟨p, hsplit, hc', hpre.commandCount_reset E rfl, hd₂⟩

theorem Performed.ok_of_answers (h : Performed E command body retry s o)
    (hd : DrawnFrom E s.cycles (o.2.since s))
    (ha : ∀ pre frame, E.Answers (s.cycles ++ pre) frame) :
    ∃ pre x responseHeader, o.2.since s = pre ++ [x] ∧
      x.Sends E command body retry (nextCommandIndex E command s) ∧
      E.RespondsTo (s.cycles ++ pre) x.frame responseHeader ∧
      o.1 = .ok (responseHeader.drop 16) := by
  have ha₀ : ∀ frame, E.Answers s.cycles frame := fun frame => by simpa using ha [] frame
  cases h with
  | reset hc hs =>
    obtain ⟨x, r, h₁, hx, hr, ho⟩ := hs.ok_of_answers hd (ha₀ _)
    exact ⟨[], x, r, h₁, by simpa [nextCommandIndex, hc] using hx, by simpa using hr, ho⟩
  | fresh hc hm hs =>
    obtain ⟨x, r, h₁, hx, hr, ho⟩ := hs.ok_of_answers hd (ha₀ _)
    exact ⟨[], x, r, h₁, by simpa [nextCommandIndex, hc, hm] using hx, by simpa using hr, ho⟩
  | preResetFailed _ _ hs =>
    obtain ⟨_, _, _, _, _, ho⟩ := hs.ok_of_answers hd (ha₀ _)
    cases ho
  | @preReset _ s' _ hc hm hpre hs =>
    obtain ⟨p, hsplit, hc', h0, hd'⟩ := hpre.preReset_answered hs hd (ha₀ _)
    obtain ⟨x, r, h₁, hx, hr, ho⟩ := hs.ok_of_answers hd'
      (show E.Answers s'.cycles _ by rw [hc']; exact ha [p] _)
    exact ⟨[p], x, r, hsplit.trans (congrArg ([p] ++ ·) h₁),
      by simpa [nextCommandIndex, hc, hm, h0] using hx, by simpa [hc'] using hr, ho⟩

end Answers

variable [DecidableEq Command]

end GoXLR.Usb
