import GoXLR.Usb.Errors

/-! The resync of `perform_request`: what a call carries after its own frame, and how many cycles
that makes. -/

namespace GoXLR.Usb

variable {Command : Type}

def Cycle.RespondsWith (x : Cycle Command) (responseHeader : List UInt8) : Prop :=
  x.written = .ok () ∧
    (∃ k < 20, x.polls = List.replicate k (.error .Pipe) ++ [.ok responseHeader]) ∧
    16 ≤ responseHeader.length

def Cycle.Mismatched (x : Cycle Command) : Prop :=
  ∃ responseHeader, x.RespondsWith responseHeader ∧ readU16 responseHeader 6 ≠ x.seq

theorem Cycle.RespondsWith.ends {x : Cycle Command} {responseHeader : List UInt8}
    (h : x.RespondsWith responseHeader) :
    x.Ends (if readU16 responseHeader 6 = x.seq then .done (responseHeader.drop 16)
      else .mismatch) := by
  obtain ⟨hw, ⟨k, hk, hs⟩, hl⟩ := h
  refine .answered hw hk hs ?_
  simp only [readVerdict, Cycle.seq, if_neg (Nat.not_lt.2 hl)]
  split_ifs <;> simp_all

theorem Cycle.Mismatched.ends {x : Cycle Command} (h : x.Mismatched) : x.Ends .mismatch := by
  obtain ⟨responseHeader, hr, hs⟩ := h
  simpa [hs] using hr.ends

theorem Cycle.Ends.mismatched {x : Cycle Command} (h : x.Ends .mismatch) : x.Mismatched := by
  generalize hp : Poll.mismatch = p at h
  cases h with
  | refused => cases hp
  | silent => cases hp
  | @answered k r _ hw hk hs hr =>
    rcases r with e | responseHeader
    · cases e <;> simp [readVerdict] at hr <;> cases hr ▸ hp
    · simp only [readVerdict, Option.some.injEq] at hr
      split_ifs at hr with h₁ h₂ <;> subst hr <;> cases hp
      exact ⟨responseHeader, ⟨hw, ⟨k, hk, hs⟩, by omega⟩, h₂⟩

variable [DecidableEq Command] (E : Env Command)

def nextCommandIndex (command : Command) (s : GoXLRUSB Command) : UInt16 :=
  if command = E.ResetCommandIndex then 0
  else if s.commandCount = 65535 then 1 else s.commandCount + 1

def ResyncTail (command : Command) (body : List UInt8) (x : Cycle Command)
    (result : Except UsbError (List UInt8)) : List (Cycle Command) → Prop
  | [] => True
  | [y] => x.Mismatched ∧ y.Sends E E.ResetCommandIndex [] true 0
  | [y, z] => x.Mismatched ∧ y.Sends E E.ResetCommandIndex [] true 0 ∧
      z.Sends E command body true (if command = E.ResetCommandIndex then 0 else 1) ∧
      (z.Mismatched → result = .error .Other)
  | _ :: _ :: _ :: _ => False

namespace ResyncTail

variable {E} {command : Command} {body : List UInt8} {x : Cycle Command}
  {result : Except UsbError (List UInt8)}

theorem length_le {tail : List (Cycle Command)} (h : ResyncTail E command body x result tail) :
    tail.length ≤ 2 := by
  match tail, h with
  | [], _ | [_], _ | [_, _], _ => simp

theorem command_mem {tail : List (Cycle Command)} (h : ResyncTail E command body x result tail) :
    ∀ y ∈ tail, y.command = command ∨ y.command = E.ResetCommandIndex := by
  match tail, h with
  | [], _ => simp
  | [_], ⟨_, hy⟩ => simp [hy.command_eq]
  | [_, _], ⟨_, hy, hz, _⟩ => simp [hy.command_eq, hz.command_eq]

theorem count_le {tail : List (Cycle Command)} (h : ResyncTail E command body x result tail)
    (hc : command ≠ E.ResetCommandIndex) : (tail.filter (·.command = command)).length ≤ 1 := by
  match tail, h with
  | [], _ => simp
  | [_], ⟨_, hy⟩ => simp [List.filter_cons, hy.command_eq, Ne.symm hc]
  | [_, _], ⟨_, hy, hz, _⟩ => simp [List.filter_cons, hy.command_eq, hz.command_eq, Ne.symm hc]

end ResyncTail

variable {E}

section Sent

variable {command : Command} {body : List UInt8} {retry : Bool} {s : GoXLRUSB Command}
  {o : Outcome Command}

theorem Sent.cycles_eq (h : Sent E command body retry s o) : o.2.cycles = s.cycles ++ o.2.since s := by
  obtain ⟨new, hc, -⟩ := h.chain
  rw [GoXLRUSB.since_eq hc, hc]

theorem Sent.shape (h : Sent E command body retry s o) :
    ∃ x tail, o.2.since s = x :: tail ∧ x.Sends E command body retry s.commandCount ∧
      (retry = false → ResyncTail E command body x o.1 tail) ∧ (retry = true → tail = []) := by
  cases h with
  | settled hx => exact ⟨_, [], GoXLRUSB.since_eq rfl, hx, fun _ => trivial, fun _ => rfl⟩
  | @resyncFailed x y _ _ hx hp hr hy =>
    exact ⟨x, [y], GoXLRUSB.since_eq (by simp), hx, fun _ => ⟨hp.mismatched, hy⟩,
      fun h => absurd (hr.symm.trans h) Bool.false_ne_true⟩
  | @resent x y _ _ z _ hx hp hr hy _ _ hz hpz =>
    refine ⟨x, [y, z], GoXLRUSB.since_eq (by simp), hx,
      fun _ => ⟨hp.mismatched, hy, hz, fun hm => ?_⟩,
      fun h => absurd (hr.symm.trans h) Bool.false_ne_true⟩
    rw [hpz.unique hm.ends]; rfl

theorem Sent.length_le (h : Sent E command body retry s o) : (o.2.since s).length ≤ 3 := by
  obtain ⟨x, tail, hs, -, hf, ht⟩ := h.shape
  rw [hs, List.length_cons]
  cases retry
  · have := (hf rfl).length_le; omega
  · simp [ht rfl]

theorem Sent.command_mem (h : Sent E command body retry s o) :
    ∀ y ∈ o.2.since s, y.command = command ∨ y.command = E.ResetCommandIndex := by
  obtain ⟨x, tail, hs, hx, hf, ht⟩ := h.shape
  rw [hs, List.forall_mem_cons]
  refine ⟨.inl hx.command_eq, ?_⟩
  cases retry
  · exact (hf rfl).command_mem
  · simp [ht rfl]

end Sent

section Performed

variable {command : Command} {body : List UInt8} {retry : Bool} {s : GoXLRUSB Command}
  {o : Outcome Command}

theorem Performed.send (h : Performed E command body retry s o) :
    (command ≠ E.ResetCommandIndex ∧ s.commandCount = 65535 ∧ (∃ e, o.1 = .error e) ∧
        Sent E E.ResetCommandIndex [] E.requestDataRetry { s with commandCount := 0 } o) ∨
      ∃ t, Sent E command body retry t o ∧ t.commandCount = nextCommandIndex E command s ∧
        t.cycles = s.cycles ++ t.since s ∧ (t.since s).length ≤ 3 ∧
        (∀ x ∈ t.since s, x.command = E.ResetCommandIndex) ∧
        (t.since s ≠ [] → command ≠ E.ResetCommandIndex ∧ s.commandCount = 65535) := by
  have fresh : ∀ {t : GoXLRUSB Command}, t.cycles = s.cycles → t.cycles = s.cycles ++ t.since s ∧
      (t.since s).length ≤ 3 ∧ (∀ x ∈ t.since s, x.command = E.ResetCommandIndex) ∧
      (t.since s ≠ [] → command ≠ E.ResetCommandIndex ∧ s.commandCount = 65535) := fun ht => by
    simp [GoXLRUSB.since_eq (show _ = s.cycles ++ [] by simpa using ht), ht]
  cases h with
  | reset hc hs => exact .inr ⟨_, hs, by simp [nextCommandIndex, hc], fresh rfl⟩
  | fresh hc hm hs => exact .inr ⟨_, hs, by simp [nextCommandIndex, hc, hm], fresh rfl⟩
  | preResetFailed hc hm hs => exact .inl ⟨hc, hm, ⟨_, rfl⟩, hs⟩
  | @preReset _ s' _ hc hm hpre hs =>
    refine .inr ⟨_, hs, ?_, hpre.cycles_eq, hpre.length_le, fun x hx => ?_, fun _ => ⟨hc, hm⟩⟩
    · have h0 : s'.commandCount = 0 := hpre.commandCount_reset E rfl
      simp [nextCommandIndex, hc, hm, h0]
    · simpa using hpre.command_mem x hx

theorem Performed.shape (h : Performed E command body retry s o) :
    ∃ pre own, o.2.since s = pre ++ own ∧ pre.length ≤ 3 ∧
      (∀ x ∈ pre, x.command = E.ResetCommandIndex) ∧
      (pre ≠ [] → command ≠ E.ResetCommandIndex ∧ s.commandCount = 65535) ∧
      (own = [] ∨ ∃ x tail, own = x :: tail ∧
        x.Sends E command body retry (nextCommandIndex E command s) ∧
        (retry = false → ResyncTail E command body x o.1 tail) ∧ (retry = true → tail = [])) := by
  rcases h.send with ⟨hc, hm, -, hs⟩ | ⟨t, hs, hi, ht, hl, hR, hpre⟩
  · exact ⟨_, [], (List.append_nil _).symm, hs.length_le,
      fun x hx => by simpa using hs.command_mem x hx, fun _ => ⟨hc, hm⟩, .inl rfl⟩
  · obtain ⟨x, tail, h₁, hx, hf, hn⟩ := hs.shape
    exact ⟨_, _, GoXLRUSB.since_trans ht hs.cycles_eq, hl, hR, hpre,
      .inr ⟨x, tail, h₁, hi ▸ hx, hf, hn⟩⟩

end Performed

variable (E)

section Resync

variable (command : Command) (body : List UInt8)

theorem filter_command_of_reset {pre : List (Cycle Command)}
    (hR : ∀ x ∈ pre, x.command = E.ResetCommandIndex) (hc : command ≠ E.ResetCommandIndex) :
    pre.filter (·.command = command) = [] :=
  List.filter_eq_nil_iff.2 fun x hx => by simp [hR x hx, Ne.symm hc]

theorem requestCycles_shape (s : GoXLRUSB Command) :
    ∃ pre own, requestCycles E command body false s = pre ++ own ∧ pre.length ≤ 3 ∧
      (∀ x ∈ pre, x.command = E.ResetCommandIndex) ∧
      (pre ≠ [] → command ≠ E.ResetCommandIndex ∧ s.commandCount = 65535) ∧
      (own = [] ∨ ∃ x tail, own = x :: tail ∧
        x.Sends E command body false (nextCommandIndex E command s) ∧
        ResyncTail E command body x (performRequest E command body false s).1 tail) := by
  obtain ⟨pre, own, hs, hl, hR, hpre, hown⟩ :=
    (performRequest_performed E command body false s).shape
  exact ⟨pre, own, hs, hl, hR, hpre,
    hown.imp_right fun ⟨x, tail, h, hx, hf, _⟩ => ⟨x, tail, h, hx, hf rfl⟩⟩

theorem requestCycles_length_le (s : GoXLRUSB Command) :
    (requestCycles E command body false s).length ≤ 6 := by
  obtain ⟨pre, own, hs, hl, -, -, hown⟩ := requestCycles_shape E command body s
  rw [hs, List.length_append]
  rcases hown with rfl | ⟨x, tail, rfl, -, hf⟩
  · simp only [List.length_nil]; omega
  · have := hf.length_le; simp only [List.length_cons]; omega

theorem requestCycles_count_le (hc : command ≠ E.ResetCommandIndex) (s : GoXLRUSB Command) :
    ((requestCycles E command body false s).filter (·.command = command)).length ≤ 2 := by
  obtain ⟨pre, own, hs, -, hR, -, hown⟩ := requestCycles_shape E command body s
  rw [hs, List.filter_append, filter_command_of_reset E command hR hc, List.nil_append]
  rcases hown with rfl | ⟨x, tail, rfl, hx, hf⟩
  · simp
  · have := hf.count_le hc
    simp only [List.filter_cons, hx.command_eq, decide_True, if_true, List.length_cons]
    omega

theorem requestCycles_retry_count_le (t : GoXLRUSB Command) :
    ((requestCycles E command body true t).filter (·.command = command)).length ≤ 1 := by
  obtain ⟨pre, own, hs, -, hR, hpre, hown⟩ := (performRequest_performed E command body true t).shape
  have hown : (own.filter (·.command = command)).length ≤ 1 := by
    rcases hown with rfl | ⟨x, tail, rfl, -, -, ht⟩
    · simp
    · simpa only [ht rfl] using List.length_filter_le _ [x]
  rw [requestCycles, hs, List.filter_append, List.length_append]
  by_cases hc : command = E.ResetCommandIndex
  · have : pre = [] := by_contra fun h => (hpre h).1 hc
    simpa [this] using hown
  · simpa [filter_command_of_reset E command hR hc] using hown

end Resync

/-- A call of `perform_request` that is not a retry writes at most six frames and reads at
most twenty times after each: the at most three frames of the pre-reset (a
`ResetCommandIndex` call with whatever retry flag `request_data` passes), its own frame, and
at most one resync after it. A mismatch on both frames of the request is the error the call
returns, with nothing written after the second. The frame of a command other than
`ResetCommandIndex` goes out at most twice, and at most once in a call that is a retry. -/
theorem performRequest_resync_bounded (command : Command) (body : List UInt8)
    (s : GoXLRUSB Command) :
    (requestCycles E command body false s).length ≤ 6 ∧
      (∀ x ∈ requestCycles E command body false s, x.polls.length ≤ 20) ∧
      (∃ pre own, requestCycles E command body false s = pre ++ own ∧ pre.length ≤ 3 ∧
        (∀ x ∈ pre, x.command = E.ResetCommandIndex) ∧
        (pre ≠ [] → command ≠ E.ResetCommandIndex ∧ s.commandCount = 65535) ∧
        (own = [] ∨ ∃ x tail, own = x :: tail ∧
          x.Sends E command body false (nextCommandIndex E command s) ∧
          ResyncTail E command body x (performRequest E command body false s).1 tail)) ∧
      (command ≠ E.ResetCommandIndex →
        ((requestCycles E command body false s).filter (·.command = command)).length ≤ 2) ∧
      ∀ t : GoXLRUSB Command,
        ((requestCycles E command body true t).filter (·.command = command)).length ≤ 1  :=
  ⟨requestCycles_length_le E command body s,
    fun x hx => ((performRequest_chain E _ _ _ s).2.polled x hx).length_le,
    requestCycles_shape E command body s, fun hc => requestCycles_count_le E command body hc s,
    requestCycles_retry_count_le E command body⟩

end GoXLR.Usb
