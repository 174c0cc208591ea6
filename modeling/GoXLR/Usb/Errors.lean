import GoXLR.Usb.Wire

/-! Where a call of `perform_request` stops. The cycles one call carries form a chain: it
goes past a cycle only on a mismatch or a success, and returns what its last cycle made of
the device's answer. -/

namespace GoXLR.Usb

variable {Command : Type}

def fatalRead : ReadResult → Bool
  | .error e => e != .Pipe
  | .ok responseHeader => decide (responseHeader.length < 16)

def Cycle.Broken (x : Cycle Command) : Prop :=
  x.written ≠ .ok () ∨ ∃ r ∈ x.polls, fatalRead r

structure Cycle.Polled (x : Cycle Command) : Prop where
  refused : x.written ≠ .ok () → x.polls = []
  length_le : x.polls.length ≤ 20
  pipe : ∀ r ∈ x.polls.dropLast, r = .error .Pipe

def GoXLRUSB.since (t s : GoXLRUSB Command) : List (Cycle Command) :=
  t.cycles.drop s.cycles.length

theorem GoXLRUSB.since_eq {t s : GoXLRUSB Command} {new : List (Cycle Command)}
    (h : t.cycles = s.cycles ++ new) : t.since s = new := by
  simp [since, h]

theorem GoXLRUSB.since_trans {s t u : GoXLRUSB Command} (h₁ : t.cycles = s.cycles ++ t.since s)
    (h₂ : u.cycles = t.cycles ++ u.since t) : u.since s = t.since s ++ u.since t :=
  GoXLRUSB.since_eq (by rw [h₂, h₁, List.append_assoc])

@[simp] theorem Poll.result_eq_ok {p : Poll} {v : List UInt8} :
    p.result = .ok v ↔ p = .done v := by
  cases p <;> simp [Poll.result]

theorem readVerdict_of_fatalRead {commandIndex : UInt16} {r : ReadResult} {p : Poll}
    (hf : fatalRead r) (hp : readVerdict commandIndex r = some p) : ∃ e, p = .fail e := by
  rcases r with e | responseHeader
  · cases e <;> simp [readVerdict, fatalRead] at hf hp <;> exact ⟨_, hp.symm⟩
  · simp only [fatalRead, decide_eq_true_eq] at hf
    simp only [readVerdict, hf, if_true, Option.some.injEq] at hp
    exact ⟨_, hp.symm⟩

theorem Cycle.Ends.polled {x : Cycle Command} {p : Poll} (h : x.Ends p) : x.Polled := by
  cases h with
  | refused _ hs => exact ⟨fun _ => hs, by simp [hs], by simp [hs]⟩
  | silent hw hs =>
    exact ⟨fun h => absurd hw h, by simp [hs], fun r hr => by
      simp only [hs, List.dropLast_replicate] at hr; exact List.eq_of_mem_replicate hr⟩
  | answered hw hk hs =>
    exact ⟨fun h => absurd hw h, by simp [hs]; omega, fun r hr => by
      simp only [hs, List.dropLast_concat] at hr; exact List.eq_of_mem_replicate hr⟩

theorem Cycle.Ends.broken {x : Cycle Command} {p : Poll} (h : x.Ends p) (hb : x.Broken) :
    ∃ e, p = .fail e := by
  have pipe_ok : ¬fatalRead (.error .Pipe) := by decide
  cases h with
  | refused => exact ⟨_, rfl⟩
  | silent hw hs =>
    obtain hw' | ⟨r, hr, hf⟩ := hb
    · exact absurd hw hw'
    · rw [hs] at hr; rw [List.eq_of_mem_replicate hr] at hf; exact absurd hf pipe_ok
  | answered hw _ hs hr =>
    obtain hw' | ⟨r', hr', hf⟩ := hb
    · exact absurd hw hw'
    rw [hs, List.mem_append, List.mem_singleton] at hr'
    obtain hr' | rfl := hr'
    · rw [List.eq_of_mem_replicate hr'] at hf; exact absurd hf pipe_ok
    · exact readVerdict_of_fatalRead hf hr

inductive Chain : List (Cycle Command) → Except UsbError (List UInt8) → Prop
  | last {x p} : x.Ends p → Chain [x] p.result
  | cons {x p xs r} : x.Ends p → (p = .mismatch ∨ ∃ v, p = .done v) → Chain xs r →
      Chain (x :: xs) r

namespace Chain

theorem ne_nil {xs : List (Cycle Command)} {r : Except UsbError (List UInt8)}
    (h : Chain xs r) : xs ≠ [] := by
  cases h <;> simp

theorem append {xs ys : List (Cycle Command)} {r₁ r : Except UsbError (List UInt8)}
    (hx : Chain xs r₁) (hr₁ : ∃ v, r₁ = .ok v) (hy : Chain ys r) : Chain (xs ++ ys) r := by
  induction hx with
  | last hp =>
    obtain ⟨v, hv⟩ := hr₁
    exact .cons hp (.inr ⟨v, Poll.result_eq_ok.1 hv⟩) hy
  | cons hp hm _ ih => exact .cons hp hm (ih hr₁)

theorem polled {xs : List (Cycle Command)} {r : Except UsbError (List UInt8)} (h : Chain xs r) :
    ∀ x ∈ xs, x.Polled := by
  induction h with
  | last hp => simpa using hp.polled
  | cons hp _ _ ih => exact List.forall_mem_cons.2 ⟨hp.polled, ih⟩

theorem not_broken {xs : List (Cycle Command)} {r : Except UsbError (List UInt8)}
    (h : Chain xs r) : ∀ x ∈ xs.dropLast, ¬x.Broken := by
  induction h with
  | last => simp
  | cons hp hm hxs ih =>
    rw [List.dropLast_cons_of_ne_nil hxs.ne_nil, List.forall_mem_cons]
    refine ⟨fun hb => ?_, ih⟩
    obtain ⟨e, rfl⟩ := hp.broken hb
    simp at hm

theorem error_of_broken {xs : List (Cycle Command)} {r : Except UsbError (List UInt8)}
    (h : Chain xs r) : ∀ x ∈ xs, x.Broken → ∃ e, r = .error e := by
  induction h with
  | last hp =>
    simp only [List.mem_singleton, forall_eq]
    intro hb
    obtain ⟨e, rfl⟩ := hp.broken hb
    exact ⟨e, rfl⟩
  | cons hp hm _ ih =>
    refine List.forall_mem_cons.2 ⟨fun hb => ?_, ih⟩
    obtain ⟨e, rfl⟩ := hp.broken hb
    simp at hm

theorem ok {xs : List (Cycle Command)} {r : Except UsbError (List UInt8)} (h : Chain xs r)
    {v : List UInt8} (hv : r = .ok v) : ∃ x, xs.getLast? = some x ∧ x.Ends (.done v) := by
  induction h with
  | last hp => exact ⟨_, rfl, Poll.result_eq_ok.1 hv ▸ hp⟩
  | cons _ _ hxs ih =>
    obtain ⟨x, hx, hd⟩ := ih hv
    exact ⟨x, by rw [List.getLast?_cons, hx]; rfl, hd⟩

end Chain

section Unanswered

variable (E : Env Command)

theorem pollLoop_unanswered {past : List (Cycle Command)} {frame : List UInt8}
    {commandIndex : UInt16} (hr : ∀ polls, E.readControl past frame polls = .error .Pipe)
    (is : List Nat) (his : ∀ i ∈ is, i < 20) (polls : List ReadResult) :
    pollLoop E past frame commandIndex is polls =
      (.done [], polls ++ List.replicate is.length (.error .Pipe)) := by
  induction is generalizing polls with
  | nil => simp [pollLoop]
  | cons i is ih =>
    rw [pollLoop_cons E is polls (his i (List.mem_cons_self i is)), hr]
    simp [readVerdict, ih (fun j hj => his j (List.mem_cons_of_mem i hj)), List.replicate_succ]

theorem transmit_unanswered (hw : ∀ past frame, E.writeControl past frame = .ok ())
    (hr : ∀ past frame polls, E.readControl past frame polls = .error .Pipe)
    (command : Command) (body : List UInt8) (retry : Bool)
    (resync : retry = false → GoXLRUSB Command → Outcome Command) (s : GoXLRUSB Command) :
    transmit E command body retry resync s = (.ok [], s.record
      ⟨command, retry, fullRequest (E.commandId command) s.commandCount body, .ok (),
        List.replicate 20 (.error .Pipe)⟩) := by
  simp only [transmit, exchange, hw, pollLoop_unanswered E (hr _ _) _
    (fun i hi => List.mem_range.1 hi), List.length_range, List.nil_append]
  rfl

end Unanswered

variable {E : Env Command} [DecidableEq Command]

theorem Sent.chain {command : Command} {body : List UInt8} {retry : Bool}
    {s : GoXLRUSB Command} {o : Outcome Command} (h : Sent E command body retry s o) :
    ∃ new, o.2.cycles = s.cycles ++ new ∧ Chain new o.1 := by
  cases h with
  | settled _ hp => exact ⟨_, rfl, .last hp⟩
  | resyncFailed _ hp _ _ hpy he =>
    refine ⟨_, ?_, .cons hp (.inl rfl) (he ▸ Chain.last hpy)⟩; simp
  | resent _ hp _ _ hpy hv _ hpz =>
    refine ⟨_, ?_, .cons hp (.inl rfl) (.cons hpy (.inr ⟨_, Poll.result_eq_ok.1 hv⟩) (.last hpz))⟩
    simp

theorem Performed.chain {command : Command} {body : List UInt8} {retry : Bool}
    {s : GoXLRUSB Command} {o : Outcome Command} (h : Performed E command body retry s o) :
    ∃ new, o.2.cycles = s.cycles ++ new ∧ Chain new o.1 := by
  cases h with
  | reset _ h | fresh _ _ h | preResetFailed _ _ h => exact h.chain
  | preReset _ _ hpre h =>
    obtain ⟨pre, hc, hp⟩ := hpre.chain
    obtain ⟨own, hc', ho⟩ := h.chain
    exact ⟨pre ++ own, by simp_all, hp.append ⟨_, rfl⟩ ho⟩

variable (E)

def requestCycles (command : Command) (body : List UInt8) (retry : Bool) (s : GoXLRUSB Command) :
    List (Cycle Command) :=
  (performRequest E command body retry s).2.since s

theorem performRequest_chain (command : Command) (body : List UInt8) (retry : Bool)
    (s : GoXLRUSB Command) :
    (performRequest E command body retry s).2.cycles = s.cycles ++ requestCycles E command body retry s ∧
      Chain (requestCycles E command body retry s) (performRequest E command body retry s).1 := by
  obtain ⟨new, hc, h⟩ := (performRequest_performed E command body retry s).chain
  rw [requestCycles, GoXLRUSB.since_eq hc]
  exact ⟨hc, h⟩

/-- A failed write, a read failing with anything but `Pipe`, or a response shorter than its
header, in any cycle of a call (its own, the pre-reset's, the resync's or the re-sent one),
ends the call with an error: that cycle is the last the call carries, the failing read is the
last of its polls (the loop polls again only after `Pipe`), and a failed write is followed by
no read. -/
theorem performRequest_stops_on_error (command : Command) (body : List UInt8) (retry : Bool)
    (s : GoXLRUSB Command) :
    (∀ x ∈ requestCycles E command body retry s, x.Polled) ∧
      (∀ x ∈ (requestCycles E command body retry s).dropLast, ¬x.Broken) ∧
      ∀ x ∈ requestCycles E command body retry s, x.Broken →
        ∃ e, (performRequest E command body retry s).1 = .error e :=
  let h := (performRequest_chain E command body retry s).2
  ⟨h.polled, h.not_broken, h.error_of_broken⟩

theorem performRequest_ok (command : Command) (body : List UInt8) (retry : Bool)
    (s : GoXLRUSB Command) {v : List UInt8} (hv : (performRequest E command body retry s).1 = .ok v) :
    ∃ x, (requestCycles E command body retry s).getLast? = some x ∧ x.written = .ok () ∧
      ((∃ k < 20, ∃ response, x.polls = List.replicate k (.error .Pipe) ++ [.ok response] ∧
          16 ≤ response.length ∧ readU16 response 6 = x.seq ∧ v = response.drop 16) ∨
        (x.polls = List.replicate 20 (.error .Pipe) ∧ v = [])) := by
  obtain ⟨x, hx, hd⟩ := (performRequest_chain E command body retry s).2.ok hv
  refine ⟨x, hx, ?_⟩
  generalize hp : Poll.done v = p at hd
  cases hd with
  | refused => cases hp
  | silent hw hs => exact ⟨hw, .inr ⟨hs, by cases hp; rfl⟩⟩
  | @answered k r _ hw hk hs hr =>
    refine ⟨hw, .inl ⟨k, hk, ?_⟩⟩
    rcases r with e | response
    · cases e <;> simp [readVerdict] at hr <;> cases hr ▸ hp
    · simp only [readVerdict, Option.some.injEq] at hr
      split_ifs at hr with h₁ h₂ <;> subst hr <;> cases hp
      exact ⟨response, hs, by omega, by simpa [Cycle.seq] using h₂, rfl⟩

/-- A device that takes every frame and never has an answer ready makes every call return
`Ok` of an empty body: the `if i < 20` guard holds on every pass of `for i in 0..20`, so the
loop runs out with `response` still empty instead of returning an error after the twentieth
`Pipe`. -/
theorem performRequest_unanswered (hw : ∀ past frame, E.writeControl past frame = .ok ())
    (hr : ∀ past frame polls, E.readControl past frame polls = .error .Pipe)
    (command : Command) (body : List UInt8) (retry : Bool) (s : GoXLRUSB Command) :
    (performRequest E command body retry s).1 = .ok [] := by
  by_cases hc : command = E.ResetCommandIndex
  · subst hc; rw [performRequest_reset, transmit_unanswered E hw hr]
  by_cases hm : s.commandCount = 65535
  · simp only [performRequest_preReset E body retry hc hm, andThen, requestData,
      performRequest_reset, transmit_unanswered E hw hr]
  · rw [performRequest_fresh E body retry hc hm, transmit_unanswered E hw hr]

theorem performRequest_silentDevice :
    (performRequest silentDevice false [] false fromDevice).1 = .ok [] :=
  performRequest_unanswered silentDevice (fun _ _ => rfl) (fun _ _ _ => rfl) false [] false
    fromDevice

end GoXLR.Usb
