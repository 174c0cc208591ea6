import GoXLR.Usb.Frame

/-! `GoXLRUSB::perform_request` (`device/usb.rs`) against a handle whose control transfers
may answer anything. The handle's history is kept as the list of request cycles it has
carried, so that what a call did on the wire can be read back from the state it leaves. -/

namespace GoXLR.Usb

/-- What one `read_control(3, 0, 0, 1040)` returns. -/
abbrev ReadResult := Except UsbError (List UInt8)

/-- One request on the wire: the frame handed to `write_control`, what the write returned,
and the `read_control` polls that followed it. `command` and `retry` name the call of
`perform_request` that made the cycle; the device never sees them. -/
structure Cycle (Command : Type) where
  command : Command
  retry : Bool
  frame : List UInt8
  written : Except UsbError Unit
  polls : List ReadResult

/-- What `perform_request` reaches outside `src/`: the command catalogue (`ResetCommandIndex`
and `command_id`), the control transfers of the open handle, which may answer anything
given everything that went over the wire before, and the retry flag with which the default
`request_data` of `ExecutableGoXLR` calls `perform_request`. -/
structure Env (Command : Type) where
  ResetCommandIndex : Command
  commandId : Command → UInt32
  writeControl : List (Cycle Command) → List UInt8 → Except UsbError Unit
  readControl : List (Cycle Command) → List UInt8 → List ReadResult → ReadResult
  requestDataRetry : Bool

/-- `GoXLRUSB`: the command counter, and the cycles its handle has carried. -/
structure GoXLRUSB (Command : Type) where
  commandCount : UInt16
  cycles : List (Cycle Command)

/-- `from_device`, once the device is found and opened. -/
def fromDevice {Command : Type} : GoXLRUSB Command := ⟨0, []⟩

/-- How the `for i in 0..20` loop of `perform_request` is left: `break` with the response
(or the loop running out, `response` still the `vec![]` it started as), the mismatch that
leads to the resync, or a `return Err`. -/
inductive Poll
  | done (response : List UInt8)
  | mismatch
  | fail (e : UsbError)
  deriving DecidableEq, Repr

/-- What a call of `perform_request` returns, with the state it leaves behind. -/
abbrev Outcome (Command : Type) := Except UsbError (List UInt8) × GoXLRUSB Command

def GoXLRUSB.record (s : GoXLRUSB Command) (x : Cycle Command) : GoXLRUSB Command :=
  { s with cycles := s.cycles ++ [x] }

@[simp] theorem GoXLRUSB.record_commandCount (s : GoXLRUSB Command) (x : Cycle Command) :
    (s.record x).commandCount = s.commandCount := rfl

@[simp] theorem GoXLRUSB.record_cycles (s : GoXLRUSB Command) (x : Cycle Command) :
    (s.record x).cycles = s.cycles ++ [x] := rfl

/-- What the poll loop makes of one read: `none` to poll again. -/
def readVerdict (commandIndex : UInt16) : ReadResult → Option Poll
  | .error .Pipe => none
  | .error e => some (.fail e)
  | .ok responseHeader => some <|
    if responseHeader.length < 16 then .fail .Pipe
    else if readU16 responseHeader 6 ≠ commandIndex then .mismatch
    else .done (responseHeader.drop 16)

/-- What a call that is itself a retry returns on the loop's verdict. -/
def Poll.result : Poll → Except UsbError (List UInt8)
  | .done response => .ok response
  | .mismatch => .error .Other
  | .fail e => .error e

variable {Command : Type} (E : Env Command)

/-- The poll loop over the indices `i` still to run; `polls` are the reads made so far. -/
def pollLoop (past : List (Cycle Command)) (frame : List UInt8) (commandIndex : UInt16) :
    List Nat → List ReadResult → Poll × List ReadResult
  | [], polls => (.done [], polls)
  | i :: is, polls =>
    match E.readControl past frame polls with
    | .error .Pipe =>
      if i < 20 then pollLoop past frame commandIndex is (polls ++ [.error .Pipe])
      else (.fail .Pipe, polls ++ [.error .Pipe])
    | .error e => (.fail e, polls ++ [.error e])
    | .ok responseHeader =>
      let polls := polls ++ [.ok responseHeader]
      if responseHeader.length < 16 then (.fail .Pipe, polls)
      else if readU16 responseHeader 6 ≠ commandIndex then (.mismatch, polls)
      else (.done (responseHeader.drop 16), polls)

/-- Hand `frame` to `write_control`, then poll for the answer; the cycle is recorded. -/
def exchange (command : Command) (retry : Bool) (s : GoXLRUSB Command) (frame : List UInt8) :
    Poll × GoXLRUSB Command :=
  match E.writeControl s.cycles frame with
  | .error e => (.fail e, s.record ⟨command, retry, frame, .error e, []⟩)
  | .ok () =>
    let (p, polls) := pollLoop E s.cycles frame s.commandCount (List.range 20) []
    (p, s.record ⟨command, retry, frame, .ok (), polls⟩)

/-- What `perform_request` returns on the loop's verdict; `resync` is what it does on a
mismatch when the call is not itself a retry. -/
def settle (retry : Bool) (resync : retry = false → GoXLRUSB Command → Outcome Command) :
    Poll → GoXLRUSB Command → Outcome Command
  | .done response, s => (.ok response, s)
  | .fail e, s => (.error e, s)
  | .mismatch, s => if h : retry = false then resync h s else (.error .Other, s)

/-- `perform_request` from the framing on, once the command index is assigned. -/
def transmit (command : Command) (body : List UInt8) (retry : Bool)
    (resync : retry = false → GoXLRUSB Command → Outcome Command) (s : GoXLRUSB Command) :
    Outcome Command :=
  let (p, s) := exchange E command retry s (fullRequest (E.commandId command) s.commandCount body)
  settle retry resync p s

/-- `first?` followed by `next`: an error of `first` is returned at once. -/
def andThen (first next : GoXLRUSB Command → Outcome Command) (s : GoXLRUSB Command) :
    Outcome Command :=
  match first s with
  | (.error e, s) => (.error e, s)
  | (.ok _, s) => next s

def silentDevice : Env Bool where
  ResetCommandIndex := true
  commandId _ := 0
  writeControl _ _ := .ok ()
  readControl _ _ _ := .error .Pipe
  requestDataRetry := false

theorem readVerdict_eq_none {commandIndex : UInt16} {r : ReadResult} :
    readVerdict commandIndex r = none ↔ r = .error .Pipe := by
  rcases r with (_ | _) | _ <;> simp [readVerdict]

inductive Cycle.Ends (x : Cycle Command) : Poll → Prop
  | refused {e} : x.written = .error e → x.polls = [] → x.Ends (.fail e)
  | silent : x.written = .ok () → x.polls = List.replicate 20 (.error .Pipe) → x.Ends (.done [])
  | answered {k r p} : x.written = .ok () → k < 20 →
      x.polls = List.replicate k (.error .Pipe) ++ [r] →
      readVerdict (readU16 x.frame 6) r = some p → x.Ends p

theorem pipe_of_replicate_eq {k : Nat} {r : ReadResult}
    (h : List.replicate 20 (.error .Pipe) = List.replicate k (.error .Pipe) ++ [r]) :
    r = .error .Pipe :=
  List.eq_of_mem_replicate (show r ∈ List.replicate 20 _ by rw [h]; simp)

theorem Cycle.Ends.unique {x : Cycle Command} {p q : Poll} (hp : x.Ends p) (hq : x.Ends q) :
    p = q := by
  cases hp with
  | refused hw hs => cases hq <;> simp_all
  | silent hw hs =>
    cases hq with
    | refused hw' => simp_all
    | silent => rfl
    | answered _ _ hs' hr => simp [pipe_of_replicate_eq (hs.symm.trans hs'), readVerdict] at hr
  | @answered k r _ hw hk hs hr =>
    cases hq with
    | refused hw' => simp_all
    | silent _ hs' => simp [pipe_of_replicate_eq (hs'.symm.trans hs), readVerdict] at hr
    | @answered k' r' _ _ _ hs' hr' =>
      rw [hs] at hs'
      have hk : k = k' := by simpa using congrArg List.length hs'
      subst hk
      simp_all

theorem pollLoop_cons {past : List (Cycle Command)} {frame : List UInt8} {commandIndex : UInt16}
    {i : Nat} (is : List Nat) (polls : List ReadResult) (hi : i < 20) :
    pollLoop E past frame commandIndex (i :: is) polls =
      match readVerdict commandIndex (E.readControl past frame polls) with
      | none => pollLoop E past frame commandIndex is (polls ++ [E.readControl past frame polls])
      | some p => (p, polls ++ [E.readControl past frame polls]) := by
  rw [pollLoop]
  split <;> simp_all [readVerdict]
  split_ifs <;> rfl

theorem pollLoop_spec (past : List (Cycle Command)) (frame : List UInt8) (commandIndex : UInt16)
    (is : List Nat) (his : ∀ i ∈ is, i < 20) (polls : List ReadResult) :
    pollLoop E past frame commandIndex is polls =
        (.done [], polls ++ List.replicate is.length (.error .Pipe)) ∨
      ∃ k < is.length, ∃ r p, readVerdict commandIndex r = some p ∧
        pollLoop E past frame commandIndex is polls =
          (p, polls ++ (List.replicate k (.error .Pipe) ++ [r])) := by
  induction is generalizing polls with
  | nil => simp [pollLoop]
  | cons i is ih =>
    rw [pollLoop_cons E is polls (his i (List.mem_cons_self i is))]
    cases hr : readVerdict commandIndex (E.readControl past frame polls) with
    | none =>
      rw [readVerdict_eq_none.1 hr]
      rcases ih (fun j hj => his j (List.mem_cons_of_mem i hj)) (polls ++ [.error .Pipe]) with
        h | ⟨k, hk, r, p, hp, h⟩
      · left; simp [h, List.replicate_succ]
      · right; exact ⟨k + 1, by simpa using hk, r, p, hp, by simp [h, List.replicate_succ]⟩
    | some p => right; exact ⟨0, by simp, _, p, hr, by simp⟩

theorem exchange_eq (command : Command) (retry : Bool) (s : GoXLRUSB Command)
    (frame : List UInt8) (hf : readU16 frame 6 = s.commandCount) :
    ∃ x p, x.command = command ∧ x.retry = retry ∧ x.frame = frame ∧ x.Ends p ∧
      exchange E command retry s frame = (p, s.record x) := by
  unfold exchange
  split
  · exact ⟨_, _, rfl, rfl, rfl, .refused rfl rfl, rfl⟩
  · rcases pollLoop_spec E s.cycles frame s.commandCount (List.range 20)
      (fun i hi => List.mem_range.1 hi) [] with h | ⟨k, hk, r, p, hp, h⟩ <;> rw [h]
    · exact ⟨_, _, rfl, rfl, rfl, .silent rfl (by simp), rfl⟩
    · exact ⟨_, _, rfl, rfl, rfl,
        .answered (r := r) rfl (by simpa using hk) (by simp) (by rwa [hf]), rfl⟩

structure Cycle.Sends (x : Cycle Command) (command : Command) (body : List UInt8)
    (retry : Bool) (commandIndex : UInt16) : Prop where
  command_eq : x.command = command
  retry_eq : x.retry = retry
  frame_eq : x.frame = fullRequest (E.commandId command) commandIndex body

theorem transmit_eq (command : Command) (body : List UInt8) (retry : Bool)
    (resync : retry = false → GoXLRUSB Command → Outcome Command) (s : GoXLRUSB Command) :
    ∃ x p, x.Sends E command body retry s.commandCount ∧ x.Ends p ∧
      transmit E command body retry resync s = settle retry resync p (s.record x) := by
  obtain ⟨x, p, hc, hr, hf, hx, h⟩ :=
    exchange_eq E command retry s (fullRequest (E.commandId command) s.commandCount body)
      (readU16_header_index _ _ _ body)
  exact ⟨x, p, ⟨hc, hr, hf⟩, hx, by rw [transmit, h]⟩

theorem settle_true (resync : true = false → GoXLRUSB Command → Outcome Command) (p : Poll)
    (s : GoXLRUSB Command) : settle true resync p s = (p.result, s) := by
  cases p <;> rfl

theorem settle_eq (retry : Bool) (resync : GoXLRUSB Command → Outcome Command) (p : Poll)
    (s : GoXLRUSB Command) :
    settle retry (fun _ => resync) p s =
      if p = .mismatch ∧ retry = false then resync s else (p.result, s) := by
  cases p <;> cases retry <;> rfl

@[elab_as_elim]
theorem andThen_elim {motive : Outcome Command → Prop}
    {first next : GoXLRUSB Command → Outcome Command} {s : GoXLRUSB Command}
    (error : ∀ e s', first s = (.error e, s') → motive (.error e, s'))
    (ok : ∀ v s', first s = (.ok v, s') → motive (next s')) : motive (andThen first next s) := by
  unfold andThen; split <;> simp_all

variable [DecidableEq Command]

def nesting (command : Command) (retry : Bool) : Nat :=
  2 * (if command = E.ResetCommandIndex then 0 else 1) + (if retry then 0 else 1)

/-- `perform_request`. The pre-reset at `u16::MAX` is the call `request_data` makes. -/
def performRequest (command : Command) (body : List UInt8) (retry : Bool)
    (s : GoXLRUSB Command) : Outcome Command :=
  let send := transmit E command body retry fun _ =>
    andThen (performRequest E.ResetCommandIndex [] true) (performRequest command body true)
  if command = E.ResetCommandIndex then send { s with commandCount := 0 }
  else if s.commandCount = 65535 then
    andThen (performRequest E.ResetCommandIndex [] E.requestDataRetry)
      (fun s => send { s with commandCount := s.commandCount + 1 }) s
  else send { s with commandCount := s.commandCount + 1 }
termination_by nesting E command retry
decreasing_by all_goals (simp_wf; unfold nesting; split_ifs <;> simp_all)

/-- `request_data`. -/
def requestData (command : Command) (body : List UInt8) (s : GoXLRUSB Command) :
    Outcome Command :=
  performRequest E command body E.requestDataRetry s

/-- The resync of `perform_request`: `perform_request(ResetCommandIndex, &[], true)?`, then
the same request again as a retry. -/
def resync (command : Command) (body : List UInt8) : GoXLRUSB Command → Outcome Command :=
  andThen (performRequest E E.ResetCommandIndex [] true) (performRequest E command body true)

theorem performRequest_reset (body : List UInt8) (retry : Bool) (s : GoXLRUSB Command) :
    performRequest E E.ResetCommandIndex body retry s =
      transmit E E.ResetCommandIndex body retry (fun _ => resync E E.ResetCommandIndex body)
        { s with commandCount := 0 } := by
  rw [performRequest, if_pos rfl]; rfl

theorem performRequest_preReset {command : Command} (body : List UInt8) (retry : Bool)
    {s : GoXLRUSB Command} (hc : command ≠ E.ResetCommandIndex) (hm : s.commandCount = 65535) :
    performRequest E command body retry s =
      andThen (requestData E E.ResetCommandIndex []) (fun s =>
        transmit E command body retry (fun _ => resync E command body)
          { s with commandCount := s.commandCount + 1 }) s := by
  rw [performRequest, if_neg hc, if_pos hm]; rfl

theorem performRequest_fresh {command : Command} (body : List UInt8) (retry : Bool)
    {s : GoXLRUSB Command} (hc : command ≠ E.ResetCommandIndex) (hm : s.commandCount ≠ 65535) :
    performRequest E command body retry s =
      transmit E command body retry (fun _ => resync E command body)
        { s with commandCount := s.commandCount + 1 } := by
  rw [performRequest, if_neg hc, if_neg hm]; rfl

theorem performRequest_retry (command : Command) (body : List UInt8) (s : GoXLRUSB Command)
    (h : command = E.ResetCommandIndex ∨ s.commandCount ≠ 65535) :
    ∃ x p, x.Sends E command body true
        (if command = E.ResetCommandIndex then 0 else s.commandCount + 1) ∧ x.Ends p ∧
      performRequest E command body true s = (p.result,
        { s with commandCount := if command = E.ResetCommandIndex then 0
            else s.commandCount + 1 }.record x) := by
  by_cases hc : command = E.ResetCommandIndex
  · subst hc
    obtain ⟨x, p, hx, hp, h⟩ := transmit_eq E E.ResetCommandIndex body true
      (fun _ => resync E E.ResetCommandIndex body) { s with commandCount := 0 }
    exact ⟨x, p, by simpa using hx, hp, by rw [performRequest_reset, h, settle_true]; simp⟩
  · obtain ⟨x, p, hx, hp, ht⟩ := transmit_eq E command body true
      (fun _ => resync E command body) { s with commandCount := s.commandCount + 1 }
    exact ⟨x, p, by simpa [hc] using hx, hp,
      by rw [performRequest_fresh E body true hc (h.resolve_left hc), ht, settle_true]; simp [hc]⟩

theorem resync_eq (command : Command) (body : List UInt8) (t : GoXLRUSB Command) :
    ∃ y py, y.Sends E E.ResetCommandIndex [] true 0 ∧ y.Ends py ∧
      ((∃ e, py.result = .error e ∧
          resync E command body t = (.error e, { t with commandCount := 0 }.record y)) ∨
        ∃ v, py.result = .ok v ∧ ∃ z pz, z.Sends E command body true
          (if command = E.ResetCommandIndex then 0 else 1) ∧ z.Ends pz ∧
          resync E command body t = (pz.result, { t with
            cycles := t.cycles ++ [y],
            commandCount := if command = E.ResetCommandIndex then 0 else 1 }.record z)) := by
  obtain ⟨y, py, hy, hpy, h⟩ := performRequest_retry E E.ResetCommandIndex [] t (.inl rfl)
  simp only [if_true] at hy h
  refine ⟨y, py, hy, hpy, ?_⟩
  unfold resync
  rcases hr : py.result with e | v
  · left; exact ⟨e, rfl, by rw [andThen, h, hr]⟩
  · right
    obtain ⟨z, pz, hz, hpz, h'⟩ := performRequest_retry E command body
      ({ t with commandCount := 0 }.record y) (by by_cases command = E.ResetCommandIndex <;> simp_all)
    refine ⟨v, rfl, z, pz, by simpa using hz, hpz, ?_⟩
    rw [andThen, h, hr]
    simpa using h'

inductive Sent (command : Command) (body : List UInt8) (retry : Bool) (s : GoXLRUSB Command) :
    Outcome Command → Prop
  | settled {x p} : x.Sends E command body retry s.commandCount → x.Ends p →
      ¬(p = .mismatch ∧ retry = false) → Sent command body retry s (p.result, s.record x)
  | resyncFailed {x y py e} : x.Sends E command body retry s.commandCount → x.Ends .mismatch →
      retry = false → y.Sends E E.ResetCommandIndex [] true 0 → y.Ends py →
      py.result = .error e →
      Sent command body retry s (.error e, { s.record x with commandCount := 0 }.record y)
  | resent {x y py v z pz} : x.Sends E command body retry s.commandCount → x.Ends .mismatch →
      retry = false → y.Sends E E.ResetCommandIndex [] true 0 → y.Ends py →
      py.result = .ok v →
      z.Sends E command body true (if command = E.ResetCommandIndex then 0 else 1) → z.Ends pz →
      Sent command body retry s (pz.result, { { s.record x with commandCount := 0 }.record y with
        commandCount := if command = E.ResetCommandIndex then 0 else 1 }.record z)

theorem transmit_sent (command : Command) (body : List UInt8) (retry : Bool)
    (s : GoXLRUSB Command) :
    Sent E command body retry s (transmit E command body retry (fun _ => resync E command body) s) := by
  obtain ⟨x, p, hx, hp, h⟩ := transmit_eq E command body retry (fun _ => resync E command body) s
  rw [h, settle_eq]
  split
  · next hm =>
    obtain ⟨rfl, hr⟩ := hm
    obtain ⟨y, py, hy, hpy, ⟨e, he, h'⟩ | ⟨v, hv, z, pz, hz, hpz, h'⟩⟩ :=
      resync_eq E command body (s.record x) <;> rw [h']
    · exact .resyncFailed hx hp hr hy hpy he
    · exact .resent hx hp hr hy hpy hv hz hpz
  · next hm => exact .settled hx hp hm

inductive Performed (command : Command) (body : List UInt8) (retry : Bool)
    (s : GoXLRUSB Command) : Outcome Command → Prop
  | reset {o} : command = E.ResetCommandIndex →
      Sent E command body retry { s with commandCount := 0 } o → Performed command body retry s o
  | fresh {o} : command ≠ E.ResetCommandIndex → s.commandCount ≠ 65535 →
      Sent E command body retry { s with commandCount := s.commandCount + 1 } o →
      Performed command body retry s o
  | preResetFailed {e s'} : command ≠ E.ResetCommandIndex → s.commandCount = 65535 →
      Sent E E.ResetCommandIndex [] E.requestDataRetry { s with commandCount := 0 } (.error e, s') →
      Performed command body retry s (.error e, s')
  | preReset {v s' o} : command ≠ E.ResetCommandIndex → s.commandCount = 65535 →
      Sent E E.ResetCommandIndex [] E.requestDataRetry { s with commandCount := 0 } (.ok v, s') →
      Sent E command body retry { s' with commandCount := s'.commandCount + 1 } o →
      Performed command body retry s o

theorem performRequest_performed (command : Command) (body : List UInt8) (retry : Bool)
    (s : GoXLRUSB Command) : Performed E command body retry s (performRequest E command body retry s) := by
  by_cases hc : command = E.ResetCommandIndex
  · subst hc
    rw [performRequest_reset]
    exact .reset rfl (transmit_sent ..)
  by_cases hm : s.commandCount = 65535
  · rw [performRequest_preReset E body retry hc hm]
    have hpre : Sent E E.ResetCommandIndex [] E.requestDataRetry { s with commandCount := 0 }
        (requestData E E.ResetCommandIndex [] s) := by
      rw [requestData, performRequest_reset]; exact transmit_sent ..
    refine andThen_elim (fun e s' h => .preResetFailed hc hm (h ▸ hpre))
      (fun v s' h => .preReset hc hm (show Sent E _ _ _ _ (.ok v, s') from h ▸ hpre)
        (transmit_sent ..))
  · rw [performRequest_fresh E body retry hc hm]
    exact .fresh hc hm (transmit_sent ..)

end GoXLR.Usb
