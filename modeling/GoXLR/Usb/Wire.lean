import GoXLR.Usb.Device

/-! What a session puts on the wire: the frame of each request, and the sequence numbers
`command_count` hands out, across every call, nested or not, whatever the device answers. -/

namespace GoXLR.Usb

variable {Command : Type}

def Cycle.seq (x : Cycle Command) : UInt16 := readU16 x.frame 6

def lastSeq (prev : Nat) (xs : List (Cycle Command)) : Nat :=
  (xs.getLast?.map fun x => x.seq.toNat).getD prev

theorem Cycle.Sends.seq_eq {E : Env Command} {x : Cycle Command} {command : Command}
    {body : List UInt8} {retry : Bool} {commandIndex : UInt16}
    (h : x.Sends E command body retry commandIndex) : x.seq = commandIndex := by
  rw [Cycle.seq, h.frame_eq]; exact readU16_header_index _ _ _ _

theorem lastSeq_append_singleton (prev : Nat) (xs : List (Cycle Command)) (x : Cycle Command) :
    lastSeq prev (xs ++ [x]) = x.seq.toNat := by
  simp [lastSeq]

theorem lastSeq_cons (prev : Nat) (x : Cycle Command) (xs : List (Cycle Command)) :
    lastSeq prev (x :: xs) = lastSeq x.seq.toNat xs := by
  simp only [lastSeq, List.getLast?_cons]
  cases xs.getLast? <;> rfl

variable [DecidableEq Command] (E : Env Command)

def Cycle.Follows (x : Cycle Command) (prev : Nat) : Prop :=
  if x.command = E.ResetCommandIndex then x.seq = 0 else x.seq.toNat = prev + 1

def Counted : Nat → List (Cycle Command) → Prop
  | _, [] => True
  | prev, x :: xs => x.Follows E prev ∧ Counted x.seq.toNat xs

def session : List (Command × List UInt8 × Bool) → GoXLRUSB Command → GoXLRUSB Command
  | [], s => s
  | (command, body, retry) :: calls, s => session calls (performRequest E command body retry s).2

theorem counted_append_singleton (prev : Nat) (xs : List (Cycle Command)) (x : Cycle Command) :
    Counted E prev (xs ++ [x]) ↔ Counted E prev xs ∧ x.Follows E (lastSeq prev xs) := by
  induction xs generalizing prev with
  | nil => simp [Counted, lastSeq]
  | cons y ys ih => simp [Counted, ih, lastSeq_cons, and_assoc]

theorem toNat_add_one_of_ne {n : UInt16} (h : n ≠ 65535) : (n + 1).toNat = n.toNat + 1 := by
  have := n.toNat_lt_size
  have : n.toNat ≠ 65535 := fun h' => h (UInt16.toNat.inj h')
  show (n.toNat + 1) % 65536 = _
  simp only [UInt16.size] at *
  omega

structure Sequenced (s : GoXLRUSB Command) : Prop where
  counted : Counted E 0 s.cycles
  commandCount_eq : s.commandCount.toNat = lastSeq 0 s.cycles

theorem sequenced_record {s : GoXLRUSB Command} {x : Cycle Command}
    (hs : Counted E 0 s.cycles) (hx : x.Follows E (lastSeq 0 s.cycles))
    (hc : s.commandCount = x.seq) : Sequenced E (s.record x) :=
  ⟨(counted_append_singleton E 0 _ x).2 ⟨hs, hx⟩, by simp [hc, lastSeq_append_singleton]⟩

theorem follows_reset {x : Cycle Command} {body : List UInt8} {retry : Bool} (prev : Nat)
    (hx : x.Sends E E.ResetCommandIndex body retry 0) : x.Follows E prev := by
  simp [Cycle.Follows, hx.command_eq, hx.seq_eq]

theorem Sent.sequenced {command : Command} {body : List UInt8} {retry : Bool}
    {s : GoXLRUSB Command} {o : Outcome Command} (h : Sent E command body retry s o)
    (hs : Counted E 0 s.cycles)
    (hi : if command = E.ResetCommandIndex then s.commandCount = 0
      else s.commandCount.toNat = lastSeq 0 s.cycles + 1) : Sequenced E o.2 := by
  have own : ∀ {x : Cycle Command} {r : Bool}, x.Sends E command body r s.commandCount →
      Sequenced E (s.record x) := fun {x r} hx =>
    sequenced_record E hs (by unfold Cycle.Follows; rw [hx.command_eq, hx.seq_eq]; exact hi)
      hx.seq_eq.symm
  cases h with
  | settled hx => exact own hx
  | resyncFailed hx _ _ hy =>
    exact sequenced_record E (own hx).counted (follows_reset E _ hy) hy.seq_eq.symm
  | @resent x y _ _ _ _ hx _ _ hy _ _ hz =>
    have hxy := sequenced_record (s := { s.record x with commandCount := 0 }) E (own hx).counted
      (follows_reset E _ hy) hy.seq_eq.symm
    refine sequenced_record E hxy.counted ?_ hz.seq_eq.symm
    unfold Cycle.Follows
    rw [hz.command_eq, hz.seq_eq, hxy.commandCount_eq.symm.trans rfl]
    split_ifs <;> rfl

theorem Sent.commandCount_reset {body : List UInt8} {retry : Bool} {s : GoXLRUSB Command}
    {o : Outcome Command} (h : Sent E E.ResetCommandIndex body retry s o)
    (hs : s.commandCount = 0) : o.2.commandCount = 0 := by
  cases h <;> simp [hs]

theorem Performed.sequenced {command : Command} {body : List UInt8} {retry : Bool}
    {s : GoXLRUSB Command} {o : Outcome Command} (h : Performed E command body retry s o)
    (hs : Sequenced E s) : Sequenced E o.2 := by
  cases h with
  | reset hc h => exact h.sequenced E hs.counted (by simp [hc])
  | fresh hc hm h =>
    exact h.sequenced E hs.counted (by simp [hc, toNat_add_one_of_ne hm, hs.commandCount_eq])
  | preResetFailed _ _ h => exact h.sequenced E hs.counted (by simp)
  | @preReset _ s' _ hc _ hpre h =>
    have hs' : Sequenced E s' := hpre.sequenced E hs.counted (by simp)
    have h0 : s'.commandCount = 0 := hpre.commandCount_reset E rfl
    refine h.sequenced E hs'.counted ?_
    simp only [hc, if_false, ← hs'.commandCount_eq, h0]
    rfl

theorem session_sequenced (calls : List (Command × List UInt8 × Bool)) {s : GoXLRUSB Command}
    (hs : Sequenced E s) : Sequenced E (session E calls s) := by
  induction calls generalizing s with
  | nil => exact hs
  | cons call calls ih =>
    obtain ⟨command, body, retry⟩ := call
    exact ih ((performRequest_performed E command body retry s).sequenced E hs)

/-- On a handle opened by `from_device`, through any calls of `perform_request` and
`request_data` and whatever the device answers: a `ResetCommandIndex` frame carries 0, every
other frame one more than the frame written just before it (1 for the first), so that
`command_count += 1` never wraps; and after each call `command_count` is the sequence number of
the last frame handed to `write_control`. -/
theorem session_sequence_numbers (calls : List (Command × List UInt8 × Bool)) :
    Counted E 0 (session E calls fromDevice).cycles ∧
      (session E calls fromDevice).commandCount.toNat =
        lastSeq 0 (session E calls fromDevice).cycles :=
  let h := session_sequenced E calls (s := fromDevice) ⟨trivial, rfl⟩
  ⟨h.counted, h.commandCount_eq⟩

theorem Sent.first {command : Command} {body : List UInt8} {retry : Bool}
    {s : GoXLRUSB Command} {o : Outcome Command} (h : Sent E command body retry s o) :
    ∃ x rest, o.2.cycles = s.cycles ++ x :: rest ∧ x.Sends E command body retry s.commandCount := by
  cases h with
  | settled hx => exact ⟨_, [], by simp, hx⟩
  | @resyncFailed _ y _ _ hx => exact ⟨_, [y], by simp, hx⟩
  | @resent _ y _ _ z _ hx => exact ⟨_, [y, z], by simp, hx⟩

theorem performRequest_first (command : Command) (body : List UInt8) (retry : Bool)
    {s : GoXLRUSB Command} (h : command = E.ResetCommandIndex ∨ s.commandCount ≠ 65535) :
    ∃ x rest, (performRequest E command body retry s).2.cycles = s.cycles ++ x :: rest ∧
      x.frame = fullRequest (E.commandId command)
        (if command = E.ResetCommandIndex then 0 else s.commandCount + 1) body := by
  generalize ho : performRequest E command body retry s = o
  have hp := ho ▸ performRequest_performed E command body retry s
  cases hp with
  | reset hc hs => obtain ⟨x, rest, h, hx⟩ := hs.first E; exact ⟨x, rest, h, by simp [hx.frame_eq, hc]⟩
  | fresh hc _ hs =>
    obtain ⟨x, rest, h, hx⟩ := hs.first E; exact ⟨x, rest, h, by simp [hx.frame_eq, hc]⟩
  | preResetFailed hc hm => exact absurd hm (h.resolve_left hc)
  | preReset hc hm => exact absurd hm (h.resolve_left hc)

/-- The frame of a request is 16 + |body| bytes: the command id little-endian in bytes 0..4,
zeros in 8..16, the body after the header, and a header that decodes to the body's length
modulo 2^16 and to the command index. `perform_request` checks no length: it hands this frame
to `write_control` for a body of any length. -/
theorem fullRequest_frame :
    (∀ (commandId : UInt32) (commandIndex : UInt16) (body : List UInt8),
      (fullRequest commandId commandIndex body).length = 16 + body.length ∧
      (fullRequest commandId commandIndex body).take 4 = leBytes 4 commandId.toNat ∧
      ((fullRequest commandId commandIndex body).drop 8).take 8 = List.replicate 8 0 ∧
      (fullRequest commandId commandIndex body).drop 16 = body ∧
      (readU16 (fullRequest commandId commandIndex body) 4).toNat = body.length % 65536 ∧
      readU16 (fullRequest commandId commandIndex body) 6 = commandIndex) ∧
    ∀ (E : Env Command) (command : Command) (body : List UInt8) (retry : Bool)
      (s : GoXLRUSB Command), command = E.ResetCommandIndex ∨ s.commandCount ≠ 65535 →
      ∃ x rest, (performRequest E command body retry s).2.cycles = s.cycles ++ x :: rest ∧
        x.frame = fullRequest (E.commandId command)
          (if command = E.ResetCommandIndex then 0 else s.commandCount + 1) body :=
  ⟨fun commandId commandIndex body =>
    ⟨fullRequest_length .., fullRequest_take_four .., fullRequest_reserved ..,
      fullRequest_drop_sixteen .., by rw [fullRequest, readU16_header_length]; simp,
      readU16_header_index ..⟩,
    fun E command body retry _ h => performRequest_first E command body retry h⟩

theorem fullRequest_frame_silent :
    ∃ x rest, (performRequest silentDevice false [1, 2] false fromDevice).2.cycles = x :: rest ∧
      x.frame = fullRequest 0 1 [1, 2] := by
  simpa [silentDevice, fromDevice] using
    fullRequest_frame.2 silentDevice false [1, 2] false fromDevice (.inr (by decide))

/-- A body of 65536 bytes is not rejected: its frame goes to `write_control` with a length
field of 0. -/
theorem fullRequest_length_truncated :
    ∃ x ∈ (performRequest silentDevice false (List.replicate 65536 0) false fromDevice).2.cycles,
      x.frame = fullRequest 0 1 (List.replicate 65536 0) ∧
        (readU16 x.frame 4).toNat ≠ (List.replicate 65536 (0 : UInt8)).length := by
  generalize hb : List.replicate 65536 (0 : UInt8) = body
  have hlen : body.length = 65536 := by rw [← hb, List.length_replicate]
  obtain ⟨x, rest, h, hx⟩ := performRequest_first silentDevice false body false
    (s := fromDevice) (.inr (by decide))
  simp only [silentDevice, fromDevice, Bool.false_eq_true, if_false,
    show (0 : UInt16) + 1 = 1 from rfl] at hx
  refine ⟨x, by rw [h]; simp [fromDevice], hx, ?_⟩
  rw [hx, fullRequest, readU16_header_length, hlen]
  decide

end GoXLR.Usb
