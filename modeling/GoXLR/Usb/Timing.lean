import GoXLR.Usb.Recovery
import GoXLR.Usb.Discovery

/-! How long `perform_request` sleeps (`device/usb.rs`). Once a frame is written it sleeps
`sleep_time` (10 ms on the Mini, 3 ms otherwise) before the first read, and again after every
`Pipe` read: the guard `if i < 20` holds on every pass of `for i in 0..20`, so the twentieth `Pipe`
sleeps too before the loop runs out. The sleeps of a cycle are read off its record. -/

namespace GoXLR.Usb

variable {Command : Type}

def isPipe : ReadResult → Bool
  | .error .Pipe => true
  | _ => false

def Cycle.sleeps (x : Cycle Command) : Nat :=
  match x.written with
  | .ok () => 1 + x.polls.countP isPipe
  | .error _ => 0

def totalSleeps : List (Cycle Command) → Nat
  | [] => 0
  | x :: xs => x.sleeps + totalSleeps xs

theorem totalSleeps_append (xs ys : List (Cycle Command)) :
    totalSleeps (xs ++ ys) = totalSleeps xs + totalSleeps ys := by
  induction xs with
  | nil => simp [totalSleeps]
  | cons x xs ih => simp [totalSleeps, ih, Nat.add_assoc]

theorem Cycle.Ends.sleeps_le {x : Cycle Command} {p : Poll} (h : x.Ends p) :
    x.sleeps ≤ 21 ∧ (p = .mismatch → x.sleeps ≤ 20) := by
  cases h with
  | refused hw => simp [Cycle.sleeps, hw]
  | silent hw hs => simp [Cycle.sleeps, hw, hs, List.countP_replicate, isPipe]
  | @answered k r _ hw hk hs hr =>
    have hpipe : isPipe r = false := by
      rcases r with e | _
      · cases e <;> simp_all [isPipe, readVerdict]
      · rfl
    have hPipe : isPipe (.error .Pipe) = true := rfl
    simp only [Cycle.sleeps, hw, hs, List.countP_append, List.countP_replicate, hPipe, if_true,
      List.countP_singleton, hpipe, Bool.false_eq_true, if_false]
    omega

variable [DecidableEq Command] {E : Env Command}

theorem Sent.sleeps_le {command : Command} {body : List UInt8} {retry : Bool}
    {s : GoXLRUSB Command} {o : Outcome Command} (h : Sent E command body retry s o) :
    totalSleeps (o.2.since s) ≤ 62 := by
  cases h with
  | settled _ hp =>
    have := hp.sleeps_le.1
    simp [GoXLRUSB.since, totalSleeps]
    omega
  | resyncFailed _ hp _ _ hy =>
    have := hp.sleeps_le.2 rfl
    have := hy.sleeps_le.1
    simp [GoXLRUSB.since, totalSleeps]
    omega
  | resent _ hp _ _ hy _ _ hz =>
    have := hp.sleeps_le.2 rfl
    have := hy.sleeps_le.1
    have := hz.sleeps_le.1
    simp [GoXLRUSB.since, totalSleeps]
    omega

variable (E)

/-- Every call of `perform_request`, whatever the device answers and whatever its retry flag,
sleeps at most 124 times: at most 62 in the pre-reset that `command_count` at `u16::MAX` calls
for, and at most 62 in its own send phase. At `sleep_time` each, that is at most 1240 ms on the
Mini and 372 ms on the full device. -/
theorem performRequest_sleeps_le (ids : Ids) (descriptor : DeviceDescriptor) (command : Command)
    (body : List UInt8) (retry : Bool) (s : GoXLRUSB Command) :
    totalSleeps (requestCycles E command body retry s) ≤ 124 ∧
      totalSleeps (requestCycles E command body retry s) * sleepTime ids descriptor ≤
        if descriptor.productId = ids.pidGoxlrMini then 1240 else 372 := by
  have hsum : totalSleeps (requestCycles E command body retry s) ≤ 124 := by
    have hp := performRequest_performed E command body retry s
    rw [requestCycles]
    generalize performRequest E command body retry s = o at hp ⊢
    cases hp with
    | reset _ hs => exact hs.sleeps_le.trans (by omega)
    | fresh _ _ hs => exact hs.sleeps_le.trans (by omega)
    | preResetFailed _ _ hs => exact hs.sleeps_le.trans (by omega)
    | preReset _ _ hpre hs =>
      rw [GoXLRUSB.since_trans (s := s) hpre.cycles_eq hs.cycles_eq, totalSleeps_append]
      exact Nat.add_le_add hpre.sleeps_le hs.sleeps_le
  refine ⟨hsum, ?_⟩
  unfold sleepTime
  split <;> omega

end GoXLR.Usb
