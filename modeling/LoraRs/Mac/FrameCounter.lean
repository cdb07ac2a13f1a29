import LoraRs.Mac.Received
import LoraRs.Mac.Sending
import LoraRs.Lib.CounterLog
import LoraRs.Lib.Transition

/-!
# Downlink frame counters

`next_fcnt_down` rebuilds exactly the counters up to `MAX_FCNT_GAP` ahead, and the
counters at which a session accepts unicast downlinks increase over every run.
-/

set_option autoImplicit false

namespace LoraRs.Mac

open LoraRs.Encoding LoraRs.Lib

/-! ## Reconstruction -/

theorem and_high_half (n : Nat) (small : n < 2 ^ 32) :
    n &&& 0xFFFF0000 = 2 ^ 16 * (n / 2 ^ 16) := by
  apply Nat.eq_of_testBit_eq
  intro i
  have mask : (0xFFFF0000 : Nat) = 2 ^ 16 * (2 ^ 16 - 1) := rfl
  rw [mask, Nat.testBit_and, Nat.testBit_two_pow_mul, Nat.testBit_two_pow_mul,
    Nat.testBit_two_pow_sub_one, Nat.testBit_div_two_pow]
  by_cases low : 16 ≤ i
  · have back : i - 16 + 16 = i := by omega
    by_cases high : i < 32
    · have inside : i - 16 < 16 := by omega
      simp [low, inside, back]
    · have past : n.testBit i = false := by
        apply Nat.testBit_lt_two_pow
        exact Nat.lt_of_lt_of_le small (Nat.pow_le_pow_right (by omega) (by omega))
      simp [past, back]
  · simp [low]

theorem high_or_wire (high : Nat) (wire : UInt16) :
    2 ^ 16 * high ||| wire.toNat = 2 ^ 16 * high + wire.toNat :=
  (Nat.two_pow_add_eq_or_of_lt wire.toNat_lt high).symm

/-- How far the wire value is ahead of a counter, modulo `2 ^ 16`. -/
def wireGap (last : UInt32) (wire : UInt16) : Nat :=
  (wire.toNat + 2 ^ 16 - last.toNat % 2 ^ 16) % 2 ^ 16

/-- `next_fcnt_down` in closed form: the counter that is the wire's gap ahead, if the
gap is allowed and the counter still fits. -/
theorem nextFcntDown_eq (last : UInt32) (wire : UInt16) :
    nextFcntDown (some last) wire =
      if 0 < wireGap last wire ∧ wireGap last wire ≤ maxFcntGap ∧
          last.toNat + wireGap last wire < 2 ^ 32 then
        some (UInt32.ofNat (last.toNat + wireGap last wire))
      else none := by
  have lastSmall := last.toNat_lt
  have wireSmall := wire.toNat_lt
  have highNat : (last &&& 0xFFFF0000).toNat = 2 ^ 16 * (last.toNat / 2 ^ 16) := by
    rw [UInt32.toNat_and]
    exact and_high_half last.toNat lastSmall
  have lowNat : last.toUInt16.toNat = last.toNat % 2 ^ 16 := UInt32.toNat_toUInt16 last
  have decomposed : last.toNat = 2 ^ 16 * (last.toNat / 2 ^ 16) + last.toNat % 2 ^ 16 :=
    (Nat.div_add_mod _ _).symm
  -- The reconstructed counter, as a number.
  obtain ⟨reconstructed, reconstructedEq, value⟩ : ∃ reconstructed : UInt32,
      (if wire ≥ last.toUInt16 then (last &&& 0xFFFF0000) ||| wire.toUInt32
        else ((last &&& 0xFFFF0000) + 0x10000) ||| wire.toUInt32) = reconstructed ∧
      reconstructed.toNat = (last.toNat + wireGap last wire) % 2 ^ 32 := by
    refine ⟨_, rfl, ?_⟩
    by_cases ahead : wire ≥ last.toUInt16
    · have aheadNat : last.toNat % 2 ^ 16 ≤ wire.toNat := by
        rw [← lowNat]
        exact UInt16.le_iff_toNat_le.mp ahead
      rw [if_pos ahead, UInt32.toNat_or, highNat, UInt16.toNat_toUInt32, high_or_wire]
      unfold wireGap
      omega
    · have behindNat : wire.toNat < last.toNat % 2 ^ 16 := by
        rw [← lowNat]
        exact UInt16.lt_iff_toNat_lt.mp (UInt16.not_le.mp ahead)
      have next : ((last &&& 0xFFFF0000) + 0x10000).toNat =
          2 ^ 16 * ((last.toNat / 2 ^ 16 + 1) % 2 ^ 16) := by
        rw [UInt32.toNat_add, highNat]
        change (2 ^ 16 * (last.toNat / 2 ^ 16) + 65536) % 2 ^ 32 = _
        omega
      rw [if_neg ahead, UInt32.toNat_or, next, UInt16.toNat_toUInt32, high_or_wire]
      unfold wireGap
      omega
  have gapSmall : wireGap last wire < 2 ^ 16 := Nat.mod_lt _ (by omega)
  simp only [nextFcntDown, reconstructedEq]
  by_cases fits : last.toNat + wireGap last wire < 2 ^ 32
  · have exact : reconstructed.toNat = last.toNat + wireGap last wire := by
      rw [value]
      exact Nat.mod_eq_of_lt fits
    have same : reconstructed = UInt32.ofNat (last.toNat + wireGap last wire) := by
      apply UInt32.toNat_inj.mp
      rw [exact, UInt32.toNat_ofNat_of_lt' fits]
    have ordered : last ≤ reconstructed := UInt32.le_iff_toNat_le.mpr (by omega)
    have difference : (reconstructed - last).toNat = wireGap last wire := by
      rw [UInt32.toNat_sub_of_le _ _ ordered]
      omega
    have positive : reconstructed - last > 0 ↔ 0 < wireGap last wire := by
      rw [gt_iff_lt, UInt32.lt_iff_toNat_lt, difference]
      exact Iff.rfl
    rw [if_pos ordered, difference, same]
    rw [same] at positive
    simp only [positive, fits, and_true]
  · have behind : ¬ last ≤ reconstructed := by
      rw [UInt32.le_iff_toNat_le, value]
      omega
    rw [if_neg behind, if_neg (by omega)]

theorem nextFcntDown_gt {last fcnt : UInt32} {wire : UInt16}
    (fresh : nextFcntDown (some last) wire = some fcnt) : last < fcnt := by
  rw [nextFcntDown_eq] at fresh
  split at fresh
  · rename_i allowed
    cases fresh
    rw [UInt32.lt_iff_toNat_lt, UInt32.toNat_ofNat_of_lt' allowed.2.2]
    omega
  · cases fresh

/-- Every counter up to the gap ahead is rebuilt from its low half. -/
theorem nextFcntDown_rebuilds (last fcnt : UInt32) (ahead : last < fcnt)
    (near : fcnt.toNat ≤ last.toNat + 16384) :
    nextFcntDown (some last) fcnt.toUInt16 = some fcnt := by
  have small := fcnt.toNat_lt
  have aheadNat : last.toNat < fcnt.toNat := UInt32.lt_iff_toNat_lt.mp ahead
  have gap : wireGap last fcnt.toUInt16 = fcnt.toNat - last.toNat := by
    simp only [wireGap, UInt32.toNat_toUInt16]
    omega
  have fits : last.toNat + (fcnt.toNat - last.toNat) < 2 ^ 32 := by omega
  rw [nextFcntDown_eq, gap, if_pos ⟨by omega, by simp only [maxFcntGap]; omega, fits⟩]
  congr 1
  apply UInt32.toNat_inj.mp
  rw [UInt32.toNat_ofNat_of_lt' fits]
  omega

/-- Only the low halves of such counters are taken. -/
theorem nextFcntDown_rejects (last : UInt32) (wire : UInt16)
    (far : ∀ fcnt : UInt32, last < fcnt → fcnt.toNat ≤ last.toNat + 16384 →
      fcnt.toUInt16 ≠ wire) : nextFcntDown (some last) wire = none := by
  cases found : nextFcntDown (some last) wire with
  | none => rfl
  | some fcnt =>
      have ahead := nextFcntDown_gt found
      rw [nextFcntDown_eq] at found
      split at found
      · rename_i allowed
        cases found
        have wireSmall := wire.toNat_lt
        have lastSmall := last.toNat_lt
        exfalso
        refine far _ ahead ?_ ?_
        · have gap := allowed.2.1
          simp only [maxFcntGap] at gap
          rw [UInt32.toNat_ofNat_of_lt' allowed.2.2]
          omega
        · apply UInt16.toNat_inj.mp
          rw [UInt32.toNat_toUInt16, UInt32.toNat_ofNat_of_lt' allowed.2.2]
          simp only [wireGap]
          omega
      · cases found

/-! ## Runs of a session -/

/-- What can happen to a session: a frame in any window, the end of the windows, an
uplink built, an answer queued, and any change of the rest of the MAC. -/
inductive SessionEvent where
  | received (bytes : List Byte) (maxPayloadLen : Nat) (snr : Int8) (ignoreMac : Bool)
  | windowsClosed
  | uplinkBuilt (data : SendData)
  | answerQueued (cmd : SerializableMacCommand)
  | reconfigured (region : Region.Configuration) (configuration : Configuration)
      (certification : Certification) (multicast : Multicast) (dl : List Downlink)

/-- A session in its MAC, with the counters of the unicast downlinks accepted so
far. -/
structure SessionRun where
  rx : RxState
  accepted : List UInt32

def sessionStep (env : RxEnv) (bufferSize : Nat) (event : SessionEvent) (run : SessionRun) :
    Checked SessionRun :=
  match event with
  | .received bytes maxPayloadLen snr ignoreMac => do
      let (_, rx) ← Session.handleRx env bytes maxPayloadLen snr ignoreMac run.rx
      return { rx, accepted := run.accepted ++
        (Session.acceptedCounter env bytes maxPayloadLen run.rx).toList }
  | .windowsClosed => do
      let (_, session, configuration) ←
        run.rx.session.rx2Complete run.rx.configuration run.rx.region
      return { run with rx := { run.rx with session, configuration } }
  | .uplinkBuilt data => do
      let (_, _, session) ← run.rx.session.prepareBuffer env.newCrypto bufferSize data
        run.rx.configuration run.rx.region
      return { run with rx := { run.rx with session } }
  | .answerQueued cmd =>
      .ok { run with rx := { run.rx with session :=
        { run.rx.session with uplink := run.rx.session.uplink.addMacCommand cmd } } }
  | .reconfigured region configuration certification multicast dl =>
      .ok { run with rx :=
        { session := run.rx.session, region, configuration, certification, multicast, dl } }

/-- The accepted counters increase up to the session's downlink counter. -/
def CountersUpTo (run : SessionRun) : Prop :=
  LogUpTo UInt32.toNat run.accepted (run.rx.session.fcntDown.map UInt32.toNat)

theorem sessionStep_keeps_counters (env : RxEnv) (bufferSize : Nat) (event : SessionEvent)
    (run next : SessionRun) (before : CountersUpTo run)
    (stepped : sessionStep env bufferSize event run = .ok next) : CountersUpTo next := by
  cases event with
  | received bytes maxPayloadLen snr ignoreMac =>
      obtain ⟨⟨response, rx⟩, handled, stepped⟩ := Checked.bind_eq_ok_iff.mp stepped
      cases stepped
      have moved := Session.handleRx_fcntDown handled
      simp only [CountersUpTo, moved]
      cases accepted : Session.acceptedCounter env bytes maxPayloadLen run.rx with
      | none =>
          simp only [Option.toList_none, List.append_nil]
          exact before
      | some fcnt =>
          obtain ⟨data, _, _, _, fresh, _⟩ := Session.acceptedCounter_eq_some accepted
          apply LogUpTo.push before
          intro value marked
          obtain ⟨last, lastEq, rfl⟩ := Option.map_eq_some_iff.mp marked
          rw [lastEq] at fresh
          exact UInt32.lt_iff_toNat_lt.mp (nextFcntDown_gt fresh)
  | windowsClosed =>
      obtain ⟨⟨response, session, configuration⟩, completed, stepped⟩ :=
        Checked.bind_eq_ok_iff.mp stepped
      cases stepped
      have kept : session.fcntDown = run.rx.session.fcntDown := by
        rw [(Session.rx2Complete_session completed).1]
      simpa only [CountersUpTo, kept] using before
  | uplinkBuilt data =>
      obtain ⟨⟨fcnt, packet, session⟩, built, stepped⟩ := Checked.bind_eq_ok_iff.mp stepped
      cases stepped
      have kept : session.fcntDown = run.rx.session.fcntDown := by
        rw [(prepareBuffer_ok built).2]
      simpa only [CountersUpTo, kept] using before
  | answerQueued cmd =>
      cases stepped
      exact before
  | reconfigured region configuration certification multicast dl =>
      cases stepped
      exact before

/-- Over every run of a session the counters of accepted unicast downlinks increase;
and reconstruction takes exactly the low halves of the counters up to
`MAX_FCNT_GAP` ahead, each to its own counter. -/
theorem downlink_counters_increase_and_reconstruct :
    (∀ (env : RxEnv) (bufferSize : Nat) (events : List SessionEvent) (rx : RxState)
      (final : SessionRun),
      Transition.run (sessionStep env bufferSize) events ⟨rx, []⟩ = .ok final →
      final.accepted.Pairwise (· < ·)) ∧
    (∀ last fcnt : UInt32, last < fcnt → fcnt.toNat ≤ last.toNat + 16384 →
      nextFcntDown (some last) fcnt.toUInt16 = some fcnt) ∧
    (∀ (last : UInt32) (wire : UInt16),
      (∀ fcnt : UInt32, last < fcnt → fcnt.toNat ≤ last.toNat + 16384 →
        fcnt.toUInt16 ≠ wire) →
      nextFcntDown (some last) wire = none) := by
  refine ⟨?_, nextFcntDown_rebuilds, nextFcntDown_rejects⟩
  intro env bufferSize events rx final ran
  have kept : CountersUpTo final :=
    Transition.run_preserves _ (sessionStep_keeps_counters env bufferSize) events ⟨rx, []⟩ final
      (LogUpTo.nil _) ran
  exact kept.increasing.imp UInt32.lt_iff_toNat_lt.mpr

/-- Two frames, the first one replayed, in a fresh session; and the roll-over. -/
theorem downlink_counters_increase_and_reconstruct_sample :
    (∃ final, Transition.run (sessionStep Sample.env 256)
        [.received (Sample.commands 5 []) 59 0 false, .received (Sample.commands 5 []) 59 0 false,
          .received (Sample.commands 7 []) 59 0 false] ⟨Sample.rx, []⟩ = .ok final ∧
        final.accepted.Pairwise (· < ·)) ∧
      nextFcntDown (some 65535) (65536 : UInt32).toUInt16 = some 65536 := by
  have returned : Checked.Returns (Transition.run (sessionStep Sample.env 256)
      [.received (Sample.commands 5 []) 59 0 false, .received (Sample.commands 5 []) 59 0 false,
        .received (Sample.commands 7 []) 59 0 false] ⟨Sample.rx, []⟩) := by
    decide +kernel
  obtain ⟨final, ran⟩ := returned
  exact ⟨⟨final, ran, downlink_counters_increase_and_reconstruct.1 _ _ _ _ _ ran⟩,
    downlink_counters_increase_and_reconstruct.2.1 65535 65536 (by decide) (by decide)⟩

end LoraRs.Mac
