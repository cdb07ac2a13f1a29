import LoraRs.Region.Masks

/-!
# Channel table commands

The ways NewChannelReq and DlChannelReq can end on a dynamic channel plan.
-/

set_option autoImplicit false

namespace LoraRs.Region

open LoraRs.Encoding LoraRs.Lib

namespace DynamicChannelPlan

/-- The plan after `handle_new_channel` and its two flags. -/
inductive NewChannelOutcome (R : DynamicChannelRegion) (plan : DynamicChannelPlan)
    (index freq : Nat) (dr : Option DataRateRange) : DynamicChannelPlan → Bool → Bool → Prop where
  | refused (ackF ackD : Bool) (bad : (ackF && ackD) = false) :
      NewChannelOutcome R plan index freq dr plan ackF ackD
  | removed (later : R.numJoinChannels ≤ index) (inside : index < numChannelsDynamic)
      (zero : freq = 0) (mask : ChannelMask 9)
      (cleared : plan.channelMask.setChannel index false = .ok mask) :
      NewChannelOutcome R plan index freq dr
        { channels := plan.channels.set index none, channelMask := mask } true true
  | defined (later : R.numJoinChannels ≤ index) (inside : index < numChannelsDynamic)
      (nonzero : freq ≠ 0) (range : DataRateRange) (given : dr = some range)
      (mask : ChannelMask 9) (enabled : plan.channelMask.setChannel index true = .ok mask) :
      NewChannelOutcome R plan index freq dr
        { channels := plan.channels.set index (some (Channel.newWithDr freq range)),
          channelMask := mask } true true

theorem handleNewChannel_outcome {R : DynamicChannelRegion} {plan next : DynamicChannelPlan}
    {index freq : Nat} {dr : Option DataRateRange} {ackF ackD : Bool}
    (ran : plan.handleNewChannel R index freq dr = .ok (next, ackF, ackD)) :
    NewChannelOutcome R plan index freq dr next ackF ackD := by
  unfold handleNewChannel at ran
  split at ran
  · cases ran
    exact .refused _ _ rfl
  · rename_i later
    split at ran
    · rename_i inside
      split at ran
      · rename_i zero
        obtain ⟨mask, cleared, ran⟩ := Checked.bind_eq_ok_iff.mp ran
        cases ran
        exact .removed (by omega) inside zero mask cleared
      · rename_i nonzero
        simp only at ran
        split at ran
        · rename_i range
          split at ran
          · rename_i good
            obtain ⟨mask, enabled, ran⟩ := Checked.bind_eq_ok_iff.mp ran
            cases ran
            obtain ⟨freqGood, rangeGood⟩ := (Bool.and_eq_true _ _).mp good
            rw [freqGood, rangeGood]
            exact .defined (by omega) inside nonzero range rfl mask enabled
          · rename_i bad
            cases ran
            exact .refused _ _ (Bool.not_eq_true _ ▸ bad)
        · cases ran
          exact .refused _ _ (Bool.and_false _)
    · cases ran
      exact .refused _ _ rfl

/-- `handle_new_channel` never stops: it indexes only inside the table. -/
theorem handleNewChannel_returns (R : DynamicChannelRegion) (plan : DynamicChannelPlan)
    (index freq : Nat) (dr : Option DataRateRange) :
    Checked.Returns (plan.handleNewChannel R index freq dr) := by
  have writes : ∀ set, index < numChannelsDynamic →
      Checked.Returns (plan.channelMask.setChannel index set) := by
    intro set inside
    rw [ChannelMask.setChannel_returns_iff]
    simp only [numChannelsDynamic] at inside
    omega
  unfold handleNewChannel
  split
  · exact Checked.returns_ok _
  · split
    · rename_i inside
      split
      · obtain ⟨mask, cleared⟩ := writes false inside
        rw [cleared]
        exact Checked.returns_ok _
      · simp only
        split
        · split
          · obtain ⟨mask, enabled⟩ := writes true inside
            rw [enabled]
            exact Checked.returns_ok _
          · exact Checked.returns_ok _
        · exact Checked.returns_ok _
    · exact Checked.returns_ok _

/-- A channel that DlChannelReq can change: in the table, enabled, defined. -/
def dlChannel (plan : DynamicChannelPlan) (index : Nat) : Option Channel :=
  if inside : index < numChannelsDynamic then
    if plan.channelMask.enabled index then
      plan.channels[index].filter fun channel => decide (channel.frequency ≠ 0)
    else none
  else none

theorem dlChannel_eq_some {plan : DynamicChannelPlan} {index : Nat} {channel : Channel}
    (found : plan.dlChannel index = some channel) :
    ∃ inside : index < numChannelsDynamic, plan.channelMask.enabled index = true ∧
      plan.channels[index] = some channel ∧ channel.frequency ≠ 0 := by
  unfold dlChannel at found
  split at found
  · rename_i inside
    split at found
    · rename_i enabled
      obtain ⟨held, nonzero⟩ := Option.filter_eq_some_iff.mp found
      exact ⟨inside, enabled, held, of_decide_eq_true nonzero⟩
    · cases found
  · cases found

/-- The plan after `channel_dl_update` and its two flags: a channel that is there gets
its downlink frequency whatever the first flag says. -/
inductive DlChannelOutcome (R : DynamicChannelRegion) (plan : DynamicChannelPlan)
    (index freq : Nat) : DynamicChannelPlan → Bool → Bool → Prop where
  | absent (missing : plan.dlChannel index = none) :
      DlChannelOutcome R plan index freq plan (R.frequencyValid freq) false
  | changed (inside : index < numChannelsDynamic) (channel : Channel)
      (found : plan.dlChannel index = some channel) :
      DlChannelOutcome R plan index freq
        { plan with channels := plan.channels.set index (some (withDlFrequency channel freq)) }
        (R.frequencyValid freq) true

theorem channelDlUpdate_outcome (R : DynamicChannelRegion) (plan : DynamicChannelPlan)
    (index freq : Nat) :
    ∃ next ackF ackC, plan.channelDlUpdate R index freq = .ok (next, ackF, ackC) ∧
      DlChannelOutcome R plan index freq next ackF ackC := by
  unfold channelDlUpdate
  simp only
  split
  · rename_i inside
    have small : index < 72 := by
      simp only [numChannelsDynamic] at inside
      omega
    rw [isEnabledUnwrap_eq _ _ small, Checked.ok_bind]
    cases enabled : plan.channelMask.enabled index with
    | false =>
        refine ⟨_, _, _, rfl, .absent ?_⟩
        rw [dlChannel, dif_pos inside, enabled, if_neg Bool.false_ne_true]
    | true =>
        rw [if_pos rfl]
        cases held : plan.channels[index] with
        | none =>
            refine ⟨_, _, _, rfl, .absent ?_⟩
            rw [dlChannel, dif_pos inside, enabled, if_pos rfl, held]
            rfl
        | some channel =>
            simp only
            by_cases nonzero : channel.frequency ≠ 0
            · rw [if_pos nonzero]
              refine ⟨_, _, _, rfl, .changed inside channel ?_⟩
              rw [dlChannel, dif_pos inside, enabled, if_pos rfl, held]
              simp [nonzero]
            · rw [if_neg nonzero]
              refine ⟨_, _, _, rfl, .absent ?_⟩
              rw [dlChannel, dif_pos inside, enabled, if_pos rfl, held]
              simpa using nonzero
  · rename_i outside
    refine ⟨_, _, _, rfl, .absent ?_⟩
    rw [dlChannel, dif_neg outside]

end DynamicChannelPlan

end LoraRs.Region
