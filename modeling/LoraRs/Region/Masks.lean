import LoraRs.Region.Configuration

/-!
# Channel mask commands

Which mask commands a region takes and what its validation says about a mask.
-/

set_option autoImplicit false

namespace LoraRs.Region

open LoraRs.Encoding LoraRs.Lib

/-! ## Writing banks -/

theorem setBank_stops (mask : ChannelMask 9) (index : Nat) (value : Byte) :
    Checked.StopsOnlyWith .outOfBounds (mask.setBank index value) := by
  unfold ChannelMask.setBank
  split
  · exact .ok _
  · exact .error

theorem setBanks_stops (mask : ChannelMask 9) (baseIndex : Nat) (chMask : ChannelMask 2) :
    Checked.StopsOnlyWith .outOfBounds (setBanks mask baseIndex chMask) :=
  (setBank_stops mask baseIndex _).bind fun next => setBank_stops next (baseIndex + 1) _

/-- Two banks are written: the second one has to be there. -/
theorem setBanks_returns_iff (mask : ChannelMask 9) (baseIndex : Nat) (chMask : ChannelMask 2) :
    Checked.Returns (setBanks mask baseIndex chMask) ↔ baseIndex + 1 < 9 := by
  rw [setBanks, Checked.returns_bind_iff]
  constructor
  · rintro ⟨middle, _, second⟩
    exact (ChannelMask.setBank_returns_iff middle (baseIndex + 1) _).mp second
  · intro inside
    obtain ⟨middle, first⟩ :=
      (ChannelMask.setBank_returns_iff mask baseIndex chMask.bytes[0]).mpr (by omega)
    exact ⟨middle, first, (ChannelMask.setBank_returns_iff middle (baseIndex + 1) _).mpr inside⟩

theorem setEachBank_stops (mask : ChannelMask 9) (count : Nat) (bank : Nat → Byte) :
    Checked.StopsOnlyWith .outOfBounds (setEachBank mask count bank) :=
  Checked.foldlM_stops (fun next i => setBank_stops next i (bank i)) _ _

theorem setEachBank_returns (mask : ChannelMask 9) (count : Nat) (bank : Nat → Byte)
    (inside : count ≤ 9) : Checked.Returns (setEachBank mask count bank) := by
  rw [setEachBank, Checked.foldlM_returns_iff
    (fun next i => ChannelMask.setBank_returns_iff next i (bank i))]
  intro i listed
  have below := List.mem_range.mp listed
  omega

/-! ## Banks that are overwritten -/

/-- The step writes these banks, whatever they were, and leaves the others. -/
def Writes (step : ChannelMask 9 → Checked (ChannelMask 9)) (banks : Nat → Bool) : Prop :=
  ∀ first second firstNext secondNext, step first = .ok firstNext →
    step second = .ok secondNext → ∀ bank : Fin 9,
      firstNext.bytes.get bank = secondNext.bytes.get bank ↔
        banks bank.val = true ∨ first.bytes.get bank = second.bytes.get bank

namespace Writes

variable {step next : ChannelMask 9 → Checked (ChannelMask 9)} {banks more : Nat → Bool}

theorem nothing : Writes (fun mask => .ok mask) fun _ => false := by
  intro first second firstNext secondNext firstRan secondRan bank
  cases firstRan
  cases secondRan
  simp

theorem andThen (writes : Writes step banks) (rest : Writes next more) :
    Writes (fun mask => step mask >>= next) fun bank => more bank || banks bank := by
  intro first second firstNext secondNext firstRan secondRan bank
  obtain ⟨firstMiddle, firstStep, firstRest⟩ := Checked.bind_eq_ok_iff.mp firstRan
  obtain ⟨secondMiddle, secondStep, secondRest⟩ := Checked.bind_eq_ok_iff.mp secondRan
  rw [rest _ _ _ _ firstRest secondRest bank, writes _ _ _ _ firstStep secondStep bank,
    Bool.or_eq_true, or_assoc]

theorem of_banks (writes : Writes step banks) (same : ∀ bank < 9, banks bank = more bank) :
    Writes step more := by
  intro first second firstNext secondNext firstRan secondRan bank
  rw [writes _ _ _ _ firstRan secondRan bank, same bank.val bank.isLt]

theorem each {α : Type} {steps : α → ChannelMask 9 → Checked (ChannelMask 9)}
    {written : α → Nat → Bool} (writes : ∀ a, Writes (steps a) (written a)) (list : List α) :
    Writes (fun mask => list.foldlM (fun mask a => steps a mask) mask)
      fun bank => list.any fun a => written a bank := by
  induction list with
  | nil => exact nothing
  | cons a rest ih =>
      refine ((writes a).andThen ih).of_banks ?_
      intro bank _
      rw [List.any_cons, Bool.or_comm]

theorem setBank (index : Nat) (value : Byte) :
    Writes (fun mask => mask.setBank index value) fun bank => bank == index := by
  intro first second firstNext secondNext firstRan secondRan bank
  obtain ⟨inside, rfl⟩ := ChannelMask.setBank_eq_ok_iff.mp firstRan
  obtain ⟨_, rfl⟩ := ChannelMask.setBank_eq_ok_iff.mp secondRan
  simp only [Vector.get_eq_getElem, Vector.getElem_set]
  by_cases here : index = bank.val
  · simp [here]
  · simp [here, Ne.symm here]

theorem setBanks (baseIndex : Nat) (chMask : ChannelMask 2) :
    Writes (fun mask => Region.setBanks mask baseIndex chMask)
      fun bank => bank == baseIndex + 1 || bank == baseIndex :=
  (setBank baseIndex _).andThen (setBank (baseIndex + 1) _)

theorem setEachBank (count : Nat) (value : Nat → Byte) :
    Writes (fun mask => Region.setEachBank mask count value) fun bank => decide (bank < count) := by
  refine (each (fun index => setBank index (value index)) (List.range count)).of_banks ?_
  intro bank _
  rw [Bool.eq_iff_iff, List.any_eq_true, decide_eq_true_eq]
  constructor
  · rintro ⟨index, listed, same⟩
    rw [beq_iff_eq.mp same]
    exact List.mem_range.mp listed
  · intro below
    exact ⟨bank, List.mem_range.mpr below, beq_self_eq_true bank⟩

end Writes

namespace FixedChannelPlan

theorem setBlocks_returns (mask : ChannelMask 9) (blocks : Byte) :
    Checked.Returns (setBlocks mask blocks) := by
  obtain ⟨middle, first⟩ := setEachBank_returns mask 8
    (fun i => if blocks &&& (1 <<< i.toUInt8) ≠ 0 then 0xFF else 0x00) (by omega)
  rw [setBlocks, first]
  exact (ChannelMask.setBank_returns_iff middle 8 blocks).mpr (by omega)

theorem set125kChannels_returns (mask : ChannelMask 9) (enabled : Bool)
    (extraMask : ChannelMask 2) : Checked.Returns (set125kChannels mask enabled extraMask) := by
  obtain ⟨middle, first⟩ := setEachBank_returns mask 8
    (fun _ => if enabled then 0xFF else 0x00) (by omega)
  rw [set125kChannels, first]
  exact (ChannelMask.setBank_returns_iff middle 8 _).mpr (by omega)

end FixedChannelPlan

namespace Configuration

theorem some_returns_iff {α : Type} {run : Checked α} :
    Checked.Returns (do return some (← run) : Checked (Option α)) ↔ Checked.Returns run := by
  rw [Checked.returns_bind_iff]
  constructor
  · rintro ⟨value, ran, _⟩
    exact ⟨value, ran⟩
  · rintro ⟨value, ran⟩
    exact ⟨value, ran, Checked.returns_ok _⟩

theorem some_stops {α : Type} {fault : Fault} {run : Checked α}
    (stops : Checked.StopsOnlyWith fault run) :
    Checked.StopsOnlyWith fault (do return some (← run) : Checked (Option α)) :=
  stops.bind fun value => .ok (some value)

/-- Control 4 writes a bank past the mask, in both kinds of plan; all others are
taken. -/
theorem channelMaskUpdate_returns_iff (config : Configuration) (mask : ChannelMask 9)
    (chMaskCtl : Nat) (chMask : ChannelMask 2) :
    Checked.Returns (config.channelMaskUpdate mask chMaskCtl chMask) ↔ chMaskCtl ≠ 4 := by
  cases config with
  | dynamic region plan =>
      simp only [channelMaskUpdate, DynamicChannelPlan.channelMaskUpdate]
      split
      · rw [some_returns_iff, setBanks_returns_iff]
        omega
      · split
        · rw [some_returns_iff]
          exact iff_of_true (setEachBank_returns _ _ _ (by omega)) (by omega)
        · split
          · rw [some_returns_iff]
            exact iff_of_true (setEachBank_returns _ _ _ (by omega)) (by omega)
          · exact iff_of_true (Checked.returns_ok _) (by omega)
  | fixed region plan =>
      simp only [channelMaskUpdate, FixedChannelPlan.channelMaskUpdate]
      split
      · rw [some_returns_iff, setBanks_returns_iff]
        omega
      · split
        · rw [some_returns_iff]
          exact iff_of_true (FixedChannelPlan.setBlocks_returns _ _) (by omega)
        · split
          · rw [some_returns_iff]
            exact iff_of_true (FixedChannelPlan.set125kChannels_returns _ _ _) (by omega)
          · split
            · rw [some_returns_iff]
              exact iff_of_true (FixedChannelPlan.set125kChannels_returns _ _ _) (by omega)
            · exact iff_of_true (Checked.returns_ok _) (by omega)

theorem channelMaskUpdate_stops (config : Configuration) (mask : ChannelMask 9)
    (chMaskCtl : Nat) (chMask : ChannelMask 2) :
    Checked.StopsOnlyWith .outOfBounds (config.channelMaskUpdate mask chMaskCtl chMask) := by
  cases config with
  | dynamic region plan =>
      simp only [channelMaskUpdate, DynamicChannelPlan.channelMaskUpdate]
      split
      · exact some_stops (setBanks_stops _ _ _)
      · split
        · exact some_stops (setEachBank_stops _ _ _)
        · split
          · exact some_stops (setEachBank_stops _ _ _)
          · exact .ok _
  | fixed region plan =>
      simp only [channelMaskUpdate, FixedChannelPlan.channelMaskUpdate]
      split
      · exact some_stops (setBanks_stops _ _ _)
      · split
        · exact some_stops ((setEachBank_stops _ _ _).bind fun next => setBank_stops next 8 _)
        · split
          · exact some_stops ((setEachBank_stops _ _ _).bind fun next => setBank_stops next 8 _)
          · split
            · exact some_stops
                ((setEachBank_stops _ _ _).bind fun next => setBank_stops next 8 _)
            · exact .ok _

/-- The banks that a mask command overwrites: two for the controls 0 to 3; of the other two the
dynamic plans leave bank 8 under control 6, and do not know control 7. -/
def overwrites (config : Configuration) (chMaskCtl bank : Nat) : Bool :=
  if chMaskCtl ≤ 4 then bank == chMaskCtl * 2 + 1 || bank == chMaskCtl * 2
  else if chMaskCtl = 5 then true
  else if chMaskCtl = 6 then config.hasFixedChannelPlan || decide (bank < 8)
  else if chMaskCtl = 7 then config.hasFixedChannelPlan
  else false

theorem some_getD_eq (run : Checked (ChannelMask 9)) (mask : ChannelMask 9) :
    (do return (← (do return some (← run) : Checked (Option (ChannelMask 9)))).getD mask) =
      run := by
  cases run <;> rfl

theorem channelMaskUpdate_writes (config : Configuration) (chMaskCtl : Nat)
    (chMask : ChannelMask 2) :
    Writes (fun mask => do return (← config.channelMaskUpdate mask chMaskCtl chMask).getD mask)
      (config.overwrites chMaskCtl) := by
  have last : ∀ {lower : ChannelMask 9 → Checked (ChannelMask 9)} (value : Byte),
      Writes lower (fun bank => decide (bank < 8)) →
      Writes (fun mask => lower mask >>= fun mask => mask.setBank 8 value) fun _ => true := by
    intro lower value writes
    refine (writes.andThen (.setBank 8 value)).of_banks ?_
    intro bank inside
    simp only [Bool.or_eq_true, beq_iff_eq, decide_eq_true_eq]
    omega
  cases config with
  | dynamic region plan =>
      simp only [channelMaskUpdate, DynamicChannelPlan.channelMaskUpdate]
      split
      · rename_i pairs
        simp only [some_getD_eq]
        exact (Writes.setBanks _ _).of_banks fun bank _ => by simp only [overwrites, if_pos pairs]
      · split
        · rename_i five
          simp only [some_getD_eq]
          exact (Writes.setEachBank 9 _).of_banks fun bank inside => by
            simp [overwrites, five, inside]
        · split
          · rename_i six
            simp only [some_getD_eq]
            exact (Writes.setEachBank 8 _).of_banks fun bank _ => by
              simp [overwrites, six, hasFixedChannelPlan]
          · rename_i pairs five six
            exact Writes.nothing.of_banks fun bank _ => by
              simp [overwrites, pairs, five, six, hasFixedChannelPlan]
  | fixed region plan =>
      simp only [channelMaskUpdate, FixedChannelPlan.channelMaskUpdate]
      split
      · rename_i pairs
        simp only [some_getD_eq]
        exact (Writes.setBanks _ _).of_banks fun bank _ => by simp only [overwrites, if_pos pairs]
      · split
        · rename_i five
          simp only [some_getD_eq]
          exact (last _ (Writes.setEachBank 8 _)).of_banks fun bank _ => by
            simp [overwrites, five]
        · split
          · rename_i six
            simp only [some_getD_eq]
            exact (last _ (Writes.setEachBank 8 _)).of_banks fun bank _ => by
              simp [overwrites, six, hasFixedChannelPlan]
          · split
            · rename_i seven
              simp only [some_getD_eq]
              exact (last _ (Writes.setEachBank 8 _)).of_banks fun bank _ => by
                simp [overwrites, seven, hasFixedChannelPlan]
            · rename_i pairs five six seven
              exact Writes.nothing.of_banks fun bank _ => by
                simp [overwrites, pairs, five, six, seven]

end Configuration

/-! ## Channels for a bandwidth -/

/-- Channels 64 to 71 are the 500 kHz ones, those below are for the other bandwidths. -/
def Bandwidth.hasChannel (bandwidth : Bandwidth) (channel : Nat) : Bool :=
  match bandwidth with
  | .khz500 => decide (64 ≤ channel ∧ channel < 72)
  | _ => decide (channel < 64)

theorem Bandwidth.hasChannel_lt {bandwidth : Bandwidth} {channel : Nat}
    (classed : bandwidth.hasChannel channel = true) : channel < 72 := by
  cases bandwidth with
  | khz500 => exact (of_decide_eq_true classed).2
  | khz125 | khz250 =>
      have below := of_decide_eq_true classed
      omega

/-- The fixed plans define no rate of 250 kHz. -/
theorem FixedRegion.not_khz250 (region : FixedRegion) {dr : Nat} {rate : Datarate}
    (found : getDatarate region.params.datarates dr = .ok (some rate)) :
    rate.bandwidth ≠ .khz250 := by
  have table : ∀ i : Fin 15,
      region.params.datarates[i].map (·.bandwidth) ≠ some .khz250 := by
    cases region <;> decide
  unfold getDatarate at found
  split at found
  · rename_i inside
    intro same
    apply table ⟨dr, inside⟩
    rw [Fin.getElem_fin, Except.ok.inj found, Option.map_some, same]
  · cases found

namespace FixedChannelPlan

def HasChannelFor (mask : ChannelMask 9) (bandwidth : Bandwidth) : Prop :=
  ∃ channel, bandwidth.hasChannel channel = true ∧ mask.enabled channel = true

/-- The mask enables a channel for the data rate, where the region defines it. -/
def Serves (F : FixedChannelRegion) (mask : ChannelMask 9) (dr : DR) : Prop :=
  ∀ rate, getDatarate F.datarates dr.val = .ok (some rate) → HasChannelFor mask rate.bandwidth

theorem serves_default (F : FixedChannelRegion) (dr : DR) : Serves F ChannelMask.default dr := by
  intro rate _
  cases bandwidthEq : rate.bandwidth with
  | khz500 => exact ⟨64, rfl, ChannelMask.enabled_default 64⟩
  | khz125 | khz250 => exact ⟨0, rfl, ChannelMask.enabled_default 0⟩

/-- A validated mask enables a channel for the data rate it was validated with. -/
theorem channelMaskValidate_serves (region : FixedRegion) {mask : ChannelMask 9} {dr : DR}
    (valid : channelMaskValidate region.params mask (some dr) = .ok true) :
    Serves region.params mask dr := by
  intro rate found
  simp only [channelMaskValidate, found, Checked.ok_bind] at valid
  cases bandwidthEq : rate.bandwidth with
  | khz250 => exact absurd bandwidthEq (region.not_khz250 found)
  | khz500 =>
      simp only [bandwidthEq] at valid
      have total : ∀ i ∈ List.range' 64 8, isEnabledUnwrap mask i = .ok (mask.enabled i) := by
        intro i listed
        have bounds := List.mem_range'_1.mp listed
        exact isEnabledUnwrap_eq mask i (by omega)
      rw [Checked.any_eq_ok _ _ _ total] at valid
      obtain ⟨i, listed, enabled⟩ := List.any_eq_true.mp (Except.ok.inj valid)
      have bounds := List.mem_range'_1.mp listed
      exact ⟨i, decide_eq_true ⟨bounds.1, by omega⟩, enabled⟩
  | khz125 =>
      simp only [bandwidthEq] at valid
      have total : ∀ i ∈ List.range 64, isEnabledUnwrap mask i = .ok (mask.enabled i) := by
        intro i listed
        have below := List.mem_range.mp listed
        exact isEnabledUnwrap_eq mask i (by omega)
      rw [Checked.filterTake_eq_ok _ _ _ _ total, Checked.ok_bind] at valid
      have two : (((List.range 64).filter mask.enabled).take 2).length = 2 :=
        of_decide_eq_true (Except.ok.inj valid)
      have nonempty : 0 < ((List.range 64).filter mask.enabled).length := by
        rw [List.length_take] at two
        omega
      obtain ⟨i, listed⟩ := List.exists_mem_of_length_pos nonempty
      obtain ⟨below, enabled⟩ := List.mem_filter.mp listed
      exact ⟨i, decide_eq_true (List.mem_range.mp below), enabled⟩

end FixedChannelPlan

/-! ## Validation ends -/

theorem getDatarate_returns (datarates : Datarates) {dr : Nat} (inside : dr < numDatarates) :
    Checked.Returns (getDatarate datarates dr) := by
  rw [getDatarate, dif_pos inside]
  exact Checked.returns_ok _

/-- The table has a place for every rate but 15, which means "keep". -/
theorem DR_val_lt {dr : DR} (named : dr ≠ 15) : dr.val < numDatarates := by
  have small := dr.isLt
  have apart : dr.val ≠ 15 := fun same => named (Fin.ext same)
  simp only [numDatarates]
  omega

theorem DynamicChannelPlan.channelMaskValidate_returns (plan : DynamicChannelPlan)
    (mask : ChannelMask 9) : Checked.Returns (plan.channelMaskValidate mask) := by
  have total : ∀ i ∈ List.range numChannelsDynamic,
      (do
        if ← isEnabledUnwrap mask i then return (← plan.getChannel i).isSome
        else return false : Checked Bool) =
      .ok (mask.enabled i && (plan.channels[i]?.join).isSome) := by
    intro i listed
    have inside := List.mem_range.mp listed
    have small : i < 72 := Nat.lt_trans inside (by decide)
    have entry : plan.channels[i]?.join = plan.channels[i] := by
      rw [Vector.getElem?_eq_getElem inside]
      rfl
    rw [isEnabledUnwrap_eq _ _ small, Checked.ok_bind, entry]
    cases mask.enabled i with
    | false => rfl
    | true =>
        rw [if_pos rfl, DynamicChannelPlan.getChannel, dif_pos inside]
        rfl
  rw [channelMaskValidate, Checked.any_eq_ok _ _ _ total]
  exact Checked.returns_ok _

theorem FixedChannelPlan.channelMaskValidate_returns (F : FixedChannelRegion)
    (mask : ChannelMask 9) (dr : Option DR) (inside : ∀ d, dr = some d → d.val < numDatarates) :
    Checked.Returns (channelMaskValidate F mask dr) := by
  have on : ∀ i, i < 72 → isEnabledUnwrap mask i = .ok (mask.enabled i) := isEnabledUnwrap_eq mask
  cases dr with
  | none => exact Checked.returns_ok _
  | some dr =>
      obtain ⟨entry, found⟩ := getDatarate_returns F.datarates (inside dr rfl)
      simp only [channelMaskValidate, found, Checked.ok_bind]
      cases entry with
      | none => exact Checked.returns_ok _
      | some rate =>
          obtain ⟨bandwidth, spreadingFactor, maxMacPayloadSize⟩ := rate
          cases bandwidth with
          | khz250 => exact Checked.returns_ok _
          | khz500 =>
              simp only
              rw [Checked.any_eq_ok _ _ _ fun i listed => on i (by
                have bounds := List.mem_range'_1.mp listed
                omega)]
              exact Checked.returns_ok _
          | khz125 =>
              simp only
              rw [Checked.filterTake_eq_ok _ _ _ _ fun i listed => on i (by
                have below := List.mem_range.mp listed
                omega)]
              exact Checked.returns_ok _

theorem Configuration.channelMaskValidate_returns (config : Configuration) (mask : ChannelMask 9)
    (dr : Option DR) (inside : ∀ d, dr = some d → d.val < numDatarates) :
    Checked.Returns (config.channelMaskValidate mask dr) := by
  cases config with
  | dynamic region plan => exact plan.channelMaskValidate_returns mask
  | fixed region plan => exact FixedChannelPlan.channelMaskValidate_returns _ mask dr inside

end LoraRs.Region
