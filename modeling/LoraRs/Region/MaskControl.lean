import LoraRs.Region.Masks

/-!
# Mask controls, channel by channel

What each ChMaskCntl does to each of the 72 channels, against the tables of the
regional parameters.  The fixed plans follow theirs but for control 4, which writes
past the mask; the dynamic ones also act on controls that are reserved there.
-/

set_option autoImplicit false

namespace LoraRs.Region

open LoraRs.Encoding LoraRs.Lib

/-! ## The tables -/

/-- ChMaskCntl of the plans with 72 channels: the channels after it, as a function of
those before; `none` is reserved. -/
def fixedRule (chMaskCntl : Nat) (chMask channels : Nat → Bool) : Option (Nat → Bool) :=
  match chMaskCntl with
  | 4 => some fun i => if i < 64 then channels i else chMask (i - 64)
  | 5 => some fun i => if i < 64 then chMask (i / 8) else chMask (i - 64)
  | 6 => some fun i => if i < 64 then true else chMask (i - 64)
  | 7 => some fun i => if i < 64 then false else chMask (i - 64)
  | block =>
      if block < 4 then some fun i => if i / 16 = block then chMask (i % 16) else channels i
      else none

/-- ChMaskCntl of the plans with sixteen channels. -/
def dynamicRule (chMaskCntl : Nat) (chMask channels : Nat → Bool) : Option (Nat → Bool) :=
  match chMaskCntl with
  | 0 => some fun i => if i < 16 then chMask i else channels i
  | 6 => some fun _ => true
  | _ => none

def Configuration.maskRule : Configuration → Nat → (Nat → Bool) → (Nat → Bool) →
    Option (Nat → Bool)
  | .dynamic _ _ => dynamicRule
  | .fixed _ _ => fixedRule

/-- The update does not panic, and does to the 72 channels what the table says. -/
def Configuration.FollowsRule (config : Configuration) (mask : ChannelMask 9)
    (chMaskCntl : Nat) (chMask : ChannelMask 2) : Prop :=
  match config.maskRule chMaskCntl chMask.enabled mask.enabled with
  | none => config.channelMaskUpdate mask chMaskCntl chMask = .ok none
  | some channels => ∃ next, config.channelMaskUpdate mask chMaskCntl chMask = .ok (some next) ∧
      ∀ i < 72, next.enabled i = channels i

/-! ## Banks and channels -/

theorem ChannelMask.bit_get {N : Nat} (mask : ChannelMask N) (bank : Fin N) {k : Nat}
    (small : k < 8) : bit (mask.bytes.get bank) k = mask.enabled (8 * bank.val + k) := by
  have place : (8 * bank.val + k) / 8 = bank.val := by omega
  have low : (8 * bank.val + k) % 8 = k := by omega
  rw [ChannelMask.enabled, place, low, dif_pos bank.isLt]
  rfl

theorem enabled_setBanks {mask next : ChannelMask 9} {baseIndex : Nat} {chMask : ChannelMask 2}
    (written : setBanks mask baseIndex chMask = .ok next) (i : Nat) :
    next.enabled i =
      if i / 8 = baseIndex ∨ i / 8 = baseIndex + 1 then chMask.enabled (i - 8 * baseIndex)
      else mask.enabled i := by
  obtain ⟨middle, first, second⟩ := Checked.bind_eq_ok_iff.mp written
  have bound := Nat.mod_lt i (show 0 < 8 by decide)
  rw [ChannelMask.enabled_setBank second, ChannelMask.enabled_setBank first]
  by_cases low : i / 8 = baseIndex
  · have apart : ¬i / 8 = baseIndex + 1 := by omega
    have offset : 8 * 0 + i % 8 = i - 8 * baseIndex := by omega
    rw [if_neg apart, if_pos low, if_pos (.inl low), ← offset]
    exact ChannelMask.bit_get chMask 0 bound
  · by_cases high : i / 8 = baseIndex + 1
    · have offset : 8 * 1 + i % 8 = i - 8 * baseIndex := by omega
      rw [if_pos high, if_pos (.inr high), ← offset]
      exact ChannelMask.bit_get chMask 1 bound
    · rw [if_neg high, if_neg low, if_neg (by omega)]

theorem enabled_setEachBank {mask next : ChannelMask 9} {count : Nat} {bank : Nat → Byte}
    (written : setEachBank mask count bank = .ok next) (i : Nat) :
    next.enabled i = if i / 8 < count then bit (bank (i / 8)) (i % 8) else mask.enabled i := by
  induction count generalizing next with
  | zero =>
      cases written
      rw [if_neg (Nat.not_lt_zero _)]
  | succ count hypothesis =>
      rw [setEachBank, List.range_succ, List.foldlM_append] at written
      obtain ⟨middle, earlier, last⟩ := Checked.bind_eq_ok_iff.mp written
      obtain ⟨after, last, done⟩ := Checked.bind_eq_ok_iff.mp last
      cases done
      rw [ChannelMask.enabled_setBank last, hypothesis earlier]
      by_cases here : i / 8 = count
      · rw [if_pos here, if_pos (by omega), here]
      · rw [if_neg here]
        by_cases below : i / 8 < count
        · rw [if_pos below, if_pos (by omega)]
        · rw [if_neg below, if_neg (by omega)]

namespace FixedChannelPlan

theorem enabled_set125kChannels {mask next : ChannelMask 9} {enabled : Bool}
    {extraMask : ChannelMask 2} (written : set125kChannels mask enabled extraMask = .ok next)
    {i : Nat} (inside : i < 72) :
    next.enabled i = if i < 64 then enabled else extraMask.enabled (i - 64) := by
  obtain ⟨middle, low, high⟩ := Checked.bind_eq_ok_iff.mp written
  have bound := Nat.mod_lt i (show 0 < 8 by decide)
  rw [ChannelMask.enabled_setBank high]
  by_cases below : i < 64
  · rw [if_neg (show ¬i / 8 = 8 by omega), enabled_setEachBank low, if_pos (by omega),
      if_pos below]
    cases enabled with
    | false => exact bit_zeros _
    | true => exact bit_ones _ bound
  · have offset : 8 * 0 + i % 8 = i - 64 := by omega
    rw [if_pos (show i / 8 = 8 by omega), if_neg below, ← offset]
    exact ChannelMask.bit_get extraMask 0 bound

theorem enabled_setBlocks {mask next : ChannelMask 9} {chMask : ChannelMask 2}
    (written : setBlocks mask (chMask.bytes.get 0) = .ok next) {i : Nat} (inside : i < 72) :
    next.enabled i = if i < 64 then chMask.enabled (i / 8) else chMask.enabled (i - 64) := by
  obtain ⟨middle, low, high⟩ := Checked.bind_eq_ok_iff.mp written
  have bound := Nat.mod_lt i (show 0 < 8 by decide)
  rw [ChannelMask.enabled_setBank high]
  by_cases below : i < 64
  · have small : i / 8 < 8 := by omega
    have named := ChannelMask.bit_get chMask 0 small
    have masked := and_one_shl_ne_zero (chMask.bytes.get 0) (i / 8) small
    rw [if_neg (show ¬i / 8 = 8 by omega), enabled_setEachBank low, if_pos small, if_pos below]
    have offset : 8 * (0 : Fin 2).val + i / 8 = i / 8 := Nat.zero_add _
    rw [offset] at named
    rw [named] at masked
    cases set : chMask.enabled (i / 8) with
    | false =>
        rw [set] at masked
        have clear : ¬chMask.bytes.get 0 &&& (1 <<< (i / 8).toUInt8) ≠ 0 := by
          simpa using masked
        rw [if_neg clear]
        exact bit_zeros _
    | true =>
        rw [set] at masked
        have taken : chMask.bytes.get 0 &&& (1 <<< (i / 8).toUInt8) ≠ 0 := by
          simpa using masked
        rw [if_pos taken]
        exact bit_ones _ bound
  · have offset : 8 * 0 + i % 8 = i - 64 := by omega
    rw [if_pos (show i / 8 = 8 by omega), if_neg below, ← offset]
    exact ChannelMask.bit_get chMask 0 bound

end FixedChannelPlan

/-! ## Which controls follow the tables -/

theorem Configuration.follows_of_enabled {config : Configuration} {mask : ChannelMask 9}
    {chMaskCntl : Nat} {chMask : ChannelMask 2} {channels : Nat → Bool}
    (rule : config.maskRule chMaskCntl chMask.enabled mask.enabled = some channels)
    (taken : chMaskCntl ≠ 4)
    (written : ∀ next, config.channelMaskUpdate mask chMaskCntl chMask = .ok (some next) →
      ∀ i < 72, next.enabled i = channels i)
    (answered : config.channelMaskUpdate mask chMaskCntl chMask ≠ .ok none) :
    config.FollowsRule mask chMaskCntl chMask := by
  obtain ⟨result, ran⟩ := (config.channelMaskUpdate_returns_iff mask chMaskCntl chMask).mpr taken
  rw [FollowsRule, rule]
  cases result with
  | none => exact absurd ran answered
  | some next => exact ⟨next, ran, written next ran⟩

theorem some_eq_ok {α : Type} {run : Checked α} {next : α}
    (ran : (do return some (← run) : Checked (Option α)) = .ok (some next)) : run = .ok next := by
  obtain ⟨value, found, ran⟩ := Checked.bind_eq_ok_iff.mp ran
  cases ran
  exact found

theorem some_ne_none {α : Type} {run : Checked α} :
    (do return some (← run) : Checked (Option α)) ≠ .ok none := by
  intro ran
  obtain ⟨value, _, ran⟩ := Checked.bind_eq_ok_iff.mp ran
  cases ran

theorem Configuration.not_follows_four (config : Configuration) (mask : ChannelMask 9)
    (chMask : ChannelMask 2) : ¬config.FollowsRule mask 4 chMask := by
  intro follows
  have returns : Checked.Returns (config.channelMaskUpdate mask 4 chMask) := by
    rw [FollowsRule] at follows
    cases rule : config.maskRule 4 chMask.enabled mask.enabled with
    | none =>
        rw [rule] at follows
        exact ⟨_, follows⟩
    | some channels =>
        rw [rule] at follows
        obtain ⟨next, ran, _⟩ := follows
        exact ⟨_, ran⟩
  exact (config.channelMaskUpdate_returns_iff mask 4 chMask).mp returns rfl

section Fixed

variable {region : FixedRegion} {plan : FixedChannelPlan} {mask : ChannelMask 9}
  {chMaskCntl : Nat} {chMask : ChannelMask 2}

theorem follows_fixed_block (block : chMaskCntl < 4) :
    (Configuration.fixed region plan).FollowsRule mask chMaskCntl chMask := by
  have rule : (Configuration.fixed region plan).maskRule chMaskCntl chMask.enabled mask.enabled =
      some fun i => if i / 16 = chMaskCntl then chMask.enabled (i % 16) else mask.enabled i := by
    interval_cases chMaskCntl <;> rfl
  have update : (Configuration.fixed region plan).channelMaskUpdate mask chMaskCntl chMask =
      do return some (← setBanks mask (chMaskCntl * 2) chMask) := if_pos (by omega)
  apply Configuration.follows_of_enabled rule (by omega)
  · intro next ran i inside
    have banks := enabled_setBanks (some_eq_ok (update.symm.trans ran)) i
    by_cases here : i / 16 = chMaskCntl
    · have offset : i - 8 * (chMaskCntl * 2) = i % 16 := by omega
      rw [banks, if_pos (by omega), if_pos here, offset]
    · rw [banks, if_neg (by omega), if_neg here]
  · intro ran
    exact some_ne_none (update.symm.trans ran)

theorem follows_fixed_five :
    (Configuration.fixed region plan).FollowsRule mask 5 chMask := by
  apply Configuration.follows_of_enabled rfl (by decide)
  · intro next ran i inside
    exact FixedChannelPlan.enabled_setBlocks (some_eq_ok ran) inside
  · exact some_ne_none

theorem follows_fixed_six :
    (Configuration.fixed region plan).FollowsRule mask 6 chMask := by
  apply Configuration.follows_of_enabled rfl (by decide)
  · intro next ran i inside
    exact FixedChannelPlan.enabled_set125kChannels (some_eq_ok ran) inside
  · exact some_ne_none

theorem follows_fixed_seven :
    (Configuration.fixed region plan).FollowsRule mask 7 chMask := by
  apply Configuration.follows_of_enabled rfl (by decide)
  · intro next ran i inside
    exact FixedChannelPlan.enabled_set125kChannels (some_eq_ok ran) inside
  · exact some_ne_none

/-- Both the table and the code reserve the controls past 7. -/
theorem follows_fixed_reserved (reserved : 8 ≤ chMaskCntl) :
    (Configuration.fixed region plan).FollowsRule mask chMaskCntl chMask := by
  obtain ⟨past, rfl⟩ := Nat.exists_eq_add_of_le' reserved
  have rule : (Configuration.fixed region plan).maskRule (past + 8) chMask.enabled mask.enabled =
      none := by
    simp only [Configuration.maskRule, fixedRule]
    exact if_neg (by omega)
  rw [Configuration.FollowsRule, rule]
  simp only [Configuration.channelMaskUpdate, FixedChannelPlan.channelMaskUpdate]
  rw [if_neg (by omega), if_neg (by omega), if_neg (by omega), if_neg (by omega)]

theorem follows_fixed_iff :
    (Configuration.fixed region plan).FollowsRule mask chMaskCntl chMask ↔ chMaskCntl ≠ 4 := by
  constructor
  · intro follows four
    rw [four] at follows
    exact Configuration.not_follows_four _ mask chMask follows
  · intro taken
    have controls : chMaskCntl < 4 ∨ chMaskCntl = 5 ∨ chMaskCntl = 6 ∨ chMaskCntl = 7 ∨
        8 ≤ chMaskCntl := by omega
    rcases controls with block | rfl | rfl | rfl | reserved
    · exact follows_fixed_block block
    · exact follows_fixed_five
    · exact follows_fixed_six
    · exact follows_fixed_seven
    · exact follows_fixed_reserved reserved

end Fixed

section Dynamic

variable {region : DynamicRegion} {plan : DynamicChannelPlan} {mask : ChannelMask 9}
  {chMaskCntl : Nat} {chMask : ChannelMask 2}

theorem follows_dynamic_zero :
    (Configuration.dynamic region plan).FollowsRule mask 0 chMask := by
  apply Configuration.follows_of_enabled rfl (by decide)
  · intro next ran i _
    have banks := enabled_setBanks (some_eq_ok ran) i
    by_cases here : i < 16
    · rw [banks, if_pos (by omega), if_pos here]
      rfl
    · rw [banks, if_neg (by omega), if_neg here]
  · exact some_ne_none

/-- Control 6 turns on the first eight banks. -/
theorem follows_dynamic_six_iff :
    (Configuration.dynamic region plan).FollowsRule mask 6 chMask ↔
      ∀ i, 64 ≤ i → i < 72 → mask.enabled i = true := by
  have turnedOn : ∀ {next}, (Configuration.dynamic region plan).channelMaskUpdate mask 6 chMask =
      .ok (some next) → ∀ i < 72, next.enabled i = if i < 64 then true else mask.enabled i := by
    intro next ran i inside
    have bound := Nat.mod_lt i (show 0 < 8 by decide)
    rw [enabled_setEachBank (some_eq_ok ran)]
    by_cases below : i < 64
    · rw [if_pos (by omega), if_pos below]
      exact bit_ones _ bound
    · rw [if_neg (by omega), if_neg below]
  constructor
  · rintro ⟨next, ran, channels⟩ i past inside
    have here := turnedOn ran i inside
    rw [if_neg (by omega), channels i inside] at here
    exact here.symm
  · intro upper
    apply Configuration.follows_of_enabled rfl (by decide)
    · intro next ran i inside
      rw [turnedOn ran i inside]
      by_cases below : i < 64
      · rw [if_pos below]
      · rw [if_neg below]
        exact upper i (by omega) inside
    · exact some_ne_none

/-- The controls from 1 to 5 are reserved, and the code acts on them. -/
theorem not_follows_dynamic_reserved (low : 1 ≤ chMaskCntl) (high : chMaskCntl ≤ 5) :
    ¬(Configuration.dynamic region plan).FollowsRule mask chMaskCntl chMask := by
  have rule : (Configuration.dynamic region plan).maskRule chMaskCntl chMask.enabled
      mask.enabled = none := by
    interval_cases chMaskCntl <;> rfl
  rw [Configuration.FollowsRule, rule]
  simp only [Configuration.channelMaskUpdate, DynamicChannelPlan.channelMaskUpdate]
  by_cases block : chMaskCntl ≤ 4
  · rw [if_pos block]
    exact some_ne_none
  · rw [if_neg block, if_pos (by omega)]
    exact some_ne_none

theorem follows_dynamic_reserved (past : 7 ≤ chMaskCntl) :
    (Configuration.dynamic region plan).FollowsRule mask chMaskCntl chMask := by
  obtain ⟨further, rfl⟩ := Nat.exists_eq_add_of_le' past
  have rule : (Configuration.dynamic region plan).maskRule (further + 7) chMask.enabled
      mask.enabled = none := rfl
  rw [Configuration.FollowsRule, rule]
  simp only [Configuration.channelMaskUpdate, DynamicChannelPlan.channelMaskUpdate]
  rw [if_neg (by omega), if_neg (by omega), if_neg (by omega)]

theorem follows_dynamic_iff :
    (Configuration.dynamic region plan).FollowsRule mask chMaskCntl chMask ↔
      chMaskCntl = 0 ∨ 7 ≤ chMaskCntl ∨
        (chMaskCntl = 6 ∧ ∀ i, 64 ≤ i → i < 72 → mask.enabled i = true) := by
  constructor
  · intro follows
    by_cases reserved : 1 ≤ chMaskCntl ∧ chMaskCntl ≤ 5
    · exact absurd follows (not_follows_dynamic_reserved reserved.1 reserved.2)
    · by_cases six : chMaskCntl = 6
      · subst six
        exact .inr (.inr ⟨rfl, follows_dynamic_six_iff.mp follows⟩)
      · omega
  · rintro (rfl | past | ⟨rfl, upper⟩)
    · exact follows_dynamic_zero
    · exact follows_dynamic_reserved past
    · exact follows_dynamic_six_iff.mpr upper

end Dynamic

/-- The controls a region follows its table on: all but 4 in a fixed plan; in a dynamic
one 0 and 7, and 6 where the channels past the first eight banks are on already. -/
def Configuration.TakesControl (config : Configuration) (mask : ChannelMask 9)
    (chMaskCntl : Nat) : Prop :=
  match config with
  | .fixed _ _ => chMaskCntl ≠ 4
  | .dynamic _ _ => chMaskCntl = 0 ∨ 7 ≤ chMaskCntl ∨
      (chMaskCntl = 6 ∧ ∀ i, 64 ≤ i → i < 72 → mask.enabled i = true)

theorem mask_controls_follow_tables_iff (config : Configuration) (mask : ChannelMask 9)
    (chMaskCntl : Nat) (chMask : ChannelMask 2) :
    config.FollowsRule mask chMaskCntl chMask ↔ config.TakesControl mask chMaskCntl := by
  cases config with
  | dynamic region plan => exact follows_dynamic_iff
  | fixed region plan => exact follows_fixed_iff

/-- Control 4 for a region with a fixed plan: the low octet is for channels 64 to 71. -/
theorem control_four_panics :
    ¬∀ (config : Configuration) (mask : ChannelMask 9) (chMaskCntl : Nat)
      (chMask : ChannelMask 2), chMaskCntl ≤ 7 → config.FollowsRule mask chMaskCntl chMask := by
  intro follows
  have four := follows (Configuration.new (.fixed .us915)) ChannelMask.default 4
    ChannelMask.default (by decide)
  exact Configuration.not_follows_four _ _ _ four

end LoraRs.Region
