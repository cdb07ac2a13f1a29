import LoraRs.Mac.Settings

/-!
# Usable channels of dynamic plans

A dynamic plan can send as long as its random choice can hit a channel that is
enabled and defined.  Deleting channels, by NewChannelReq or by a CFList, is the only
thing that can end that.
-/

set_option autoImplicit false

namespace LoraRs.Mac

open LoraRs.Encoding LoraRs.Lib LoraRs.Region

namespace DynamicChannels

/-! ## The random choice -/

/-- The channel is enabled and defined. -/
def isUsable (plan : DynamicChannelPlan) (i : Nat) : Bool :=
  plan.channelMask.enabled i && (plan.channels[i]?.join).isSome

/-- Some random word is mapped to an enabled, defined channel. -/
def Usable (plan : DynamicChannelPlan) : Prop :=
  ∃ cm word, plan.randomMask = .ok cm ∧ plan.acceptChannel (word &&& cm).toNat = .ok true

theorem acceptChannel_eq (plan : DynamicChannelPlan) (i : Nat) (inside : i < 16) :
    plan.acceptChannel i = .ok (isUsable plan i) := by
  have entry : plan.channels[i]?.join = plan.channels[i] := by
    rw [Vector.getElem?_eq_getElem inside]
    rfl
  rw [DynamicChannelPlan.acceptChannel, isEnabledUnwrap_eq _ _ (by omega), Checked.ok_bind,
    isUsable, entry]
  cases plan.channelMask.enabled i with
  | false => rfl
  | true =>
      rw [if_pos rfl, DynamicChannelPlan.getChannel, dif_pos inside]
      rfl

theorem rposition_ge (channels : ChannelPlan) (i : Fin 16) (defined : channels[i].isSome = true) :
    ∃ last, DynamicChannelPlan.rposition channels = some last ∧ i ≤ last := by
  unfold DynamicChannelPlan.rposition
  have listed : i ∈ (List.finRange 16).reverse := List.mem_reverse.mpr (List.mem_finRange i)
  have descending : (List.finRange 16).reverse.Pairwise (· > ·) := by decide
  cases found : (List.finRange 16).reverse.find? fun i => channels[i].isSome with
  | none => exact absurd defined (List.find?_eq_none.mp found i listed)
  | some last =>
      refine ⟨last, rfl, ?_⟩
      obtain ⟨_, above, below, listEq, undefined⟩ := List.find?_eq_some_iff_append.mp found
      rw [listEq] at listed descending
      rcases List.mem_append.mp listed with higher | rest
      · have missing := undefined i higher
        rw [defined] at missing
        cases missing
      · rcases List.mem_cons.mp rest with same | lower
        · exact le_of_eq same
        · have ordered := (List.pairwise_cons.mp (List.pairwise_append.mp descending).2.1).1
          exact le_of_lt (ordered i lower)

/-- The random choice reaches every defined channel. -/
theorem usable_of_isUsable {plan : DynamicChannelPlan} {i : Nat} (inside : i < 16)
    (usable : isUsable plan i = true) : Usable plan := by
  have defined : plan.channels[(⟨i, inside⟩ : Fin 16)].isSome = true := by
    have found := (Bool.and_eq_true _ _).mp usable |>.2
    rw [Vector.getElem?_eq_getElem inside] at found
    exact found
  obtain ⟨last, position, below⟩ := rposition_ge plan.channels ⟨i, inside⟩ defined
  have bound : i ≤ last.val := below
  have small := last.isLt
  refine ⟨_, i.toUInt32, by rw [DynamicChannelPlan.randomMask, position]; rfl, ?_⟩
  have reached : (i.toUInt32 &&& (if last.val + 1 > 16 then 0b11111
      else if last.val + 1 > 8 then 0b1111 else 0b111)).toNat = i := by
    rw [if_neg (by omega)]
    by_cases high : last.val + 1 > 8
    · rw [if_pos high]
      interval_cases i <;> rfl
    · rw [if_neg high]
      have low : i < 8 := by omega
      interval_cases i <;> rfl
  rw [reached, acceptChannel_eq plan i inside, usable]

theorem randomMask_and_lt {plan : DynamicChannelPlan} {cm : UInt32}
    (maskEq : plan.randomMask = .ok cm) (word : UInt32) : (word &&& cm).toNat < 16 := by
  obtain ⟨last, _, maskEq⟩ := Checked.bind_eq_ok_iff.mp maskEq
  have small := last.isLt
  have cmSmall : cm.toNat ≤ 15 := by
    simp only at maskEq
    cases maskEq
    rw [if_neg (by omega)]
    split <;> decide
  have le : (word &&& cm).toNat ≤ cm.toNat := by
    rw [UInt32.toNat_and]
    exact Nat.and_le_right
  omega

theorem isUsable_of_usable {plan : DynamicChannelPlan} (usable : Usable plan) :
    ∃ i < 16, isUsable plan i = true := by
  obtain ⟨cm, word, maskEq, accepted⟩ := usable
  have inside := randomMask_and_lt maskEq word
  rw [acceptChannel_eq plan _ inside] at accepted
  exact ⟨_, inside, Except.ok.inj accepted⟩

/-- Without a usable channel no random stream ends the choice for a data frame. -/
theorem selectTxChannel_stuck {plan : DynamicChannelPlan} {cm : UInt32}
    (maskEq : plan.randomMask = .ok cm) (unusable : ∀ i < 16, isUsable plan i = false)
    (R : DynamicChannelRegion) (fuel : Nat) (rng : Rng) (datarate : DR) :
    plan.selectTxChannel R fuel rng datarate .data = .error .outOfFuel := by
  have refused : ∀ word : UInt32, plan.acceptChannel (word &&& cm).toNat = .ok false := by
    intro word
    have inside := randomMask_and_lt maskEq word
    rw [acceptChannel_eq plan _ inside, unusable _ inside]
  simp only [DynamicChannelPlan.selectTxChannel, maskEq, Checked.ok_bind,
    Sampling.sampleUntil_stuck (fun word => (word &&& cm).toNat) plan.acceptChannel refused,
    Checked.error_bind]

/-- A data frame gets a channel, and the region defines its rate. -/
def HasChoice (R : DynamicChannelRegion) (plan : DynamicChannelPlan) (datarate : DR) : Prop :=
  (∃ rate, getDatarate R.datarates datarate.val = .ok (some rate)) ∧
    ∃ i < 16, isUsable plan i = true

section DataFrames

variable {R : DynamicChannelRegion} {plan : DynamicChannelPlan} {datarate : DR}

theorem acceptChannel_returns {cm : UInt32} (maskEq : plan.randomMask = .ok cm) (word : UInt32) :
    Checked.Returns (plan.acceptChannel (word &&& cm).toNat) :=
  ⟨_, acceptChannel_eq plan _ (randomMask_and_lt maskEq word)⟩

/-- An accepted channel is transmitted on. -/
theorem txChannel_returns {rate : Datarate}
    (found : getDatarate R.datarates datarate.val = .ok (some rate)) {index : Nat}
    (inside : index < 16) (accepted : plan.acceptChannel index = .ok true) :
    Checked.Returns (plan.txChannel R index datarate) := by
  rw [acceptChannel_eq plan index inside, isUsable, Vector.getElem?_eq_getElem inside] at accepted
  obtain ⟨channel, channelEq⟩ := Option.isSome_iff_exists.mp
    ((Bool.and_eq_true _ _).mp (Except.ok.inj accepted)).2
  have held : plan.channels[index] = some channel := channelEq
  rw [DynamicChannelPlan.txChannel, DynamicChannelPlan.getChannel, dif_pos inside, held, found]
  exact Checked.returns_ok _

/-- A draw from the table, once the mask of the random words is known. -/
theorem selectTxChannel_drawn {cm : UInt32} (maskEq : plan.randomMask = .ok cm) (fuel : Nat)
    (rng : Rng) : plan.selectTxChannel R fuel rng datarate .data = do
      let drawn ← Sampling.sampleUntil (fun word => (word &&& cm).toNat) plan.acceptChannel fuel rng
      return (← plan.txChannel R drawn.1 datarate, drawn.2) := by
  simp only [DynamicChannelPlan.selectTxChannel, maskEq, Checked.ok_bind]

theorem selectTxChannel_returns {cm : UInt32} (maskEq : plan.randomMask = .ok cm)
    (ready : HasChoice R plan datarate) {fuel : Nat} {rng : Rng}
    (drawn : Checked.Returns (Sampling.sampleUntil (fun word => (word &&& cm).toNat)
      plan.acceptChannel fuel rng)) :
    Checked.Returns (plan.selectTxChannel R fuel rng datarate .data) := by
  obtain ⟨⟨rate, found⟩, _⟩ := ready
  obtain ⟨⟨index, rest⟩, drawn⟩ := drawn
  obtain ⟨accepted, word, hit⟩ := Sampling.sampleUntil_sound _ _ _ _ _ drawn
  have inside : index < 16 := by
    have bound := randomMask_and_lt maskEq word
    rwa [hit] at bound
  obtain ⟨channel, transmitted⟩ := txChannel_returns found inside accepted
  rw [selectTxChannel_drawn maskEq, drawn]
  simp only [Checked.ok_bind, transmitted]
  exact Checked.returns_ok _

/-- With a choice there is a random word that ends it as soon as the stream has it. -/
theorem selectTxChannel_ends (ready : HasChoice R plan datarate) :
    ∃ word : UInt32, ∀ (rng : Rng) (n : Nat), rng n = word →
      Checked.Returns (plan.selectTxChannel R (n + 1) rng datarate .data) := by
  obtain ⟨i, inside, usable⟩ := ready.2
  obtain ⟨cm, word, maskEq, accepted⟩ := usable_of_isUsable inside usable
  refine ⟨word, ?_⟩
  intro rng n drawn
  refine selectTxChannel_returns maskEq ready ?_
  exact Sampling.sampleUntil_returns (fun word => (word &&& cm).toNat) plan.acceptChannel rng n
    (acceptChannel_returns maskEq) (by rw [drawn]; exact accepted)

/-- The choice does not panic: it ends, or goes on. -/
theorem selectTxChannel_stops (ready : HasChoice R plan datarate) (fuel : Nat) (rng : Rng) :
    Checked.StopsOnlyWith .outOfFuel (plan.selectTxChannel R fuel rng datarate .data) := by
  obtain ⟨i, inside, usable⟩ := ready.2
  obtain ⟨cm, word, maskEq, accepted⟩ := usable_of_isUsable inside usable
  have stops := Sampling.sampleUntil_stops (fun word => (word &&& cm).toNat) plan.acceptChannel
    (acceptChannel_returns maskEq) fuel rng
  cases drawn : Sampling.sampleUntil (fun word => (word &&& cm).toNat) plan.acceptChannel fuel
      rng with
  | ok result => exact .of_returns (selectTxChannel_returns maskEq ready ⟨result, drawn⟩)
  | error fault =>
      rw [selectTxChannel_drawn maskEq, drawn, stops fault drawn]
      exact .error

/-- A choice that ended was there. -/
theorem hasChoice_of_returns {fuel : Nat} {rng : Rng}
    (returned : Checked.Returns (plan.selectTxChannel R fuel rng datarate .data)) :
    HasChoice R plan datarate := by
  obtain ⟨result, selected⟩ := returned
  obtain ⟨cm, maskEq, selected⟩ := Checked.bind_eq_ok_iff.mp selected
  obtain ⟨⟨index, rest⟩, drawn, selected⟩ := Checked.bind_eq_ok_iff.mp selected
  obtain ⟨channel, transmitted, _⟩ := Checked.bind_eq_ok_iff.mp selected
  obtain ⟨accepted, word, hit⟩ := Sampling.sampleUntil_sound _ _ _ _ _ drawn
  refine ⟨?_, isUsable_of_usable ⟨cm, word, maskEq, by rw [hit]; exact accepted⟩⟩
  obtain ⟨_, _, transmitted⟩ := Checked.bind_eq_ok_iff.mp transmitted
  obtain ⟨_, _, transmitted⟩ := Checked.bind_eq_ok_iff.mp transmitted
  obtain ⟨entry, found, transmitted⟩ := Checked.bind_eq_ok_iff.mp transmitted
  obtain ⟨rate, defined, _⟩ := Checked.bind_eq_ok_iff.mp transmitted
  rw [Checked.unwrap_eq_ok_iff.mp defined] at found
  exact ⟨rate, found⟩

end DataFrames

/-! ## What the steps do to the table -/

theorem isUsable_inside {plan : DynamicChannelPlan} {i : Nat} (usable : isUsable plan i = true) :
    i < 16 := by
  by_contra outside
  have found := (Bool.and_eq_true _ _).mp usable |>.2
  rw [Vector.getElem?_eq_none (by simp only [numChannelsDynamic]; omega)] at found
  cases found

/-- A CFList fills the five slots after the join channels. -/
theorem processJoinAccept_channels (R : DynamicChannelRegion) (plan : DynamicChannelPlan)
    (freqs : Vector Frequency 5) (i : Nat) (inside : i < 16) :
    (plan.processJoinAccept R (some (.dynamicChannel freqs))).channels[i] =
      if slot : R.numJoinChannels ≤ i ∧ i < R.numJoinChannels + 5 then
        DynamicChannelPlan.cfListChannel freqs[i - R.numJoinChannels]
      else plan.channels[i] := by
  have slots : List.finRange 5 = [0, 1, 2, 3, 4] := rfl
  simp only [DynamicChannelPlan.processJoinAccept, slots, List.foldl_cons, List.foldl_nil,
    Vector.getElem_set]
  by_cases slot : R.numJoinChannels ≤ i ∧ i < R.numJoinChannels + 5
  · rw [dif_pos slot]
    obtain ⟨n, rfl⟩ : ∃ n, i = R.numJoinChannels + n := ⟨i - R.numJoinChannels, by omega⟩
    have small : n < 5 := by omega
    interval_cases n <;> simp <;> rfl
  · rw [dif_neg slot]
    have apart : ∀ n : Fin 5, R.numJoinChannels + n.val ≠ i := by
      intro n same
      have := n.isLt
      omega
    rw [if_neg (apart 4), if_neg (apart 3), if_neg (apart 2), if_neg (apart 1), if_neg (apart 0)]

/-- What a CFList has to leave: a slot that is enabled and filled, or a usable channel
outside the slots. -/
def CfListLeaves (R : DynamicChannelRegion) (plan : DynamicChannelPlan)
    (freqs : Vector Frequency 5) : Prop :=
  (∃ n : Fin 5, plan.channelMask.enabled (R.numJoinChannels + n.val) = true ∧
    (freqs.get n).value ≠ 0) ∨
  ∃ i, (∀ n : Fin 5, i ≠ R.numJoinChannels + n.val) ∧ isUsable plan i = true

theorem processJoinAccept_usable {R : DynamicChannelRegion} {plan : DynamicChannelPlan}
    {freqs : Vector Frequency 5} (leaves : CfListLeaves R plan freqs) :
    ∃ i, isUsable (plan.processJoinAccept R (some (.dynamicChannel freqs))) i = true := by
  have joinSmall := R.joins.2
  obtain ⟨n, enabled, filled⟩ | ⟨i, apart, usable⟩ := leaves
  · have small := n.isLt
    have inside : R.numJoinChannels + n.val < 16 := by omega
    refine ⟨R.numJoinChannels + n.val, ?_⟩
    have back : R.numJoinChannels + n.val - R.numJoinChannels = n.val := by omega
    rw [isUsable, Vector.getElem?_eq_getElem inside,
      processJoinAccept_channels R plan freqs _ inside, dif_pos ⟨by omega, by omega⟩]
    have filledSlot : freqs[n.val].value ≠ 0 := filled
    simp only [back, DynamicChannelPlan.cfListChannel]
    rw [if_neg filledSlot, DynamicChannelPlan.processJoinAccept, enabled]
    rfl
  · have inside := isUsable_inside usable
    refine ⟨i, ?_⟩
    have outside : ¬ (R.numJoinChannels ≤ i ∧ i < R.numJoinChannels + 5) := by
      intro slot
      exact apart ⟨i - R.numJoinChannels, by omega⟩ (by simp only; omega)
    rw [isUsable, Vector.getElem?_eq_getElem inside,
      processJoinAccept_channels R plan freqs _ inside, dif_neg outside]
    rw [isUsable, Vector.getElem?_eq_getElem inside] at usable
    exact usable

theorem channelMaskValidate_usable {plan : DynamicChannelPlan} {mask : ChannelMask 9}
    (valid : plan.channelMaskValidate mask = .ok true) :
    ∃ i, isUsable (plan.channelMaskSet mask) i = true := by
  have total : ∀ i ∈ List.range numChannelsDynamic,
      (do
        if ← isEnabledUnwrap mask i then return (← plan.getChannel i).isSome
        else return false : Checked Bool) = .ok (isUsable (plan.channelMaskSet mask) i) := by
    intro i listed
    exact acceptChannel_eq (plan.channelMaskSet mask) i (List.mem_range.mp listed)
  rw [DynamicChannelPlan.channelMaskValidate, Checked.any_eq_ok _ _ _ total] at valid
  obtain ⟨i, _, usable⟩ := List.any_eq_true.mp (Except.ok.inj valid)
  exact ⟨i, usable⟩

/-- NewChannelReq leaves a usable channel unless it deletes the last one. -/
theorem newChannel_usable {R : DynamicChannelRegion} {plan next : DynamicChannelPlan}
    {index freq : Nat} {dr : Option DataRateRange} {ackF ackD : Bool}
    (outcome : plan.NewChannelOutcome R index freq dr next ackF ackD)
    (before : ∃ i, isUsable plan i = true)
    (leaves : R.numJoinChannels ≤ index → index < numChannelsDynamic → freq = 0 →
      ∃ other, other ≠ index ∧ isUsable plan other = true) :
    ∃ i, isUsable next i = true := by
  cases outcome with
  | refused ackF ackD bad => exact before
  | removed later inside zero mask cleared =>
      obtain ⟨other, apart, usable⟩ := leaves later inside zero
      refine ⟨other, ?_⟩
      rw [isUsable, ChannelMask.enabled_setChannel cleared, if_neg apart,
        Vector.getElem?_set_ne _ (Ne.symm apart)]
      exact usable
  | defined later inside nonzero range given mask enabled =>
      refine ⟨index, ?_⟩
      rw [isUsable, ChannelMask.enabled_setChannel enabled, if_pos rfl,
        Vector.getElem?_set_self inside]
      rfl

theorem dlChannel_usable {R : DynamicChannelRegion} {plan next : DynamicChannelPlan}
    {index freq : Nat} {ackF ackC : Bool}
    (outcome : plan.DlChannelOutcome R index freq next ackF ackC) (i : Nat)
    (usable : isUsable plan i = true) : isUsable next i = true := by
  cases outcome with
  | absent missing => exact usable
  | changed inside channel found =>
      by_cases same : i = index
      · subst same
        rw [isUsable, Vector.getElem?_set_self inside]
        exact (Bool.and_eq_true _ _).mpr ⟨((Bool.and_eq_true _ _).mp usable).1, rfl⟩
      · rw [isUsable, Vector.getElem?_set_ne _ (Ne.symm same)]
        exact usable

/-! ## Runs of the settings -/

def HasUsable (region : Region.Configuration) : Prop :=
  ∀ r plan, region = .dynamic r plan → ∃ i, isUsable plan i = true

/-- A NewChannelReq that deletes a channel leaves another usable one. -/
def ItemLeaves (item : Item) (st : CmdState) : Prop :=
  match item with
  | .other (.newChannelReq payload) _ => ∀ r plan, st.region = .dynamic r plan →
      r.params.numJoinChannels ≤ payload.channelIndex →
      payload.channelIndex < numChannelsDynamic → payload.frequency.value = 0 →
      ∃ other, other ≠ payload.channelIndex ∧ isUsable plan other = true
  | _ => True

/-- The step deletes no last usable channel. -/
def Leaves (event : SettingsEvent) (st : Settings) : Prop :=
  match event with
  | .joinAccepted payload => ∀ r plan freqs, st.region = .dynamic r plan →
      payload.cFList = some (.dynamicChannel freqs) → CfListLeaves r.params plan freqs
  | .commands snr cmds =>
      Transition.Guarded (itemStep snr) ItemLeaves (items (parseDownlinkMacCommands cmds))
        (CmdState.start st.configuration st.region)
  | _ => True

theorem itemStep_keeps_usable {snr : Int8} {item : Item} {st next : CmdState}
    (leaves : ItemLeaves item st) (before : HasUsable st.region)
    (stepped : itemStep snr item st = .ok next) : HasUsable next.region := by
  cases itemStep_settings stepped with
  | kept dataRate region =>
      rw [region]
      exact before
  | block earlier last itemEq mask masks good dataRate region =>
      intro r plan nextEq
      obtain ⟨dr, pw, _, _, valid⟩ := good
      cases regionEq : st.region with
      | dynamic other old =>
          rw [regionEq] at valid region
          cases nextEq.symm.trans region
          exact channelMaskValidate_usable valid
      | fixed other old =>
          rw [regionEq] at region
          cases nextEq.symm.trans region
  | newChannel payload itemEq dataRate r plan after regionEq ackF ackD outcome region =>
      subst itemEq
      intro other otherPlan nextEq
      cases nextEq.symm.trans region
      exact newChannel_usable outcome (before r plan regionEq) (leaves r plan regionEq)
  | dlChannel payload itemEq dataRate r plan after regionEq ackF ackC outcome region =>
      intro other otherPlan nextEq
      cases nextEq.symm.trans region
      obtain ⟨i, usable⟩ := before r plan regionEq
      exact ⟨i, dlChannel_usable outcome i usable⟩

theorem settingsStep_keeps_usable (event : SettingsEvent) (st next : Settings)
    (leaves : Leaves event st) (before : HasUsable st.region)
    (stepped : settingsStep event st = .ok next) : HasUsable next.region := by
  cases event with
  | joinAccepted payload =>
      intro r plan nextEq
      rw [(join_ok stepped).1] at nextEq
      cases regionEq : st.region with
      | fixed other old =>
          rw [regionEq] at nextEq
          cases nextEq
      | dynamic other old =>
          rw [regionEq] at nextEq
          cases nextEq
          cases listEq : payload.cFList with
          | none => exact before r old regionEq
          | some list =>
              cases list with
              | fixedChannel mask => exact before r old regionEq
              | dynamicChannel freqs =>
                  exact processJoinAccept_usable (leaves r old freqs regionEq listEq)
  | commands snr cmds =>
      obtain ⟨⟨configuration, region, queue⟩, ran, stepped⟩ := Checked.bind_eq_ok_iff.mp stepped
      cases stepped
      obtain ⟨final, itemsRan, rfl, rfl⟩ := handleDownlinkMacs_ok ran
      exact Transition.guarded_run_preserves (fun st => HasUsable st.region)
        (fun item st next leaves kept stepped => itemStep_keeps_usable leaves kept stepped)
        _ _ final leaves before itemsRan
  | backedOff session =>
      obtain ⟨configuration, _, stepped⟩ := Checked.bind_eq_ok_iff.mp stepped
      cases stepped
      exact before
  | transmitted fuel rng frame =>
      obtain ⟨⟨channel, rest, region⟩, selected, stepped⟩ := Checked.bind_eq_ok_iff.mp stepped
      cases stepped
      obtain ⟨configuration, region⟩ := st
      cases selectTxChannel_ok selected with
      | dynamic r plan => exact before
      | fixed r plan joinChannels =>
          intro other otherPlan nextEq
          cases nextEq
  | adrSet enabled =>
      cases stepped
      exact before

theorem initial_usable (st : Settings) (started : st.Initial) : HasUsable st.region := by
  obtain ⟨region, maxPower, antennaGain, built, rfl⟩ := started
  intro r plan regionEq
  cases built with
  | biased other subband maxRetries => cases regionEq
  | plain other =>
      cases other with
      | fixed other => cases regionEq
      | dynamic other =>
          cases regionEq
          refine ⟨0, ?_⟩
          have first := r.params.init_isSome 0
          have joins : (0 : Fin 16).val < r.params.numJoinChannels := r.params.joins.1
          rw [decide_eq_true joins] at first
          rw [isUsable, Vector.getElem?_eq_getElem (by decide)]
          exact (Bool.and_eq_true _ _).mpr ⟨ChannelMask.enabled_default 0, first⟩

/-- In every run in which no CFList and no NewChannelReq deletes the last usable channel,
the random choice of a dynamic plan can hit an enabled, defined channel. -/
theorem dynamic_plan_keeps_usable_channel (st : Settings)
    (reached : Transition.GuardedReachable settingsStep Settings.Initial Leaves st)
    (region : DynamicRegion) (plan : DynamicChannelPlan)
    (regionEq : st.region = .dynamic region plan) : Usable plan := by
  have kept := Transition.guardedReachable_induction initial_usable settingsStep_keeps_usable st
    reached
  obtain ⟨i, usable⟩ := kept region plan regionEq
  exact usable_of_isUsable (isUsable_inside usable) usable

/-- EU868: a channel is defined, LinkADRReq enables it alone, and it is deleted. -/
theorem last_usable_channel_is_deleted :
    ∃ st plan, Transition.Reachable settingsStep Settings.Initial st ∧
      st.region = .dynamic .eu868 plan ∧ ¬ Usable plan ∧
      ∀ fuel rng datarate,
        plan.selectTxChannel Region.eu868 fuel rng datarate .data = .error .outOfFuel := by
  let plan : DynamicChannelPlan :=
    { DynamicChannelPlan.new Region.eu868 with
      channelMask := ⟨#v[0, 0, 255, 255, 255, 255, 255, 255, 255]⟩ }
  have ran : settingsStep (.commands 0 [0x07, 0x03, 0x18, 0x4F, 0x84, 0x50,
      0x03, 0x50, 0x08, 0x00, 0x00, 0x07, 0x03, 0x00, 0x00, 0x00, 0x50])
      (Mac.new (Region.Configuration.new (.dynamic .eu868)) 14 0).settings =
      .ok ⟨{ Sample.configuration with dataRate := 5, txPower := some 16 },
        .dynamic .eu868 plan⟩ := by
    decide +kernel
  have unusable : ∀ i < 16, isUsable plan i = false := by decide +kernel
  refine ⟨_, plan, Transition.reachable_step (Transition.reachable_initial _
    ⟨_, 14, 0, .plain (.dynamic .eu868), rfl⟩) ran, rfl, ?_, ?_⟩
  · intro usable
    obtain ⟨i, inside, found⟩ := isUsable_of_usable usable
    rw [unusable i inside] at found
    cases found
  · have maskEq : plan.randomMask = .ok 0b111 := by decide +kernel
    exact selectTxChannel_stuck maskEq unusable Region.eu868

/-- A run in which a second channel is defined. -/
theorem dynamic_plan_keeps_usable_channel_sample :
    ∃ st plan, settingsStep (.commands 0 [0x07, 0x03, 0x18, 0x4F, 0x84, 0x50])
        (Mac.new (Region.Configuration.new (.dynamic .eu868)) 14 0).settings = .ok st ∧
      st.region = .dynamic .eu868 plan ∧ Usable plan := by
  let plan : DynamicChannelPlan :=
    { DynamicChannelPlan.new Region.eu868 with
      channels := (DynamicChannelPlan.new Region.eu868).channels.set 3
        (some ⟨867_100_000, ⟨0x50⟩, none⟩) }
  have split : items (parseDownlinkMacCommands [0x07, 0x03, 0x18, 0x4F, 0x84, 0x50]) =
      [.other (.newChannelReq ⟨#v[0x03, 0x18, 0x4F, 0x84, 0x50]⟩) rfl] := by
    decide +kernel
  have ran : settingsStep (.commands 0 [0x07, 0x03, 0x18, 0x4F, 0x84, 0x50])
      (Mac.new (Region.Configuration.new (.dynamic .eu868)) 14 0).settings =
      .ok ⟨Sample.configuration, .dynamic .eu868 plan⟩ := by
    decide +kernel
  have leaves : Leaves (.commands 0 [0x07, 0x03, 0x18, 0x4F, 0x84, 0x50])
      (Mac.new (Region.Configuration.new (.dynamic .eu868)) 14 0).settings := by
    simp only [Leaves, split]
    refine ⟨?_, fun _ _ => trivial⟩
    intro r plan _ _ _ zero
    exact absurd zero (by decide +kernel)
  refine ⟨_, plan, ran, rfl, dynamic_plan_keeps_usable_channel
    ⟨Sample.configuration, .dynamic .eu868 plan⟩ ⟨_, [_], ⟨_, 14, 0, .plain (.dynamic .eu868), rfl⟩,
      ⟨leaves, fun _ _ => trivial⟩, ?_⟩ .eu868 plan rfl⟩
  rw [Transition.run_cons, ran]
  rfl

end DynamicChannels

end LoraRs.Mac
