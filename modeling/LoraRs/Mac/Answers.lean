import LoraRs.Mac.Blocks
import LoraRs.Region.Channels

/-!
# What answers tell

The ways the items of a command stream can end, and when the status bits of an answer
tell what the command did: nothing where a bit is 0, what was requested where all
are 1.
-/

set_option autoImplicit false

namespace LoraRs.Mac

open LoraRs.Encoding LoraRs.Lib

/-! ## How items end -/

/-- Data rate, power and mask of a block are good. -/
def BlockAccepted (st : CmdState) (last : LinkADRReqPayload) (mask : ChannelMask 9) : Prop :=
  ∃ dr pw, linkADRDataRate st last.dataRate = .ok (some dr) ∧
    linkADRTxPower st last.txPower = some pw ∧
    st.region.channelMaskValidate mask (some dr) = .ok true

/-- The ways a block can end, with the state after it and its answers. -/
inductive BlockOutcome (earlier : List LinkADRReqPayload) (last : LinkADRReqPayload)
    (st : CmdState) : CmdState → List SerializableMacCommand → Prop where
  | accepted (mask : ChannelMask 9)
      (stepped : stepMasks st.region (earlier ++ [last]) st.channelMask = .ok mask)
      (dr : DR) (pw : Option Nat)
      (rate : linkADRDataRate st last.dataRate = .ok (some dr))
      (power : linkADRTxPower st last.txPower = some pw)
      (valid : st.region.channelMaskValidate mask (some dr) = .ok true) :
      BlockOutcome earlier last st
        { configuration := { st.configuration with dataRate := dr, txPower := pw }
          region := st.region.channelMaskSet mask
          channelMask := mask
          numAdrreq := 0 }
        (List.replicate (st.numAdrreq + earlier.length + 1) ⟨0x03, [0b111]⟩)
  | rejected (mask : ChannelMask 9)
      (stepped : stepMasks st.region (earlier ++ [last]) st.channelMask = .ok mask)
      (bad : ¬ BlockAccepted st last mask) (status : Byte) (incomplete : status ≠ 0b111) :
      BlockOutcome earlier last st { st with channelMask := mask, numAdrreq := 0 }
        (List.replicate (st.numAdrreq + earlier.length + 1) ⟨0x03, [status]⟩)

theorem linkADRAns_incomplete (cmAck drAck pwAck : Bool)
    (bad : ¬ (cmAck = true ∧ drAck = true ∧ pwAck = true)) :
    (((LinkADRAnsCreator.new.setChannelMaskAck cmAck).setDataRateAck drAck).setTxPowerAck
      pwAck).data ≠ 0b111 := by
  revert bad
  cases cmAck <;> cases drAck <;> cases pwAck <;> decide

theorem linkADRAns_complete :
    (((LinkADRAnsCreator.new.setChannelMaskAck true).setDataRateAck true).setTxPowerAck
      true).build = ⟨0x03, [0b111]⟩ := by
  decide

theorem handleBlock_outcome {earlier : List LinkADRReqPayload} {last : LinkADRReqPayload}
    {st next : CmdState} {answers : List SerializableMacCommand}
    (ran : handleBlock earlier last st = .ok (next, answers)) :
    BlockOutcome earlier last st next answers := by
  obtain ⟨mask, stepped, ran⟩ := Checked.bind_eq_ok_iff.mp ran
  obtain ⟨dr, rate, ran⟩ := Checked.bind_eq_ok_iff.mp ran
  obtain ⟨cmAck, valid, ran⟩ := Checked.bind_eq_ok_iff.mp ran
  have sameRate : linkADRDataRate st last.dataRate = .ok dr := rate
  simp only at valid ran
  have rejected : ¬ (cmAck = true ∧ dr.isSome = true ∧
      (linkADRTxPower st last.txPower).isSome = true) →
      BlockOutcome earlier last st { st with channelMask := mask, numAdrreq := 0 }
        (List.replicate (st.numAdrreq + earlier.length + 1)
          (((LinkADRAnsCreator.new.setChannelMaskAck cmAck).setDataRateAck
            dr.isSome).setTxPowerAck (linkADRTxPower st last.txPower).isSome).build) := by
    intro bad
    refine .rejected mask stepped ?_ _ (linkADRAns_incomplete _ _ _ bad)
    rintro ⟨found, pw, foundRate, power, judged⟩
    rw [sameRate] at foundRate
    cases foundRate
    rw [valid] at judged
    cases judged
    exact bad ⟨rfl, rfl, by rw [power]; rfl⟩
  have samePower : linkADRTxPower { st with
      numAdrreq := st.numAdrreq + earlier.length + 1, channelMask := mask } last.txPower =
      linkADRTxPower st last.txPower := rfl
  rw [samePower] at ran
  cases cmAck with
  | false =>
      cases ran
      exact rejected fun good => Bool.false_ne_true good.1
  | true =>
      cases dr with
      | none =>
          cases ran
          exact rejected fun good => Bool.false_ne_true good.2.1
      | some dr =>
          cases power : linkADRTxPower st last.txPower with
          | none =>
              rw [power] at ran rejected
              cases ran
              exact rejected fun good => Bool.false_ne_true good.2.2
          | some pw =>
              rw [power] at ran
              simp only [Option.isSome_some, linkADRAns_complete] at ran
              cases ran
              exact .accepted mask stepped dr pw sameRate power valid

/-- The state and the answer after RXParamSetupReq. -/
inductive RXParamOutcome (payload : RXParamSetupReqPayload) (st : CmdState) :
    CmdState → SerializableMacCommand → Prop where
  | accepted (rx2DataRate : Option DR)
      (rate : rxParamRx2Dr st payload.dlSettings.rx2DataRate = .ok (some rx2DataRate)) :
      RXParamOutcome payload st
        { st with configuration := { st.configuration with
            rx2DataRate
            rx2Frequency := some payload.frequency.value
            rx1DrOffset := payload.dlSettings.rx1DrOffset } }
        ⟨0x05, [0b111]⟩
  | rejected (status : Byte) (incomplete : status ≠ 0b111) :
      RXParamOutcome payload st st ⟨0x05, [status]⟩

theorem rxParamSetupAns_status (drAck offsetAck freqAck : Bool) :
    (((RXParamSetupAnsCreator.new.setRx1DataRateOffsetAck offsetAck).setRx2DataRateAck
      drAck).setChannelAck freqAck).data = 0b111 ↔
      freqAck = true ∧ drAck = true ∧ offsetAck = true := by
  cases drAck <;> cases offsetAck <;> cases freqAck <;> decide

theorem handleRXParamSetupReq_outcome {payload : RXParamSetupReqPayload} {st next : CmdState}
    {answers : List SerializableMacCommand}
    (ran : handleRXParamSetupReq payload st = .ok (next, answers)) :
    ∃ answer, answers = [answer] ∧ RXParamOutcome payload st next answer := by
  obtain ⟨rx2Dr, rate, ran⟩ := Checked.bind_eq_ok_iff.mp ran
  have status := rxParamSetupAns_status rx2Dr.isSome
    (st.region.rx1DrOffsetValidate payload.dlSettings.rx1DrOffset).isSome
    (st.region.frequencyValid payload.frequency.value)
  split at ran
  · rename_i rx2DataRate rx1DrOffset freqEq offsetEq
    cases ran
    rw [offsetEq, freqEq] at status
    have complete := status.mpr ⟨rfl, rfl, rfl⟩
    have offset : rx1DrOffset = payload.dlSettings.rx1DrOffset := by
      unfold Region.Configuration.rx1DrOffsetValidate at offsetEq
      split at offsetEq
      · exact (Option.some.inj offsetEq).symm
      · cases offsetEq
    refine ⟨_, rfl, ?_⟩
    rw [RXParamSetupAnsCreator.build, offsetEq, freqEq, complete, offset]
    exact .accepted _ rate
  · rename_i incomplete
    cases ran
    refine ⟨_, rfl, .rejected _ ?_⟩
    intro full
    obtain ⟨freq, rx2, offset⟩ := status.mp full
    obtain ⟨rx2Value, rx2Eq⟩ := Option.isSome_iff_exists.mp rx2
    obtain ⟨offsetValue, offsetEq⟩ := Option.isSome_iff_exists.mp offset
    exact incomplete rx2Value offsetValue freq rx2Eq offsetEq

/-- The state and the answers after NewChannelReq: regions with a fixed plan do not
answer. -/
inductive NewChannelReqOutcome (payload : NewChannelReqPayload) (st : CmdState) :
    CmdState → List SerializableMacCommand → Prop where
  | fixed (region : Region.FixedRegion) (plan : Region.FixedChannelPlan)
      (regionEq : st.region = .fixed region plan) : NewChannelReqOutcome payload st st []
  | dynamic (region : Region.DynamicRegion) (plan next : Region.DynamicChannelPlan)
      (regionEq : st.region = .dynamic region plan) (ackF ackD : Bool) (status : Byte)
      (outcome : plan.NewChannelOutcome region.params payload.channelIndex
        payload.frequency.value payload.dataRateRange.toOption next ackF ackD)
      (complete : status = 0b11 ↔ ackF = true ∧ ackD = true) :
      NewChannelReqOutcome payload st { st with region := .dynamic region next }
        [⟨0x07, [status]⟩]

theorem newChannelAns_status (ackF ackD : Bool) :
    ((NewChannelAnsCreator.new.setChannelFrequencyAck ackF).setDataRateRangeAck ackD).data =
      0b11 ↔ ackF = true ∧ ackD = true := by
  cases ackF <;> cases ackD <;> decide

theorem handleNewChannelReq_outcome {payload : NewChannelReqPayload} {st next : CmdState}
    {answers : List SerializableMacCommand}
    (ran : handleNewChannelReq payload st = .ok (next, answers)) :
    NewChannelReqOutcome payload st next answers := by
  unfold handleNewChannelReq at ran
  cases regionEq : st.region with
  | fixed region plan =>
      rw [regionEq] at ran
      cases ran
      exact .fixed region plan regionEq
  | dynamic region plan =>
      rw [regionEq] at ran
      obtain ⟨⟨after, ackF, ackD⟩, handled, ran⟩ := Checked.bind_eq_ok_iff.mp ran
      obtain ⟨⟨planAfter, _, _⟩, handled, same⟩ := Checked.bind_eq_ok_iff.mp handled
      cases same
      cases ran
      exact .dynamic region plan planAfter regionEq ackF ackD _
        (Region.DynamicChannelPlan.handleNewChannel_outcome handled)
        (newChannelAns_status ackF ackD)

/-- The state and the answers after DlChannelReq. -/
inductive DlChannelReqOutcome (payload : DlChannelReqPayload) (st : CmdState) :
    CmdState → List SerializableMacCommand → Prop where
  | fixed (region : Region.FixedRegion) (plan : Region.FixedChannelPlan)
      (regionEq : st.region = .fixed region plan) : DlChannelReqOutcome payload st st []
  | dynamic (region : Region.DynamicRegion) (plan next : Region.DynamicChannelPlan)
      (regionEq : st.region = .dynamic region plan) (ackF ackC : Bool) (status : Byte)
      (outcome : plan.DlChannelOutcome region.params payload.channelIndex
        payload.frequency.value next ackF ackC)
      (complete : status = 0b11 ↔ ackF = true ∧ ackC = true) :
      DlChannelReqOutcome payload st { st with region := .dynamic region next }
        [⟨0x0A, [status]⟩]

theorem dlChannelAns_status (ackF ackC : Bool) :
    ((DlChannelAnsCreator.new.setChannelFrequencyAck ackF).setUplinkFrequencyExistsAck
      ackC).data = 0b11 ↔ ackF = true ∧ ackC = true := by
  cases ackF <;> cases ackC <;> decide

theorem handleDlChannelReq_outcome (payload : DlChannelReqPayload) (st : CmdState) :
    ∃ next answers, handleDlChannelReq payload st = .ok (next, answers) ∧
      DlChannelReqOutcome payload st next answers := by
  unfold handleDlChannelReq
  cases regionEq : st.region with
  | fixed region plan => exact ⟨_, _, rfl, .fixed region plan regionEq⟩
  | dynamic region plan =>
      obtain ⟨next, ackF, ackC, ran, outcome⟩ :=
        Region.DynamicChannelPlan.channelDlUpdate_outcome region.params plan
          payload.channelIndex payload.frequency.value
      refine ⟨_, _, ?_, .dynamic region plan next regionEq ackF ackC _ outcome
        (dlChannelAns_status ackF ackC)⟩
      simp only [Region.Configuration.hasFixedChannelPlan, Bool.false_eq_true, if_false,
        Region.Configuration.channelDlUpdate, ran, Checked.ok_bind]
      rfl

/-! ## Answers and effects -/

/-- Nothing that the commands configure has changed. -/
def Keeps (st next : CmdState) : Prop :=
  next.configuration = st.configuration ∧ next.region = st.region

/-- The data rate, power and mask that a block requests, the mask from the one in
force. -/
def TakesBlock (earlier : List LinkADRReqPayload) (last : LinkADRReqPayload)
    (st next : CmdState) : Prop :=
  next.configuration = { st.configuration with
    dataRate := if last.dataRate = 15 then st.configuration.dataRate else last.dataRate
    txPower := if last.txPower = 15 then st.configuration.txPower
      else st.region.params.txPowerAdjust last.txPower.val } ∧
  ∃ mask, stepMasks st.region (earlier ++ [last]) st.region.channelMaskGet = .ok mask ∧
    next.region = st.region.channelMaskSet mask

def TakesRXParam (payload : RXParamSetupReqPayload) (st next : CmdState) : Prop :=
  next.configuration = { st.configuration with
    rx1DrOffset := payload.dlSettings.rx1DrOffset
    rx2DataRate := if payload.dlSettings.rx2DataRate = 15 then st.configuration.rx2DataRate
      else some payload.dlSettings.rx2DataRate
    rx2Frequency := some payload.frequency.value } ∧
  next.region = st.region

/-- The channel that NewChannelReq requests; frequency 0 asks for none. -/
def requestedChannel (payload : NewChannelReqPayload) : Option Region.Channel :=
  if payload.frequency.value = 0 then none
  else payload.dataRateRange.toOption.map (Region.Channel.newWithDr payload.frequency.value)

def TakesNewChannel (payload : NewChannelReqPayload) (st next : CmdState) : Prop :=
  next.configuration = st.configuration ∧
  ∃ region plan mask, ∃ inside : payload.channelIndex < Region.numChannelsDynamic,
    st.region = .dynamic region plan ∧
    plan.channelMask.setChannel payload.channelIndex (requestedChannel payload).isSome =
      .ok mask ∧
    next.region = .dynamic region
      { channels := plan.channels.set payload.channelIndex (requestedChannel payload)
        channelMask := mask }

def TakesDlChannel (payload : DlChannelReqPayload) (st next : CmdState) : Prop :=
  next.configuration = st.configuration ∧
  ∃ region plan channel dlFrequency, ∃ inside : payload.channelIndex < Region.numChannelsDynamic,
    st.region = .dynamic region plan ∧
    plan.channels[payload.channelIndex] = some channel ∧
    ({ channel with dlFrequency } : Region.Channel).rx1Frequency = payload.frequency.value ∧
    next.region = .dynamic region
      { plan with channels :=
          plan.channels.set payload.channelIndex (some { channel with dlFrequency }) }

/-- What the answers of an item say about it: all status bits of an answer set, and the
request was taken; one of them clear, and everything is kept. -/
def AnswersTell (item : Item) (st next : CmdState) (answers : List SerializableMacCommand) :
    Prop :=
  match item with
  | .block earlier last => ∀ answer ∈ answers,
      (answer.payloadBytes = [0b111] → TakesBlock earlier last st next) ∧
      (answer.payloadBytes ≠ [0b111] → Keeps st next)
  | .other (.rxParamSetupReq payload) _ => ∀ answer ∈ answers,
      (answer.payloadBytes = [0b111] → TakesRXParam payload st next) ∧
      (answer.payloadBytes ≠ [0b111] → Keeps st next)
  | .other (.newChannelReq payload) _ => ∀ answer ∈ answers,
      (answer.payloadBytes = [0b11] → TakesNewChannel payload st next) ∧
      (answer.payloadBytes ≠ [0b11] → Keeps st next)
  | .other (.dlChannelReq payload) _ => ∀ answer ∈ answers,
      (answer.payloadBytes = [0b11] → TakesDlChannel payload st next) ∧
      (answer.payloadBytes ≠ [0b11] → Keeps st next)
  | .other _ _ => True

/-- The answers of the item in this state tell what it does. -/
def Honest (snr : Int8) (item : Item) (st : CmdState) : Prop :=
  ∀ next answers, handleItem snr item st = .ok (next, answers) → AnswersTell item st next answers

/-- The working mask that an accepted block takes over differs from the mask in force only in
banks that the block overwrites, and a DlChannelReq for a channel that is there has a
frequency of the band, or the one the channel has already. -/
def Faithful (item : Item) (st : CmdState) : Prop :=
  match item with
  | .block earlier last => ∀ taken,
      stepMasks st.region (earlier ++ [last]) st.channelMask = .ok taken →
      BlockAccepted st last taken →
        AgreeWhereKept st.region (earlier ++ [last]) st.channelMask st.region.channelMaskGet
  | .other (.dlChannelReq payload) _ => ∀ region plan channel,
      st.region = .dynamic region plan → plan.dlChannel payload.channelIndex = some channel →
      region.params.frequencyValid payload.frequency.value = true ∨
        Region.DynamicChannelPlan.withDlFrequency channel payload.frequency.value = channel
  | .other _ _ => True

/-! ## Blocks -/

theorem linkADRDataRate_eq {st : CmdState} {requested dr : DR}
    (rate : linkADRDataRate st requested = .ok (some dr)) :
    dr = if requested = 15 then st.configuration.dataRate else requested := by
  unfold linkADRDataRate at rate
  split at rate
  · rename_i keep
    cases rate
    rw [if_pos keep]
  · rename_i given
    obtain ⟨found, _, rate⟩ := Checked.bind_eq_ok_iff.mp rate
    split at rate
    · cases rate
      rw [if_neg given]
    · cases rate

theorem linkADRTxPower_eq {st : CmdState} {requested : DR} {pw : Option Nat}
    (power : linkADRTxPower st requested = some pw) :
    pw = if requested = 15 then st.configuration.txPower
      else st.region.params.txPowerAdjust requested.val := by
  unfold linkADRTxPower at power
  split at power
  · rename_i keep
    rw [if_pos keep]
    exact (Option.some.inj power).symm
  · rename_i given
    rw [if_neg given]
    obtain ⟨adjusted, found, rfl⟩ := Option.map_eq_some_iff.mp power
    exact found.symm

theorem handleBlock_accepted {earlier : List LinkADRReqPayload} {last : LinkADRReqPayload}
    {st : CmdState} {mask : ChannelMask 9}
    (stepped : stepMasks st.region (earlier ++ [last]) st.channelMask = .ok mask)
    (good : BlockAccepted st last mask) :
    ∃ next, next.region = st.region.channelMaskSet mask ∧
      handleBlock earlier last st =
        .ok (next, List.replicate (st.numAdrreq + earlier.length + 1) ⟨0x03, [0b111]⟩) := by
  obtain ⟨dr, pw, rate, power, valid⟩ := good
  have rateEq : linkADRDataRate { st with
      numAdrreq := st.numAdrreq + earlier.length + 1, channelMask := mask } last.dataRate =
      .ok (some dr) := rate
  have powerEq : linkADRTxPower { st with
      numAdrreq := st.numAdrreq + earlier.length + 1, channelMask := mask } last.txPower =
      some pw := power
  refine ⟨{ configuration := { st.configuration with dataRate := dr, txPower := pw }
            region := st.region.channelMaskSet mask, channelMask := mask, numAdrreq := 0 },
    rfl, ?_⟩
  simp only [handleBlock, stepped, Checked.ok_bind, finishLinkADRBlock, rateEq, powerEq, valid,
    Option.isSome_some, linkADRAns_complete]
  rfl

/-- The answers of a block tell what it does exactly when, accepted, it ends at the mask
that it requests. -/
theorem block_honest_iff (snr : Int8) (earlier : List LinkADRReqPayload)
    (last : LinkADRReqPayload) (st : CmdState) :
    Honest snr (.block earlier last) st ↔ Faithful (.block earlier last) st := by
  constructor
  · intro honest taken takenEq accepted
    obtain ⟨next, regionEq, ran⟩ := handleBlock_accepted takenEq accepted
    have told := honest next _ ran ⟨0x03, [0b111]⟩ (List.mem_replicate.mpr ⟨by omega, rfl⟩)
    obtain ⟨_, inForce, inForceEq, same⟩ := told.1 rfl
    exact (stepMasks_eq_iff takenEq inForceEq).mp (channelMaskSet_inj (regionEq.symm.trans same))
  · intro faithful next answers ran answer inside
    cases handleBlock_outcome ran with
    | accepted taken stepped dr pw rate power valid =>
        obtain ⟨inForce, inForceEq⟩ := (stepMasks_returns_iff st.region (earlier ++ [last])
          st.region.channelMaskGet).mpr ((stepMasks_returns_iff _ _ _).mp ⟨taken, stepped⟩)
        have same := (stepMasks_eq_iff stepped inForceEq).mpr
          (faithful taken stepped ⟨dr, pw, rate, power, valid⟩)
        have answerEq := List.eq_of_mem_replicate inside
        refine ⟨fun _ => ⟨?_, inForce, inForceEq, by rw [same]⟩, fun incomplete => ?_⟩
        · rw [linkADRDataRate_eq rate, linkADRTxPower_eq power]
        · rw [answerEq] at incomplete
          exact absurd rfl incomplete
    | rejected taken stepped bad status incomplete =>
        have answerEq := List.eq_of_mem_replicate inside
        refine ⟨fun complete => ?_, fun _ => ⟨rfl, rfl⟩⟩
        rw [answerEq] at complete
        exact absurd (List.cons.inj complete).1 incomplete

/-! ## Other commands -/

theorem rxParamSetupReq_honest (snr : Int8) (payload : RXParamSetupReqPayload) (st : CmdState) :
    Honest snr (.other (.rxParamSetupReq payload) rfl) st := by
  intro next answers ran answer inside
  obtain ⟨found, rfl, outcome⟩ := handleRXParamSetupReq_outcome ran
  rw [List.mem_singleton.mp inside]
  cases outcome with
  | accepted rx2DataRate rate =>
      refine ⟨fun _ => ⟨?_, rfl⟩, fun incomplete => absurd rfl incomplete⟩
      have stored : rx2DataRate = if payload.dlSettings.rx2DataRate = 15
          then st.configuration.rx2DataRate else some payload.dlSettings.rx2DataRate := by
        unfold rxParamRx2Dr at rate
        split at rate
        · rename_i keep
          cases rate
          rw [if_pos keep]
        · rename_i given
          obtain ⟨rateFound, _, rate⟩ := Checked.bind_eq_ok_iff.mp rate
          split at rate
          · cases rate
            rw [if_neg given]
          · cases rate
      simp only [stored]
  | rejected status incomplete =>
      refine ⟨fun complete => ?_, fun _ => ⟨rfl, rfl⟩⟩
      exact absurd (List.cons.inj complete).1 incomplete

theorem newChannelReq_honest (snr : Int8) (payload : NewChannelReqPayload) (st : CmdState) :
    Honest snr (.other (.newChannelReq payload) rfl) st := by
  intro next answers ran answer inside
  cases handleNewChannelReq_outcome ran with
  | fixed region plan regionEq => cases inside
  | dynamic region plan after regionEq ackF ackD status outcome complete =>
      rw [List.mem_singleton.mp inside]
      cases outcome with
      | refused ackF ackD bad =>
          refine ⟨fun full => ?_, fun _ => ⟨rfl, regionEq.symm⟩⟩
          obtain ⟨first, second⟩ := complete.mp (List.cons.inj full).1
          rw [first, second] at bad
          cases bad
      | removed later index zero mask cleared =>
          refine ⟨fun _ => ⟨rfl, region, plan, mask, index, regionEq, ?_, ?_⟩,
            fun partly => absurd (by rw [complete.mpr ⟨rfl, rfl⟩]) partly⟩
          · rw [requestedChannel, if_pos zero]
            exact cleared
          · simp only [requestedChannel, if_pos zero]
      | defined later index nonzero range given mask enabled =>
          refine ⟨fun _ => ⟨rfl, region, plan, mask, index, regionEq, ?_, ?_⟩,
            fun partly => absurd (by rw [complete.mpr ⟨rfl, rfl⟩]) partly⟩
          · rw [requestedChannel, if_neg nonzero, given]
            exact enabled
          · simp only [requestedChannel, if_neg nonzero, given, Option.map_some]

/-- The answer to DlChannelReq tells what it does exactly when a frequency outside the band
changes no channel. -/
theorem dlChannelReq_honest_iff (snr : Int8) (payload : DlChannelReqPayload) (st : CmdState) :
    Honest snr (.other (.dlChannelReq payload) rfl) st ↔
      Faithful (.other (.dlChannelReq payload) rfl) st := by
  obtain ⟨next, answers, ran, outcome⟩ := handleDlChannelReq_outcome payload st
  have once : Honest snr (.other (.dlChannelReq payload) rfl) st ↔
      AnswersTell (.other (.dlChannelReq payload) rfl) st next answers := by
    constructor
    · intro honest
      exact honest next answers ran
    · intro told other others otherRan
      have same := ran.symm.trans otherRan
      cases same
      exact told
  rw [once]
  cases outcome with
  | fixed region plan regionEq =>
      refine iff_of_true (fun answer inside => absurd inside List.not_mem_nil) ?_
      intro other otherPlan channel found
      rw [regionEq] at found
      cases found
  | dynamic region plan after regionEq ackF ackC status outcome complete =>
      cases outcome with
      | absent missing =>
          refine iff_of_true ?_ ?_
          · intro answer inside
            rw [List.mem_singleton.mp inside]
            refine ⟨fun full => ?_, fun _ => ⟨rfl, regionEq.symm⟩⟩
            exact absurd (complete.mp (List.cons.inj full).1).2 Bool.false_ne_true
          · intro other otherPlan channel found there
            rw [regionEq] at found
            cases found
            rw [missing] at there
            cases there
      | changed index channel found =>
          obtain ⟨_, _, held, _⟩ := Region.DynamicChannelPlan.dlChannel_eq_some found
          by_cases good : region.params.frequencyValid payload.frequency.value = true
          · refine iff_of_true ?_ ?_
            · intro answer inside
              rw [List.mem_singleton.mp inside]
              refine ⟨fun _ => ⟨rfl, region, plan, channel, _, index, regionEq, held, ?_, rfl⟩,
                fun partly => absurd (by rw [complete.mpr ⟨good, rfl⟩]) partly⟩
              simp only [Region.Channel.rx1Frequency]
              split
              · rename_i same
                exact same.symm
              · rfl
            · intro other otherPlan otherChannel foundRegion _
              rw [regionEq] at foundRegion
              cases foundRegion
              exact .inl good
          · constructor
            · intro told other otherPlan otherChannel foundRegion there
              rw [regionEq] at foundRegion
              cases foundRegion
              rw [found] at there
              cases there
              have partly : status ≠ 0b11 := fun full => good (complete.mp full).1
              obtain ⟨_, kept⟩ := (told _ (List.mem_singleton_self _)).2
                fun full => partly (List.cons.inj full).1
              rw [regionEq] at kept
              have channels := congrArg Region.DynamicChannelPlan.channels
                (Region.Configuration.dynamic.inj kept).2
              have entry := congrArg (fun table : Region.ChannelPlan =>
                table[payload.channelIndex]) channels
              simp only [Vector.getElem_set_self, held] at entry
              exact .inr (Option.some.inj entry)
            · intro faithful answer inside
              rw [List.mem_singleton.mp inside]
              refine ⟨fun full => absurd (complete.mp (List.cons.inj full).1).1 good,
                fun _ => ⟨rfl, ?_⟩⟩
              obtain valid | same := faithful region plan channel regionEq found
              · exact absurd valid good
              · have unchanged : plan.channels.set payload.channelIndex (some channel) =
                    plan.channels := by
                  rw [← held]
                  exact Vector.set_getElem_self index
                simp only [same, unchanged, regionEq]

theorem honest_iff_faithful (snr : Int8) (item : Item) (st : CmdState) :
    Honest snr item st ↔ Faithful item st := by
  cases item with
  | block earlier last => exact block_honest_iff snr earlier last st
  | other cmd unlinked =>
      cases cmd with
      | rxParamSetupReq payload => exact iff_of_true (rxParamSetupReq_honest snr payload st) trivial
      | newChannelReq payload => exact iff_of_true (newChannelReq_honest snr payload st) trivial
      | dlChannelReq payload => exact dlChannelReq_honest_iff snr payload st
      | linkADRReq payload => cases unlinked
      | linkCheckAns | dutyCycleReq | devStatusReq | rxTimingSetupReq | txParamSetupReq
        | deviceTimeAns =>
          exact iff_of_true (fun _ _ _ => trivial) trivial

/-- The answers to every command of a stream tell what the command did if and only if every
accepted block overwrites the banks in which the working mask differs from the mask in force
and no DlChannelReq moves a channel out of the band. -/
theorem answers_tell_iff (snr : Int8) (cmds : List Byte) (configuration : Configuration)
    (region : Region.Configuration) :
    (∀ uplink, handleDownlinkMacs snr cmds configuration region uplink = (do
      let (st, uplink) ← runItems snr (items (parseDownlinkMacCommands cmds))
        (CmdState.start configuration region) uplink
      return (st.configuration, st.region, uplink))) ∧
    (Transition.Guarded (itemStep snr) (Honest snr) (items (parseDownlinkMacCommands cmds))
        (CmdState.start configuration region) ↔
      Transition.Guarded (itemStep snr) Faithful (items (parseDownlinkMacCommands cmds))
        (CmdState.start configuration region)) :=
  ⟨handleDownlinkMacs_eq_runItems snr cmds configuration region,
    Transition.guarded_congr (honest_iff_faithful snr) _ _⟩

/-- The default channels of EU868, the first one listening at 800 MHz. -/
def Sample.movedPlan : Region.DynamicChannelPlan :=
  { Region.DynamicChannelPlan.new Region.eu868 with
    channels := (Region.DynamicChannelPlan.new Region.eu868).channels.set 0
      (some ⟨868_100_000, ⟨0x50⟩, some 800_000_000⟩) }

/-- DlChannelReq for channel 0 at 800 MHz in EU868: the answer refuses the frequency, and
the channel listens there. -/
theorem refused_frequency_is_stored :
    ¬ Transition.Guarded (itemStep 0) (Honest 0)
      (items (parseDownlinkMacCommands [0x0A, 0x00, 0x00, 0x12, 0x7A]))
      (CmdState.start Sample.configuration Sample.rx.region) := by
  have split : items (parseDownlinkMacCommands [0x0A, 0x00, 0x00, 0x12, 0x7A]) =
      [.other (.dlChannelReq ⟨#v[0x00, 0x00, 0x12, 0x7A]⟩) rfl] := by
    decide +kernel
  rw [split]
  rintro ⟨honest, _⟩
  have ran : handleItem 0 (.other (.dlChannelReq ⟨#v[0x00, 0x00, 0x12, 0x7A]⟩) rfl)
      (CmdState.start Sample.configuration Sample.rx.region) =
      .ok ({ CmdState.start Sample.configuration Sample.rx.region with
        region := .dynamic .eu868 Sample.movedPlan }, [⟨0x0A, [0b10]⟩]) := by
    decide +kernel
  obtain ⟨_, kept⟩ := (honest _ _ ran _ (List.mem_singleton_self _)).2 (by decide)
  revert kept
  decide +kernel

end LoraRs.Mac
