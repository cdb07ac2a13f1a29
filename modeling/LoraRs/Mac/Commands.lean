import LoraRs.Mac.Uplink

/-!
# Downlink MAC commands

`handle_downlink_macs`, from `lorawan-device/src/mac/session.rs`.  Each command
gives the configuration and the region after it and the answers to queue; the loop
carries the working channel mask and the number of LinkADRReq commands of the
block so far.
-/

set_option autoImplicit false

namespace LoraRs.Mac

open LoraRs.Encoding LoraRs.Lib

/-- What the loop over the commands carries. -/
structure CmdState where
  configuration : Configuration
  region : Region.Configuration
  channelMask : ChannelMask 9
  numAdrreq : Nat
  deriving DecidableEq

namespace CmdState

def start (configuration : Configuration) (region : Region.Configuration) : CmdState :=
  ⟨configuration, region, region.channelMaskGet, 0⟩

end CmdState

/-- The state after a command and the answers to queue, in order. -/
abbrev CmdResult := CmdState × List SerializableMacCommand

def handleDevStatusReq (snr : Int8) (st : CmdState) : CmdResult :=
  (st, [((DevStatusAnsCreator.new.setBattery 255).setMargin snr).build])

def handleDlChannelReq (payload : DlChannelReqPayload) (st : CmdState) : Checked CmdResult :=
  if st.region.hasFixedChannelPlan then .ok (st, [])
  else do
    let (region, ackF, ackC) ←
      st.region.channelDlUpdate payload.channelIndex payload.frequency.value
    let cmd := (DlChannelAnsCreator.new.setChannelFrequencyAck ackF).setUplinkFrequencyExistsAck
      ackC
    return ({ st with region }, [cmd.build])

def linkADRDataRate (st : CmdState) (requested : DR) : Checked (Option DR) :=
  if requested = 15 then .ok (some st.configuration.dataRate)
  else do
    if (← st.region.getDatarate requested.val).isSome then return some requested
    else return none

def linkADRTxPower (st : CmdState) (requested : DR) : Option (Option Nat) :=
  if requested = 15 then some st.configuration.txPower
  else st.region.checkTxPower requested.val

/-- The end of a LinkADRReq block: the working mask is validated and, if data rate and
power are good too, everything is applied; every command of the block is
answered. -/
def finishLinkADRBlock (payload : LinkADRReqPayload) (st : CmdState) : Checked CmdResult := do
  let dr ← linkADRDataRate st payload.dataRate
  let pw := linkADRTxPower st payload.txPower
  let cmAck ← st.region.channelMaskValidate st.channelMask dr
  let cmd := ((LinkADRAnsCreator.new.setChannelMaskAck cmAck).setDataRateAck
    dr.isSome).setTxPowerAck pw.isSome
  let answers := List.replicate st.numAdrreq cmd.build
  match cmAck, dr, pw with
  | true, some dr, some pw =>
      return ({ st with
        configuration := { st.configuration with dataRate := dr, txPower := pw }
        region := st.region.channelMaskSet st.channelMask
        numAdrreq := 0 }, answers)
  | _, _, _ => return ({ st with numAdrreq := 0 }, answers)

/-- One step of the working mask; reserved controls leave it as it was. -/
def stepMask (region : Region.Configuration) (payload : LinkADRReqPayload)
    (mask : ChannelMask 9) : Checked (ChannelMask 9) := do
  let updated ← region.channelMaskUpdate mask payload.redundancy.channelMaskControl
    payload.channelMask
  return updated.getD mask

/-- `continues`: the next command is a LinkADRReq too. -/
def handleLinkADRReq (payload : LinkADRReqPayload) (continues : Bool) (st : CmdState) :
    Checked CmdResult := do
  let mask ← stepMask st.region payload st.channelMask
  let st := { st with numAdrreq := st.numAdrreq + 1, channelMask := mask }
  if continues then return (st, []) else finishLinkADRBlock payload st

def handleNewChannelReq (payload : NewChannelReqPayload) (st : CmdState) : Checked CmdResult :=
  if st.region.hasFixedChannelPlan then .ok (st, [])
  else do
    let (region, ackF, ackD) ← st.region.handleNewChannel payload.channelIndex
      payload.frequency.value payload.dataRateRange.toOption
    let cmd := (NewChannelAnsCreator.new.setChannelFrequencyAck ackF).setDataRateRangeAck ackD
    return ({ st with region }, [cmd.build])

/-- The RX2 data rate to store, if the request is good: 15 keeps the stored one. -/
def rxParamRx2Dr (st : CmdState) (requested : DR) : Checked (Option (Option DR)) :=
  if requested = 15 then .ok (some st.configuration.rx2DataRate)
  else do
    if (← st.region.getDatarate requested.val).isSome then return some (some requested)
    else return none

def handleRXParamSetupReq (payload : RXParamSetupReqPayload) (st : CmdState) :
    Checked CmdResult := do
  let freq := payload.frequency.value
  let freqAck := st.region.frequencyValid freq
  let rx1DrOffset := st.region.rx1DrOffsetValidate payload.dlSettings.rx1DrOffset
  let rx2Dr ← rxParamRx2Dr st payload.dlSettings.rx2DataRate
  let cmd := ((RXParamSetupAnsCreator.new.setRx1DataRateOffsetAck
    rx1DrOffset.isSome).setRx2DataRateAck rx2Dr.isSome).setChannelAck freqAck
  match freqAck, rx2Dr, rx1DrOffset with
  | true, some rx2DataRate, some rx1DrOffset =>
      return ({ st with configuration :=
        { st.configuration with rx2DataRate, rx2Frequency := some freq, rx1DrOffset } },
        [cmd.build])
  | _, _, _ => return (st, [cmd.build])

def handleRXTimingSetupReq (payload : RXTimingSetupReqPayload) (st : CmdState) : CmdResult :=
  ({ st with configuration :=
    { st.configuration with rx1Delay := delToDelayMs payload.delay } }, [rxTimingSetupAns])

def handleCommand (snr : Int8) (cmd : DownlinkMacCommand) (continues : Bool) (st : CmdState) :
    Checked CmdResult :=
  match cmd with
  | .devStatusReq => .ok (handleDevStatusReq snr st)
  | .dlChannelReq payload => handleDlChannelReq payload st
  | .linkADRReq payload => handleLinkADRReq payload continues st
  | .newChannelReq payload => handleNewChannelReq payload st
  | .rxParamSetupReq payload => handleRXParamSetupReq payload st
  | .rxTimingSetupReq payload => .ok (handleRXTimingSetupReq payload st)
  | .linkCheckAns _ | .dutyCycleReq _ | .txParamSetupReq _ | .deviceTimeAns _ => .ok (st, [])

/-- Whether the next command is a LinkADRReq. -/
def peeksLinkADRReq (rest : List DownlinkMacCommand) : Bool :=
  match rest.head? with
  | some cmd => cmd.isLinkADRReq
  | none => false

/-- The loop of `handle_downlink_macs`. -/
def handleCommands (snr : Int8) :
    List DownlinkMacCommand → CmdState → Uplink → Checked (CmdState × Uplink)
  | [], st, uplink => .ok (st, uplink)
  | cmd :: rest, st, uplink => do
      let (st, answers) ← handleCommand snr cmd (peeksLinkADRReq rest) st
      handleCommands snr rest st (uplink.addMacCommands answers)

def handleDownlinkMacs (snr : Int8) (cmds : List Byte) (configuration : Configuration)
    (region : Region.Configuration) (uplink : Uplink) :
    Checked (Configuration × Region.Configuration × Uplink) := do
  let (st, uplink) ← handleCommands snr (parseDownlinkMacCommands cmds)
    (CmdState.start configuration region) uplink
  return (st.configuration, st.region, uplink)

end LoraRs.Mac
