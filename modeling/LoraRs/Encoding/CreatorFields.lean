import LoraRs.Encoding.Creators

/-!
# Creators against readers

Each command with fields as a packed record: which fields it has, what a call of its
creator sets, and what its payload reads.  The bytes a creator builds are parsed as the one
command, and all but three commands read back as they were set.
-/

set_option autoImplicit false

namespace LoraRs.Encoding

open LoraRs.Lib LoraRs.Lib.Fields

/-- A creator and the parser's side of it: the built bytes, the command they stand for and
the fields its payload reads. -/
structure CommandCreator extends Packing where
  Cmd : Type
  handler : CommandHandler Cmd
  command : State → Cmd
  build : State → List Byte
  fields : Cmd → Option Record
  built : ∀ state, build state = (handler.serialize (command state)).bytes
  fixedLen : ∀ state, handler.fixedLen (command state) = true
  fields_command : ∀ state, fields (command state) = some (read state)

namespace CommandCreator

variable (creator : CommandCreator)

instance : CommandHandler creator.Cmd := creator.handler

/-- The bytes built after the calls are one command, whose payload reads the fields as they
were last set; a call refused exactly if its field cannot hold the value. -/
structure ReadsBack (calls : List creator.Call) : Prop where
  parsed : ∃ cmd, MacCommands.results (creator.build (creator.run calls)) = [.ok cmd] ∧
    creator.fields cmd = some (creator.recorded calls)
  refused : ∀ front call rest, calls = front ++ call :: rest →
    ((creator.call (creator.run front) call).toOption.isSome ↔
      (creator.update (creator.recorded front) call).isSome)

theorem results_build (state : creator.State) :
    MacCommands.results (creator.build state) = [.ok (creator.command state)] := by
  have apart := MacCommands.takenApart_bytesOf [creator.command state] (by
    intro cmd member
    rw [List.mem_singleton.mp member]
    exact creator.fixedLen state)
  have bytes : MacCommands.bytesOf [creator.command state] = creator.build state := by
    rw [creator.built, MacCommands.bytesOf_cons]
    exact List.append_nil _
  rw [← bytes, apart.listed]
  rfl

theorem readsBack_iff (calls : List creator.Call) :
    creator.ReadsBack calls ↔ creator.Agrees calls := by
  constructor
  · rintro ⟨⟨cmd, parsed, found⟩, refused⟩
    rw [creator.results_build] at parsed
    cases parsed
    rw [creator.fields_command] at found
    exact ⟨Option.some.inj found, refused⟩
  · rintro ⟨read, refused⟩
    refine ⟨⟨_, creator.results_build _, ?_⟩, refused⟩
    rw [creator.fields_command, read]

end CommandCreator

/-! ## Downlink MAC commands -/

namespace LinkCheckAns

structure Fields where
  margin : Byte
  gatewayCount : Byte

inductive Call where
  | setMargin (margin : Byte)
  | setGatewayCount (gatewayCount : Byte)

def call (state : Octets 2) : Call → Except SetterError (Octets 2)
  | .setMargin margin => .ok (LinkCheckAnsCreator.setMargin state margin)
  | .setGatewayCount gatewayCount => .ok (LinkCheckAnsCreator.setGatewayCount state gatewayCount)

def read (payload : Vector Byte 2) : Fields where
  margin := LinkCheckAnsPayload.margin payload
  gatewayCount := LinkCheckAnsPayload.gatewayCount payload

def update (fields : Fields) : Call → Option Fields
  | .setMargin margin => some { fields with margin }
  | .setGatewayCount gatewayCount => some { fields with gatewayCount }

def creator : CommandCreator where
  State := Octets 2
  Call := Call
  Failure := SetterError
  Record := Fields
  new := .new 2
  call := call
  read state := read state.data
  blank := ⟨0, 0⟩
  update := update
  Cmd := DownlinkMacCommand
  handler := inferInstance
  command state := .linkCheckAns state.data
  build state := 0x02 :: state.data.toList
  fields
    | .linkCheckAns payload => some (read payload)
    | _ => none
  built _ := rfl
  fixedLen _ := rfl
  fields_command _ := rfl

theorem faithful : creator.Faithful where
  blank := rfl
  step := by
    intro state call
    cases call with
    | setMargin margin =>
        change some (read (setAt state.data 0 margin)) = some { read state.data with margin }
        simp [read, LinkCheckAnsPayload.margin, LinkCheckAnsPayload.gatewayCount, get_setAt]
    | setGatewayCount gatewayCount =>
        change some (read (setAt state.data 1 gatewayCount)) =
          some { read state.data with gatewayCount }
        simp [read, LinkCheckAnsPayload.margin, LinkCheckAnsPayload.gatewayCount, get_setAt]

end LinkCheckAns

namespace LinkADRReq

structure Fields where
  dataRate : DR
  txPower : DR
  channelMask : ChannelMask 2
  redundancy : Redundancy

inductive Call where
  | setDataRate (dataRate : Byte)
  | setTxPower (txPower : Byte)
  | setChannelMask (channelMask : ChannelMask 2)
  | setRedundancy (redundancy : Redundancy)

def call (state : Octets 4) : Call → Except SetterError (Octets 4)
  | .setDataRate dataRate => LinkADRReqCreator.setDataRate state dataRate
  | .setTxPower txPower => LinkADRReqCreator.setTxPower state txPower
  | .setChannelMask channelMask => .ok (LinkADRReqCreator.setChannelMask state channelMask)
  | .setRedundancy redundancy => .ok (LinkADRReqCreator.setRedundancy state redundancy)

def read (payload : LinkADRReqPayload) : Fields where
  dataRate := payload.dataRate
  txPower := payload.txPower
  channelMask := payload.channelMask
  redundancy := payload.redundancy

def update (fields : Fields) : Call → Option Fields
  | .setDataRate dataRate =>
      if dataRate.toNat < 16 then some { fields with dataRate := DR.ofByte dataRate } else none
  | .setTxPower txPower =>
      if txPower.toNat < 16 then some { fields with txPower := DR.ofByte txPower } else none
  | .setChannelMask channelMask => some { fields with channelMask }
  | .setRedundancy redundancy => some { fields with redundancy }

def creator : CommandCreator where
  State := Octets 4
  Call := Call
  Failure := SetterError
  Record := Fields
  new := .new 4
  call := call
  read state := read ⟨state.data⟩
  blank := ⟨0, 0, ⟨#v[0, 0]⟩, ⟨0⟩⟩
  update := update
  Cmd := DownlinkMacCommand
  handler := inferInstance
  command state := .linkADRReq ⟨state.data⟩
  build state := 0x03 :: state.data.toList
  fields
    | .linkADRReq payload => some (read payload)
    | _ => none
  built _ := rfl
  fixedLen _ := rfl
  fields_command _ := rfl

theorem faithful : creator.Faithful where
  blank := rfl
  step := by
    intro state call
    cases call with
    | setDataRate dataRate =>
        apply refuses_iff (not_gt_nibble dataRate) SetterError.invalidDataRate
        intro small
        simp [creator, read, LinkADRReqPayload.dataRate, LinkADRReqPayload.txPower,
          LinkADRReqPayload.channelMask, LinkADRReqPayload.redundancy, get_setAt, high_set,
          low_of_high_set, low_eq_self small]
    | setTxPower txPower =>
        apply refuses_iff (not_gt_nibble txPower) SetterError.invalidTxPower
        intro small
        have kept := high_of_low_set (state.data.get 0) txPower
        rw [low_eq_self small] at kept
        simp [creator, read, LinkADRReqPayload.dataRate, LinkADRReqPayload.txPower,
          LinkADRReqPayload.channelMask, LinkADRReqPayload.redundancy, get_setAt, low_set, kept,
          low_eq_self small]
    | setChannelMask channelMask =>
        change some (read ⟨setAt (setAt state.data 1 (channelMask.bytes.get 0)) 2
          (channelMask.bytes.get 1)⟩) = some { read ⟨state.data⟩ with channelMask }
        simp [read, LinkADRReqPayload.dataRate, LinkADRReqPayload.txPower,
          LinkADRReqPayload.channelMask, LinkADRReqPayload.redundancy, get_setAt, toVector_two,
          ChannelMask.newFromRaw]
    | setRedundancy redundancy =>
        change some (read ⟨setAt state.data 3 redundancy.raw⟩) =
          some { read ⟨state.data⟩ with redundancy }
        simp [read, LinkADRReqPayload.dataRate, LinkADRReqPayload.txPower,
          LinkADRReqPayload.channelMask, LinkADRReqPayload.redundancy, get_setAt]

end LinkADRReq

namespace DutyCycleReq

structure Fields where
  maxDutyCycleRaw : Byte

inductive Call where
  | setMaxDutyCycle (maxDutyCycle : Byte)

def call (state : Octets 1) : Call → Except SetterError (Octets 1)
  | .setMaxDutyCycle maxDutyCycle => DutyCycleReqCreator.setMaxDutyCycle state maxDutyCycle

def read (payload : Vector Byte 1) : Fields where
  maxDutyCycleRaw := DutyCycleReqPayload.maxDutyCycleRaw payload

def update (_ : Fields) : Call → Option Fields
  | .setMaxDutyCycle maxDutyCycle =>
      if maxDutyCycle.toNat < 16 then some { maxDutyCycleRaw := maxDutyCycle } else none

def creator : CommandCreator where
  State := Octets 1
  Call := Call
  Failure := SetterError
  Record := Fields
  new := .new 1
  call := call
  read state := read state.data
  blank := ⟨0⟩
  update := update
  Cmd := DownlinkMacCommand
  handler := inferInstance
  command state := .dutyCycleReq state.data
  build state := 0x04 :: state.data.toList
  fields
    | .dutyCycleReq payload => some (read payload)
    | _ => none
  built _ := rfl
  fixedLen _ := rfl
  fields_command _ := rfl

theorem faithful : creator.Faithful where
  blank := rfl
  step := by
    intro state call
    cases call with
    | setMaxDutyCycle maxDutyCycle =>
        apply refuses_iff (not_gt_nibble maxDutyCycle) SetterError.maxDutyCycleOutOfRange
        intro small
        simp [creator, read, DutyCycleReqPayload.maxDutyCycleRaw, get_setAt, low_set,
          low_eq_self small]

end DutyCycleReq

namespace RXParamSetupReq

structure Fields where
  dlSettings : DLSettings
  frequency : Frequency

inductive Call where
  | setDlSettings (dlSettings : DLSettings)
  | setFrequency (frequency : Frequency)

def call (state : Octets 4) : Call → Except SetterError (Octets 4)
  | .setDlSettings dlSettings => .ok (RXParamSetupReqCreator.setDlSettings state dlSettings)
  | .setFrequency frequency => .ok (RXParamSetupReqCreator.setFrequency state frequency)

def read (payload : RXParamSetupReqPayload) : Fields where
  dlSettings := payload.dlSettings
  frequency := payload.frequency

def update (fields : Fields) : Call → Option Fields
  | .setDlSettings dlSettings => some { fields with dlSettings }
  | .setFrequency frequency => some { fields with frequency }

def creator : CommandCreator where
  State := Octets 4
  Call := Call
  Failure := SetterError
  Record := Fields
  new := .new 4
  call := call
  read state := read ⟨state.data⟩
  blank := ⟨⟨0⟩, ⟨#v[0, 0, 0]⟩⟩
  update := update
  Cmd := DownlinkMacCommand
  handler := inferInstance
  command state := .rxParamSetupReq ⟨state.data⟩
  build state := 0x05 :: state.data.toList
  fields
    | .rxParamSetupReq payload => some (read payload)
    | _ => none
  built _ := rfl
  fixedLen _ := rfl
  fields_command _ := rfl

theorem faithful : creator.Faithful where
  blank := rfl
  step := by
    intro state call
    cases call with
    | setDlSettings dlSettings =>
        change some (read ⟨setAt state.data 0 dlSettings.raw⟩) =
          some { read ⟨state.data⟩ with dlSettings }
        simp [read, RXParamSetupReqPayload.dlSettings, RXParamSetupReqPayload.frequency, get_setAt]
    | setFrequency frequency =>
        change some (read ⟨overwrite state.data 1 frequency.bytes⟩) =
          some { read ⟨state.data⟩ with frequency }
        simp [read, RXParamSetupReqPayload.dlSettings, RXParamSetupReqPayload.frequency,
          get_overwrite, toVector_three]

end RXParamSetupReq

namespace NewChannelReq

structure Fields where
  channelIndex : Nat
  frequency : Frequency
  dataRateRange : Except MacError DataRateRange

inductive Call where
  | setChannelIndex (channelIndex : Byte)
  | setFrequency (frequency : Frequency)
  | setDataRateRange (dataRateRange : DataRateRange)

def call (state : Octets 5) : Call → Except SetterError (Octets 5)
  | .setChannelIndex channelIndex => .ok (NewChannelReqCreator.setChannelIndex state channelIndex)
  | .setFrequency frequency => .ok (NewChannelReqCreator.setFrequency state frequency)
  | .setDataRateRange dataRateRange =>
      .ok (NewChannelReqCreator.setDataRateRange state dataRateRange)

def read (payload : NewChannelReqPayload) : Fields where
  channelIndex := payload.channelIndex
  frequency := payload.frequency
  dataRateRange := payload.dataRateRange

def checkedRange (range : DataRateRange) : Except MacError DataRateRange :=
  if range.maxDataRate < range.minDataRate then .error .invalidDataRateRange else .ok range

def update (fields : Fields) : Call → Option Fields
  | .setChannelIndex channelIndex => some { fields with channelIndex := channelIndex.toNat }
  | .setFrequency frequency => some { fields with frequency }
  | .setDataRateRange dataRateRange =>
      some { fields with dataRateRange := checkedRange dataRateRange }

def creator : CommandCreator where
  State := Octets 5
  Call := Call
  Failure := SetterError
  Record := Fields
  new := .new 5
  call := call
  read state := read ⟨state.data⟩
  blank := ⟨0, ⟨#v[0, 0, 0]⟩, .ok ⟨0⟩⟩
  update := update
  Cmd := DownlinkMacCommand
  handler := inferInstance
  command state := .newChannelReq ⟨state.data⟩
  build state := 0x07 :: state.data.toList
  fields
    | .newChannelReq payload => some (read payload)
    | _ => none
  built _ := rfl
  fixedLen _ := rfl
  fields_command _ := rfl

theorem faithful : creator.Faithful where
  blank := rfl
  step := by
    intro state call
    cases call with
    | setChannelIndex channelIndex =>
        change some (read ⟨setAt state.data 0 channelIndex⟩) =
          some { read ⟨state.data⟩ with channelIndex := channelIndex.toNat }
        simp [read, NewChannelReqPayload.channelIndex, NewChannelReqPayload.frequency,
          NewChannelReqPayload.dataRateRange, get_setAt]
    | setFrequency frequency =>
        change some (read ⟨overwrite state.data 1 frequency.bytes⟩) =
          some { read ⟨state.data⟩ with frequency }
        simp [read, NewChannelReqPayload.channelIndex, NewChannelReqPayload.frequency,
          NewChannelReqPayload.dataRateRange, get_overwrite, toVector_three]
    | setDataRateRange dataRateRange =>
        change some (read ⟨setAt state.data 4 dataRateRange.raw⟩) =
          some { read ⟨state.data⟩ with dataRateRange := checkedRange dataRateRange }
        simp [read, NewChannelReqPayload.channelIndex, NewChannelReqPayload.frequency,
          NewChannelReqPayload.dataRateRange, get_setAt, DataRateRange.new, checkedRange,
          DataRateRange.maxDataRate, DataRateRange.minDataRate, UInt8.lt_iff_toNat_lt]

end NewChannelReq

namespace RXTimingSetupReq

structure Fields where
  delay : Byte

inductive Call where
  | setDelay (delay : Byte)

def call (state : Octets 1) : Call → Except SetterError (Octets 1)
  | .setDelay delay => RXTimingSetupReqCreator.setDelay state delay

def read (payload : RXTimingSetupReqPayload) : Fields where
  delay := payload.delay

def update (_ : Fields) : Call → Option Fields
  | .setDelay delay => if delay.toNat < 16 then some { delay } else none

def creator : CommandCreator where
  State := Octets 1
  Call := Call
  Failure := SetterError
  Record := Fields
  new := .new 1
  call := call
  read state := read ⟨state.data⟩
  blank := ⟨0⟩
  update := update
  Cmd := DownlinkMacCommand
  handler := inferInstance
  command state := .rxTimingSetupReq ⟨state.data⟩
  build state := 0x08 :: state.data.toList
  fields
    | .rxTimingSetupReq payload => some (read payload)
    | _ => none
  built _ := rfl
  fixedLen _ := rfl
  fields_command _ := rfl

theorem faithful : creator.Faithful where
  blank := rfl
  step := by
    intro state call
    cases call with
    | setDelay delay =>
        apply refuses_iff (not_gt_nibble delay) SetterError.delayOutOfRange
        intro small
        simp [creator, read, RXTimingSetupReqPayload.delay, get_setAt, low_set, low_eq_self small]

end RXTimingSetupReq

namespace TXParamSetupReq

structure Fields where
  downlinkDwellTime : Bool
  uplinkDwellTime : Bool
  maxEirp : Checked Byte

inductive Call where
  | setDownlinkDwellTime (dwellTime : Bool)
  | setUplinkDwellTime (dwellTime : Bool)
  | setMaxEirp (maxEirp : Byte)

def call (state : Octets 1) : Call → Except SetterError (Octets 1)
  | .setDownlinkDwellTime dwellTime =>
      .ok (TXParamSetupReqCreator.setDownlinkDwellTime state dwellTime)
  | .setUplinkDwellTime dwellTime => .ok (TXParamSetupReqCreator.setUplinkDwellTime state dwellTime)
  | .setMaxEirp maxEirp => TXParamSetupReqCreator.setMaxEirp state maxEirp

def read (payload : Vector Byte 1) : Fields where
  downlinkDwellTime := TXParamSetupReqPayload.downlinkDwellTime payload
  uplinkDwellTime := TXParamSetupReqPayload.uplinkDwellTime payload
  maxEirp := TXParamSetupReqPayload.maxEirp payload

/-- The power is set as an index and read in dBm. -/
def update (fields : Fields) : Call → Option Fields
  | .setDownlinkDwellTime dwellTime => some { fields with downlinkDwellTime := dwellTime }
  | .setUplinkDwellTime dwellTime => some { fields with uplinkDwellTime := dwellTime }
  | .setMaxEirp maxEirp =>
      if maxEirp.toNat < 16 then
        some { fields with maxEirp := TXParamSetupReqPayload.eirp maxEirp }
      else none

def creator : CommandCreator where
  State := Octets 1
  Call := Call
  Failure := SetterError
  Record := Fields
  new := .new 1
  call := call
  read state := read state.data
  blank := ⟨false, false, TXParamSetupReqPayload.eirp 0⟩
  update := update
  Cmd := DownlinkMacCommand
  handler := inferInstance
  command state := .txParamSetupReq state.data
  build state := 0x09 :: state.data.toList
  fields
    | .txParamSetupReq payload => some (read payload)
    | _ => none
  built _ := rfl
  fixedLen _ := rfl
  fields_command _ := rfl

theorem faithful : creator.Faithful where
  blank := rfl
  step := by
    intro state call
    cases call with
    | setDownlinkDwellTime dwellTime =>
        change some (read (TXParamSetupReqCreator.setDownlinkDwellTime state dwellTime).data) =
          some { read state.data with downlinkDwellTime := dwellTime }
        simp [TXParamSetupReqCreator.setDownlinkDwellTime, read,
          TXParamSetupReqPayload.downlinkDwellTime, TXParamSetupReqPayload.uplinkDwellTime,
          TXParamSetupReqPayload.maxEirp, get_setAt, flag5.read, flag5.low]
    | setUplinkDwellTime dwellTime =>
        change some (read (TXParamSetupReqCreator.setUplinkDwellTime state dwellTime).data) =
          some { read state.data with uplinkDwellTime := dwellTime }
        simp [TXParamSetupReqCreator.setUplinkDwellTime, read,
          TXParamSetupReqPayload.downlinkDwellTime, TXParamSetupReqPayload.uplinkDwellTime,
          TXParamSetupReqPayload.maxEirp, get_setAt, flag4.read, flag4.low]
    | setMaxEirp maxEirp =>
        apply refuses_iff (not_gt_nibble maxEirp) SetterError.maxEirpOutOfRange
        intro small
        have downlink := ackBit_low_set small (state.data.get 0) (by decide : 4 ≤ 5) (by decide)
        have uplink := ackBit_low_set small (state.data.get 0) (by decide : 4 ≤ 4) (by decide)
        simp [creator, read, TXParamSetupReqPayload.downlinkDwellTime,
          TXParamSetupReqPayload.uplinkDwellTime, TXParamSetupReqPayload.maxEirp, get_setAt, low_set,
          low_eq_self small, downlink, uplink]

end TXParamSetupReq

namespace DlChannelReq

structure Fields where
  channelIndex : Nat
  frequency : Frequency

inductive Call where
  | setChannelIndex (index : Byte)
  | setFrequency (frequency : Frequency)

def call (state : Octets 4) : Call → Except SetterError (Octets 4)
  | .setChannelIndex index => .ok (DlChannelReqCreator.setChannelIndex state index)
  | .setFrequency frequency => .ok (DlChannelReqCreator.setFrequency state frequency)

def read (payload : DlChannelReqPayload) : Fields where
  channelIndex := payload.channelIndex
  frequency := payload.frequency

def update (fields : Fields) : Call → Option Fields
  | .setChannelIndex index => some { fields with channelIndex := index.toNat }
  | .setFrequency frequency => some { fields with frequency }

def creator : CommandCreator where
  State := Octets 4
  Call := Call
  Failure := SetterError
  Record := Fields
  new := .new 4
  call := call
  read state := read ⟨state.data⟩
  blank := ⟨0, ⟨#v[0, 0, 0]⟩⟩
  update := update
  Cmd := DownlinkMacCommand
  handler := inferInstance
  command state := .dlChannelReq ⟨state.data⟩
  build state := 0x0A :: state.data.toList
  fields
    | .dlChannelReq payload => some (read payload)
    | _ => none
  built _ := rfl
  fixedLen _ := rfl
  fields_command _ := rfl

theorem faithful : creator.Faithful where
  blank := rfl
  step := by
    intro state call
    cases call with
    | setChannelIndex index =>
        change some (read ⟨setAt state.data 0 index⟩) =
          some { read ⟨state.data⟩ with channelIndex := index.toNat }
        simp [read, DlChannelReqPayload.channelIndex, DlChannelReqPayload.frequency, get_setAt]
    | setFrequency frequency =>
        change some (read ⟨overwrite state.data 1 frequency.bytes⟩) =
          some { read ⟨state.data⟩ with frequency }
        simp [read, DlChannelReqPayload.channelIndex, DlChannelReqPayload.frequency,
          get_overwrite, toVector_three]

end DlChannelReq

namespace DeviceTimeAns

structure Fields where
  seconds : UInt32
  nanoSeconds : UInt32

inductive Call where
  | setSeconds (seconds : UInt32)
  | setNanoSeconds (nanoSeconds : UInt32)
  deriving DecidableEq

def call (state : Octets 5) : Call → Except SetterError (Octets 5)
  | .setSeconds seconds => .ok (DeviceTimeAnsCreator.setSeconds state seconds)
  | .setNanoSeconds nanoSeconds => DeviceTimeAnsCreator.setNanoSeconds state nanoSeconds

def read (payload : Vector Byte 5) : Fields where
  seconds := DeviceTimeAnsPayload.seconds payload
  nanoSeconds := DeviceTimeAnsPayload.nanoSeconds payload

/-- The fraction of a second counts in 256ths, all of them below one second. -/
def update (fields : Fields) : Call → Option Fields
  | .setSeconds seconds => some { fields with seconds }
  | .setNanoSeconds nanoSeconds =>
      if nanoSeconds.toNat < 1000000000 then
        some { fields with nanoSeconds := nanoSeconds / 3906250 * 3906250 }
      else none

def creator : CommandCreator where
  State := Octets 5
  Call := Call
  Failure := SetterError
  Record := Fields
  new := .new 5
  call := call
  read state := read state.data
  blank := ⟨0, 0⟩
  update := update
  Cmd := DownlinkMacCommand
  handler := inferInstance
  command state := .deviceTimeAns state.data
  build state := 0x0D :: state.data.toList
  fields
    | .deviceTimeAns payload => some (read payload)
    | _ => none
  built _ := rfl
  fixedLen _ := rfl
  fields_command _ := rfl

/-- The seconds as they are read: the octets that were written, last first. -/
def readSeconds (seconds : UInt32) : UInt32 :=
  Multicast.ofLeU32 ((leU32 seconds).get 3) ((leU32 seconds).get 2) ((leU32 seconds).get 1)
    ((leU32 seconds).get 0)

def SameBothWays (seconds : UInt32) : Prop :=
  (leU32 seconds).get 0 = (leU32 seconds).get 3 ∧ (leU32 seconds).get 1 = (leU32 seconds).get 2

theorem readSeconds_eq_iff (seconds : UInt32) :
    readSeconds seconds = seconds ↔ SameBothWays seconds := by
  constructor
  · intro same
    have octets := leU32_ofLeU32 ((leU32 seconds).get 3) ((leU32 seconds).get 2)
      ((leU32 seconds).get 1) ((leU32 seconds).get 0)
    rw [← readSeconds, same] at octets
    exact ⟨congrArg (fun v => v.get 0) octets, congrArg (fun v => v.get 1) octets⟩
  · rintro ⟨outer, inner⟩
    rw [readSeconds, ← outer, ← inner]
    have back := ofLeU32_leU32 seconds
    rwa [← outer, ← inner] at back

def readUpdate (fields : Fields) : Call → Option Fields
  | .setSeconds seconds => some { fields with seconds := readSeconds seconds }
  | .setNanoSeconds nanoSeconds =>
      if nanoSeconds.toNat ≤ 1000000000 then
        some { fields with nanoSeconds := (nanoSeconds / 3906250).toUInt8.toUInt32 * 3906250 }
      else none

def readPacking : Packing := { creator.toPacking with update := readUpdate }

theorem readPacking_faithful : readPacking.Faithful where
  blank := rfl
  step := by
    intro state call
    cases call with
    | setSeconds seconds =>
        change some (read (overwrite state.data 0 (leU32 seconds))) =
          some { read state.data with seconds := readSeconds seconds }
        simp [read, DeviceTimeAnsPayload.seconds, DeviceTimeAnsPayload.nanoSeconds, readSeconds,
          get_overwrite]
    | setNanoSeconds nanoSeconds =>
        have limit : ¬ nanoSeconds > 1000000000 ↔ nanoSeconds.toNat ≤ 1000000000 := by
          rw [gt_iff_lt, UInt32.lt_iff_toNat_lt, Nat.not_lt]
          rfl
        apply refuses_iff limit SetterError.nanoSecondsOutOfRange
        intro small
        simp [readPacking, creator, read, DeviceTimeAnsPayload.seconds,
          DeviceTimeAnsPayload.nanoSeconds, get_setAt]

def lastSeconds (calls : List Call) : UInt32 := (creator.recorded calls).seconds

def BelowSecond (calls : List Call) : Prop := ∀ call ∈ calls, call ≠ .setNanoSeconds 1000000000

theorem toUInt8_of_below {nanoSeconds : UInt32} (below : nanoSeconds.toNat < 1000000000) :
    (nanoSeconds / 3906250).toUInt8.toUInt32 = nanoSeconds / 3906250 := by
  have quotient : (nanoSeconds / 3906250).toNat < 256 := by
    rw [UInt32.toNat_div]
    exact Nat.div_lt_of_lt_mul below
  apply UInt32.toNat_inj.mp
  rw [UInt8.toNat_toUInt32, UInt32.toNat_toUInt8, Nat.mod_eq_of_lt quotient]

theorem toNat_ne_second {nanoSeconds : UInt32}
    (other : Call.setNanoSeconds nanoSeconds ≠ .setNanoSeconds 1000000000) :
    nanoSeconds.toNat ≠ 1000000000 := by
  intro same
  exact other (congrArg Call.setNanoSeconds (UInt32.toNat_inj.mp same))

/-- The fields as they are read, for those that were set. -/
def turned (fields : Fields) : Fields := { fields with seconds := readSeconds fields.seconds }

/-- Below a second a call does what it should, but for the order of the seconds. -/
theorem readUpdate_turned (fields : Fields) {call : Call}
    (other : call ≠ .setNanoSeconds 1000000000) :
    readUpdate (turned fields) call = (update fields call).map turned := by
  cases call with
  | setSeconds seconds => rfl
  | setNanoSeconds nanoSeconds =>
      have apart := toNat_ne_second other
      by_cases below : nanoSeconds.toNat < 1000000000
      · rw [readUpdate, update, if_pos below, if_pos (Nat.le_of_lt below), toUInt8_of_below below]
        rfl
      · rw [readUpdate, update, if_neg below, if_neg (by omega)]
        rfl

theorem recorded_turned (calls : List Call) (below : BelowSecond calls) :
    readPacking.recorded calls = turned (creator.recorded calls) := by
  have general : ∀ fields : Fields, BelowSecond calls →
      calls.foldl (fun fields call => (readUpdate fields call).getD fields) (turned fields) =
        turned (calls.foldl (fun fields call => (update fields call).getD fields) fields) := by
    induction calls with
    | nil =>
        intro fields _
        rfl
    | cons call rest ih =>
        intro fields below
        have later : BelowSecond rest :=
          fun other member => below other (List.mem_cons_of_mem _ member)
        have step : (readUpdate (turned fields) call).getD (turned fields) =
            turned ((update fields call).getD fields) := by
          rw [readUpdate_turned fields (below call List.mem_cons_self), Option.getD_map]
        rw [List.foldl_cons, List.foldl_cons, step]
        exact ih later _ later
  exact general ⟨0, 0⟩ below

theorem turned_eq_iff (fields : Fields) : turned fields = fields ↔ SameBothWays fields.seconds := by
  rw [← readSeconds_eq_iff]
  constructor
  · intro same
    exact congrArg Fields.seconds same
  · intro same
    rw [turned, same]

theorem agrees_iff (calls : List Call) :
    creator.Agrees calls ↔ BelowSecond calls ∧ SameBothWays (lastSeconds calls) := by
  have read : ∀ calls : List Call, BelowSecond calls →
      creator.read (creator.run calls) = turned (creator.recorded calls) := fun calls below =>
    (readPacking_faithful.read_run calls).trans (recorded_turned calls below)
  constructor
  · intro agrees
    have below : BelowSecond calls := by
      intro call member full
      subst full
      obtain ⟨front, rest, parts⟩ := List.append_of_mem member
      have accepted : (creator.call (creator.run front)
        (.setNanoSeconds 1000000000)).toOption.isSome := rfl
      cases (agrees.refused front _ rest parts).mp accepted
    exact ⟨below, (turned_eq_iff _).mp ((read calls below).symm.trans agrees.read)⟩
  · rintro ⟨below, same⟩
    refine ⟨(read calls below).trans ((turned_eq_iff _).mpr same), ?_⟩
    intro front call rest parts
    have inFront : BelowSecond front := by
      intro other member
      exact below other (by rw [parts]; exact List.mem_append_left _ member)
    have other := below call (by rw [parts]; exact List.mem_append_right _ List.mem_cons_self)
    have step : (creator.call (creator.run front) call).toOption.map creator.read =
        (update (creator.recorded front) call).map turned := by
      have moved := readPacking_faithful.step (creator.run front) call
      have found : readPacking.read (creator.run front) = turned (creator.recorded front) :=
        read front inFront
      rw [found] at moved
      exact moved.trans (readUpdate_turned _ other)
    have accepted : (creator.call (creator.run front) call).toOption.isSome =
        (update (creator.recorded front) call).isSome :=
      Option.isSome_map.symm.trans ((congrArg Option.isSome step).trans Option.isSome_map)
    exact iff_of_eq (congrArg (· = true) accepted)

end DeviceTimeAns

end LoraRs.Encoding
