import LoraRs.Encoding.CreatorFields

/-!
# Answers and multicast setup commands against readers

The uplink commands with fields and the multicast setup commands of both directions as
packed records, and for which calls each command reads back as it was set.
-/

set_option autoImplicit false

namespace LoraRs.Encoding

open LoraRs.Lib LoraRs.Lib.Fields

/-! ## Uplink MAC commands -/

namespace LinkADRAns

structure Fields where
  channelMaskAck : Bool
  dataRateAck : Bool
  powertAck : Bool

inductive Call where
  | setChannelMaskAck (ack : Bool)
  | setDataRateAck (ack : Bool)
  | setTxPowerAck (ack : Bool)

def call (state : LinkADRAnsCreator) : Call → Except SetterError LinkADRAnsCreator
  | .setChannelMaskAck ack => .ok (state.setChannelMaskAck ack)
  | .setDataRateAck ack => .ok (state.setDataRateAck ack)
  | .setTxPowerAck ack => .ok (state.setTxPowerAck ack)

def read (payload : Vector Byte 1) : Fields where
  channelMaskAck := LinkADRAnsPayload.channelMaskAck payload
  dataRateAck := LinkADRAnsPayload.dataRateAck payload
  powertAck := LinkADRAnsPayload.powertAck payload

def update (fields : Fields) : Call → Option Fields
  | .setChannelMaskAck ack => some { fields with channelMaskAck := ack }
  | .setDataRateAck ack => some { fields with dataRateAck := ack }
  | .setTxPowerAck ack => some { fields with powertAck := ack }

def creator : CommandCreator where
  State := LinkADRAnsCreator
  Call := Call
  Failure := SetterError
  Record := Fields
  new := .new
  call := call
  read state := read #v[state.data]
  blank := ⟨false, false, false⟩
  update := update
  Cmd := UplinkMacCommand
  handler := inferInstance
  command state := .linkADRAns #v[state.data]
  build state := state.build.bytes
  fields
    | .linkADRAns payload => some (read payload)
    | _ => none
  built _ := rfl
  fixedLen _ := rfl
  fields_command _ := rfl

theorem faithful : creator.Faithful where
  blank := rfl
  step := by
    intro state call
    cases call with
    | setChannelMaskAck ack =>
        change some (read #v[(state.setChannelMaskAck ack).data]) =
          some { read #v[state.data] with channelMaskAck := ack }
        simp [LinkADRAnsCreator.setChannelMaskAck, read, LinkADRAnsPayload.channelMaskAck,
          LinkADRAnsPayload.dataRateAck, LinkADRAnsPayload.powertAck, Vector.get, flag0.read]
    | setDataRateAck ack =>
        change some (read #v[(state.setDataRateAck ack).data]) =
          some { read #v[state.data] with dataRateAck := ack }
        simp [LinkADRAnsCreator.setDataRateAck, read, LinkADRAnsPayload.channelMaskAck,
          LinkADRAnsPayload.dataRateAck, LinkADRAnsPayload.powertAck, Vector.get, flag1.read]
    | setTxPowerAck ack =>
        change some (read #v[(state.setTxPowerAck ack).data]) =
          some { read #v[state.data] with powertAck := ack }
        simp [LinkADRAnsCreator.setTxPowerAck, read, LinkADRAnsPayload.channelMaskAck,
          LinkADRAnsPayload.dataRateAck, LinkADRAnsPayload.powertAck, Vector.get, flag2.read]

end LinkADRAns

namespace RXParamSetupAns

structure Fields where
  channelAck : Bool
  rx2DataRateAck : Bool
  rx1DrOffsetAck : Bool

inductive Call where
  | setChannelAck (ack : Bool)
  | setRx2DataRateAck (ack : Bool)
  | setRx1DataRateOffsetAck (ack : Bool)

def call (state : RXParamSetupAnsCreator) : Call → Except SetterError RXParamSetupAnsCreator
  | .setChannelAck ack => .ok (state.setChannelAck ack)
  | .setRx2DataRateAck ack => .ok (state.setRx2DataRateAck ack)
  | .setRx1DataRateOffsetAck ack => .ok (state.setRx1DataRateOffsetAck ack)

def read (payload : Vector Byte 1) : Fields where
  channelAck := RXParamSetupAnsPayload.channelAck payload
  rx2DataRateAck := RXParamSetupAnsPayload.rx2DataRateAck payload
  rx1DrOffsetAck := RXParamSetupAnsPayload.rx1DrOffsetAck payload

def update (fields : Fields) : Call → Option Fields
  | .setChannelAck ack => some { fields with channelAck := ack }
  | .setRx2DataRateAck ack => some { fields with rx2DataRateAck := ack }
  | .setRx1DataRateOffsetAck ack => some { fields with rx1DrOffsetAck := ack }

def creator : CommandCreator where
  State := RXParamSetupAnsCreator
  Call := Call
  Failure := SetterError
  Record := Fields
  new := .new
  call := call
  read state := read #v[state.data]
  blank := ⟨false, false, false⟩
  update := update
  Cmd := UplinkMacCommand
  handler := inferInstance
  command state := .rxParamSetupAns #v[state.data]
  build state := state.build.bytes
  fields
    | .rxParamSetupAns payload => some (read payload)
    | _ => none
  built _ := rfl
  fixedLen _ := rfl
  fields_command _ := rfl

theorem faithful : creator.Faithful where
  blank := rfl
  step := by
    intro state call
    cases call with
    | setChannelAck ack =>
        change some (read #v[(state.setChannelAck ack).data]) =
          some { read #v[state.data] with channelAck := ack }
        simp [RXParamSetupAnsCreator.setChannelAck, read,
          RXParamSetupAnsPayload.channelAck, RXParamSetupAnsPayload.rx2DataRateAck,
          RXParamSetupAnsPayload.rx1DrOffsetAck, Vector.get, flag0.read]
    | setRx2DataRateAck ack =>
        change some (read #v[(state.setRx2DataRateAck ack).data]) =
          some { read #v[state.data] with rx2DataRateAck := ack }
        simp [RXParamSetupAnsCreator.setRx2DataRateAck, read,
          RXParamSetupAnsPayload.channelAck, RXParamSetupAnsPayload.rx2DataRateAck,
          RXParamSetupAnsPayload.rx1DrOffsetAck, Vector.get, flag1.read]
    | setRx1DataRateOffsetAck ack =>
        change some (read #v[(state.setRx1DataRateOffsetAck ack).data]) =
          some { read #v[state.data] with rx1DrOffsetAck := ack }
        simp [RXParamSetupAnsCreator.setRx1DataRateOffsetAck, read,
          RXParamSetupAnsPayload.channelAck, RXParamSetupAnsPayload.rx2DataRateAck,
          RXParamSetupAnsPayload.rx1DrOffsetAck, Vector.get, flag2.read]

end RXParamSetupAns

namespace DevStatusAns

structure Fields where
  battery : Byte
  margin : Int8

inductive Call where
  | setBattery (battery : Byte)
  | setMargin (margin : Int8)

def call (state : DevStatusAnsCreator) : Call → Except SetterError DevStatusAnsCreator
  | .setBattery battery => .ok (state.setBattery battery)
  | .setMargin margin => state.setMarginResult margin

def read (payload : Vector Byte 2) : Fields where
  battery := DevStatusAnsPayload.battery payload
  margin := DevStatusAnsPayload.margin payload

/-- The margin is a signed field of six bits. -/
def update (fields : Fields) : Call → Option Fields
  | .setBattery battery => some { fields with battery }
  | .setMargin margin =>
      if -2 ^ 5 ≤ margin.toInt ∧ margin.toInt < 2 ^ 5 then some { fields with margin } else none

def creator : CommandCreator where
  State := DevStatusAnsCreator
  Call := Call
  Failure := SetterError
  Record := Fields
  new := .new
  call := call
  read state := read #v[state.battery, state.margin]
  blank := ⟨0, 0⟩
  update := update
  Cmd := UplinkMacCommand
  handler := inferInstance
  command state := .devStatusAns #v[state.battery, state.margin]
  build state := state.build.bytes
  fields
    | .devStatusAns payload => some (read payload)
    | _ => none
  built _ := rfl
  fixedLen _ := rfl
  fields_command _ := rfl

/-- Six bits of a margin in the range come back with their sign. -/
theorem margin_back : ∀ margin : Int8, -2 ^ 5 ≤ margin.toInt ∧ margin.toInt < 2 ^ 5 →
    (((margin <<< 2).toUInt8 >>> 2) <<< (2 : Byte)).toInt8 >>> 2 = margin := by
  decide +kernel

theorem range_iff (margin : Int8) :
    (-32 ≤ margin ∧ margin ≤ 31) ↔ -2 ^ 5 ≤ margin.toInt ∧ margin.toInt < 2 ^ 5 := by
  rw [Int8.le_iff_toInt_le, Int8.le_iff_toInt_le]
  exact and_congr_right fun _ => Int.lt_add_one_iff.symm

theorem faithful : creator.Faithful where
  blank := rfl
  step := by
    intro state call
    cases call with
    | setBattery battery => rfl
    | setMargin margin =>
        have back := margin_back margin
        by_cases fits : -2 ^ 5 ≤ margin.toInt ∧ margin.toInt < 2 ^ 5
        · have accepted : creator.call state (.setMargin margin) =
              .ok { battery := state.battery, margin := (margin <<< 2).toUInt8 >>> 2 } :=
            if_pos ((range_iff margin).mpr fits)
          have held : creator.update (creator.read state) (.setMargin margin) =
              some ⟨state.battery, margin⟩ := if_pos fits
          rw [accepted, held]
          exact congrArg (fun margin => some (Fields.mk state.battery margin)) (back fits)
        · have refused : creator.call state (.setMargin margin) = .error .marginOutOfRange :=
            if_neg (mt (range_iff margin).mp fits)
          have outside : creator.update (creator.read state) (.setMargin margin) = none :=
            if_neg fits
          rw [refused, outside]
          rfl

end DevStatusAns

namespace NewChannelAns

structure Fields where
  channelFreqAck : Bool
  dataRateRangeAck : Bool

inductive Call where
  | setChannelFrequencyAck (ack : Bool)
  | setDataRateRangeAck (ack : Bool)

def call (state : NewChannelAnsCreator) : Call → Except SetterError NewChannelAnsCreator
  | .setChannelFrequencyAck ack => .ok (state.setChannelFrequencyAck ack)
  | .setDataRateRangeAck ack => .ok (state.setDataRateRangeAck ack)

def read (payload : Vector Byte 1) : Fields where
  channelFreqAck := NewChannelAnsPayload.channelFreqAck payload
  dataRateRangeAck := NewChannelAnsPayload.dataRateRangeAck payload

def update (fields : Fields) : Call → Option Fields
  | .setChannelFrequencyAck ack => some { fields with channelFreqAck := ack }
  | .setDataRateRangeAck ack => some { fields with dataRateRangeAck := ack }

def creator : CommandCreator where
  State := NewChannelAnsCreator
  Call := Call
  Failure := SetterError
  Record := Fields
  new := .new
  call := call
  read state := read #v[state.data]
  blank := ⟨false, false⟩
  update := update
  Cmd := UplinkMacCommand
  handler := inferInstance
  command state := .newChannelAns #v[state.data]
  build state := state.build.bytes
  fields
    | .newChannelAns payload => some (read payload)
    | _ => none
  built _ := rfl
  fixedLen _ := rfl
  fields_command _ := rfl

theorem faithful : creator.Faithful where
  blank := rfl
  step := by
    intro state call
    cases call with
    | setChannelFrequencyAck ack =>
        change some (read #v[(state.setChannelFrequencyAck ack).data]) =
          some { read #v[state.data] with channelFreqAck := ack }
        simp [NewChannelAnsCreator.setChannelFrequencyAck, read,
          NewChannelAnsPayload.channelFreqAck, NewChannelAnsPayload.dataRateRangeAck, Vector.get,
          flag0.read]
    | setDataRateRangeAck ack =>
        change some (read #v[(state.setDataRateRangeAck ack).data]) =
          some { read #v[state.data] with dataRateRangeAck := ack }
        simp [NewChannelAnsCreator.setDataRateRangeAck, read,
          NewChannelAnsPayload.channelFreqAck, NewChannelAnsPayload.dataRateRangeAck, Vector.get,
          flag1.read]

end NewChannelAns

namespace DlChannelAns

structure Fields where
  channelFreqAck : Bool
  uplinkFreqAck : Bool

inductive Call where
  | setChannelFrequencyAck (ack : Bool)
  | setUplinkFrequencyExistsAck (ack : Bool)

def call (state : DlChannelAnsCreator) : Call → Except SetterError DlChannelAnsCreator
  | .setChannelFrequencyAck ack => .ok (state.setChannelFrequencyAck ack)
  | .setUplinkFrequencyExistsAck ack => .ok (state.setUplinkFrequencyExistsAck ack)

def read (payload : Vector Byte 1) : Fields where
  channelFreqAck := DlChannelAnsPayload.channelFreqAck payload
  uplinkFreqAck := DlChannelAnsPayload.uplinkFreqAck payload

def update (fields : Fields) : Call → Option Fields
  | .setChannelFrequencyAck ack => some { fields with channelFreqAck := ack }
  | .setUplinkFrequencyExistsAck ack => some { fields with uplinkFreqAck := ack }

def creator : CommandCreator where
  State := DlChannelAnsCreator
  Call := Call
  Failure := SetterError
  Record := Fields
  new := .new
  call := call
  read state := read #v[state.data]
  blank := ⟨false, false⟩
  update := update
  Cmd := UplinkMacCommand
  handler := inferInstance
  command state := .dlChannelAns #v[state.data]
  build state := state.build.bytes
  fields
    | .dlChannelAns payload => some (read payload)
    | _ => none
  built _ := rfl
  fixedLen _ := rfl
  fields_command _ := rfl

theorem faithful : creator.Faithful where
  blank := rfl
  step := by
    intro state call
    cases call with
    | setChannelFrequencyAck ack =>
        change some (read #v[(state.setChannelFrequencyAck ack).data]) =
          some { read #v[state.data] with channelFreqAck := ack }
        simp [DlChannelAnsCreator.setChannelFrequencyAck, read,
          DlChannelAnsPayload.channelFreqAck, DlChannelAnsPayload.uplinkFreqAck, Vector.get,
          flag0.read]
    | setUplinkFrequencyExistsAck ack =>
        change some (read #v[(state.setUplinkFrequencyExistsAck ack).data]) =
          some { read #v[state.data] with uplinkFreqAck := ack }
        simp [DlChannelAnsCreator.setUplinkFrequencyExistsAck, read,
          DlChannelAnsPayload.channelFreqAck, DlChannelAnsPayload.uplinkFreqAck, Vector.get,
          flag1.read]

end DlChannelAns

/-! ## Remote multicast setup -/

namespace PackageVersionAns

structure Fields where
  packageIdentifier : Byte
  packageVersion : Byte

inductive Call where
  | packageIdentifier (identifier : Byte)
  | packageVersion (version : Byte)

def call (state : Octets 2) : Call → Except SetterError (Octets 2)
  | .packageIdentifier identifier =>
      .ok (Multicast.PackageVersionAnsCreator.packageIdentifier state identifier)
  | .packageVersion version =>
      .ok (Multicast.PackageVersionAnsCreator.packageVersion state version)

def read (payload : Vector Byte 2) : Fields where
  packageIdentifier := Multicast.PackageVersionAnsPayload.packageIdentifier payload
  packageVersion := Multicast.PackageVersionAnsPayload.packageVersion payload

def update (fields : Fields) : Call → Option Fields
  | .packageIdentifier identifier => some { fields with packageIdentifier := identifier }
  | .packageVersion version => some { fields with packageVersion := version }

def creator : CommandCreator where
  State := Octets 2
  Call := Call
  Failure := SetterError
  Record := Fields
  new := .new 2
  call := call
  read state := read state.data
  blank := ⟨0, 0⟩
  update := update
  Cmd := Multicast.UplinkRemoteSetup
  handler := inferInstance
  command state := .packageVersionAns state.data
  build state := 0x00 :: state.data.toList
  fields
    | .packageVersionAns payload => some (read payload)
    | _ => none
  built _ := rfl
  fixedLen _ := rfl
  fields_command _ := rfl

theorem faithful : creator.Faithful where
  blank := rfl
  step := by
    intro state call
    cases call with
    | packageIdentifier identifier =>
        change some (read (setAt state.data 0 identifier)) =
          some { read state.data with packageIdentifier := identifier }
        simp [read, Multicast.PackageVersionAnsPayload.packageIdentifier,
          Multicast.PackageVersionAnsPayload.packageVersion, get_setAt]
    | packageVersion version =>
        change some (read (setAt state.data 1 version)) =
          some { read state.data with packageVersion := version }
        simp [read, Multicast.PackageVersionAnsPayload.packageIdentifier,
          Multicast.PackageVersionAnsPayload.packageVersion, get_setAt]

end PackageVersionAns

namespace McGroupStatusReq

structure Fields where
  reqGroupMask : Byte

inductive Call where
  | reqGroupMask (mask : Byte)
  | reqGroup (group : Byte)

def call (state : Octets 1) : Call → Except SetterError (Octets 1)
  | .reqGroupMask mask => .ok (Multicast.McGroupStatusReqCreator.reqGroupMask state mask)
  | .reqGroup group => .ok (Multicast.McGroupStatusReqCreator.reqGroup state group)

def read (payload : Multicast.McGroupStatusReqPayload) : Fields where
  reqGroupMask := payload.reqGroupMask

def groupBit (group : Byte) : Byte := 1 <<< (group &&& 0b11)

/-- A mask is four bits wide; asking for a group sets its bit. -/
def update (fields : Fields) : Call → Option Fields
  | .reqGroupMask mask => some { reqGroupMask := mask &&& 0b1111 }
  | .reqGroup group => some { reqGroupMask := fields.reqGroupMask ||| groupBit group }

def creator : CommandCreator where
  State := Octets 1
  Call := Call
  Failure := SetterError
  Record := Fields
  new := .new 1
  call := call
  read state := read ⟨state.data⟩
  blank := ⟨0⟩
  update := update
  Cmd := Multicast.DownlinkRemoteSetup
  handler := inferInstance
  command state := .mcGroupStatusReq ⟨state.data⟩
  build state := 0x01 :: state.data.toList
  fields
    | .mcGroupStatusReq payload => some (read payload)
    | _ => none
  built _ := rfl
  fixedLen _ := rfl
  fields_command _ := rfl

theorem groupBit_low : ∀ group : Byte, groupBit group &&& 0b1111 = groupBit group := by
  decide +kernel

theorem faithful : creator.Faithful where
  blank := rfl
  step := by
    intro state call
    cases call with
    | reqGroupMask mask =>
        have twice : (mask &&& 0x0f) &&& 0x0f = mask &&& 0x0f := by
          rw [UInt8.and_assoc, UInt8.and_self]
        have set := low_set (state.data.get 0) (mask &&& 0x0f)
        rw [twice] at set
        change some (read ⟨setAt state.data 0 ((state.data.get 0 &&& 0xf0) ||| (mask &&& 0x0f))⟩) =
          some ⟨mask &&& 0x0f⟩
        simp [read, Multicast.McGroupStatusReqPayload.reqGroupMask, get_setAt, set]
    | reqGroup group =>
        change some (read ⟨setAt state.data 0 (state.data.get 0 ||| groupBit group)⟩) =
          some ⟨(read ⟨state.data⟩).reqGroupMask ||| groupBit group⟩
        simp [read, Multicast.McGroupStatusReqPayload.reqGroupMask, get_setAt, low_or, groupBit_low]

end McGroupStatusReq

namespace McGroupSetupReq

open LoraRs.Encoding.Multicast

structure Fields where
  mcGroupIdHeader : Fin maxGroups
  mcAddr : McAddr
  mcKey : McKey
  minMcFcount : UInt32
  maxMcFcount : UInt32

inductive Call where
  | mcGroupIdHeader (header : Byte)
  | mcAddr (addr : McAddr)
  | mcKey (key : McKey)
  | minMcFcount (fcount : UInt32)
  | maxMcFcount (fcount : UInt32)

variable (crypto : NetworkCrypto)

def call (state : Octets 29) : Call → Except SetterError (Octets 29)
  | .mcGroupIdHeader header => .ok (McGroupSetupReqCreator.mcGroupIdHeader state header)
  | .mcAddr addr => .ok (McGroupSetupReqCreator.mcAddr state addr)
  | .mcKey key => .ok (McGroupSetupReqCreator.mcKey state crypto key)
  | .minMcFcount fcount => .ok (McGroupSetupReqCreator.minMcFcount state fcount)
  | .maxMcFcount fcount => .ok (McGroupSetupReqCreator.maxMcFcount state fcount)

def read (payload : McGroupSetupReqPayload) : Fields where
  mcGroupIdHeader := payload.mcGroupIdHeader
  mcAddr := payload.mcAddr
  mcKey := payload.mcKeyDecrypted crypto.toCrypto
  minMcFcount := payload.minMcFcount
  maxMcFcount := payload.maxMcFcount

/-- A group id is two bits wide. -/
def update (fields : Fields) : Call → Option Fields
  | .mcGroupIdHeader header => some { fields with mcGroupIdHeader := groupId header }
  | .mcAddr addr => some { fields with mcAddr := addr }
  | .mcKey key => some { fields with mcKey := key }
  | .minMcFcount fcount => some { fields with minMcFcount := fcount }
  | .maxMcFcount fcount => some { fields with maxMcFcount := fcount }

/-- The key that is never set is what the zero block decrypts to. -/
def creator : CommandCreator where
  State := Octets 29
  Call := Call
  Failure := SetterError
  Record := Fields
  new := .new 29
  call := call crypto
  read state := read crypto ⟨state.data⟩
  blank := ⟨0, ⟨#v[0, 0, 0, 0]⟩, ⟨crypto.encryptBlock (Vector.replicate 16 0)⟩, 0, 0⟩
  update := update
  Cmd := DownlinkRemoteSetup
  handler := inferInstance
  command state := .mcGroupSetupReq ⟨state.data⟩
  build state := 0x02 :: state.data.toList
  fields
    | .mcGroupSetupReq payload => some (read crypto payload)
    | _ => none
  built _ := rfl
  fixedLen _ := rfl
  fields_command _ := rfl

variable {crypto}

/-! What the readers take of octets that were written. -/

theorem key_set (octets : Vector Byte 29) (header : Byte) :
    McGroupSetupReqPayload.mcKeyEncrypted ⟨setAt octets 0 header⟩ =
      McGroupSetupReqPayload.mcKeyEncrypted ⟨octets⟩ := by
  apply Vector.ext
  intro i inside
  have apart : ¬ 0 = 5 + i := by omega
  simp [McGroupSetupReqPayload.mcKeyEncrypted, getElem_setAt, apart]

theorem key_apart (octets : Vector Byte 29) {start m : Nat} (data : Vector Byte m)
    (apart : start + m ≤ 5 ∨ 21 ≤ start) :
    McGroupSetupReqPayload.mcKeyEncrypted ⟨overwrite octets start data⟩ =
      McGroupSetupReqPayload.mcKeyEncrypted ⟨octets⟩ := by
  apply Vector.ext
  intro i inside
  have outside : ¬ (start ≤ 5 + i ∧ 5 + i < start + m) := by omega
  simp [McGroupSetupReqPayload.mcKeyEncrypted, getElem_overwrite, outside]

theorem key_written (octets : Vector Byte 29) (block : Block) :
    McGroupSetupReqPayload.mcKeyEncrypted ⟨overwrite octets 5 block⟩ = block := by
  apply Vector.ext
  intro i inside
  have within : 5 + i < 21 := by omega
  simp [McGroupSetupReqPayload.mcKeyEncrypted, getElem_overwrite, within]

theorem faithful (inverse : ∀ block, crypto.encryptBlock (crypto.decryptBlock block) = block) :
    (creator crypto).Faithful where
  blank := by
    have zero : McGroupSetupReqPayload.mcKeyEncrypted ⟨Vector.replicate 29 0⟩ =
        Vector.replicate 16 0 := by decide +kernel
    change read crypto ⟨Vector.replicate 29 0⟩ = _
    simp only [read, McGroupSetupReqPayload.mcKeyDecrypted, zero]
    rfl
  step := by
    intro state call
    cases call with
    | mcGroupIdHeader header =>
        change some (read crypto ⟨setAt state.data 0 header⟩) =
          some { read crypto ⟨state.data⟩ with mcGroupIdHeader := groupId header }
        simp [read, McGroupSetupReqPayload.mcGroupIdHeader, McGroupSetupReqPayload.mcAddr,
          McGroupSetupReqPayload.mcKeyDecrypted, McGroupSetupReqPayload.minMcFcount,
          McGroupSetupReqPayload.maxMcFcount, key_set, getElem_setAt]
    | mcAddr addr =>
        have key := key_apart state.data addr.bytes (.inl (by decide : 1 + 4 ≤ 5))
        have back : (⟨#v[addr.bytes[0], addr.bytes[1], addr.bytes[2], addr.bytes[3]]⟩ : McAddr) =
            addr := congrArg McAddr.mk (toVector_four addr.bytes)
        change some (read crypto ⟨overwrite state.data 1 addr.bytes⟩) =
          some { read crypto ⟨state.data⟩ with mcAddr := addr }
        simp [read, McGroupSetupReqPayload.mcGroupIdHeader, McGroupSetupReqPayload.mcAddr,
          McGroupSetupReqPayload.mcKeyDecrypted, McGroupSetupReqPayload.minMcFcount,
          McGroupSetupReqPayload.maxMcFcount, getElem_overwrite, key, back]
    | mcKey key =>
        change some (read crypto ⟨overwrite state.data 5 (crypto.decryptBlock key.inner)⟩) =
          some { read crypto ⟨state.data⟩ with mcKey := key }
        simp [read, McGroupSetupReqPayload.mcGroupIdHeader, McGroupSetupReqPayload.mcAddr,
          McGroupSetupReqPayload.mcKeyDecrypted, McGroupSetupReqPayload.minMcFcount,
          McGroupSetupReqPayload.maxMcFcount, getElem_overwrite, key_written, inverse]
    | minMcFcount fcount =>
        have key := key_apart state.data (leU32 fcount) (.inr (by decide : 21 ≤ 21))
        have back : ofLeU32 (leU32 fcount)[0] (leU32 fcount)[1] (leU32 fcount)[2]
            (leU32 fcount)[3] = fcount := ofLeU32_leU32 fcount
        change some (read crypto ⟨overwrite state.data 21 (leU32 fcount)⟩) =
          some { read crypto ⟨state.data⟩ with minMcFcount := fcount }
        simp [read, McGroupSetupReqPayload.mcGroupIdHeader, McGroupSetupReqPayload.mcAddr,
          McGroupSetupReqPayload.mcKeyDecrypted, McGroupSetupReqPayload.minMcFcount,
          McGroupSetupReqPayload.maxMcFcount, getElem_overwrite, key, back]
    | maxMcFcount fcount =>
        have key := key_apart state.data (leU32 fcount) (.inr (by decide : 21 ≤ 25))
        have back : ofLeU32 (leU32 fcount)[0] (leU32 fcount)[1] (leU32 fcount)[2]
            (leU32 fcount)[3] = fcount := ofLeU32_leU32 fcount
        change some (read crypto ⟨overwrite state.data 25 (leU32 fcount)⟩) =
          some { read crypto ⟨state.data⟩ with maxMcFcount := fcount }
        simp [read, McGroupSetupReqPayload.mcGroupIdHeader, McGroupSetupReqPayload.mcAddr,
          McGroupSetupReqPayload.mcKeyDecrypted, McGroupSetupReqPayload.minMcFcount,
          McGroupSetupReqPayload.maxMcFcount, getElem_overwrite, key, back]

end McGroupSetupReq

theorem groupId_set (b header : Byte) :
    ((b &&& 0b11111100) ||| (header &&& 0b11)) &&& 0b11 = header &&& 0b11 := by
  apply eq_of_bits
  intro i small
  interval_cases i <;> simp

namespace McGroupSetupAns

structure Fields where
  mcGroupIdHeader : Byte

inductive Call where
  | mcGroupIdHeader (header : Byte)

def call (state : Octets 1) : Call → Except SetterError (Octets 1)
  | .mcGroupIdHeader header => .ok (Multicast.McGroupSetupAnsCreator.mcGroupIdHeader state header)

def read (payload : Vector Byte 1) : Fields where
  mcGroupIdHeader := Multicast.McGroupSetupAnsPayload.mcGroupIdHeader payload

/-- A group id is two bits wide. -/
def update (_ : Fields) : Call → Option Fields
  | .mcGroupIdHeader header => some { mcGroupIdHeader := header &&& 0b11 }

def creator : CommandCreator where
  State := Octets 1
  Call := Call
  Failure := SetterError
  Record := Fields
  new := .new 1
  call := call
  read state := read state.data
  blank := ⟨0⟩
  update := update
  Cmd := Multicast.UplinkRemoteSetup
  handler := inferInstance
  command state := .mcGroupSetupAns state.data
  build state := 0x02 :: state.data.toList
  fields
    | .mcGroupSetupAns payload => some (read payload)
    | _ => none
  built _ := rfl
  fixedLen _ := rfl
  fields_command _ := rfl

theorem faithful : creator.Faithful where
  blank := rfl
  step := by
    intro state call
    cases call with
    | mcGroupIdHeader header =>
        change some (read (Multicast.setAnsGroupId state header).data) = some ⟨header &&& 0b11⟩
        simp [Multicast.setAnsGroupId, read, Multicast.McGroupSetupAnsPayload.mcGroupIdHeader,
          get_setAt, groupId_set]

end McGroupSetupAns

namespace McGroupDeleteAns

structure Fields where
  mcGroupIdHeader : Byte
  mcGroupUndefined : Bool

inductive Call where
  | mcGroupIdHeader (header : Byte)
  | mcGroupUndefined (undefinedGroup : Bool)

def call (state : Octets 1) : Call → Except SetterError (Octets 1)
  | .mcGroupIdHeader header => .ok (Multicast.McGroupDeleteAnsCreator.mcGroupIdHeader state header)
  | .mcGroupUndefined undefinedGroup =>
      .ok (Multicast.McGroupDeleteAnsCreator.mcGroupUndefined state undefinedGroup)

def read (payload : Vector Byte 1) : Fields where
  mcGroupIdHeader := Multicast.McGroupDeleteAnsPayload.mcGroupIdHeader payload
  mcGroupUndefined := Multicast.McGroupDeleteAnsPayload.mcGroupUndefined payload

/-- A group id is two bits wide. -/
def update (fields : Fields) : Call → Option Fields
  | .mcGroupIdHeader header => some { fields with mcGroupIdHeader := header &&& 0b11 }
  | .mcGroupUndefined undefinedGroup => some { fields with mcGroupUndefined := undefinedGroup }

def creator : CommandCreator where
  State := Octets 1
  Call := Call
  Failure := SetterError
  Record := Fields
  new := .new 1
  call := call
  read state := read state.data
  blank := ⟨0, false⟩
  update := update
  Cmd := Multicast.UplinkRemoteSetup
  handler := inferInstance
  command state := .mcGroupDeleteAns state.data
  build state := 0x03 :: state.data.toList
  fields
    | .mcGroupDeleteAns payload => some (read payload)
    | _ => none
  built _ := rfl
  fixedLen _ := rfl
  fields_command _ := rfl

theorem flag_of_set (b header : Byte) :
    ((b &&& 0b11111100) ||| (header &&& 0b11)) &&& 0b100 = b &&& 0b100 := by
  apply eq_of_bits
  intro i small
  interval_cases i <;> simp

theorem flag_on (b : Byte) :
    (b ||| 0b100) &&& 0b100 = 0b100 ∧ (b ||| 0b100) &&& 0b11 = b &&& 0b11 := by
  constructor
  · apply eq_of_bits
    intro i small
    interval_cases i <;> simp
  · apply eq_of_bits
    intro i small
    interval_cases i <;> simp

theorem flag_off (b : Byte) :
    (b &&& 0b11111011) &&& 0b100 = 0 ∧ (b &&& 0b11111011) &&& 0b11 = b &&& 0b11 := by
  constructor
  · apply eq_of_bits
    intro i small
    interval_cases i <;> simp
  · apply eq_of_bits
    intro i small
    interval_cases i <;> simp

theorem faithful : creator.Faithful where
  blank := rfl
  step := by
    intro state call
    cases call with
    | mcGroupIdHeader header =>
        change some (read (Multicast.setAnsGroupId state header).data) =
          some { read state.data with mcGroupIdHeader := header &&& 0b11 }
        simp [Multicast.setAnsGroupId, read, Multicast.McGroupDeleteAnsPayload.mcGroupIdHeader,
          Multicast.McGroupDeleteAnsPayload.mcGroupUndefined, get_setAt, groupId_set, flag_of_set]
    | mcGroupUndefined undefinedGroup =>
        cases undefinedGroup with
        | true =>
            change some (read (setAt state.data 0 (state.data.get 0 ||| 0b100))) =
              some { read state.data with mcGroupUndefined := true }
            simp [read, Multicast.McGroupDeleteAnsPayload.mcGroupIdHeader,
              Multicast.McGroupDeleteAnsPayload.mcGroupUndefined, get_setAt, flag_on]
        | false =>
            change some (read (setAt state.data 0 (state.data.get 0 &&& 0b11111011))) =
              some { read state.data with mcGroupUndefined := false }
            simp [read, Multicast.McGroupDeleteAnsPayload.mcGroupIdHeader,
              Multicast.McGroupDeleteAnsPayload.mcGroupUndefined, get_setAt, flag_off]

end McGroupDeleteAns

namespace McGroupDeleteReq

structure Fields where
  mcGroupIdHeader : Fin Multicast.maxGroups

inductive Call where
  | mcGroupIdHeader (header : Byte)
  deriving DecidableEq

def call (state : Octets 1) : Call → Except SetterError (Octets 1)
  | .mcGroupIdHeader header => .ok (Multicast.McGroupDeleteReqCreator.mcGroupIdHeader state header)

def read (payload : Multicast.McGroupDeleteReqPayload) : Fields where
  mcGroupIdHeader := payload.mcGroupIdHeader

/-- A group id is two bits wide. -/
def update (_ : Fields) : Call → Option Fields
  | .mcGroupIdHeader header => some { mcGroupIdHeader := Multicast.groupId header }

def creator : CommandCreator where
  State := Octets 1
  Call := Call
  Failure := SetterError
  Record := Fields
  new := .new 1
  call := call
  read state := read ⟨state.data⟩
  blank := ⟨0⟩
  update := update
  Cmd := Multicast.DownlinkRemoteSetup
  handler := inferInstance
  command state := .mcGroupDeleteReq ⟨state.data⟩
  build state := 0x03 :: state.data.toList
  fields
    | .mcGroupDeleteReq payload => some (read payload)
    | _ => none
  built _ := rfl
  fixedLen _ := rfl
  fields_command _ := rfl

def headers (calls : List Call) : List Byte := calls.map fun | .mcGroupIdHeader header => header

/-- No header before the last has a bit that the last one lacks. -/
def Covered (calls : List Call) : Prop :=
  ∀ front final, headers calls = front ++ [final] →
    ∀ header ∈ front, (header ||| final) &&& 0b11 = final &&& 0b11

def added (octet header : Byte) : Byte := octet ||| (header &&& 0b11)

theorem or_le_iff (a b c : Byte) : a ||| b ||| c = c ↔ a ||| c = c ∧ b ||| c = c := by
  constructor
  · intro both
    have first : a ||| (a ||| b ||| c) = a ||| b ||| c := by
      rw [← UInt8.or_assoc, ← UInt8.or_assoc, UInt8.or_self]
    have second : b ||| (a ||| b ||| c) = a ||| b ||| c := by
      rw [UInt8.or_comm a b, ← UInt8.or_assoc, ← UInt8.or_assoc, UInt8.or_self]
    rw [both] at first second
    exact ⟨first, second⟩
  · rintro ⟨first, second⟩
    rw [UInt8.or_assoc, second, first]

theorem foldl_added_le_iff (front : List Byte) (octet c : Byte) :
    front.foldl added octet ||| c = c ↔
      octet ||| c = c ∧ ∀ header ∈ front, (header &&& 0b11) ||| c = c := by
  induction front generalizing octet with
  | nil => simp
  | cons header rest ih =>
      rw [List.foldl_cons, ih, added, or_le_iff, List.forall_mem_cons, and_assoc]

theorem run_octet (calls : List Call) :
    (creator.run calls).data.get 0 = (headers calls).foldl added 0 := by
  have general : ∀ state : Octets 1,
      (calls.foldl creator.after state).data.get 0 =
        (headers calls).foldl added (state.data.get 0) := by
    induction calls with
    | nil =>
        intro state
        rfl
    | cons call rest ih =>
        intro state
        cases call with
        | mcGroupIdHeader header =>
            have first : (creator.after state (.mcGroupIdHeader header)).data.get 0 =
                added (state.data.get 0) header :=
              (get_setAt state.data 0 (added (state.data.get 0) header) 0).trans
                (if_pos rfl)
            exact (ih _).trans (congrArg (fun octet => (headers rest).foldl added octet) first)
  exact general (.new 1)

theorem low_or_two (a b : Byte) : (a ||| b) &&& 0b11 = (a &&& 0b11) ||| (b &&& 0b11) := by
  apply eq_of_bits
  intro i small
  interval_cases i <;> simp

theorem low_foldl_added (front : List Byte) (octet : Byte) (low : octet &&& 0b11 = octet) :
    front.foldl added octet &&& 0b11 = front.foldl added octet := by
  induction front generalizing octet with
  | nil => exact low
  | cons header rest ih =>
      apply ih
      rw [added, low_or_two, low, UInt8.and_assoc, UInt8.and_self]

theorem groupId_eq_iff (a b : Byte) :
    Multicast.groupId a = Multicast.groupId b ↔ a &&& 0b11 = b &&& 0b11 := by
  rw [Fin.ext_iff]
  exact UInt8.toNat_inj

theorem groupId_last_iff (front : List Byte) (final : Byte) :
    Multicast.groupId ((front ++ [final]).foldl added 0) = Multicast.groupId final ↔
      ∀ header ∈ front, (header ||| final) &&& 0b11 = final &&& 0b11 := by
  rw [groupId_eq_iff, low_foldl_added _ 0 (by decide), List.foldl_append]
  change front.foldl added 0 ||| (final &&& 0b11) = final &&& 0b11 ↔ _
  rw [foldl_added_le_iff, UInt8.zero_or]
  simp only [low_or_two, true_and]

theorem read_append (front : List Call) (final : Byte) :
    creator.read (creator.run (front ++ [.mcGroupIdHeader final])) =
        creator.recorded (front ++ [.mcGroupIdHeader final]) ↔
      Multicast.groupId ((headers front ++ [final]).foldl added 0) = Multicast.groupId final := by
  have octet := run_octet (front ++ [.mcGroupIdHeader final])
  have all : headers (front ++ [.mcGroupIdHeader final]) = headers front ++ [final] :=
    List.map_append
  have held : creator.recorded (front ++ [.mcGroupIdHeader final]) =
      ⟨Multicast.groupId final⟩ := List.foldl_append
  have read : creator.read (creator.run (front ++ [.mcGroupIdHeader final])) =
      ⟨Multicast.groupId ((headers front ++ [final]).foldl added 0)⟩ := by
    rw [← all, ← octet]
    rfl
  rw [held, read]
  exact ⟨congrArg Fields.mcGroupIdHeader, congrArg Fields.mk⟩

theorem agrees_iff (calls : List Call) : creator.Agrees calls ↔ Covered calls := by
  have accepted : ∀ front call rest, calls = front ++ call :: rest →
      ((creator.call (creator.run front) call).toOption.isSome ↔
        (creator.update (creator.recorded front) call).isSome) := by
    intro front call rest _
    cases call
    exact iff_of_true rfl rfl
  have agrees : creator.Agrees calls ↔
      creator.read (creator.run calls) = creator.recorded calls :=
    ⟨fun holds => holds.read, fun read => ⟨read, accepted⟩⟩
  rw [agrees]
  rcases List.eq_nil_or_concat calls with empty | ⟨front, last, parts⟩
  · subst empty
    refine iff_of_true rfl ?_
    intro front final nothing
    cases front <;> cases nothing
  · cases last with
    | mcGroupIdHeader final =>
        subst parts
        rw [List.concat_eq_append]
        have all : headers (front ++ [.mcGroupIdHeader final]) = headers front ++ [final] :=
          List.map_append
        refine (read_append front final).trans ((groupId_last_iff _ final).trans ?_)
        constructor
        · intro covered other otherFinal same
          rw [all] at same
          obtain ⟨rfl, last⟩ := List.append_inj' same rfl
          cases last
          exact covered
        · intro covered
          exact covered _ final all

end McGroupDeleteReq

/-! ## The answer of variable length -/

namespace McGroupStatusAns

open LoraRs.Encoding.Multicast

/-- The answer reads back as it was built; no push is ever refused, so that every group
pushed is one of the four there can be. -/
structure ReadsBack (calls : List StatusCall) : Prop where
  parsed : ∃ creator payload, made calls = .ok creator ∧
    MacCommands.results creator.build = [.ok (UplinkRemoteSetup.mcGroupStatusAns payload)] ∧
    McGroupStatusAnsBytes.Reads ⟨payload.bytes⟩ (· ∈ ids (pushes calls)) (totalOf calls)
      (pushes calls)
  refused : ∀ id ∈ ids (pushes calls), id < maxGroups

theorem items_counted {payload : McGroupStatusAnsPayload} {groups : Nat → Prop} {total : Byte}
    {items : List (Byte × McAddr)}
    (reads : McGroupStatusAnsBytes.Reads ⟨payload.bytes⟩ groups total items) :
    items.length = countOnes (payload.status &&& 0b1111) := by
  obtain ⟨iter, started, yields⟩ := reads.items
  obtain ⟨octets, cutOff, rest⟩ := Checked.bind_eq_ok_iff.mp started
  cases rest
  have inside : 1 ≤ payload.bytes.length ∧ payload.bytes.length ≤ payload.bytes.length :=
    ⟨Nat.succ_pos _, Nat.le_refl _⟩
  rw [Bytes.cut_eq inside] at cutOff
  have size := congrArg List.length (Except.ok.inj cutOff)
  rw [Bytes.slice_length, McGroupStatusAnsPayload.bytes, List.length_cons, payload.complete,
    requiredLen] at size
  have counted := yields.length_eq
  simp only [← size] at counted
  omega

theorem countOnes_mask {mask : Byte} {items : List (Byte × McAddr)}
    (bits : ∀ i, mask.toNat.testBit i = true ↔ i ∈ ids items)
    (known : ∀ id ∈ ids items, id < maxGroups) : countOnes mask = (ids items).dedup.length := by
  rw [countOnes, List.countP_eq_length_filter]
  apply List.Perm.length_eq
  apply (List.perm_ext_iff_of_nodup (List.nodup_range.filter _) (List.nodup_dedup _)).mpr
  intro i
  rw [List.mem_filter, List.mem_range, List.mem_dedup, bits]
  constructor
  · rintro ⟨_, member⟩
    exact member
  · intro member
    exact ⟨Nat.lt_trans (known i member) (by decide), member⟩

theorem readsBack_iff (calls : List StatusCall) : ReadsBack calls ↔ Distinct (pushes calls) := by
  constructor
  · rintro ⟨⟨creator, payload, _, _, reads⟩, known⟩
    refine ⟨?_, known⟩
    have counted := items_counted reads
    obtain ⟨mask, read, bits⟩ := reads.mask
    have same : mask = payload.status &&& 0b1111 := (Except.ok.inj read).symm
    rw [← same, countOnes_mask bits known, ← List.length_map (fun item => item.1.toNat)] at counted
    have whole := (List.dedup_sublist (ids (pushes calls))).eq_of_length counted.symm
    rw [← whole]
    exact List.nodup_dedup _
  · intro distinct
    obtain ⟨creator, payload, success, parsed, reads⟩ := comesBack calls distinct []
    rw [List.append_nil] at parsed
    exact ⟨⟨creator, payload, success, parsed, reads⟩, distinct.known⟩

end McGroupStatusAns

/-! ## All the commands -/

/-- The commands of fixed length whose creator has setters and whose payload has readers. -/
inductive CommandName where
  | linkCheckAns
  | linkADRReq
  | dutyCycleReq
  | rxParamSetupReq
  | newChannelReq
  | rxTimingSetupReq
  | txParamSetupReq
  | dlChannelReq
  | deviceTimeAns
  | linkADRAns
  | rxParamSetupAns
  | devStatusAns
  | newChannelAns
  | dlChannelAns
  | packageVersionAns
  | mcGroupStatusReq
  | mcGroupSetupReq
  | mcGroupDeleteReq
  | mcGroupSetupAns
  | mcGroupDeleteAns
  deriving DecidableEq

/-- `crypto` is bound to the McKEKey. -/
def creatorOf (crypto : NetworkCrypto) : CommandName → CommandCreator
  | .linkCheckAns => LinkCheckAns.creator
  | .linkADRReq => LinkADRReq.creator
  | .dutyCycleReq => DutyCycleReq.creator
  | .rxParamSetupReq => RXParamSetupReq.creator
  | .newChannelReq => NewChannelReq.creator
  | .rxTimingSetupReq => RXTimingSetupReq.creator
  | .txParamSetupReq => TXParamSetupReq.creator
  | .dlChannelReq => DlChannelReq.creator
  | .deviceTimeAns => DeviceTimeAns.creator
  | .linkADRAns => LinkADRAns.creator
  | .rxParamSetupAns => RXParamSetupAns.creator
  | .devStatusAns => DevStatusAns.creator
  | .newChannelAns => NewChannelAns.creator
  | .dlChannelAns => DlChannelAns.creator
  | .packageVersionAns => PackageVersionAns.creator
  | .mcGroupStatusReq => McGroupStatusReq.creator
  | .mcGroupSetupReq => McGroupSetupReq.creator crypto
  | .mcGroupDeleteReq => McGroupDeleteReq.creator
  | .mcGroupSetupAns => McGroupSetupAns.creator
  | .mcGroupDeleteAns => McGroupDeleteAns.creator

/-- The calls after which a command reads back as it was set: any calls, but for two
commands. -/
def Faultless (crypto : NetworkCrypto) :
    (name : CommandName) → List (creatorOf crypto name).Call → Prop
  | .deviceTimeAns, calls =>
      DeviceTimeAns.BelowSecond calls ∧ DeviceTimeAns.SameBothWays (DeviceTimeAns.lastSeconds calls)
  | .mcGroupDeleteReq, calls => McGroupDeleteReq.Covered calls
  | _, _ => True

theorem readsBack_of_faithful {creator : CommandCreator} (faithful : creator.Faithful)
    (calls : List creator.Call) : creator.ReadsBack calls ↔ True :=
  iff_true_intro ((creator.readsBack_iff calls).mpr (faithful.agrees calls))

/-- After which calls of their creators the commands read back as they were set. -/
theorem creators_read_back (crypto : NetworkCrypto)
    (inverse : ∀ block, crypto.encryptBlock (crypto.decryptBlock block) = block) :
    (∀ name calls, (creatorOf crypto name).ReadsBack calls ↔ Faultless crypto name calls) ∧
      ∀ calls, McGroupStatusAns.ReadsBack calls ↔ Multicast.Distinct (Multicast.pushes calls) := by
  refine ⟨?_, McGroupStatusAns.readsBack_iff⟩
  intro name calls
  cases name with
  | linkCheckAns => exact readsBack_of_faithful LinkCheckAns.faithful calls
  | linkADRReq => exact readsBack_of_faithful LinkADRReq.faithful calls
  | dutyCycleReq => exact readsBack_of_faithful DutyCycleReq.faithful calls
  | rxParamSetupReq => exact readsBack_of_faithful RXParamSetupReq.faithful calls
  | newChannelReq => exact readsBack_of_faithful NewChannelReq.faithful calls
  | rxTimingSetupReq => exact readsBack_of_faithful RXTimingSetupReq.faithful calls
  | txParamSetupReq => exact readsBack_of_faithful TXParamSetupReq.faithful calls
  | dlChannelReq => exact readsBack_of_faithful DlChannelReq.faithful calls
  | deviceTimeAns =>
      exact (DeviceTimeAns.creator.readsBack_iff calls).trans (DeviceTimeAns.agrees_iff calls)
  | linkADRAns => exact readsBack_of_faithful LinkADRAns.faithful calls
  | rxParamSetupAns => exact readsBack_of_faithful RXParamSetupAns.faithful calls
  | devStatusAns => exact readsBack_of_faithful DevStatusAns.faithful calls
  | newChannelAns => exact readsBack_of_faithful NewChannelAns.faithful calls
  | dlChannelAns => exact readsBack_of_faithful DlChannelAns.faithful calls
  | packageVersionAns => exact readsBack_of_faithful PackageVersionAns.faithful calls
  | mcGroupStatusReq => exact readsBack_of_faithful McGroupStatusReq.faithful calls
  | mcGroupSetupReq => exact readsBack_of_faithful (McGroupSetupReq.faithful inverse) calls
  | mcGroupDeleteReq =>
      exact (McGroupDeleteReq.creator.readsBack_iff calls).trans (McGroupDeleteReq.agrees_iff calls)
  | mcGroupSetupAns => exact readsBack_of_faithful McGroupSetupAns.faithful calls
  | mcGroupDeleteAns => exact readsBack_of_faithful McGroupDeleteAns.faithful calls

namespace CreatorSample

def time : List DeviceTimeAns.Call := [.setSeconds 123456, .setNanoSeconds 123456789]

def powers : List TXParamSetupReq.Call :=
  [.setMaxEirp 3, .setDownlinkDwellTime true, .setMaxEirp 17, .setUplinkDwellTime false]

theorem creators_read_back_powers :
    (creatorOf Sample.networkCrypto .txParamSetupReq).ReadsBack powers :=
  ((creators_read_back Sample.networkCrypto Sample.networkCrypto_inverse).1
    .txParamSetupReq powers).mpr trivial

end CreatorSample

/-- The seconds of a time answer are written from the first octet and read from the last. -/
theorem seconds_read_backwards : ¬ DeviceTimeAns.creator.ReadsBack CreatorSample.time := by
  intro back
  have read := ((DeviceTimeAns.creator.readsBack_iff _).mp back).read
  have seconds := congrArg DeviceTimeAns.Fields.seconds read
  revert seconds
  decide +kernel

end LoraRs.Encoding
