import LoraRs.Encoding.Keys
import LoraRs.Lib.Bytes

/-!
# MAC command streams

The iterator over a command stream, the two MAC command sets and the creators of
the device's answers, from `lorawan-encoding/src/maccommands.rs`,
`maccommandcreator.rs` and the framing that `lorawan-macros` derives.  A command
set says how one command is taken off the front of non-empty data; the iterator
ends with the first error.
-/

set_option autoImplicit false

namespace LoraRs.Encoding

open LoraRs.Lib

inductive ParseError where
  | unknownCid (cid : Byte)
  | truncated (cid : Byte)
  deriving DecidableEq, Repr

/-- `MacCommandSet`: parses the command whose CID is given from the bytes after the
CID, and says how many bytes, CID included, it took. -/
class MacCommandSet (Cmd : Type) where
  parseOne : Byte → List Byte → Except ParseError (Cmd × Nat)
  consumed : ∀ {cid : Byte} {rest : List Byte} {cmd : Cmd} {n : Nat},
    parseOne cid rest = .ok (cmd, n) → 1 ≤ n ∧ n ≤ 1 + rest.length

namespace MacCommandSet

variable {Cmd : Type}

def fixed (cid : Byte) (len : Nat) (rest : List Byte) (build : Vector Byte len → Cmd) :
    Except ParseError (Cmd × Nat) :=
  if short : rest.length < len then .error (.truncated cid)
  else .ok (build (Bytes.arr len (rest.take len) (by
    rw [List.length_take]
    omega)), 1 + len)

/-- The arm of a command that takes all the data there is, at least one byte. -/
def toEnd (cid : Byte) (rest : List Byte)
    (build : (payload : List Byte) → payload ≠ [] → Cmd) : Except ParseError (Cmd × Nat) :=
  if empty : rest = [] then .error (.truncated cid)
  else .ok (build rest empty, 1 + rest.length)

theorem fixed_eq_ok {cid : Byte} {len : Nat} {rest : List Byte}
    {build : Vector Byte len → Cmd} {cmd : Cmd} {n : Nat}
    (success : fixed cid len rest build = .ok (cmd, n)) : ∃ payload, cmd = build payload := by
  unfold fixed at success
  split at success
  · cases success
  · cases success
    exact ⟨_, rfl⟩

theorem toEnd_eq_ok {cid : Byte} {rest : List Byte}
    {build : (payload : List Byte) → payload ≠ [] → Cmd} {cmd : Cmd} {n : Nat}
    (success : toEnd cid rest build = .ok (cmd, n)) :
    ∃ nonempty : rest ≠ [], cmd = build rest nonempty := by
  unfold toEnd at success
  split at success
  · cases success
  · rename_i nonempty
    cases success
    exact ⟨nonempty, rfl⟩

theorem fixed_consumed {cid : Byte} {len : Nat} {rest : List Byte}
    {build : Vector Byte len → Cmd} {cmd : Cmd} {n : Nat}
    (success : fixed cid len rest build = .ok (cmd, n)) : 1 ≤ n ∧ n ≤ 1 + rest.length := by
  unfold fixed at success
  split at success
  · cases success
  · cases success
    omega

theorem toEnd_consumed {cid : Byte} {rest : List Byte}
    {build : (payload : List Byte) → payload ≠ [] → Cmd} {cmd : Cmd} {n : Nat}
    (success : toEnd cid rest build = .ok (cmd, n)) : 1 ≤ n ∧ n ≤ 1 + rest.length := by
  unfold toEnd at success
  split at success
  · cases success
  · cases success
    omega

end MacCommandSet

namespace MacCommands

variable {Cmd : Type} [MacCommandSet Cmd]

/-- What the iterator yields over `data`, in at most `fuel` calls that yield. -/
def collect : Nat → List Byte → List (Except ParseError Cmd)
  | 0, _ => []
  | _ + 1, [] => []
  | fuel + 1, cid :: rest =>
      match MacCommandSet.parseOne cid rest with
      | .ok (cmd, consumed) => .ok cmd :: collect fuel ((cid :: rest).drop consumed)
      | .error e => [.error e]

/-- The whole stream: every command takes at least its CID. -/
def results (data : List Byte) : List (Except ParseError Cmd) := collect data.length data

/-- `cmds.filter_map(Result::ok)`: the well-formed commands. -/
def oks (data : List Byte) : List Cmd :=
  (results data).filterMap fun
    | .ok cmd => some cmd
    | .error _ => none

theorem collect_fuel (fuel : Nat) (data : List Byte) (enough : data.length ≤ fuel) :
    (collect fuel data : List (Except ParseError Cmd)) = results data := by
  have general : ∀ (first second : Nat) (data : List Byte), data.length ≤ first →
      data.length ≤ second →
      (collect first data : List (Except ParseError Cmd)) = collect second data := by
    intro first
    induction first with
    | zero =>
        intro second data short _
        have empty : data = [] := List.eq_nil_of_length_eq_zero (by omega)
        subst empty
        cases second <;> rfl
    | succ first ih =>
        intro second data firstEnough secondEnough
        cases data with
        | nil => cases second <;> rfl
        | cons cid rest =>
            cases second with
            | zero => cases secondEnough
            | succ second =>
                simp only [collect]
                cases parsed : (MacCommandSet.parseOne cid rest : Except ParseError (Cmd × Nat)) with
                | error e => rfl
                | ok found =>
                    obtain ⟨cmd, n⟩ := found
                    have taken := MacCommandSet.consumed parsed
                    simp only [List.length_cons] at firstEnough secondEnough
                    simp only
                    rw [ih second]
                    · simp only [List.length_drop, List.length_cons]
                      omega
                    · simp only [List.length_drop, List.length_cons]
                      omega
  exact general fuel data.length data enough (Nat.le_refl _)

@[simp] theorem results_nil : (results [] : List (Except ParseError Cmd)) = [] := rfl

theorem results_ok {cid : Byte} {rest : List Byte} {cmd : Cmd} {n : Nat}
    (parsed : MacCommandSet.parseOne cid rest = .ok (cmd, n)) :
    results (cid :: rest) = .ok cmd :: results ((cid :: rest).drop n) := by
  have taken := MacCommandSet.consumed parsed
  rw [results, List.length_cons, collect, parsed]
  simp only
  rw [collect_fuel]
  simp only [List.length_drop, List.length_cons]
  omega

theorem results_error {cid : Byte} {rest : List Byte} {e : ParseError}
    (parsed : (MacCommandSet.parseOne cid rest : Except ParseError (Cmd × Nat)) = .error e) :
    (results (cid :: rest) : List (Except ParseError Cmd)) = [.error e] := by
  rw [results, List.length_cons, collect, parsed]

@[simp] theorem oks_nil : (oks [] : List Cmd) = [] := rfl

theorem oks_ok {cid : Byte} {rest : List Byte} {cmd : Cmd} {n : Nat}
    (parsed : MacCommandSet.parseOne cid rest = .ok (cmd, n)) :
    oks (cid :: rest) = cmd :: oks ((cid :: rest).drop n) := by
  rw [oks, results_ok parsed]
  rfl

theorem oks_error {cid : Byte} {rest : List Byte} {e : ParseError}
    (parsed : (MacCommandSet.parseOne cid rest : Except ParseError (Cmd × Nat)) = .error e) :
    (oks (cid :: rest) : List Cmd) = [] := by
  rw [oks, results_error parsed]
  rfl

/-- A command of the stream was parsed at some place of it. -/
theorem mem_results {data : List Byte} {cmd : Cmd} (listed : .ok cmd ∈ results data) :
    ∃ cid rest n, MacCommandSet.parseOne cid rest = .ok (cmd, n) ∧ rest.length < data.length := by
  have general : ∀ (fuel : Nat) (data : List Byte),
      .ok cmd ∈ (collect fuel data : List (Except ParseError Cmd)) →
      ∃ cid rest n, MacCommandSet.parseOne cid rest = .ok (cmd, n) ∧
        rest.length < data.length := by
    intro fuel
    induction fuel with
    | zero =>
        intro data listed
        cases listed
    | succ fuel ih =>
        intro data listed
        cases data with
        | nil => cases listed
        | cons cid rest =>
            simp only [collect] at listed
            split at listed
            · rename_i first n parsed
              rcases List.mem_cons.mp listed with same | later
              · cases same
                exact ⟨cid, rest, n, parsed, Nat.lt_succ_self _⟩
              · obtain ⟨other, tail, m, otherParsed, shorter⟩ := ih _ later
                rw [List.length_drop] at shorter
                exact ⟨other, tail, m, otherParsed, by omega⟩
            · rename_i e failed
              cases List.mem_singleton.mp listed
  exact general data.length data listed

end MacCommands

/-! ## Downlink MAC commands -/

structure LinkADRReqPayload where
  bytes : Vector Byte 4
  deriving DecidableEq

namespace LinkADRReqPayload

def dataRate (payload : LinkADRReqPayload) : DR := DR.ofByte (payload.bytes.get 0 >>> 4)

def txPower (payload : LinkADRReqPayload) : DR := DR.ofByte (payload.bytes.get 0 &&& 0x0f)

def channelMask (payload : LinkADRReqPayload) : ChannelMask 2 :=
  ChannelMask.newFromRaw #v[payload.bytes.get 1, payload.bytes.get 2]

def redundancy (payload : LinkADRReqPayload) : Redundancy := ⟨payload.bytes.get 3⟩

end LinkADRReqPayload

structure RXParamSetupReqPayload where
  bytes : Vector Byte 4
  deriving DecidableEq

namespace RXParamSetupReqPayload

def dlSettings (payload : RXParamSetupReqPayload) : DLSettings := ⟨payload.bytes.get 0⟩

def frequency (payload : RXParamSetupReqPayload) : Frequency :=
  ⟨#v[payload.bytes.get 1, payload.bytes.get 2, payload.bytes.get 3]⟩

end RXParamSetupReqPayload

structure NewChannelReqPayload where
  bytes : Vector Byte 5
  deriving DecidableEq

namespace NewChannelReqPayload

def channelIndex (payload : NewChannelReqPayload) : Nat := (payload.bytes.get 0).toNat

def frequency (payload : NewChannelReqPayload) : Frequency :=
  ⟨#v[payload.bytes.get 1, payload.bytes.get 2, payload.bytes.get 3]⟩

def dataRateRange (payload : NewChannelReqPayload) : Except MacError DataRateRange :=
  DataRateRange.new (payload.bytes.get 4)

end NewChannelReqPayload

structure RXTimingSetupReqPayload where
  bytes : Vector Byte 1
  deriving DecidableEq

namespace RXTimingSetupReqPayload

def delay (payload : RXTimingSetupReqPayload) : Byte := payload.bytes.get 0 &&& 0x0f

end RXTimingSetupReqPayload

structure DlChannelReqPayload where
  bytes : Vector Byte 4
  deriving DecidableEq

namespace DlChannelReqPayload

def channelIndex (payload : DlChannelReqPayload) : Nat := (payload.bytes.get 0).toNat

def frequency (payload : DlChannelReqPayload) : Frequency :=
  ⟨#v[payload.bytes.get 1, payload.bytes.get 2, payload.bytes.get 3]⟩

end DlChannelReqPayload

inductive DownlinkMacCommand where
  | linkCheckAns (payload : Vector Byte 2)
  | linkADRReq (payload : LinkADRReqPayload)
  | dutyCycleReq (payload : Vector Byte 1)
  | rxParamSetupReq (payload : RXParamSetupReqPayload)
  | devStatusReq
  | newChannelReq (payload : NewChannelReqPayload)
  | rxTimingSetupReq (payload : RXTimingSetupReqPayload)
  | txParamSetupReq (payload : Vector Byte 1)
  | dlChannelReq (payload : DlChannelReqPayload)
  | deviceTimeAns (payload : Vector Byte 5)
  deriving DecidableEq

namespace DownlinkMacCommand

open MacCommandSet

def parseOne (cid : Byte) (rest : List Byte) :
    Except ParseError (DownlinkMacCommand × Nat) :=
  match cid.toNat with
  | 0x02 => fixed cid 2 rest linkCheckAns
  | 0x03 => fixed cid 4 rest fun payload => linkADRReq ⟨payload⟩
  | 0x04 => fixed cid 1 rest dutyCycleReq
  | 0x05 => fixed cid 4 rest fun payload => rxParamSetupReq ⟨payload⟩
  | 0x06 => fixed cid 0 rest fun _ => devStatusReq
  | 0x07 => fixed cid 5 rest fun payload => newChannelReq ⟨payload⟩
  | 0x08 => fixed cid 1 rest fun payload => rxTimingSetupReq ⟨payload⟩
  | 0x09 => fixed cid 1 rest txParamSetupReq
  | 0x0A => fixed cid 4 rest fun payload => dlChannelReq ⟨payload⟩
  | 0x0D => fixed cid 5 rest deviceTimeAns
  | _ => .error (.unknownCid cid)

instance : MacCommandSet DownlinkMacCommand where
  parseOne := parseOne
  consumed := by
    intro cid rest cmd n success
    unfold parseOne at success
    split at success
    all_goals first | exact fixed_consumed success | cases success

/-- `LinkADRReq(..)` as a pattern. -/
def isLinkADRReq : DownlinkMacCommand → Bool
  | linkADRReq _ => true
  | _ => false

end DownlinkMacCommand

def parseDownlinkMacCommands (data : List Byte) : List DownlinkMacCommand :=
  MacCommands.oks data

/-! ## Uplink MAC commands and creators -/

/-- `SerializableMacCommand`: a CID and the payload after it. -/
structure SerializableMacCommand where
  cid : Byte
  payloadBytes : List Byte
  deriving DecidableEq

namespace SerializableMacCommand

def payloadLen (cmd : SerializableMacCommand) : Nat := cmd.payloadBytes.length

end SerializableMacCommand

inductive UplinkMacCommand where
  | linkCheckReq
  | linkADRAns (payload : Vector Byte 1)
  | dutyCycleAns
  | rxParamSetupAns (payload : Vector Byte 1)
  | devStatusAns (payload : Vector Byte 2)
  | newChannelAns (payload : Vector Byte 1)
  | rxTimingSetupAns
  | txParamSetupAns
  | dlChannelAns (payload : Vector Byte 1)
  | deviceTimeReq
  deriving DecidableEq

namespace UplinkMacCommand

open MacCommandSet

def parseOne (cid : Byte) (rest : List Byte) : Except ParseError (UplinkMacCommand × Nat) :=
  match cid.toNat with
  | 0x02 => fixed cid 0 rest fun _ => linkCheckReq
  | 0x03 => fixed cid 1 rest linkADRAns
  | 0x04 => fixed cid 0 rest fun _ => dutyCycleAns
  | 0x05 => fixed cid 1 rest rxParamSetupAns
  | 0x06 => fixed cid 2 rest devStatusAns
  | 0x07 => fixed cid 1 rest newChannelAns
  | 0x08 => fixed cid 0 rest fun _ => rxTimingSetupAns
  | 0x09 => fixed cid 0 rest fun _ => txParamSetupAns
  | 0x0A => fixed cid 1 rest dlChannelAns
  | 0x0D => fixed cid 0 rest fun _ => deviceTimeReq
  | _ => .error (.unknownCid cid)

instance : MacCommandSet UplinkMacCommand where
  parseOne := parseOne
  consumed := by
    intro cid rest cmd n success
    unfold parseOne at success
    split at success
    all_goals first | exact fixed_consumed success | cases success

def serialize : UplinkMacCommand → SerializableMacCommand
  | linkCheckReq => ⟨0x02, []⟩
  | linkADRAns payload => ⟨0x03, payload.toList⟩
  | dutyCycleAns => ⟨0x04, []⟩
  | rxParamSetupAns payload => ⟨0x05, payload.toList⟩
  | devStatusAns payload => ⟨0x06, payload.toList⟩
  | newChannelAns payload => ⟨0x07, payload.toList⟩
  | rxTimingSetupAns => ⟨0x08, []⟩
  | txParamSetupAns => ⟨0x09, []⟩
  | dlChannelAns payload => ⟨0x0A, payload.toList⟩
  | deviceTimeReq => ⟨0x0D, []⟩

/-- A command takes the CID and as many bytes as it serialises to. -/
theorem parseOne_consumed {cid : Byte} {rest : List Byte} {cmd : UplinkMacCommand} {n : Nat}
    (success : parseOne cid rest = .ok (cmd, n)) :
    1 + cmd.serialize.payloadLen = n := by
  have general : ∀ {len : Nat} {build : Vector Byte len → UplinkMacCommand},
      (∀ payload, (build payload).serialize.payloadLen = len) →
      fixed cid len rest build = .ok (cmd, n) → 1 + cmd.serialize.payloadLen = n := by
    intro len build long success
    unfold fixed at success
    split at success
    · cases success
    · cases success
      rw [long]
  unfold parseOne at success
  split at success
  all_goals first
    | exact general (by simp [serialize, SerializableMacCommand.payloadLen]) success
    | cases success

end UplinkMacCommand

def parseUplinkMacCommands (data : List Byte) : List UplinkMacCommand := MacCommands.oks data

/-- One acknowledgment setter: the bits outside `keep` are replaced by the flag,
shifted. -/
def setAck (data keep : Byte) (ack : Bool) (shift : Byte) : Byte :=
  (data &&& keep) ||| (ack.toUInt8 <<< shift)

/-- `LinkADRAnsCreator`, its one payload octet. -/
structure LinkADRAnsCreator where
  data : Byte

namespace LinkADRAnsCreator

def new : LinkADRAnsCreator := ⟨0⟩

def setChannelMaskAck (creator : LinkADRAnsCreator) (ack : Bool) : LinkADRAnsCreator :=
  ⟨setAck creator.data 0xfe ack 0⟩

def setDataRateAck (creator : LinkADRAnsCreator) (ack : Bool) : LinkADRAnsCreator :=
  ⟨setAck creator.data 0xfd ack 1⟩

def setTxPowerAck (creator : LinkADRAnsCreator) (ack : Bool) : LinkADRAnsCreator :=
  ⟨setAck creator.data 0xfb ack 2⟩

def build (creator : LinkADRAnsCreator) : SerializableMacCommand := ⟨0x03, [creator.data]⟩

end LinkADRAnsCreator

structure RXParamSetupAnsCreator where
  data : Byte

namespace RXParamSetupAnsCreator

def new : RXParamSetupAnsCreator := ⟨0⟩

def setChannelAck (creator : RXParamSetupAnsCreator) (ack : Bool) : RXParamSetupAnsCreator :=
  ⟨setAck creator.data 0xfe ack 0⟩

def setRx2DataRateAck (creator : RXParamSetupAnsCreator) (ack : Bool) :
    RXParamSetupAnsCreator :=
  ⟨setAck creator.data 0xfd ack 1⟩

def setRx1DataRateOffsetAck (creator : RXParamSetupAnsCreator) (ack : Bool) :
    RXParamSetupAnsCreator :=
  ⟨setAck creator.data 0xfb ack 2⟩

def build (creator : RXParamSetupAnsCreator) : SerializableMacCommand := ⟨0x05, [creator.data]⟩

end RXParamSetupAnsCreator

structure DevStatusAnsCreator where
  battery : Byte
  margin : Byte

namespace DevStatusAnsCreator

def new : DevStatusAnsCreator := ⟨0, 0⟩

def setBattery (creator : DevStatusAnsCreator) (battery : Byte) : DevStatusAnsCreator :=
  { creator with battery }

/-- A margin outside `-32..=31` is an error and leaves the octet as it was; the
caller ignores the error. -/
def setMargin (creator : DevStatusAnsCreator) (margin : Int8) : DevStatusAnsCreator :=
  if -32 ≤ margin ∧ margin ≤ 31 then
    { creator with margin := (margin <<< 2).toUInt8 >>> 2 }
  else creator

def build (creator : DevStatusAnsCreator) : SerializableMacCommand :=
  ⟨0x06, [creator.battery, creator.margin]⟩

end DevStatusAnsCreator

structure NewChannelAnsCreator where
  data : Byte

namespace NewChannelAnsCreator

def new : NewChannelAnsCreator := ⟨0⟩

def setChannelFrequencyAck (creator : NewChannelAnsCreator) (ack : Bool) :
    NewChannelAnsCreator :=
  ⟨setAck creator.data 0xfe ack 0⟩

def setDataRateRangeAck (creator : NewChannelAnsCreator) (ack : Bool) : NewChannelAnsCreator :=
  ⟨setAck creator.data 0xfd ack 1⟩

def build (creator : NewChannelAnsCreator) : SerializableMacCommand := ⟨0x07, [creator.data]⟩

end NewChannelAnsCreator

structure DlChannelAnsCreator where
  data : Byte

namespace DlChannelAnsCreator

def new : DlChannelAnsCreator := ⟨0⟩

def setChannelFrequencyAck (creator : DlChannelAnsCreator) (ack : Bool) : DlChannelAnsCreator :=
  ⟨setAck creator.data 0xfe ack 0⟩

def setUplinkFrequencyExistsAck (creator : DlChannelAnsCreator) (ack : Bool) :
    DlChannelAnsCreator :=
  ⟨setAck creator.data 0xfd ack 1⟩

def build (creator : DlChannelAnsCreator) : SerializableMacCommand := ⟨0x0A, [creator.data]⟩

end DlChannelAnsCreator

/-- `RXTimingSetupAnsCreator::new()`, built. -/
def rxTimingSetupAns : SerializableMacCommand := ⟨0x08, []⟩

/-- `LinkCheckReqCreator::new()`, built. -/
def linkCheckReq : SerializableMacCommand := ⟨0x02, []⟩

end LoraRs.Encoding
