import LoraRs.Encoding.MacCommands

/-!
# Certification protocol commands

The downlink commands of the certification package and the creators of the
answers, from `lorawan-encoding/src/certification.rs`.
-/

set_option autoImplicit false

namespace LoraRs.Encoding

open LoraRs.Lib

structure AdrBitChangeReqPayload where
  bytes : Vector Byte 1
  deriving DecidableEq

namespace AdrBitChangeReqPayload

def adrEnable (payload : AdrBitChangeReqPayload) : Except MacError Bool :=
  match (payload.bytes.get 0).toNat with
  | 0 => .ok false
  | 1 => .ok true
  | _ => .error .rfu

end AdrBitChangeReqPayload

structure TxPeriodicityChangeReqPayload where
  bytes : Vector Byte 1
  deriving DecidableEq

namespace TxPeriodicityChangeReqPayload

/-- The new periodicity in seconds; `none` is the device default. -/
def periodicity (payload : TxPeriodicityChangeReqPayload) : Except MacError (Option Nat) :=
  match (payload.bytes.get 0).toNat with
  | 0 => .ok none
  | 1 => .ok (some 5)
  | 2 => .ok (some 10)
  | 3 => .ok (some 20)
  | 4 => .ok (some 30)
  | 5 => .ok (some 40)
  | 6 => .ok (some 50)
  | 7 => .ok (some 60)
  | 8 => .ok (some 120)
  | 9 => .ok (some 240)
  | 10 => .ok (some 480)
  | _ => .error .rfu

end TxPeriodicityChangeReqPayload

/-- A payload without a length field: everything after the CID. -/
structure TxFramesCtrlReqPayload where
  bytes : List Byte
  nonempty : bytes ≠ []
  deriving DecidableEq

namespace TxFramesCtrlReqPayload

/-- Whether later uplinks are confirmed; `none` is the device default. -/
def frameTypeOverride (payload : TxFramesCtrlReqPayload) : Except MacError (Option Bool) :=
  match (payload.bytes.head payload.nonempty).toNat with
  | 0 => .ok none
  | 1 => .ok (some false)
  | 2 => .ok (some true)
  | _ => .error .rfu

end TxFramesCtrlReqPayload

structure EchoIncPayloadReqPayload where
  bytes : List Byte
  nonempty : bytes ≠ []
  deriving DecidableEq

inductive DownlinkDUTCommand where
  | dutResetReq
  | dutJoinReq
  | adrBitChangeReq (payload : AdrBitChangeReqPayload)
  | txPeriodicityChangeReq (payload : TxPeriodicityChangeReqPayload)
  | txFramesCtrlReq (payload : TxFramesCtrlReqPayload)
  | echoIncPayloadReq (payload : EchoIncPayloadReqPayload)
  | rxAppCntReq
  | linkCheckReq
  | dutVersionsReq
  deriving DecidableEq

namespace DownlinkDUTCommand

open MacCommandSet

def parseOne (cid : Byte) (rest : List Byte) :
    Except ParseError (DownlinkDUTCommand × Nat) :=
  match cid.toNat with
  | 0x01 => fixed cid 0 rest fun _ => dutResetReq
  | 0x02 => fixed cid 0 rest fun _ => dutJoinReq
  | 0x04 => fixed cid 1 rest fun payload => adrBitChangeReq ⟨payload⟩
  | 0x06 => fixed cid 1 rest fun payload => txPeriodicityChangeReq ⟨payload⟩
  | 0x07 => toEnd cid rest fun payload nonempty => txFramesCtrlReq ⟨payload, nonempty⟩
  | 0x08 => toEnd cid rest fun payload nonempty => echoIncPayloadReq ⟨payload, nonempty⟩
  | 0x09 => fixed cid 0 rest fun _ => rxAppCntReq
  | 0x20 => fixed cid 0 rest fun _ => linkCheckReq
  | 0x7f => fixed cid 0 rest fun _ => dutVersionsReq
  | _ => .error (.unknownCid cid)

instance : MacCommandSet DownlinkDUTCommand where
  parseOne := parseOne
  consumed := by
    intro cid rest cmd n success
    unfold parseOne at success
    split at success
    all_goals first
      | exact fixed_consumed success
      | exact toEnd_consumed success
      | cases success

/-- An echo request takes all the bytes after its CID. -/
theorem echo_length_lt {data : List Byte} {payload : EchoIncPayloadReqPayload}
    (listed : .ok (echoIncPayloadReq payload) ∈ MacCommands.results data) :
    payload.bytes.length < data.length := by
  obtain ⟨cid, rest, n, parsed, shorter⟩ := MacCommands.mem_results listed
  have bytes : payload.bytes = rest := by
    change parseOne cid rest = _ at parsed
    unfold parseOne at parsed
    split at parsed
    all_goals first
      | cases parsed
      | exact (fixed_eq_ok parsed).elim fun _ same => by cases same
      | exact (toEnd_eq_ok parsed).elim fun _ same => by cases same <;> rfl
  rw [bytes]
  exact shorter

end DownlinkDUTCommand

/-! ## Uplink commands -/

structure EchoIncPayloadAnsPayload where
  bytes : List Byte
  nonempty : bytes ≠ []
  deriving DecidableEq

inductive UplinkDUTCommand where
  | echoIncPayloadAns (payload : EchoIncPayloadAnsPayload)
  | rxAppCntAns (payload : Vector Byte 2)
  | dutVersionsAns (payload : Vector Byte 12)
  deriving DecidableEq

namespace UplinkDUTCommand

open MacCommandSet

def parseOne (cid : Byte) (rest : List Byte) : Except ParseError (UplinkDUTCommand × Nat) :=
  match cid.toNat with
  | 0x08 => toEnd cid rest fun payload nonempty => echoIncPayloadAns ⟨payload, nonempty⟩
  | 0x09 => fixed cid 2 rest rxAppCntAns
  | 0x7f => fixed cid 12 rest dutVersionsAns
  | _ => .error (.unknownCid cid)

instance : MacCommandSet UplinkDUTCommand where
  parseOne := parseOne
  consumed := by
    intro cid rest cmd n success
    unfold parseOne at success
    split at success
    all_goals first
      | exact fixed_consumed success
      | exact toEnd_consumed success
      | cases success

end UplinkDUTCommand

/-! ## Answers -/

/-- `DutVersionsAnsCreator` with its twelve version octets set, built. -/
def dutVersionsAns (versions : Vector Byte 12) : List Byte := 0x7f :: versions.toList

def rxAppCntAns (value : UInt16) : List Byte := 0x09 :: Bytes.leU16 value

/-- `EchoIncPayloadAnsCreator` filled with `data`, built; its array holds 241
octets. -/
def echoIncPayloadAns (data : List Byte) : Checked (List Byte) :=
  if data.length ≤ 241 then .ok (0x08 :: data.map (· + 1)) else .error .outOfBounds

end LoraRs.Encoding
