import LoraRs.Mac.Configuration
import LoraRs.Encoding.Certification

/-!
# The certification handler

From `lorawan-device/src/mac/certification.rs`.
-/

set_option autoImplicit false

namespace LoraRs.Mac

open LoraRs.Encoding LoraRs.Lib

abbrev certificationPort : Byte := 224

namespace Certification

inductive Response where
  | noUpdate
  | adrBitChange (adr : Bool)
  | dutJoinReq
  | dutResetReq
  | linkCheckReq
  | txFramesCtrlReq (ftype : Option Bool)
  | txPeriodicityChange (periodicity : Option Nat)
  | uplinkPrepared
  deriving DecidableEq, Repr

end Certification

structure Certification where
  pendingUplink : Option (List Byte)
  deriving DecidableEq

namespace Certification

def new : Certification := ⟨none⟩

def versions : Vector Byte 12 := #v[0, 0, 0, 1, 1, 0, 4, 0, 2, 1, 0, 4]

/-- Stores a built answer for `setup_send`. -/
def prepareUplink (certification : Certification) (answer : List Byte) :
    Checked (Response × Certification) := do
  let buf ← extendFromSlice 256 [] answer
  return (.uplinkPrepared, { certification with pendingUplink := some buf })

/-- The loop of `handle_message`: the first command that answers ends it. -/
def handleMessages (rxAppCnt : UInt16) (certification : Certification) :
    List (Except ParseError DownlinkDUTCommand) → Checked (Response × Certification)
  | [] => .ok (.noUpdate, certification)
  | .error _ :: _ => .ok (.noUpdate, certification)
  | .ok message :: rest =>
      match message with
      | .dutJoinReq => .ok (.dutJoinReq, certification)
      | .dutResetReq => .ok (.dutResetReq, certification)
      | .txPeriodicityChangeReq payload =>
          match payload.periodicity with
          | .ok periodicity => .ok (.txPeriodicityChange periodicity, certification)
          | .error _ => handleMessages rxAppCnt certification rest
      | .linkCheckReq => .ok (.linkCheckReq, certification)
      | .dutVersionsReq => certification.prepareUplink (dutVersionsAns versions)
      | .echoIncPayloadReq payload => do
          let answer ← echoIncPayloadAns payload.bytes
          certification.prepareUplink answer
      | .rxAppCntReq => certification.prepareUplink (rxAppCntAns rxAppCnt)
      | .adrBitChangeReq payload =>
          match payload.adrEnable with
          | .ok adr => .ok (.adrBitChange adr, certification)
          | .error _ => handleMessages rxAppCnt certification rest
      | .txFramesCtrlReq payload =>
          match payload.frameTypeOverride with
          | .ok ftype => .ok (.txFramesCtrlReq ftype, certification)
          | .error _ => handleMessages rxAppCnt certification rest

def handleMessage (certification : Certification) (data : List Byte) (rxAppCnt : UInt16) :
    Checked (Response × Certification) :=
  handleMessages rxAppCnt certification (MacCommands.results data)

end Certification

end LoraRs.Mac
