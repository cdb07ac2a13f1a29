import LoraRs.Encoding.Parser

/-!
# Frames to build

Data frames and join requests as plain values and their serialisation, from
`lorawan-encoding/src/creator.rs`.
-/

set_option autoImplicit false

namespace LoraRs.Encoding

open LoraRs.Lib

/-- The FRMPayload of a frame to build; application data has a nonzero port. -/
inductive Payload where
  | none
  | data (fPort : Byte) (nonzero : fPort ≠ 0) (data : List Byte)
  | macCommands (cmds : List Byte)

structure DataFrame where
  frameType : DataFrameType
  devAddr : DevAddr
  adr : Bool
  adrAckReq : Bool
  ack : Bool
  fPending : Bool
  fcnt : UInt32
  fOpts : List Byte
  payload : Payload

namespace DataFrame

def mhdr (frame : DataFrame) : Byte :=
  match frame.frameType with
  | .unconfirmedUp => 0x40
  | .unconfirmedDown => 0x60
  | .confirmedUp => 0x80
  | .confirmedDown => 0xa0

def fctrl (frame : DataFrame) : Byte :=
  let b : Byte := frame.fOpts.length.toUInt8
  let b := if frame.adr then b ||| 0x80 else b
  let b := if frame.adrAckReq && frame.frameType.isUplink then b ||| 0x40 else b
  let b := if frame.ack then b ||| 0x20 else b
  if frame.fPending && !frame.frameType.isUplink then b ||| 0x10 else b

/-- The port, the payload octets and the crypto that enciphers them. -/
def frmParts (frame : DataFrame) (nwkCrypto : Crypto) (appCrypto : Option Crypto) :
    Except Error (Option Byte × List Byte × Crypto) :=
  match frame.payload with
  | .none => .ok (none, [], nwkCrypto)
  | .data fPort _ data =>
      match appCrypto with
      | none => .error .missingKey
      | some crypto => .ok (some fPort, data, crypto)
  | .macCommands cmds =>
      if !frame.fOpts.isEmpty then .error .fOptsWithFPortZero
      else .ok (some 0, cmds, nwkCrypto)

/-- MHDR, FHDR and the port. -/
def header (frame : DataFrame) (fPort : Option Byte) : List Byte :=
  frame.mhdr :: (frame.devAddr.bytes.toList ++ [frame.fctrl] ++
    Bytes.leU16 frame.fcnt.toUInt16 ++ frame.fOpts ++ fPort.toList)

theorem header_length (frame : DataFrame) (fPort : Option Byte) :
    (frame.header fPort).length = 8 + frame.fOpts.length + fPort.toList.length := by
  simp only [header, List.length_cons, List.length_append, Vector.length_toList,
    List.length_nil, Bytes.leU16_length]
  omega

/-- Header and payload, the payload enciphered unless it is empty. -/
def body (frame : DataFrame) (fPort : Option Byte) (frm : List Byte) (encCrypto : Crypto) :
    Checked (List Byte) :=
  let plain := frame.header fPort ++ frm
  if frm.isEmpty then .ok plain
  else
    SecurityHelpers.encryptFrmDataPayload plain (frame.header fPort).length
      ((frame.header fPort).length + frm.length) frame.fcnt encCrypto
      (by
        have := frame.header_length fPort
        simp only [plain, List.length_append]
        omega)
      (by simp only [plain, List.length_append]; omega)

theorem body_length (frame : DataFrame) (fPort : Option Byte) (frm : List Byte)
    (encCrypto : Crypto) (out : List Byte)
    (success : frame.body fPort frm encCrypto = .ok out) :
    out.length = (frame.header fPort).length + frm.length := by
  unfold body at success
  simp only at success
  split at success
  · cases success
    simp
  · rw [SecurityHelpers.encryptFrmDataPayload_length _ _ _ _ _ _ _ _ success,
      List.length_append]

/-- `build_into`, for a buffer of `bufLen` bytes: the frame's bytes with the MIC. -/
def buildInto (frame : DataFrame) (bufLen : Nat) (nwkCrypto : Crypto)
    (appCrypto : Option Crypto) : Checked (Except Error (List Byte)) :=
  if frame.fOpts.length > 15 then .ok (.error .fOptsTooLong)
  else
    match frame.frmParts nwkCrypto appCrypto with
    | .error e => .ok (.error e)
    | .ok (fPort, frm, encCrypto) =>
        let total := (frame.header fPort).length + frm.length + micLen
        if total > bufLen then .ok (.error .bufferTooShort)
        else
          match success : frame.body fPort frm encCrypto with
          | .error fault => .error fault
          | .ok out =>
              let mic := SecurityHelpers.calculateDataMic out nwkCrypto frame.fcnt (by
                have := frame.header_length fPort
                rw [body_length frame fPort frm encCrypto out success]
                omega)
              .ok (.ok (out ++ mic.bytes.toList))

end DataFrame

/-! ## Join requests -/

structure JoinRequest where
  joinEui : JoinEui
  devEui : DevEui
  devNonce : DevNonce

namespace JoinRequest

def joinRequestLen : Nat := 23

def withoutMic (request : JoinRequest) : List Byte :=
  0x00 :: (request.joinEui.bytes.toList ++ request.devEui.bytes.toList ++
    request.devNonce.bytes.toList)

def buildInto (request : JoinRequest) (bufLen : Nat) (crypto : Crypto) :
    Except Error (List Byte) :=
  if joinRequestLen > bufLen then .error .bufferTooShort
  else .ok (request.withoutMic ++
    (SecurityHelpers.calculateMic request.withoutMic crypto).bytes.toList)

end JoinRequest

end LoraRs.Encoding
