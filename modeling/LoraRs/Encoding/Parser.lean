import LoraRs.Encoding.SecurityHelpers

/-!
# Parsed views of frames

Structural validation, the views of data frames and join accepts, and in-place
decryption, from `lorawan-encoding/src/parser.rs`.  Validation happens once: a
view carries the proof that its bytes were validated to its layout, and every
accessor takes its bounds from that proof.
-/

set_option autoImplicit false

namespace LoraRs.Encoding

open LoraRs.Lib

/-- `parser::Error`. -/
inductive Error where
  | tooShort
  | unsupportedMajorVersion
  | unsupportedMessageType
  | unexpectedMessageType
  | notADataFrame
  | invalidLength
  | truncatedFhdr
  | missingKey
  | invalidMic
  | bufferTooShort
  | fOptsTooLong
  | fOptsWithFPortZero
  deriving DecidableEq, Repr

abbrev mhdrLen : Nat := 1
abbrev micLen : Nat := 4

/-! ## Data frames -/

inductive DataFrameType where
  | unconfirmedUp
  | unconfirmedDown
  | confirmedUp
  | confirmedDown
  deriving DecidableEq, Repr

namespace DataFrameType

def fromMhdr (mhdr : Byte) : Option DataFrameType :=
  match (mhdr >>> 5).toNat with
  | 2 => some unconfirmedUp
  | 3 => some unconfirmedDown
  | 4 => some confirmedUp
  | 5 => some confirmedDown
  | _ => none

def isUplink : DataFrameType → Bool
  | unconfirmedUp | confirmedUp => true
  | _ => false

def isConfirmed : DataFrameType → Bool
  | confirmedUp | confirmedDown => true
  | _ => false

end DataFrameType

/-- The part of a data frame between MHDR and FPort. -/
structure Fhdr where
  bytes : List Byte
  uplink : Bool
  long : 7 ≤ bytes.length

namespace Fhdr

/-- The four address octets. -/
def addrBytes (fhdr : Fhdr) : Vector Byte 4 :=
  have := fhdr.long
  #v[fhdr.bytes[0], fhdr.bytes[1], fhdr.bytes[2], fhdr.bytes[3]]

def devAddr (fhdr : Fhdr) : DevAddr := ⟨fhdr.addrBytes⟩

/-- The address read as a multicast group address. -/
def mcAddr (fhdr : Fhdr) : McAddr := ⟨fhdr.addrBytes⟩

/-- The 16 bits of the frame counter on the wire. -/
def fcnt (fhdr : Fhdr) : UInt16 :=
  have := fhdr.long
  Bytes.ofLeU16 fhdr.bytes[5] fhdr.bytes[6]

def fOpts (fhdr : Fhdr) : List Byte := fhdr.bytes.drop 7

end Fhdr

/-- Offsets computed once by validation. -/
structure Layout where
  frameType : DataFrameType
  fhdrLen : Nat
  fPortOffset : Option Nat
  frmStart : Nat
  frmEnd : Nat
  deriving DecidableEq

namespace Layout

/-- The layout of `length` bytes with this type and header length. -/
def place (frameType : DataFrameType) (fhdrLen length : Nat) : Layout :=
  let micOffset := length - micLen
  let afterFhdr := mhdrLen + fhdrLen
  let port : Option Nat × Nat :=
    if afterFhdr < micOffset then (some afterFhdr, afterFhdr + 1) else (none, afterFhdr)
  { frameType, fhdrLen, fPortOffset := port.1, frmStart := port.2, frmEnd := micOffset }

def validate (bytes : List Byte) : Except Error Layout :=
  if _long : bytes.length < mhdrLen + 7 + micLen then .error .tooShort
  else
    let mhdr := bytes[0]
    if mhdr &&& 0b11 ≠ 0 then .error .unsupportedMajorVersion
    else
      match DataFrameType.fromMhdr mhdr with
      | none => .error .notADataFrame
      | some frameType =>
        let fhdrLen := 7 + (bytes[5] &&& 0x0f).toNat
        let micOffset := bytes.length - micLen
        if mhdrLen + fhdrLen > micOffset then .error .truncatedFhdr
        else .ok (place frameType fhdrLen bytes.length)

/-- What validation established about the bytes. -/
structure Validated (bytes : List Byte) (layout : Layout) : Prop where
  long : 12 ≤ bytes.length
  version : bytes[0] &&& 0b11 = 0
  frameType : DataFrameType.fromMhdr bytes[0] = some layout.frameType
  fhdrLen : layout.fhdrLen = 7 + (bytes[5] &&& 0x0f).toNat
  fits : 1 + layout.fhdrLen + 4 ≤ bytes.length
  placed : layout = place layout.frameType layout.fhdrLen bytes.length

theorem validate_eq_ok_iff (bytes : List Byte) (layout : Layout) :
    validate bytes = .ok layout ↔ Validated bytes layout := by
  unfold validate
  constructor
  · intro success
    split at success
    · cases success
    · rename_i long
      simp only at success
      split at success
      · cases success
      · rename_i version
        split at success
        · cases success
        · rename_i frameType typed
          split at success
          · cases success
          · rename_i fits
            cases success
            simp only [mhdrLen, micLen] at long fits
            refine ⟨by omega, not_not.mp version, ?_, rfl, ?_, rfl⟩
            · simpa only [place] using typed
            · simp only [place]
              omega
  · intro valid
    have long := valid.long
    have fits := valid.fits
    have lengthEq := valid.fhdrLen
    rw [dif_neg (by simp only [mhdrLen, micLen]; omega)]
    simp only
    rw [if_neg (not_not.mpr valid.version), valid.frameType]
    simp only [← lengthEq]
    rw [if_neg (by simp only [mhdrLen, micLen]; omega), ← valid.placed]

/-- Validation reads the length, the MHDR and the FCtrl octet only. -/
theorem Validated.congr {bytes other : List Byte} {layout : Layout}
    (valid : Validated bytes layout) (length : other.length = bytes.length)
    (mhdr : other[0]? = bytes[0]?) (fctrl : other[5]? = bytes[5]?) : Validated other layout := by
  have long := valid.long
  have mhdrEq : other[0] = bytes[0] := by
    rw [List.getElem?_eq_getElem (by omega), List.getElem?_eq_getElem (by omega)] at mhdr
    exact Option.some.inj mhdr
  have fctrlEq : other[5] = bytes[5] := by
    rw [List.getElem?_eq_getElem (by omega), List.getElem?_eq_getElem (by omega)] at fctrl
    exact Option.some.inj fctrl
  refine ⟨by omega, ?_, ?_, ?_, ?_, ?_⟩
  · rw [mhdrEq]
    exact valid.version
  · rw [mhdrEq]
    exact valid.frameType
  · rw [fctrlEq]
    exact valid.fhdrLen
  · rw [length]
    exact valid.fits
  · rw [length]
    exact valid.placed

namespace Validated

variable {bytes : List Byte} {layout : Layout}

theorem fhdr_inside (valid : Validated bytes layout) :
    mhdrLen ≤ mhdrLen + layout.fhdrLen ∧ mhdrLen + layout.fhdrLen ≤ bytes.length := by
  have fits := valid.fits
  simp only [mhdrLen]
  omega

theorem frm_inside (valid : Validated bytes layout) :
    layout.frmStart ≤ layout.frmEnd ∧ layout.frmEnd ≤ bytes.length := by
  have fits := valid.fits
  rw [valid.placed]
  simp only [place, mhdrLen, micLen]
  split <;> simp only <;> omega

theorem frmEnd_eq (valid : Validated bytes layout) : layout.frmEnd = bytes.length - 4 := by
  rw [valid.placed]
  rfl

theorem eight_le_frmStart (valid : Validated bytes layout) : 8 ≤ layout.frmStart := by
  have lengthEq := valid.fhdrLen
  rw [valid.placed]
  simp only [place, mhdrLen, micLen]
  split <;> simp only <;> omega

theorem port_inside (valid : Validated bytes layout) (offset : Nat)
    (found : offset ∈ layout.fPortOffset) : offset < bytes.length := by
  have fits := valid.fits
  rw [valid.placed] at found
  simp only [place, mhdrLen, micLen] at found
  split at found
  · cases found
    omega
  · cases found

end Validated

end Layout

/-- A byte string that was validated, with its layout. -/
structure DataView where
  bytes : List Byte
  layout : Layout
  valid : Layout.Validated bytes layout

namespace DataView

def frameType (view : DataView) : DataFrameType := view.layout.frameType

def isUplink (view : DataView) : Bool := view.frameType.isUplink

def isConfirmed (view : DataView) : Bool := view.frameType.isConfirmed

def fhdr (view : DataView) : Fhdr where
  bytes := Bytes.slice view.bytes mhdrLen (mhdrLen + view.layout.fhdrLen) view.valid.fhdr_inside
  uplink := view.isUplink
  long := by
    have lengthEq := view.valid.fhdrLen
    rw [Bytes.slice_length]
    omega

def fPort (view : DataView) : Option Byte :=
  view.layout.fPortOffset.pmap (fun offset inside => view.bytes[offset])
    view.valid.port_inside

/-- The last four bytes. -/
def mic (view : DataView) : MIC :=
  ⟨Bytes.arr 4 (view.bytes.drop (view.bytes.length - micLen)) (by
    have := view.valid.long
    simp only [List.length_drop, micLen]
    omega)⟩

def withoutMic (view : DataView) : List Byte := view.bytes.take (view.bytes.length - micLen)

theorem header_withoutMic (view : DataView) : 5 ≤ view.withoutMic.length := by
  have := view.valid.long
  simp only [withoutMic, List.length_take, micLen]
  omega

/-- The FRMPayload octets, enciphered or not. -/
def frm (view : DataView) : List Byte :=
  Bytes.slice view.bytes view.layout.frmStart view.layout.frmEnd view.valid.frm_inside

theorem ext_bytes {first second : DataView} (same : first.bytes = second.bytes) :
    first = second := by
  obtain ⟨bytes, layout, valid⟩ := first
  obtain ⟨other, layout', valid'⟩ := second
  cases same
  have layoutEq : (.ok layout : Except Error Layout) = .ok layout' := by
    rw [← (Layout.validate_eq_ok_iff bytes layout).mpr valid,
      (Layout.validate_eq_ok_iff bytes layout').mpr valid']
  cases layoutEq
  rfl

theorem frm_length_le (view : DataView) : view.frm.length + 12 ≤ view.bytes.length := by
  have start := view.valid.eight_le_frmStart
  have long := view.valid.long
  rw [frm, Bytes.slice_length, view.valid.frmEnd_eq]
  omega

theorem frm_length_le_of_port (view : DataView) {port : Byte} (found : view.fPort = some port) :
    view.frm.length + 13 ≤ view.bytes.length := by
  have placed := view.valid.placed
  have lengthEq := view.valid.fhdrLen
  have fits := view.valid.fits
  have offset : view.layout.fPortOffset ≠ none := by
    intro missing
    unfold fPort at found
    rw [Option.pmap_eq_some_iff] at found
    obtain ⟨_, _, held, _⟩ := found
    rw [missing] at held
    cases held
  rw [frm, Bytes.slice_length]
  rw [placed] at offset ⊢
  simp only [Layout.place, mhdrLen, micLen] at offset ⊢
  split
  · simp only
    omega
  · rename_i absent
    rw [if_neg absent] at offset
    exact absurd rfl offset

theorem fOpts_length_le (view : DataView) : view.fhdr.fOpts.length ≤ 15 := by
  have inside : 5 < view.bytes.length := by
    have := view.valid.long
    omega
  have small : (view.bytes[5] &&& 0x0f).toNat ≤ 15 := by
    rw [UInt8.toNat_and]
    exact Nat.and_le_right
  have lengthEq := view.valid.fhdrLen
  simp only [Fhdr.fOpts, fhdr, List.length_drop, Bytes.slice_length]
  omega

end DataView

/-- An enciphered data frame. -/
structure EncryptedDataPayload extends DataView

namespace EncryptedDataPayload

def parse (bytes : List Byte) : Except Error EncryptedDataPayload :=
  match valid : Layout.validate bytes with
  | .error e => .error e
  | .ok layout => .ok ⟨bytes, layout, (Layout.validate_eq_ok_iff bytes layout).mp valid⟩

/-- The MIC is checked under `crypto`, bound to the network session key. -/
def validateMic (payload : EncryptedDataPayload) (crypto : Crypto) (fcnt : UInt32) : Bool :=
  decide (payload.mic = SecurityHelpers.calculateDataMic payload.withoutMic crypto fcnt
    payload.header_withoutMic)

theorem parse_eq_ok_iff (bytes : List Byte) (payload : EncryptedDataPayload) :
    parse bytes = .ok payload ↔ payload.bytes = bytes := by
  obtain ⟨view⟩ := payload
  unfold parse
  constructor
  · intro success
    split at success
    · cases success
    · cases success
      rfl
  · intro same
    cases same
    split
    · rename_i failed
      rw [(Layout.validate_eq_ok_iff view.bytes view.layout).mpr view.valid] at failed
      cases failed
    · rename_i layout valid
      congr 2
      exact DataView.ext_bytes rfl

theorem parse_bytes (payload : EncryptedDataPayload) : parse payload.bytes = .ok payload :=
  (parse_eq_ok_iff _ _).mpr rfl

end EncryptedDataPayload

inductive FrmPayload where
  | data (bytes : List Byte)
  | macCommands (bytes : List Byte)
  | none
  deriving DecidableEq

/-- A data frame after decryption. -/
structure DecryptedDataPayload extends DataView

namespace DecryptedDataPayload

/-- Whether the payload is enciphered under the application session key. -/
def usesAppKey (view : DataView) : Bool :=
  match view.fPort with
  | some port => port != 0
  | none => false

/-- `decrypt_in_place` on a buffer that was validated. -/
def decryptView (view : DataView) (nwkCrypto appCrypto : Option Crypto) (fcnt : UInt32) :
    Checked (Except Error DecryptedDataPayload) :=
  if view.layout.frmStart < view.layout.frmEnd then
    match if usesAppKey view then appCrypto else nwkCrypto with
    | none => .ok (.error .missingKey)
    | some crypto =>
        let wireFcnt := view.fhdr.fcnt
        let fullFcnt := ((fcnt >>> 16) <<< 16) ||| wireFcnt.toUInt32
        have header : 5 ≤ view.bytes.length := by
          have := view.valid.long
          omega
        match success : SecurityHelpers.encryptFrmDataPayload view.bytes view.layout.frmStart
            view.layout.frmEnd fullFcnt crypto header view.valid.frm_inside with
        | .error fault => .error fault
        | .ok out => .ok (.ok ⟨out, view.layout, by
            have start := view.valid.eight_le_frmStart
            exact view.valid.congr
              (SecurityHelpers.encryptFrmDataPayload_length _ _ _ _ _ _ _ _ success)
              (SecurityHelpers.encryptFrmDataPayload_getElem? _ _ _ _ _ _ _ _ success 0
                (by omega))
              (SecurityHelpers.encryptFrmDataPayload_getElem? _ _ _ _ _ _ _ _ success 5
                (by omega))⟩)
  else .ok (.ok ⟨view⟩)

def decryptInPlace (buf : List Byte) (nwkCrypto appCrypto : Option Crypto) (fcnt : UInt32) :
    Checked (Except Error DecryptedDataPayload) :=
  match EncryptedDataPayload.parse buf with
  | .error e => .ok (.error e)
  | .ok payload => decryptView payload.toDataView nwkCrypto appCrypto fcnt

def frmPayload (payload : DecryptedDataPayload) : FrmPayload :=
  match payload.fPort with
  | none => .none
  | some 0 => .macCommands payload.frm
  | some _ => .data payload.frm

/-- With both keys a frame of at most 255 bytes decrypts, to as many bytes. -/
theorem decryptInPlace_returns (payload : EncryptedDataPayload) (nwk app : Crypto)
    (fcnt : UInt32) (short : payload.bytes.length ≤ 255) :
    ∃ decrypted : DecryptedDataPayload,
      decryptInPlace payload.bytes (some nwk) (some app) fcnt = .ok (.ok decrypted) ∧
      decrypted.bytes.length = payload.bytes.length := by
  simp only [decryptInPlace, EncryptedDataPayload.parse_bytes]
  unfold decryptView
  split
  · split
    · rename_i missing
      split at missing <;> cases missing
    · rename_i crypto _
      simp only
      split
      · rename_i fault failed
        obtain ⟨out, success⟩ := SecurityHelpers.encryptFrmDataPayload_returns
          payload.bytes payload.layout.frmStart payload.layout.frmEnd
          (((fcnt >>> 16) <<< 16) ||| payload.fhdr.fcnt.toUInt32) crypto
          (by have := payload.valid.long; omega) payload.valid.frm_inside short
        rw [success] at failed
        cases failed
      · rename_i out success
        exact ⟨_, rfl, SecurityHelpers.encryptFrmDataPayload_length _ _ _ _ _ _ _ _ success⟩
  · exact ⟨_, rfl, rfl⟩

end DecryptedDataPayload

/-! ## Join accepts -/

abbrev joinAcceptLen : Nat := 17
abbrev joinAcceptWithCflistLen : Nat := 33

def checkMhdr (bytes : List Byte) (mtype : Byte) : Except Error Unit :=
  match bytes with
  | [] => .error .tooShort
  | mhdr :: _ =>
      if mhdr &&& 0b11 ≠ 0 then .error .unsupportedMajorVersion
      else if mhdr >>> 5 ≠ mtype then .error .unexpectedMessageType
      else .ok ()

def validateJoinAcceptStructure (bytes : List Byte) : Except Error Unit := do
  checkMhdr bytes 1
  if bytes.length ≠ joinAcceptLen ∧ bytes.length ≠ joinAcceptWithCflistLen then
    .error .invalidLength
  else return ()

inductive CfList where
  | dynamicChannel (freqs : Vector Frequency 5)
  | fixedChannel (mask : ChannelMask 9)
  deriving DecidableEq

/-- A join accept after decryption. -/
structure DecryptedJoinAcceptPayload where
  bytes : List Byte
  long : bytes.length = joinAcceptLen ∨ bytes.length = joinAcceptWithCflistLen

namespace DecryptedJoinAcceptPayload

/-- The first `n` blocks of 16 bytes are enciphered; a rest stays. -/
def encryptChunks (crypto : Crypto) : Nat → List Byte → List Byte
  | 0, bytes => bytes
  | n + 1, bytes =>
      if long : 16 ≤ bytes.length then
        (crypto.encryptBlock (Bytes.arr 16 (bytes.take 16) (by simpa using long))).toList ++
          encryptChunks crypto n (bytes.drop 16)
      else bytes

theorem encryptChunks_length (crypto : Crypto) (n : Nat) (bytes : List Byte) :
    (encryptChunks crypto n bytes).length = bytes.length := by
  induction n generalizing bytes with
  | zero => rfl
  | succ n ih =>
      rw [encryptChunks]
      split
      · rename_i long
        rw [List.length_append, ih, List.length_drop, Vector.length_toList]
        omega
      · rfl

theorem validateJoinAcceptStructure_length (bytes : List Byte)
    (success : validateJoinAcceptStructure bytes = .ok ()) :
    bytes.length = joinAcceptLen ∨ bytes.length = joinAcceptWithCflistLen := by
  unfold validateJoinAcceptStructure at success
  cases checked : checkMhdr bytes 1 with
  | error e =>
      rw [checked] at success
      cases success
  | ok _ =>
      by_contra wrong
      rw [not_or] at wrong
      simp only [checked, bind, Except.bind, ne_eq, wrong, not_false_iff, and_self,
        if_true] at success
      cases success

def decryptInPlace (buf : List Byte) (crypto : Crypto) :
    Except Error DecryptedJoinAcceptPayload :=
  match success : validateJoinAcceptStructure buf with
  | .error e => .error e
  | .ok () => .ok ⟨buf.take 1 ++ encryptChunks crypto ((buf.length - 1) / 16) (buf.drop 1), by
      have long := validateJoinAcceptStructure_length buf success
      have same : (buf.take 1 ++ encryptChunks crypto ((buf.length - 1) / 16)
          (buf.drop 1)).length = buf.length := by
        rw [List.length_append, encryptChunks_length, ← List.length_append,
          List.take_append_drop]
      rw [same]
      exact long⟩

def mic (payload : DecryptedJoinAcceptPayload) : MIC :=
  ⟨Bytes.arr 4 (payload.bytes.drop (payload.bytes.length - micLen)) (by
    have := payload.long
    simp only [List.length_drop, micLen, joinAcceptLen, joinAcceptWithCflistLen] at *
    omega)⟩

def validateMic (payload : DecryptedJoinAcceptPayload) (crypto : Crypto) : Bool :=
  decide (payload.mic = SecurityHelpers.calculateMic
    (payload.bytes.take (payload.bytes.length - micLen)) crypto)

def checkMicAndDecryptInPlace (buf : List Byte) (crypto : Crypto) :
    Except Error DecryptedJoinAcceptPayload := do
  let decrypted ← decryptInPlace buf crypto
  if decrypted.validateMic crypto then return decrypted else .error .invalidMic

theorem thirteen_le (payload : DecryptedJoinAcceptPayload) : 13 ≤ payload.bytes.length := by
  have := payload.long
  simp only [joinAcceptLen, joinAcceptWithCflistLen] at this
  omega

def joinNonce (payload : DecryptedJoinAcceptPayload) : JoinNonce :=
  have := payload.thirteen_le
  ⟨#v[payload.bytes[1], payload.bytes[2], payload.bytes[3]]⟩

def netId (payload : DecryptedJoinAcceptPayload) : NetId :=
  have := payload.thirteen_le
  ⟨#v[payload.bytes[4], payload.bytes[5], payload.bytes[6]]⟩

def devAddr (payload : DecryptedJoinAcceptPayload) : DevAddr :=
  have := payload.thirteen_le
  ⟨#v[payload.bytes[7], payload.bytes[8], payload.bytes[9], payload.bytes[10]]⟩

def dlSettings (payload : DecryptedJoinAcceptPayload) : DLSettings :=
  have := payload.thirteen_le
  ⟨payload.bytes[11]⟩

def rxDelay (payload : DecryptedJoinAcceptPayload) : Byte :=
  have := payload.thirteen_le
  payload.bytes[12] &&& 0x0f

theorem long_of_not_plain (payload : DecryptedJoinAcceptPayload)
    (plain : ¬ payload.bytes.length = joinAcceptLen) :
    payload.bytes.length = joinAcceptWithCflistLen := payload.long.resolve_left plain

theorem cFList_inside (payload : DecryptedJoinAcceptPayload)
    (long : payload.bytes.length = joinAcceptWithCflistLen) :
    13 ≤ 29 ∧ 29 ≤ payload.bytes.length := by
  simp only [joinAcceptWithCflistLen] at long
  omega

theorem cFList_length (payload : DecryptedJoinAcceptPayload)
    (long : payload.bytes.length = joinAcceptWithCflistLen) :
    (Bytes.slice payload.bytes 13 29 (payload.cFList_inside long)).length = 16 := by
  rw [Bytes.slice_length]

def cFList (payload : DecryptedJoinAcceptPayload) : Option CfList :=
  if plain : payload.bytes.length = joinAcceptLen then none
  else
    have long := payload.long_of_not_plain plain
    let cflist : Vector Byte 16 := Bytes.arr 16
      (Bytes.slice payload.bytes 13 29 (payload.cFList_inside long)) (payload.cFList_length long)
    match (cflist.get 15).toNat with
    | 0 => some (.dynamicChannel #v[
        ⟨#v[cflist.get 0, cflist.get 1, cflist.get 2]⟩,
        ⟨#v[cflist.get 3, cflist.get 4, cflist.get 5]⟩,
        ⟨#v[cflist.get 6, cflist.get 7, cflist.get 8]⟩,
        ⟨#v[cflist.get 9, cflist.get 10, cflist.get 11]⟩,
        ⟨#v[cflist.get 12, cflist.get 13, cflist.get 14]⟩])
    | 1 => some (.fixedChannel ⟨#v[cflist.get 0, cflist.get 1, cflist.get 2, cflist.get 3,
        cflist.get 4, cflist.get 5, cflist.get 6, cflist.get 7, cflist.get 8]⟩)
    | _ => none

def deriveSessionKey (payload : DecryptedJoinAcceptPayload) (firstByte : Byte)
    (devNonce : DevNonce) (crypto : Crypto) : AES128 :=
  let nonce := payload.joinNonce.bytes
  let net := payload.netId.bytes
  crypto.encryptBlock #v[firstByte, nonce.get 0, nonce.get 1, nonce.get 2,
    net.get 0, net.get 1, net.get 2,
    devNonce.bytes.get 0, devNonce.bytes.get 1, 0, 0, 0, 0, 0, 0, 0]

def deriveNwkskey (payload : DecryptedJoinAcceptPayload) (devNonce : DevNonce)
    (crypto : Crypto) : NwkSKey := ⟨payload.deriveSessionKey 0x01 devNonce crypto⟩

def deriveAppskey (payload : DecryptedJoinAcceptPayload) (devNonce : DevNonce)
    (crypto : Crypto) : AppSKey := ⟨payload.deriveSessionKey 0x02 devNonce crypto⟩

end DecryptedJoinAcceptPayload

end LoraRs.Encoding
