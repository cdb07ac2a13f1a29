import LoraRs.Encoding.DataFrames
import LoraRs.Lib.Buffers
import LoraRs.Lib.Fields

/-!
# Frames in their buffers

The views of data frames with every index checked as it is taken, and decryption as it
writes to the buffer.  Validation is what makes both safe: no accessor of a parsed frame
stops, and only the payload octets are written.
-/

set_option autoImplicit false

namespace LoraRs.Encoding

open LoraRs.Lib LoraRs.Lib.Bytes

/-! ## Views -/

theorem mhdr_inside {bytes : List Byte} (long : 12 ≤ bytes.length) : 0 < bytes.length := by omega

theorem fctrl_inside {bytes : List Byte} (long : 12 ≤ bytes.length) : 5 < bytes.length := by omega

/-- A data frame: major version 0, a data message type, and a header that ends before the
MIC. -/
structure IsDataFrame (bytes : List Byte) : Prop where
  long : 12 ≤ bytes.length
  version : bytes.get ⟨0, mhdr_inside long⟩ &&& 0b11 = 0
  messageType : 2 ≤ (bytes.get ⟨0, mhdr_inside long⟩ >>> 5).toNat ∧
    (bytes.get ⟨0, mhdr_inside long⟩ >>> 5).toNat ≤ 5
  fOpts : 8 + (bytes.get ⟨5, fctrl_inside long⟩ &&& 0x0f).toNat ≤ bytes.length - micLen

theorem fromMhdr_isSome_iff (mhdr : Byte) :
    (DataFrameType.fromMhdr mhdr).isSome = true ↔
      2 ≤ (mhdr >>> 5).toNat ∧ (mhdr >>> 5).toNat ≤ 5 := by
  unfold DataFrameType.fromMhdr
  generalize (mhdr >>> 5).toNat = kind
  constructor
  · intro found
    split at found
    · exact ⟨by decide, by decide⟩
    · exact ⟨by decide, by decide⟩
    · exact ⟨by decide, by decide⟩
    · exact ⟨by decide, by decide⟩
    · cases found
  · rintro ⟨low, high⟩
    interval_cases kind <;> rfl

/-- The header of a frame as the code keeps it. -/
structure RawFhdr where
  bytes : List Byte
  uplink : Bool

namespace RawFhdr

def devAddr (fhdr : RawFhdr) : Checked DevAddr := do
  let addr ← cut fhdr.bytes 0 4
  return ⟨← array 4 addr⟩

def mcAddr (fhdr : RawFhdr) : Checked McAddr := do
  let addr ← cut fhdr.bytes 0 4
  return ⟨← array 4 addr⟩

def fctrl (fhdr : RawFhdr) : Checked FCtrl := do
  return ⟨← byteAt fhdr.bytes 4, fhdr.uplink⟩

def fcnt (fhdr : RawFhdr) : Checked UInt16 := do
  let low ← byteAt fhdr.bytes 5
  let high ← byteAt fhdr.bytes 6
  return ofLeU16 low high

def fOpts (fhdr : RawFhdr) : Checked (List Byte) := cut fhdr.bytes 7 fhdr.bytes.length

end RawFhdr

namespace SecurityHelpers

def rawHelperBlock (data : List Byte) (first : Byte) (fcnt : UInt32) : Checked Block := do
  let mhdr ← byteAt data 0
  let addr ← array 4 (← cut data 1 5)
  return #v[first, 0, 0, 0, 0, (mhdr &&& 0x20) >>> 5,
    addr.get 0, addr.get 1, addr.get 2, addr.get 3,
    fcntByte fcnt 0, fcntByte fcnt 1, fcntByte fcnt 2, fcntByte fcnt 3, 0, 0]

def rawDataMic (data : List Byte) (crypto : Crypto) (fcnt : UInt32) : Checked MIC := do
  let b0 ← rawHelperBlock data 0x49 fcnt
  return crypto.calculateMic (Fields.setAt b0 15 data.length.toUInt8).toList data

theorem rawHelperBlock_eq {data : List Byte} (first : Byte) (fcnt : UInt32)
    (header : 5 ≤ data.length) :
    rawHelperBlock data first fcnt = .ok (generateHelperBlock data first fcnt header) := by
  match data, header with
  | mhdr :: a0 :: a1 :: a2 :: a3 :: rest, header =>
      rw [rawHelperBlock, byteAt_eq (by simp), Checked.ok_bind, cut_eq ⟨by decide, header⟩,
        Checked.ok_bind, array_eq (by rw [slice_length]), Checked.ok_bind]
      rfl

theorem rawDataMic_eq {data : List Byte} (crypto : Crypto) (fcnt : UInt32)
    (header : 5 ≤ data.length) :
    rawDataMic data crypto fcnt = .ok (calculateDataMic data crypto fcnt header) := by
  rw [rawDataMic, rawHelperBlock_eq _ _ header]
  rfl

end SecurityHelpers

/-- A parsed data frame as the code keeps it, enciphered or not. -/
structure RawPayload where
  bytes : List Byte
  layout : Layout

namespace RawPayload

def parse (bytes : List Byte) : Except Error RawPayload := do
  return ⟨bytes, ← Layout.validate bytes⟩

def frameType (payload : RawPayload) : DataFrameType := payload.layout.frameType

def isUplink (payload : RawPayload) : Bool := payload.layout.frameType.isUplink

def isConfirmed (payload : RawPayload) : Bool := payload.layout.frameType.isConfirmed

def fhdr (payload : RawPayload) : Checked RawFhdr := do
  let bytes ← cut payload.bytes mhdrLen (mhdrLen + payload.layout.fhdrLen)
  return ⟨bytes, payload.isUplink⟩

def fPort (payload : RawPayload) : Checked (Option Byte) :=
  match payload.layout.fPortOffset with
  | some off => some <$> byteAt payload.bytes off
  | none => .ok none

def mic (payload : RawPayload) : Checked MIC := do
  let start ← lengthSub payload.bytes.length micLen
  let mic ← cut payload.bytes start payload.bytes.length
  return ⟨#v[← byteAt mic 0, ← byteAt mic 1, ← byteAt mic 2, ← byteAt mic 3]⟩

def validateMic (payload : RawPayload) (crypto : Crypto) (fcnt : UInt32) : Checked Bool := do
  let finish ← lengthSub payload.bytes.length micLen
  let withoutMic ← cut payload.bytes 0 finish
  return decide ((← payload.mic) = (← SecurityHelpers.rawDataMic withoutMic crypto fcnt))

def frmPayload (payload : RawPayload) : Checked FrmPayload := do
  let frm ← cut payload.bytes payload.layout.frmStart payload.layout.frmEnd
  match ← payload.fPort with
  | none => return .none
  | some port => return if port = 0 then .macCommands frm else .data frm

end RawPayload

namespace DataView

/-- The view without what validation has shown. -/
def raw (view : DataView) : RawPayload := ⟨view.bytes, view.layout⟩

end DataView

namespace Fhdr

def raw (fhdr : Fhdr) : RawFhdr := ⟨fhdr.bytes, fhdr.uplink⟩

end Fhdr

/-- Every accessor of the view returns. -/
structure Readable (view : DataView) : Prop where
  fhdr : view.raw.fhdr = .ok view.fhdr.raw
  devAddr : view.fhdr.raw.devAddr = .ok view.fhdr.devAddr
  mcAddr : view.fhdr.raw.mcAddr = .ok view.fhdr.mcAddr
  fctrl : view.fhdr.raw.fctrl = .ok view.fhdr.fctrl
  fcnt : view.fhdr.raw.fcnt = .ok view.fhdr.fcnt
  fOpts : view.fhdr.raw.fOpts = .ok view.fhdr.fOpts
  fPort : view.raw.fPort = .ok view.fPort
  mic : view.raw.mic = .ok view.mic
  validateMic : ∀ crypto fcnt, view.raw.validateMic crypto fcnt =
    .ok (EncryptedDataPayload.validateMic ⟨view⟩ crypto fcnt)
  frmPayload : view.raw.frmPayload = .ok (DecryptedDataPayload.frmPayload ⟨view⟩)

/-- MHDR, FHDR, FPort, FRMPayload and MIC follow one another and are all of the frame. -/
structure Partitioned (view : DataView) (mhdr : Byte) : Prop where
  whole : view.bytes =
    mhdr :: (view.fhdr.bytes ++ view.fPort.toList ++ view.frm ++ view.mic.bytes.toList)
  header : view.fhdr.bytes.length = 7 + view.fhdr.fOpts.length
  portless : view.fPort = none → view.frm = []

theorem RawPayload.parse_eq_ok_iff (bytes : List Byte) (payload : RawPayload) :
    RawPayload.parse bytes = .ok payload ↔
      ∃ view : DataView, view.bytes = bytes ∧ view.raw = payload := by
  unfold RawPayload.parse
  cases validated : Layout.validate bytes with
  | error e =>
      constructor
      · intro parsed
        cases parsed
      · rintro ⟨view, rfl, _⟩
        rw [(Layout.validate_eq_ok_iff view.bytes view.layout).mpr view.valid] at validated
        cases validated
  | ok layout =>
      constructor
      · intro parsed
        cases parsed
        exact ⟨⟨bytes, layout, (Layout.validate_eq_ok_iff bytes layout).mp validated⟩, rfl, rfl⟩
      · rintro ⟨view, rfl, rfl⟩
        rw [(Layout.validate_eq_ok_iff view.bytes view.layout).mpr view.valid] at validated
        cases validated
        rfl

theorem parses_iff (bytes : List Byte) :
    (∃ payload, RawPayload.parse bytes = .ok payload) ↔ IsDataFrame bytes := by
  constructor
  · rintro ⟨payload, parsed⟩
    obtain ⟨view, rfl, _⟩ := (RawPayload.parse_eq_ok_iff bytes payload).mp parsed
    have fits := view.valid.fits
    have fhdrLen := view.valid.fhdrLen
    have long := view.valid.long
    have messageType := (fromMhdr_isSome_iff view.bytes[0]).mp
      (Option.isSome_iff_exists.mpr ⟨_, view.valid.frameType⟩)
    have fOpts : 8 + (view.bytes[5] &&& 0x0f).toNat ≤ view.bytes.length - micLen := by
      rw [micLen]
      omega
    exact ⟨long, view.valid.version, messageType, fOpts⟩
  · intro frame
    have long := frame.long
    have fOpts : 8 + (bytes[5] &&& 0x0f).toNat ≤ bytes.length - micLen := frame.fOpts
    obtain ⟨frameType, typed⟩ :=
      Option.isSome_iff_exists.mp ((fromMhdr_isSome_iff bytes[0]).mpr frame.messageType)
    have validated : Layout.Validated bytes
        (Layout.place frameType (7 + (bytes[5] &&& 0x0f).toNat) bytes.length) := by
      refine ⟨long, frame.version, typed, rfl, ?_, rfl⟩
      rw [micLen] at fOpts
      simp only [Layout.place]
      omega
    exact ⟨_, (RawPayload.parse_eq_ok_iff bytes _).mpr ⟨⟨bytes, _, validated⟩, rfl, rfl⟩⟩

theorem partitioned (view : DataView) : ∃ mhdr, Partitioned view mhdr := by
  have formed := Parts.formed_ofView view
  refine ⟨(Parts.ofView view).mhdr, ?_, ?_, formed.portless⟩
  · rw [← Parts.bytes_ofView view]
    simp only [Parts.bytes, Parts.unsigned, Parts.front, Parts.ofView, List.cons_append,
      List.append_assoc]
  · have long := view.fhdr.long
    rw [Fhdr.fOpts, List.length_drop]
    omega

theorem Fhdr.addr_reads (fhdr : Fhdr) :
    ∃ addr, cut fhdr.bytes 0 4 = .ok addr ∧ array 4 addr = .ok fhdr.addrBytes := by
  obtain ⟨bytes, uplink, long⟩ := fhdr
  match bytes, long with
  | b0 :: b1 :: b2 :: b3 :: rest, long =>
      refine ⟨_, cut_eq ⟨by decide, Nat.le_trans (by decide) long⟩, ?_⟩
      rw [array_eq (by rw [slice_length])]
      rfl

theorem mic_reads (view : DataView) : view.raw.mic = .ok view.mic := by
  have long := view.valid.long
  have tail : slice view.bytes (view.bytes.length - micLen) view.bytes.length
      ⟨Nat.sub_le _ _, Nat.le_refl _⟩ = view.mic.bytes.toList := by
    rw [slice, List.take_length]
    rfl
  have room : micLen ≤ view.bytes.length := by
    rw [micLen]
    omega
  simp only [RawPayload.mic, DataView.raw, lengthSub_eq room, Checked.ok_bind,
    cut_eq ⟨Nat.sub_le _ _, Nat.le_refl _⟩, tail]
  obtain ⟨octets⟩ := view.mic
  obtain ⟨_, _, _, _, rfl⟩ := Fields.four_octets octets
  rfl

theorem fPort_reads (view : DataView) : view.raw.fPort = .ok view.fPort := by
  obtain ⟨bytes, ⟨frameType, fhdrLen, fPortOffset, frmStart, frmEnd⟩, valid⟩ := view
  cases fPortOffset with
  | none => rfl
  | some off =>
      have inside : off < bytes.length := valid.port_inside off rfl
      simp only [RawPayload.fPort, DataView.raw, byteAt_eq inside]
      rfl

theorem validateMic_reads (view : DataView) (crypto : Crypto) (fcnt : UInt32) :
    view.raw.validateMic crypto fcnt =
      .ok (EncryptedDataPayload.validateMic ⟨view⟩ crypto fcnt) := by
  have long := view.valid.long
  have room : micLen ≤ view.bytes.length := by
    rw [micLen]
    omega
  have read := mic_reads view
  have front : slice view.bytes 0 (view.bytes.length - micLen) ⟨Nat.zero_le _, Nat.sub_le _ _⟩ =
      view.withoutMic := rfl
  rw [RawPayload.validateMic, read]
  simp only [DataView.raw, lengthSub_eq room, Checked.ok_bind,
    cut_eq ⟨Nat.zero_le _, Nat.sub_le _ _⟩, front,
    SecurityHelpers.rawDataMic_eq crypto fcnt view.header_withoutMic]
  rfl

theorem frmPayload_reads (view : DataView) :
    view.raw.frmPayload = .ok (DecryptedDataPayload.frmPayload ⟨view⟩) := by
  rw [RawPayload.frmPayload, fPort_reads]
  simp only [DataView.raw, cut_eq view.valid.frm_inside, Checked.ok_bind]
  unfold DecryptedDataPayload.frmPayload
  simp only
  cases view.fPort with
  | none => rfl
  | some port =>
      by_cases zero : port = 0
      · subst zero
        rfl
      · simp only [if_neg zero]
        rfl

theorem readable (view : DataView) : Readable view := by
  have fhdrLong := view.fhdr.long
  obtain ⟨first, addr, octets⟩ := view.fhdr.addr_reads
  constructor
  · simp only [RawPayload.fhdr, DataView.raw, cut_eq view.valid.fhdr_inside, Checked.ok_bind]
    rfl
  · simp only [RawFhdr.devAddr, Fhdr.raw, addr, Checked.ok_bind, octets]
    rfl
  · simp only [RawFhdr.mcAddr, Fhdr.raw, addr, Checked.ok_bind, octets]
    rfl
  · simp only [RawFhdr.fctrl, Fhdr.raw, byteAt_eq (show 4 < view.fhdr.bytes.length by omega),
      Checked.ok_bind]
    rfl
  · simp only [RawFhdr.fcnt, Fhdr.raw, byteAt_eq (show 5 < view.fhdr.bytes.length by omega),
      byteAt_eq (show 6 < view.fhdr.bytes.length by omega), Checked.ok_bind]
    rfl
  · have rest : slice view.fhdr.bytes 7 view.fhdr.bytes.length ⟨fhdrLong, Nat.le_refl _⟩ =
        view.fhdr.fOpts := by
      rw [slice, List.take_length]
      rfl
    simp only [RawFhdr.fOpts, Fhdr.raw, cut_eq ⟨fhdrLong, Nat.le_refl _⟩, rest]
  · exact fPort_reads view
  · exact mic_reads view
  · exact validateMic_reads view
  · exact frmPayload_reads view

/-! ## Decryption in the buffer -/

/-- Why an operation on a buffer ends early: it panics or returns an error. -/
inductive Interrupt where
  | panicked (fault : Fault)
  | refused (e : Error)
  deriving DecidableEq

abbrev OnBuffer : Type → Type := Procedure (List Byte) Interrupt

namespace OnBuffer

def checked {α : Type} : Checked α → OnBuffer α
  | .ok value => pure value
  | .error fault => Procedure.fail (.panicked fault)

/-- `?`. -/
def accepted {α : Type} : Except Error α → OnBuffer α
  | .ok value => pure value
  | .error e => Procedure.fail (.refused e)

/-- The loop of `encrypt_frm_data_payload`, with this many bytes to do: `i` counts the bytes
done, `ctr` is the next block counter and `s` the keystream block in use. -/
def xorLoop (crypto : Crypto) (a : Block) (start : Nat) : Nat → Nat → UInt8 → Block → OnBuffer Unit
  | 0, _, _, _ => return ()
  | todo + 1, i, ctr, s => do
      let (ctr, s) ← checked (SecurityHelpers.nextKeystream crypto a i ctr s)
      let j : Fin 16 := ⟨i &&& 0x0f, SecurityHelpers.and_fifteen_lt i⟩
      xorAt .panicked (start + i) (s.get j)
      xorLoop crypto a start todo (i + 1) ctr s

def encryptFrmDataPayload (start finish : Nat) (fcnt : UInt32) (crypto : Crypto) :
    OnBuffer Unit := do
  let phyPayload ← Procedure.get
  let len ← checked (lengthSub finish start)
  let a ← checked (SecurityHelpers.rawHelperBlock phyPayload 0x01 fcnt)
  xorLoop crypto a start len 0 1 (Vector.replicate 16 0)

/-- The port is there and not 0. -/
def usesAppKey (layout : Layout) (buf : List Byte) : Checked Bool :=
  match layout.fPortOffset with
  | some off => do return (← byteAt buf off) != 0
  | none => .ok false

def neededKey (usesAppKey : Bool) (nwkCrypto appCrypto : Option Crypto) : Except Error Crypto :=
  match if usesAppKey then appCrypto else nwkCrypto with
  | some crypto => .ok crypto
  | none => .error .missingKey

/-- The upper half of `fcnt` and the lower half from the wire. -/
def fullFcnt (buf : List Byte) (fcnt : UInt32) : Checked UInt32 := do
  let low ← byteAt buf 6
  let high ← byteAt buf 7
  return ((fcnt >>> 16) <<< 16) ||| (ofLeU16 low high).toUInt32

def decryptFrm (layout : Layout) (nwkCrypto appCrypto : Option Crypto) (fcnt : UInt32) :
    OnBuffer Unit :=
  if layout.frmStart < layout.frmEnd then do
    let buf ← Procedure.get
    let usesAppKey ← checked (usesAppKey layout buf)
    let crypto ← accepted (neededKey usesAppKey nwkCrypto appCrypto)
    let fullFcnt ← checked (fullFcnt buf fcnt)
    encryptFrmDataPayload layout.frmStart layout.frmEnd fullFcnt crypto
  else return ()

def decryptInPlace (nwkCrypto appCrypto : Option Crypto) (fcnt : UInt32) :
    OnBuffer RawPayload := do
  let layout ← accepted (Layout.validate (← Procedure.get))
  decryptFrm layout nwkCrypto appCrypto fcnt
  return ⟨← Procedure.get, layout⟩

def checkMicAndDecryptInPlace (nwkCrypto : Crypto) (appCrypto : Option Crypto) (fcnt : UInt32) :
    OnBuffer RawPayload := do
  let payload ← accepted (RawPayload.parse (← Procedure.get))
  let valid ← checked (payload.validateMic nwkCrypto fcnt)
  if valid then decryptInPlace (some nwkCrypto) appCrypto fcnt
  else Procedure.fail (.refused .invalidMic)

/-! ## What is written -/

/-- The loop leaves in the buffer what the cipher makes of the payload. -/
theorem xorLoop_run {crypto : Crypto} {a : Block} {start i : Nat} {ctr : UInt8} {s : Block}
    {front payload out : List Byte} (tail : List Byte) (place : start + i = front.length)
    (ran : SecurityHelpers.encryptLoop crypto a payload i ctr s = .ok out) :
    xorLoop crypto a start payload.length i ctr s (front ++ payload ++ tail) =
      (.ok (), front ++ out ++ tail) := by
  induction payload generalizing front i ctr s out with
  | nil =>
      cases ran
      rfl
  | cons byte rest ih =>
      rw [SecurityHelpers.encryptLoop] at ran
      obtain ⟨⟨next, block⟩, stepped, ran⟩ := Checked.bind_eq_ok_iff.mp ran
      obtain ⟨enciphered, restRan, ran⟩ := Checked.bind_eq_ok_iff.mp ran
      cases ran
      let key := block.get ⟨i &&& 0x0f, SecurityHelpers.and_fifteen_lt i⟩
      have inner : start + (i + 1) = (front ++ [byte ^^^ key]).length := by
        rw [List.length_append, List.length_singleton]
        omega
      have done := ih inner restRan
      rw [List.append_assoc, List.cons_append, List.length_cons, xorLoop, stepped]
      change (xorAt .panicked (start + i) key >>= fun _ =>
        xorLoop crypto a start rest.length (i + 1) next block) _ = _
      rw [Procedure.bind_ok (xorAt_append _ place key)]
      simp only [List.append_assoc, List.cons_append] at done ⊢
      exact done

theorem usesAppKey_eq (view : DataView) :
    usesAppKey view.layout view.bytes = .ok (DecryptedDataPayload.usesAppKey view) := by
  obtain ⟨bytes, ⟨frameType, fhdrLen, fPortOffset, frmStart, frmEnd⟩, valid⟩ := view
  cases fPortOffset with
  | none => rfl
  | some off =>
      have inside : off < bytes.length := valid.port_inside off rfl
      simp only [usesAppKey, byteAt_eq inside]
      rfl

theorem fullFcnt_eq (view : DataView) (fcnt : UInt32) :
    fullFcnt view.bytes fcnt = .ok (((fcnt >>> 16) <<< 16) ||| view.fhdr.fcnt.toUInt32) := by
  have long := view.valid.long
  have fhdrLong := view.fhdr.long
  have octet : ∀ k (small : k < 7), view.fhdr.bytes[k]? = view.bytes[k + 1]? := by
    intro k small
    have inside := view.valid.fhdrLen
    rw [Nat.add_comm k]
    exact slice_getElem? view.bytes mhdrLen (mhdrLen + view.layout.fhdrLen)
      view.valid.fhdr_inside k (by omega)
  have low := octet 5 (by decide)
  have high := octet 6 (by decide)
  rw [List.getElem?_eq_getElem (by omega), List.getElem?_eq_getElem (by omega)] at low high
  rw [fullFcnt, byteAt_eq (by omega), byteAt_eq (by omega), ← Option.some.inj low,
    ← Option.some.inj high]
  rfl

section Parts

variable {parts : Parts} {frameType : DataFrameType} {view : DataView}
  {nwkCrypto appCrypto : Option Crypto} {fcnt : UInt32}

theorem encryptFrmDataPayload_run (formed : parts.WellFormed frameType) {crypto : Crypto}
    {out : List Byte} (ran : parts.enciphered crypto fcnt (Parts.front_long formed) = .ok out) :
    encryptFrmDataPayload parts.front.length parts.unsigned.length fcnt crypto parts.bytes =
      (.ok (), (parts.withFrm out).bytes) := by
  have long := Parts.front_long formed
  have header : 5 ≤ parts.bytes.length := by
    rw [Parts.bytes_length, Parts.unsigned_length]
    omega
  have whole : parts.bytes = parts.front ++ (parts.frm ++ parts.mic.bytes.toList) := by
    rw [Parts.bytes, Parts.unsigned, List.append_assoc]
  have block : SecurityHelpers.rawHelperBlock parts.bytes 0x01 fcnt =
      .ok (SecurityHelpers.generateHelperBlock parts.front 0x01 fcnt long) := by
    rw [SecurityHelpers.rawHelperBlock_eq _ _ header]
    simp only [whole]
    rw [SecurityHelpers.generateHelperBlock_append _ _ _ _ _ long]
  have len : lengthSub parts.unsigned.length parts.front.length = .ok parts.frm.length := by
    rw [Parts.unsigned_length, lengthSub_eq (Nat.le_add_right _ _), Nat.add_sub_cancel_left]
  rw [encryptFrmDataPayload, Procedure.get_bind, len, block]
  exact xorLoop_run parts.mic.bytes.toList (Nat.add_zero _) ran

theorem decryptFrm_of_validated {outcome : Except Interrupt Unit} {left : List Byte}
    (ran : decryptFrm view.layout nwkCrypto appCrypto fcnt view.bytes = (outcome, left)) :
    decryptInPlace nwkCrypto appCrypto fcnt view.bytes =
      (outcome.map fun _ => ⟨left, view.layout⟩, left) := by
  have valid := (Layout.validate_eq_ok_iff view.bytes view.layout).mpr view.valid
  rw [decryptInPlace, Procedure.get_bind, valid]
  change (decryptFrm view.layout nwkCrypto appCrypto fcnt >>= fun _ => _) view.bytes = _
  cases outcome with
  | ok _ =>
      rw [Procedure.bind_ok ran]
      rfl
  | error e =>
      rw [Procedure.bind_error ran]
      rfl

theorem decryptInPlace_flat (flat : ¬ view.layout.frmStart < view.layout.frmEnd) :
    decryptInPlace nwkCrypto appCrypto fcnt view.bytes =
      (.ok ⟨view.bytes, view.layout⟩, view.bytes) := by
  suffices kept : decryptFrm view.layout nwkCrypto appCrypto fcnt view.bytes =
      (.ok (), view.bytes) from decryptFrm_of_validated kept
  rw [decryptFrm, if_neg flat]
  rfl

theorem decryptInPlace_run (formed : parts.WellFormed frameType)
    (same : view.bytes = parts.bytes) {crypto : Crypto} {full : UInt32} {plain : List Byte}
    (key : parts.frm ≠ [] → Parts.keyFor parts.port nwkCrypto appCrypto = some crypto)
    (fullEq : ((fcnt >>> 16) <<< 16) ||| view.fhdr.fcnt.toUInt32 = full)
    (ran : parts.enciphered crypto full (Parts.front_long formed) = .ok plain) :
    decryptInPlace nwkCrypto appCrypto fcnt view.bytes =
      (.ok ⟨(parts.withFrm plain).bytes, view.layout⟩, (parts.withFrm plain).bytes) := by
  have shown := Parts.shownBy formed view same
  have unsignedEq := parts.unsigned_length
  by_cases empty : parts.frm = []
  · have flat : ¬ view.layout.frmStart < view.layout.frmEnd := by
      rw [shown.frmStart, shown.frmEnd, unsignedEq, empty, List.length_nil]
      omega
    unfold Parts.enciphered at ran
    rw [empty] at ran
    cases ran
    rw [decryptInPlace_flat flat, same, Parts.withFrm, ← empty]
  · suffices written : decryptFrm view.layout nwkCrypto appCrypto fcnt view.bytes =
        (.ok (), (parts.withFrm plain).bytes) from decryptFrm_of_validated written
    have filled : view.layout.frmStart < view.layout.frmEnd := by
      have := List.length_pos_iff.mpr empty
      rw [shown.frmStart, shown.frmEnd, unsignedEq]
      omega
    have given : (if DecryptedDataPayload.usesAppKey view then appCrypto else nwkCrypto) =
        some crypto := by
      rw [DecryptedDataPayload.usesAppKey, shown.port]
      exact key empty
    have found : neededKey (DecryptedDataPayload.usesAppKey view) nwkCrypto appCrypto =
        .ok crypto := by
      rw [neededKey, given]
    rw [decryptFrm, if_pos filled, Procedure.get_bind, usesAppKey_eq, fullFcnt_eq, fullEq,
      shown.frmStart, shown.frmEnd, same]
    change (accepted (neededKey _ nwkCrypto appCrypto) >>= fun crypto => _) parts.bytes = _
    rw [found]
    exact encryptFrmDataPayload_run formed ran

theorem decryptInPlace_keyless (filled : view.layout.frmStart < view.layout.frmEnd)
    (missing : Parts.keyFor view.fPort nwkCrypto appCrypto = none) :
    decryptInPlace nwkCrypto appCrypto fcnt view.bytes =
      (.error (.refused .missingKey), view.bytes) := by
  suffices kept : decryptFrm view.layout nwkCrypto appCrypto fcnt view.bytes =
      (.error (.refused .missingKey), view.bytes) from decryptFrm_of_validated kept
  have given : (if DecryptedDataPayload.usesAppKey view then appCrypto else nwkCrypto) = none :=
    missing
  have refused : neededKey (DecryptedDataPayload.usesAppKey view) nwkCrypto appCrypto =
      .error .missingKey := by
    rw [neededKey, given]
  rw [decryptFrm, if_pos filled, Procedure.get_bind, usesAppKey_eq]
  change (accepted (neededKey _ nwkCrypto appCrypto) >>= fun crypto => _) view.bytes = _
  rw [refused]
  rfl

end Parts

/-- What decryption leaves in the buffer of a parsed frame: without the key the frame, else
the frame with another payload, of which the same decryption gives back the first. -/
inductive Leaves (view : DataView) (nwkCrypto appCrypto : Option Crypto) (fcnt : UInt32) : Prop where
  | keyless (missing : Parts.keyFor view.fPort nwkCrypto appCrypto = none)
      (ran : decryptInPlace nwkCrypto appCrypto fcnt view.bytes =
        (.error (.refused .missingKey), view.bytes))
  | written (frm : List Byte) (length : frm.length = view.frm.length)
      (ran : decryptInPlace nwkCrypto appCrypto fcnt view.bytes =
        (.ok ⟨((Parts.ofView view).withFrm frm).bytes, view.layout⟩,
          ((Parts.ofView view).withFrm frm).bytes))
      (again : (decryptInPlace nwkCrypto appCrypto fcnt
        ((Parts.ofView view).withFrm frm).bytes).2 = view.bytes)

end OnBuffer

theorem Fhdr.fcnt_congr {first second : Fhdr} (same : first.bytes = second.bytes) :
    first.fcnt = second.fcnt := by
  obtain ⟨bytes, uplink, long⟩ := first
  cases same
  rfl

namespace OnBuffer

theorem decryptInPlace_leaves (view : DataView) (nwkCrypto appCrypto : Option Crypto)
    (fcnt : UInt32) (short : view.bytes.length ≤ 255) : Leaves view nwkCrypto appCrypto fcnt := by
  have formed := Parts.formed_ofView view
  have same := (Parts.bytes_ofView view).symm
  by_cases filled : view.layout.frmStart < view.layout.frmEnd
  · cases key : Parts.keyFor view.fPort nwkCrypto appCrypto with
    | none => exact .keyless key (decryptInPlace_keyless filled key)
    | some crypto =>
        have room := view.frm_length_le
        obtain ⟨out, ran⟩ : Checked.Returns ((Parts.ofView view).enciphered crypto
            (((fcnt >>> 16) <<< 16) ||| view.fhdr.fcnt.toUInt32) (Parts.front_long formed)) := by
          refine SecurityHelpers.encryptLoop_returns _ _ _ _ _ _ ?_
          change 1 + (0 % 16 + view.frm.length + 15) / 16 ≤ 255 + (0 % 16 + 15) / 16
          omega
        have length : out.length = view.frm.length :=
          SecurityHelpers.encryptLoop_length _ _ _ _ _ _ _ ran
        have formedOut := Parts.formed_withFrm formed length
        let left : DataView := ⟨_, _, Parts.validated formedOut⟩
        have shown := Parts.shownBy formedOut left rfl
        have counter : left.fhdr.fcnt = view.fhdr.fcnt := Fhdr.fcnt_congr shown.fhdr
        have again := decryptInPlace_run formedOut (rfl : left.bytes = _) (fun _ => key)
          (congrArg (((fcnt >>> 16) <<< 16) ||| ·.toUInt32) counter)
          (SecurityHelpers.encryptLoop_inverse ran)
        refine .written out length (decryptInPlace_run formed same (fun _ => key) rfl ran) ?_
        exact (congrArg Prod.snd again).trans same.symm
  · have ran : decryptInPlace nwkCrypto appCrypto fcnt view.bytes =
        (.ok ⟨view.bytes, view.layout⟩, view.bytes) := decryptInPlace_flat filled
    have whole : ((Parts.ofView view).withFrm view.frm).bytes = view.bytes := same.symm
    refine .written view.frm rfl ?_ ?_
    · rw [whole]
      exact ran
    · rw [whole]
      exact congrArg Prod.snd ran

/-- What decryption does to a buffer with a parsed frame: it does not panic, it changes the
payload octets only, and done twice it restores the frame. -/
structure Restores (view : DataView) (run : OnBuffer RawPayload) : Prop where
  safe : ∀ fault, (run view.bytes).1 ≠ .error (.panicked fault)
  length : (run view.bytes).2.length = view.bytes.length
  outside : ∀ k, k < view.layout.frmStart ∨ view.layout.frmEnd ≤ k →
    (run view.bytes).2[k]? = view.bytes[k]?
  twice : (run (run view.bytes).2).2 = view.bytes

/-- Another payload of the same length changes the payload octets only. -/
theorem withFrm_outside (view : DataView) {frm : List Byte} (length : frm.length = view.frm.length)
    (k : Nat) (outside : k < view.layout.frmStart ∨ view.layout.frmEnd ≤ k) :
    ((Parts.ofView view).withFrm frm).bytes[k]? = view.bytes[k]? := by
  have shown := Parts.shownBy (Parts.formed_ofView view) view (Parts.bytes_ofView view).symm
  have total := (Parts.ofView view).unsigned_length
  have cut : ∀ other : List Byte, ((Parts.ofView view).withFrm other).bytes =
      (Parts.ofView view).front ++ (other ++ view.mic.bytes.toList) :=
    fun _ => List.append_assoc _ _ _
  have whole : view.bytes =
      (Parts.ofView view).front ++ (view.frm ++ view.mic.bytes.toList) := by
    rw [← cut]
    exact (Parts.bytes_ofView view).symm
  rw [cut, whole]
  rcases outside with before | after
  · rw [shown.frmStart] at before
    rw [List.getElem?_append_left before, List.getElem?_append_left before]
  · rw [shown.frmEnd, total] at after
    have past : view.frm.length ≤ k - (Parts.ofView view).front.length := by
      change (Parts.ofView view).front.length + view.frm.length ≤ k at after
      omega
    rw [List.getElem?_append_right (by omega), List.getElem?_append_right (by omega),
      List.getElem?_append_right (by omega), List.getElem?_append_right past, length]

theorem decryptInPlace_restores (view : DataView) (nwkCrypto appCrypto : Option Crypto)
    (fcnt : UInt32) (short : view.bytes.length ≤ 255) :
    Restores view (decryptInPlace nwkCrypto appCrypto fcnt) := by
  cases decryptInPlace_leaves view nwkCrypto appCrypto fcnt short with
  | keyless missing ran =>
      refine ⟨?_, ?_, ?_, ?_⟩
      · intro fault same
        rw [ran] at same
        cases same
      · rw [ran]
      · intro k _
        rw [ran]
      · rw [ran, ran]
  | written frm length ran again =>
      refine ⟨?_, ?_, ?_, ?_⟩
      · intro fault same
        rw [ran] at same
        cases same
      · rw [ran, ← Parts.bytes_ofView view, Parts.bytes_length, Parts.bytes_length,
          Parts.unsigned_length, Parts.unsigned_length]
        change (Parts.ofView view).front.length + frm.length + 4 =
          (Parts.ofView view).front.length + view.frm.length + 4
        rw [length]
      · intro k outside
        rw [ran]
        exact withFrm_outside view length k outside
      · rw [ran]
        exact again

/-! ## What a refusal leaves -/

theorem xorLoop_unrefused (crypto : Crypto) (a : Block) (start todo i : Nat) (ctr : UInt8)
    (s : Block) :
    Procedure.Ends (fun _ => True) (xorLoop crypto a start todo i ctr s) (fun _ _ => True)
      (fun stop _ => ∀ e, stop ≠ .refused e) := by
  induction todo generalizing i ctr s with
  | zero => exact Procedure.Ends.pure fun _ _ => trivial
  | succ todo ih =>
      refine Procedure.Ends.through (fun _ _ => True) ?_ fun next => ?_
      · intro buf _
        cases SecurityHelpers.nextKeystream crypto a i ctr s with
        | error fault => exact nofun
        | ok found => trivial
      · refine Procedure.Ends.through (fun _ _ => True) ?_ fun _ => ih (i + 1) next.1 next.2
        intro buf _
        unfold xorAt
        by_cases inside : start + i < buf.length
        · rw [if_pos inside]
          trivial
        · rw [if_neg inside]
          exact nofun

/-- An error leaves the buffer as it was. -/
def Unwritten (given : List Byte) (stop : Interrupt) (left : List Byte) : Prop :=
  ∀ e, stop = .refused e → left = given

section Unwritten

variable {given : List Byte}

theorem checked_unwritten {α : Type} (run : Checked α) :
    Procedure.Ends (fun buf => buf = given) (checked run) (fun _ buf => buf = given)
      (Unwritten given) := by
  intro buf same
  cases run with
  | ok value => exact same
  | error fault => exact nofun

theorem accepted_unwritten {α : Type} (result : Except Error α) :
    Procedure.Ends (fun buf => buf = given) (accepted result) (fun _ buf => buf = given)
      (Unwritten given) := by
  intro buf same
  cases result with
  | ok value => exact same
  | error e => exact fun _ _ => same

theorem decryptFrm_unwritten (layout : Layout) (nwkCrypto appCrypto : Option Crypto)
    (fcnt : UInt32) :
    Procedure.Ends (fun buf => buf = given) (decryptFrm layout nwkCrypto appCrypto fcnt)
      (fun _ _ => True) (Unwritten given) := by
  unfold decryptFrm
  split
  · refine Procedure.Ends.get_bind ?_
    rintro buf rfl
    refine Procedure.Ends.bind (checked_unwritten _) fun usesAppKey => ?_
    refine Procedure.Ends.bind (accepted_unwritten _) fun crypto => ?_
    refine Procedure.Ends.bind (checked_unwritten _) fun fullFcnt => ?_
    refine Procedure.Ends.get_bind ?_
    rintro _ rfl
    refine Procedure.Ends.bind (checked_unwritten _) fun len => ?_
    refine Procedure.Ends.bind (checked_unwritten _) fun a => ?_
    exact (xorLoop_unrefused crypto a _ _ _ _ _).weaken (fun _ _ => trivial) (fun _ _ _ => trivial)
      (fun _ _ unrefused e same => absurd same (unrefused e))
  · exact Procedure.Ends.pure fun _ _ => trivial

theorem decryptInPlace_unwritten (nwkCrypto appCrypto : Option Crypto) (fcnt : UInt32) :
    Procedure.Ends (fun buf => buf = given) (decryptInPlace nwkCrypto appCrypto fcnt)
      (fun _ _ => True) (Unwritten given) := by
  refine Procedure.Ends.get_bind ?_
  rintro buf rfl
  refine Procedure.Ends.bind (accepted_unwritten _) fun layout => ?_
  refine Procedure.Ends.through (fun _ _ => True) (decryptFrm_unwritten layout _ _ fcnt) fun _ => ?_
  exact fun _ _ => trivial

theorem checkMicAndDecryptInPlace_unwritten (nwkCrypto : Crypto) (appCrypto : Option Crypto)
    (fcnt : UInt32) :
    Procedure.Ends (fun buf => buf = given) (checkMicAndDecryptInPlace nwkCrypto appCrypto fcnt)
      (fun _ _ => True) (Unwritten given) := by
  refine Procedure.Ends.get_bind ?_
  rintro buf rfl
  refine Procedure.Ends.bind (accepted_unwritten _) fun payload => ?_
  refine Procedure.Ends.bind (checked_unwritten _) fun valid => ?_
  split
  · exact decryptInPlace_unwritten _ _ fcnt
  · exact Procedure.Ends.fail fun _ same _ _ => same

end Unwritten

/-- The operation on the buffer leaves the bytes of the decrypted view. -/
theorem decryptInPlace_agrees (view : DataView) (nwkCrypto appCrypto : Option Crypto)
    (fcnt : UInt32) {decrypted : DecryptedDataPayload}
    (decrypts : DecryptedDataPayload.decryptInPlace view.bytes nwkCrypto appCrypto fcnt =
      .ok (.ok decrypted)) :
    decryptInPlace nwkCrypto appCrypto fcnt view.bytes =
      (.ok ⟨decrypted.bytes, view.layout⟩, decrypted.bytes) := by
  have formed := Parts.formed_ofView view
  have same := (Parts.bytes_ofView view).symm
  have parsed : EncryptedDataPayload.parse view.bytes = .ok ⟨view⟩ :=
    EncryptedDataPayload.parse_bytes ⟨view⟩
  rw [DecryptedDataPayload.decryptInPlace, parsed] at decrypts
  change DecryptedDataPayload.decryptView view nwkCrypto appCrypto fcnt = _ at decrypts
  by_cases filled : view.layout.frmStart < view.layout.frmEnd
  · cases key : Parts.keyFor view.fPort nwkCrypto appCrypto with
    | none =>
        have given : (if DecryptedDataPayload.usesAppKey view then appCrypto else nwkCrypto) =
            none := key
        rw [DecryptedDataPayload.decryptView, if_pos filled, given] at decrypts
        cases decrypts
    | some crypto =>
        cases ran : (Parts.ofView view).enciphered crypto
            (((fcnt >>> 16) <<< 16) ||| view.fhdr.fcnt.toUInt32) (Parts.front_long formed) with
        | ok plain =>
            obtain ⟨again, found, bytes⟩ := Parts.decryptView_eq formed same (fun _ => key) rfl ran
            rw [decrypts] at found
            cases found
            rw [decryptInPlace_run formed same (fun _ => key) rfl ran, bytes]
        | error fault =>
            have shown := Parts.shownBy formed view same
            have given : (if DecryptedDataPayload.usesAppKey view then appCrypto else nwkCrypto) =
                some crypto := key
            have stopped := SecurityHelpers.encryptFrmDataPayload_middle
              (((fcnt >>> 16) <<< 16) ||| view.fhdr.fcnt.toUInt32) crypto
              (by have := view.valid.long; omega) view.valid.frm_inside (same.trans rfl)
              shown.frmStart shown.frmEnd (Parts.front_long formed)
            unfold Parts.enciphered at ran
            rw [ran, Checked.error_bind] at stopped
            rw [DecryptedDataPayload.decryptView, if_pos filled, given] at decrypts
            simp only at decrypts
            split at decrypts
            · cases decrypts
            · rename_i out success
              rw [stopped] at success
              cases success
  · rw [DecryptedDataPayload.decryptView, if_neg filled] at decrypts
    cases decrypts
    exact decryptInPlace_flat filled

end OnBuffer

/-- Parsing accepts exactly the data frames; the parts of a parsed frame partition it and
no accessor stops; decryption changes the payload octets only and restores the frame when
it is done twice; and what is refused stays as it was received. -/
theorem data_frames_in_their_buffer :
    (∀ bytes, (∃ payload, RawPayload.parse bytes = .ok payload) ↔ IsDataFrame bytes) ∧
    (∀ bytes payload, RawPayload.parse bytes = .ok payload →
      ∃ view : DataView, view.bytes = bytes ∧ view.raw = payload ∧
        (∃ mhdr, Partitioned view mhdr) ∧ Readable view ∧
        (bytes.length ≤ 255 → ∀ nwkCrypto appCrypto fcnt,
          OnBuffer.Restores view (OnBuffer.decryptInPlace nwkCrypto appCrypto fcnt))) ∧
    ∀ bytes nwkCrypto appCrypto fcnt e,
      (OnBuffer.checkMicAndDecryptInPlace nwkCrypto appCrypto fcnt bytes).1 =
        .error (.refused e) →
      (OnBuffer.checkMicAndDecryptInPlace nwkCrypto appCrypto fcnt bytes).2 = bytes := by
  refine ⟨parses_iff, ?_, ?_⟩
  · intro bytes payload parsed
    obtain ⟨view, rfl, rfl⟩ := (RawPayload.parse_eq_ok_iff bytes payload).mp parsed
    exact ⟨view, rfl, rfl, partitioned view, readable view,
      fun short nwkCrypto appCrypto fcnt => OnBuffer.decryptInPlace_restores view _ _ fcnt short⟩
  · intro bytes nwkCrypto appCrypto fcnt e refused
    exact (OnBuffer.checkMicAndDecryptInPlace_unwritten nwkCrypto appCrypto fcnt).of_error rfl
      (Prod.ext refused rfl) e rfl

/-- A frame of 17 bytes in its buffer. -/
theorem data_frames_in_their_buffer_wire : ∃ view : DataView, view.bytes = Sample.wire ∧
    OnBuffer.Restores view (OnBuffer.decryptInPlace (some Sample.crypto) (some Sample.crypto) 5) := by
  obtain ⟨parses, views, _⟩ := data_frames_in_their_buffer
  obtain ⟨payload, parsed⟩ := (parses Sample.wire).mpr
    ⟨by decide, by decide, by decide, by decide⟩
  obtain ⟨view, same, _, _, _, restores⟩ := views Sample.wire payload parsed
  exact ⟨view, same, restores (by decide) _ _ 5⟩

end LoraRs.Encoding
