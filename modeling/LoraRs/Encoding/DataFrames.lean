import LoraRs.Encoding.Creator

/-!
# Building and reading data frames

The offsets that the parser computes and the ones the creator writes at cut a frame at
the same places.  From that, a frame that was built reads back as it was given, and a
frame that parses is built again from what was read.
-/

set_option autoImplicit false

namespace LoraRs.Encoding

open LoraRs.Lib

/-! ## The FCtrl octet -/

/-- `FCtrl`, the octet with the direction it came from. -/
structure FCtrl where
  byte : Byte
  uplink : Bool

namespace FCtrl

def adr (fctrl : FCtrl) : Bool := fctrl.byte &&& 0x80 != 0

def adrAckReq (fctrl : FCtrl) : Bool := fctrl.uplink && fctrl.byte &&& 0x40 != 0

def ack (fctrl : FCtrl) : Bool := fctrl.byte &&& 0x20 != 0

def fPending (fctrl : FCtrl) : Bool := !fctrl.uplink && fctrl.byte &&& 0x10 != 0

end FCtrl

namespace Fhdr

def fctrl (fhdr : Fhdr) : FCtrl :=
  have := fhdr.long
  ⟨fhdr.bytes[4], fhdr.uplink⟩

end Fhdr

namespace DecryptedDataPayload

def checkMicAndDecryptInPlace (buf : List Byte) (nwkCrypto : Crypto) (appCrypto : Option Crypto)
    (fcnt : UInt32) : Checked (Except Error DecryptedDataPayload) :=
  match EncryptedDataPayload.parse buf with
  | .error e => .ok (.error e)
  | .ok payload =>
      if payload.validateMic nwkCrypto fcnt then decryptInPlace buf (some nwkCrypto) appCrypto fcnt
      else .ok (.error .invalidMic)

end DecryptedDataPayload

/-! ## A frame as its parts -/

/-- A data frame cut where validation cuts it. -/
structure Parts where
  mhdr : Byte
  fhdr : List Byte
  port : Option Byte
  frm : List Byte
  mic : MIC

namespace Parts

def front (parts : Parts) : List Byte := parts.mhdr :: (parts.fhdr ++ parts.port.toList)

/-- What the MIC is computed over. -/
def unsigned (parts : Parts) : List Byte := parts.front ++ parts.frm

def bytes (parts : Parts) : List Byte := parts.unsigned ++ parts.mic.bytes.toList

/-- The parts of a frame of this type. -/
structure WellFormed (parts : Parts) (frameType : DataFrameType) : Prop where
  version : parts.mhdr &&& 0b11 = 0
  typed : DataFrameType.fromMhdr parts.mhdr = some frameType
  long : 7 ≤ parts.fhdr.length
  sized : parts.fhdr.length = 7 + (parts.fhdr[4] &&& 0x0f).toNat
  portless : parts.port = none → parts.frm = []

/-- A view shows these parts. -/
structure ShownBy (parts : Parts) (frameType : DataFrameType) (view : DataView) : Prop where
  bytes : view.bytes = parts.bytes
  frameType : view.frameType = frameType
  fhdr : view.fhdr.bytes = parts.fhdr
  port : view.fPort = parts.port
  frmStart : view.layout.frmStart = parts.front.length
  frmEnd : view.layout.frmEnd = parts.unsigned.length
  frm : view.frm = parts.frm
  mic : view.mic = parts.mic
  withoutMic : view.withoutMic = parts.unsigned

theorem front_length (parts : Parts) :
    parts.front.length = 1 + parts.fhdr.length + parts.port.toList.length := by
  simp only [front, List.length_cons, List.length_append]
  omega

theorem unsigned_length (parts : Parts) :
    parts.unsigned.length = parts.front.length + parts.frm.length := List.length_append

theorem bytes_length (parts : Parts) : parts.bytes.length = parts.unsigned.length + 4 := by
  rw [bytes, List.length_append, Vector.length_toList]

theorem bytes_fhdr (parts : Parts) (k : Nat) (inside : k < parts.fhdr.length) :
    parts.bytes[k + 1]? = some parts.fhdr[k] := by
  simp [bytes, unsigned, front, List.getElem?_append_left, inside]

theorem place_eq {parts : Parts} {frameType : DataFrameType} (formed : parts.WellFormed frameType) :
    Layout.place frameType parts.fhdr.length parts.bytes.length =
      { frameType
        fhdrLen := parts.fhdr.length
        fPortOffset := if parts.port.isSome then some (1 + parts.fhdr.length) else none
        frmStart := parts.front.length
        frmEnd := parts.unsigned.length } := by
  have total := parts.bytes_length
  have unsignedEq := parts.unsigned_length
  have frontEq := parts.front_length
  cases hasPort : parts.port with
  | none =>
      have empty := formed.portless hasPort
      rw [hasPort] at frontEq
      rw [empty] at unsignedEq
      simp only [Option.toList_none, List.length_nil, Nat.add_zero] at frontEq unsignedEq
      simp only [Layout.place, mhdrLen, micLen, total, unsignedEq, frontEq, Nat.add_sub_cancel,
        Nat.lt_irrefl, if_false, Option.isSome_none, Bool.false_eq_true]
  | some port =>
      rw [hasPort] at frontEq
      simp only [Option.toList_some, List.length_singleton] at frontEq
      have later : 1 + parts.fhdr.length < parts.unsigned.length := by omega
      simp only [Layout.place, mhdrLen, micLen, total, Nat.add_sub_cancel, if_pos later,
        Option.isSome_some, if_true, frontEq]

theorem validated {parts : Parts} {frameType : DataFrameType}
    (formed : parts.WellFormed frameType) :
    Layout.Validated parts.bytes
      (Layout.place frameType parts.fhdr.length parts.bytes.length) := by
  have long := formed.long
  have total := parts.bytes_length
  have unsignedEq := parts.unsigned_length
  have frontEq := parts.front_length
  have inside : 5 < parts.bytes.length := by omega
  have mhdr : parts.bytes[0] = parts.mhdr := rfl
  have fctrl : parts.bytes[5] = parts.fhdr[4] := by
    have found := parts.bytes_fhdr 4 (by omega)
    rw [List.getElem?_eq_getElem inside] at found
    exact Option.some.inj found
  refine ⟨by omega, ?_, ?_, ?_, ?_, rfl⟩
  · rw [mhdr]
    exact formed.version
  · rw [mhdr]
    exact formed.typed
  · rw [fctrl]
    exact formed.sized
  · simp only [Layout.place]
    omega

theorem layout_eq {parts : Parts} {frameType : DataFrameType}
    (formed : parts.WellFormed frameType) {view : DataView} (same : view.bytes = parts.bytes) :
    view.layout = Layout.place frameType parts.fhdr.length parts.bytes.length := by
  have read := (Layout.validate_eq_ok_iff _ _).mpr view.valid
  rw [same, (Layout.validate_eq_ok_iff _ _).mpr (validated formed)] at read
  exact (Except.ok.inj read).symm

theorem shownBy {parts : Parts} {frameType : DataFrameType} (formed : parts.WellFormed frameType)
    (view : DataView) (same : view.bytes = parts.bytes) : parts.ShownBy frameType view := by
  have placed := (layout_eq formed same).trans (place_eq formed)
  have start : view.layout.frmStart = parts.front.length := by rw [placed]
  have finish : view.layout.frmEnd = parts.unsigned.length := by rw [placed]
  have frontCut : view.bytes =
      [parts.mhdr] ++ parts.fhdr ++ (parts.port.toList ++ parts.frm ++ parts.mic.bytes.toList) := by
    simp [same, Parts.bytes, Parts.unsigned, Parts.front]
  have short : view.bytes.length - 4 = parts.unsigned.length := by
    rw [same, bytes_length, Nat.add_sub_cancel]
  refine ⟨same, ?_, ?_, ?_, start, finish, ?_, ?_, ?_⟩
  · simp only [DataView.frameType, placed]
  · refine Bytes.slice_eq frontCut rfl ?_ view.valid.fhdr_inside
    simp only [placed, mhdrLen, List.length_append, List.length_singleton]
  · cases hasPort : parts.port with
    | none =>
        have absent : view.layout.fPortOffset = none := by simp [placed, hasPort]
        unfold DataView.fPort
        rw [Option.pmap_eq_none_iff]
        exact absent
    | some port =>
        have offset : view.layout.fPortOffset = some (1 + parts.fhdr.length) := by
          simp [placed, hasPort]
        have found : view.bytes[1 + parts.fhdr.length]? = some port := by
          rw [frontCut, hasPort, List.append_assoc, List.getElem?_append_right (by simp)]
          simp
        unfold DataView.fPort
        rw [Option.pmap_eq_some_iff]
        refine ⟨_, ?_, offset, ?_⟩
        · exact view.valid.port_inside _ offset
        · exact ((List.getElem_eq_iff _).mpr found).symm
  · exact Bytes.slice_eq (same.trans rfl) start finish _
  · have tail : view.bytes.drop (view.bytes.length - micLen) = parts.mic.bytes.toList := by
      simp only [micLen, short]
      rw [same]
      exact List.drop_left' rfl
    simp only [DataView.mic, tail, Bytes.arr_of_toList]
  · simp only [DataView.withoutMic, micLen, short]
    rw [same]
    exact List.take_left' rfl

def ofView (view : DataView) : Parts where
  mhdr := view.bytes.headD 0
  fhdr := view.fhdr.bytes
  port := view.fPort
  frm := view.frm
  mic := view.mic

theorem front_ofView (view : DataView) :
    (ofView view).front = view.bytes.take view.layout.frmStart := by
  have long := view.valid.long
  have fits := view.valid.fits
  have placed := view.valid.placed
  obtain ⟨mhdr, rest, cut⟩ : ∃ mhdr rest, view.bytes = mhdr :: rest :=
    List.exists_cons_of_length_pos (by omega)
  have fhdr : view.fhdr.bytes = rest.take view.layout.fhdrLen := by
    simp only [DataView.fhdr, Bytes.slice, cut, mhdrLen, Nat.add_comm 1, List.take_succ_cons,
      List.drop_succ_cons, List.drop_zero]
  rw [cut, List.length_cons] at fits
  by_cases hasPort : mhdrLen + view.layout.fhdrLen < view.bytes.length - micLen
  · have offset : view.layout.fPortOffset = some (1 + view.layout.fhdrLen) := by
      rw [placed]
      simp only [Layout.place, if_pos hasPort]
    have start : view.layout.frmStart = view.layout.fhdrLen + 1 + 1 := by
      rw [placed]
      simp only [Layout.place, if_pos hasPort, mhdrLen]
      omega
    have inside : view.layout.fhdrLen < rest.length := by omega
    have port : view.fPort = some rest[view.layout.fhdrLen] := by
      unfold DataView.fPort
      rw [Option.pmap_eq_some_iff]
      refine ⟨_, view.valid.port_inside _ offset, offset, ?_⟩
      symm
      rw [List.getElem_eq_iff, cut, Nat.add_comm 1, List.getElem?_cons_succ,
        List.getElem?_eq_getElem inside]
    simp only [front, ofView, cut, List.headD_cons, fhdr, port, Option.toList_some, start,
      List.take_succ_cons, List.take_append_getElem inside]
  · have absent : view.layout.fPortOffset = none := by
      rw [placed]
      simp only [Layout.place, if_neg hasPort]
    have start : view.layout.frmStart = view.layout.fhdrLen + 1 := by
      rw [placed]
      simp only [Layout.place, if_neg hasPort, mhdrLen]
      omega
    have port : view.fPort = none := by
      unfold DataView.fPort
      rw [Option.pmap_eq_none_iff]
      exact absent
    simp only [front, ofView, cut, List.headD_cons, fhdr, port, Option.toList_none,
      List.append_nil, start, List.take_succ_cons]

theorem bytes_ofView (view : DataView) : (ofView view).bytes = view.bytes := by
  have inside := view.valid.frm_inside
  have frmCut : view.bytes.take view.layout.frmStart ++ view.frm =
      view.bytes.take view.layout.frmEnd := by
    have cut := List.take_append_drop view.layout.frmStart (view.bytes.take view.layout.frmEnd)
    rw [List.take_take, Nat.min_eq_left inside.1] at cut
    exact cut
  rw [bytes, unsigned, front_ofView]
  simp only [ofView, frmCut, DataView.mic, Bytes.arr_toList]
  rw [view.valid.frmEnd_eq, List.take_append_drop]

theorem formed_ofView (view : DataView) : (ofView view).WellFormed view.frameType := by
  have long := view.valid.long
  have fits := view.valid.fits
  have fhdrLength : view.fhdr.bytes.length = view.layout.fhdrLen := by
    simp only [DataView.fhdr, Bytes.slice_length, mhdrLen]
    omega
  have fctrl : view.fhdr.bytes[4]? = view.bytes[5]? :=
    Bytes.slice_getElem? view.bytes mhdrLen (mhdrLen + view.layout.fhdrLen)
      view.valid.fhdr_inside 4 (by have := view.fhdr.long; omega)
  have mhdr : (ofView view).mhdr = view.bytes[0] := by
    simp only [ofView, List.headD_eq_head?_getD, List.head?_eq_getElem?,
      List.getElem?_eq_getElem (by omega : 0 < view.bytes.length), Option.getD_some]
  refine ⟨?_, ?_, view.fhdr.long, ?_, ?_⟩
  · rw [mhdr]
    exact view.valid.version
  · rw [mhdr]
    exact view.valid.frameType
  · have inside : 4 < view.fhdr.bytes.length := by
      have := view.fhdr.long
      omega
    rw [List.getElem?_eq_getElem inside, List.getElem?_eq_getElem (by omega)] at fctrl
    simp only [ofView, Option.some.inj fctrl, fhdrLength]
    exact view.valid.fhdrLen
  · intro portless
    have placed := view.valid.placed
    by_cases hasPort : mhdrLen + view.layout.fhdrLen < view.bytes.length - micLen
    · have offset : view.layout.fPortOffset = some (1 + view.layout.fhdrLen) := by
        rw [placed]
        simp only [Layout.place, if_pos hasPort]
      have missing : view.fPort = none := portless
      unfold DataView.fPort at missing
      rw [Option.pmap_eq_none_iff, offset] at missing
      cases missing
    · have empty : view.frm.length = 0 := by
        simp only [mhdrLen, micLen] at hasPort
        rw [DataView.frm, Bytes.slice_length, placed]
        simp only [Layout.place, mhdrLen, micLen, if_neg hasPort]
        omega
      exact List.eq_nil_of_length_eq_zero empty

end Parts

/-! ## Enciphering the middle of a frame -/

namespace SecurityHelpers

theorem generateHelperBlock_append (front tail : List Byte) (first : Byte) (fcnt : UInt32)
    (header : 5 ≤ (front ++ tail).length) (long : 5 ≤ front.length) :
    generateHelperBlock (front ++ tail) first fcnt header =
      generateHelperBlock front first fcnt long := by
  match front, long with
  | _ :: _ :: _ :: _ :: _ :: _, _ => rfl

/-- Enciphering twice gives back what was enciphered. -/
theorem encryptLoop_inverse {crypto : Crypto} {a : Block} {payload : List Byte} {i : Nat}
    {ctr : UInt8} {s : Block} {out : List Byte}
    (ran : encryptLoop crypto a payload i ctr s = .ok out) :
    encryptLoop crypto a out i ctr s = .ok payload := by
  induction payload generalizing i ctr s out with
  | nil =>
      cases ran
      rfl
  | cons byte rest ih =>
      rw [encryptLoop] at ran
      obtain ⟨⟨next, block⟩, stepped, ran⟩ := Checked.bind_eq_ok_iff.mp ran
      obtain ⟨tail, tailEq, ran⟩ := Checked.bind_eq_ok_iff.mp ran
      cases ran
      have back : ∀ key : Byte, (byte ^^^ key) ^^^ key = byte := by
        intro key
        rw [UInt8.xor_assoc, UInt8.xor_self, UInt8.xor_zero]
      rw [encryptLoop, stepped, Checked.ok_bind]
      simp only [ih tailEq, Checked.ok_bind, back, Checked.pure_eq_ok]

theorem encryptFrmDataPayload_middle {phyPayload front frm tail : List Byte} {start finish : Nat}
    (fcnt : UInt32) (crypto : Crypto) (header : 5 ≤ phyPayload.length)
    (inside : start ≤ finish ∧ finish ≤ phyPayload.length)
    (cut : phyPayload = front ++ frm ++ tail) (startEq : start = front.length)
    (finishEq : finish = (front ++ frm).length) (long : 5 ≤ front.length) :
    encryptFrmDataPayload phyPayload start finish fcnt crypto header inside = (do
      let middle ← encryptLoop crypto (generateHelperBlock front 0x01 fcnt long) frm 0 1
        (Vector.replicate 16 0)
      return front ++ middle ++ tail) := by
  subst cut startEq finishEq
  have block : generateHelperBlock (front ++ frm ++ tail) 0x01 fcnt header =
      generateHelperBlock front 0x01 fcnt long := by
    simp only [List.append_assoc]
    exact generateHelperBlock_append front (frm ++ tail) 0x01 fcnt _ long
  have head : (front ++ frm ++ tail).take front.length = front := by
    rw [List.append_assoc]
    exact List.take_left' rfl
  have rest : (front ++ frm ++ tail).drop (front ++ frm).length = tail := List.drop_left' rfl
  rw [encryptFrmDataPayload, block, Bytes.slice_eq rfl rfl rfl]
  simp only [head, rest]

end SecurityHelpers

/-! ## Bits of the header -/

namespace FCtrl

/-- The octet of a frame to build. -/
def assemble (len : Byte) (adr adrAckReq ack fPending uplink : Bool) : Byte :=
  let b := len
  let b := if adr then b ||| 0x80 else b
  let b := if adrAckReq && uplink then b ||| 0x40 else b
  let b := if ack then b ||| 0x20 else b
  if fPending && !uplink then b ||| 0x10 else b

theorem assemble_reads : ∀ (len : Fin 16) (adr adrAckReq ack fPending uplink : Bool),
    let fctrl : FCtrl := ⟨assemble len.val.toUInt8 adr adrAckReq ack fPending uplink, uplink⟩
    (fctrl.byte &&& 0x0f).toNat = len.val ∧ fctrl.adr = adr ∧
      fctrl.adrAckReq = (uplink && adrAckReq) ∧ fctrl.ack = ack ∧
      fctrl.fPending = (!uplink && fPending) := by
  decide +kernel

theorem assemble_of_reads : ∀ (n : Fin 256) (uplink : Bool),
    let fctrl : FCtrl := ⟨UInt8.ofFin n, uplink⟩
    (uplink = true → fctrl.byte &&& 0x10 = 0) → (uplink = false → fctrl.byte &&& 0x40 = 0) →
    assemble (fctrl.byte &&& 0x0f).toNat.toUInt8 fctrl.adr fctrl.adrAckReq fctrl.ack fctrl.fPending
      uplink = fctrl.byte := by
  decide +kernel

end FCtrl

namespace DataFrameType

def toMhdr : DataFrameType → Byte
  | unconfirmedUp => 0x40
  | unconfirmedDown => 0x60
  | confirmedUp => 0x80
  | confirmedDown => 0xa0

theorem toMhdr_reads (frameType : DataFrameType) :
    frameType.toMhdr &&& 0b11 = 0 ∧ fromMhdr frameType.toMhdr = some frameType := by
  cases frameType <;> exact ⟨rfl, rfl⟩

theorem toMhdr_of_reads : ∀ (n : Fin 256) (frameType : DataFrameType),
    fromMhdr (UInt8.ofFin n) = some frameType → UInt8.ofFin n &&& 0b11 = 0 →
    UInt8.ofFin n &&& 0b11100 = 0 → frameType.toMhdr = UInt8.ofFin n := by
  intro n frameType
  revert n
  cases frameType <;> decide +kernel

end DataFrameType

/-! ## Decrypting a frame of given parts -/

namespace Parts

theorem front_long {parts : Parts} {frameType : DataFrameType}
    (formed : parts.WellFormed frameType) : 5 ≤ parts.front.length := by
  have long := formed.long
  rw [front_length]
  omega

/-- What a key makes of the payload under a counter. -/
def enciphered (parts : Parts) (crypto : Crypto) (fcnt : UInt32) (long : 5 ≤ parts.front.length) :
    Checked (List Byte) :=
  SecurityHelpers.encryptLoop crypto
    (SecurityHelpers.generateHelperBlock parts.front 0x01 fcnt long) parts.frm 0 1
    (Vector.replicate 16 0)

/-- The parts with another payload. -/
def withFrm (parts : Parts) (frm : List Byte) : Parts := { parts with frm }

theorem formed_withFrm {parts : Parts} {frameType : DataFrameType}
    (formed : parts.WellFormed frameType) {frm : List Byte}
    (length : frm.length = parts.frm.length) : (parts.withFrm frm).WellFormed frameType := by
  refine ⟨formed.version, formed.typed, formed.long, formed.sized, ?_⟩
  intro portless
  have none : parts.frm = [] := formed.portless portless
  rw [none] at length
  exact List.eq_nil_of_length_eq_zero length

def keyFor (port : Option Byte) (nwkCrypto appCrypto : Option Crypto) : Option Crypto :=
  if (match port with
    | some port => port != 0
    | none => false) then appCrypto else nwkCrypto

theorem decryptView_eq {parts : Parts} {frameType : DataFrameType}
    (formed : parts.WellFormed frameType) {view : DataView} (same : view.bytes = parts.bytes)
    {nwkCrypto appCrypto : Option Crypto} {crypto : Crypto} {fcnt full : UInt32}
    {plain : List Byte}
    (key : parts.frm ≠ [] → keyFor parts.port nwkCrypto appCrypto = some crypto)
    (fullEq : ((fcnt >>> 16) <<< 16) ||| view.fhdr.fcnt.toUInt32 = full)
    (ran : parts.enciphered crypto full (front_long formed) = .ok plain) :
    ∃ decrypted : DecryptedDataPayload,
      DecryptedDataPayload.decryptView view nwkCrypto appCrypto fcnt = .ok (.ok decrypted) ∧
      decrypted.bytes = (parts.withFrm plain).bytes := by
  subst fullEq
  have shown := shownBy formed view same
  have unsignedEq := parts.unsigned_length
  unfold DecryptedDataPayload.decryptView
  by_cases empty : parts.frm = []
  · have flat : ¬ view.layout.frmStart < view.layout.frmEnd := by
      rw [shown.frmStart, shown.frmEnd, unsignedEq, empty, List.length_nil]
      omega
    rw [if_neg flat]
    unfold enciphered at ran
    rw [empty] at ran
    cases ran
    refine ⟨⟨view⟩, rfl, ?_⟩
    rw [same, withFrm, ← empty]
  · have filled : view.layout.frmStart < view.layout.frmEnd := by
      have := List.length_pos_iff.mpr empty
      rw [shown.frmStart, shown.frmEnd, unsignedEq]
      omega
    have found : (if DecryptedDataPayload.usesAppKey view then appCrypto else nwkCrypto) =
        some crypto := by
      rw [DecryptedDataPayload.usesAppKey, shown.port]
      exact key empty
    rw [if_pos filled, found]
    simp only
    have done := SecurityHelpers.encryptFrmDataPayload_middle
      (((fcnt >>> 16) <<< 16) ||| view.fhdr.fcnt.toUInt32) crypto
      (by have := view.valid.long; omega) view.valid.frm_inside (same.trans rfl) shown.frmStart
      shown.frmEnd (front_long formed)
    unfold enciphered at ran
    rw [ran, Checked.ok_bind] at done
    split
    · rename_i fault failed
      rw [done] at failed
      cases failed
    · rename_i out success
      refine ⟨_, rfl, ?_⟩
      rw [done] at success
      cases success
      rfl

end Parts

/-! ## Built frames -/

namespace SecurityHelpers

theorem calculateDataMic_congr {data other : List Byte} (same : data = other) (crypto : Crypto)
    (fcnt : UInt32) (header : 5 ≤ data.length) (header' : 5 ≤ other.length) :
    calculateDataMic data crypto fcnt header = calculateDataMic other crypto fcnt header' := by
  subst same
  rfl

end SecurityHelpers

namespace DataFrame

def parts (frame : DataFrame) (fPort : Option Byte) (frm : List Byte) (mic : MIC) : Parts where
  mhdr := frame.mhdr
  fhdr := frame.devAddr.bytes.toList ++ [frame.fctrl] ++ Bytes.leU16 frame.fcnt.toUInt16 ++
    frame.fOpts
  port := fPort
  frm
  mic

theorem fhdr_parts_length (frame : DataFrame) (fPort : Option Byte) (frm : List Byte) (mic : MIC) :
    (frame.parts fPort frm mic).fhdr.length = 7 + frame.fOpts.length := by
  simp only [parts, List.length_append, Vector.length_toList, List.length_singleton,
    Bytes.leU16_length]

theorem header_long (frame : DataFrame) (fPort : Option Byte) :
    5 ≤ (frame.header fPort).length := by
  rw [header_length]
  omega

theorem fctrl_eq (frame : DataFrame) :
    frame.fctrl = FCtrl.assemble frame.fOpts.length.toUInt8 frame.adr frame.adrAckReq frame.ack
      frame.fPending frame.frameType.isUplink := rfl

theorem fctrl_reads (frame : DataFrame) (short : frame.fOpts.length ≤ 15) :
    let fctrl : FCtrl := ⟨frame.fctrl, frame.frameType.isUplink⟩
    (fctrl.byte &&& 0x0f).toNat = frame.fOpts.length ∧ fctrl.adr = frame.adr ∧
      fctrl.adrAckReq = (frame.frameType.isUplink && frame.adrAckReq) ∧ fctrl.ack = frame.ack ∧
      fctrl.fPending = (!frame.frameType.isUplink && frame.fPending) :=
  FCtrl.assemble_reads ⟨frame.fOpts.length, by omega⟩ frame.adr frame.adrAckReq frame.ack
    frame.fPending frame.frameType.isUplink

theorem fhdr_fctrl (frame : DataFrame) (fPort : Option Byte) (frm : List Byte) (mic : MIC) :
    (frame.parts fPort frm mic).fhdr[4]? = some frame.fctrl := by
  have four : frame.devAddr.bytes.toList.length = 4 := Vector.length_toList
  simp only [parts, List.append_assoc]
  rw [List.getElem?_append_right (by omega), four]
  rfl

theorem formed_parts (frame : DataFrame) {fPort : Option Byte} {frm : List Byte} (mic : MIC)
    (short : frame.fOpts.length ≤ 15) (portless : fPort = none → frm = []) :
    (frame.parts fPort frm mic).WellFormed frame.frameType := by
  have mhdr : frame.mhdr = frame.frameType.toMhdr := by
    unfold mhdr
    cases frame.frameType <;> rfl
  have length := frame.fhdr_parts_length fPort frm mic
  have found := frame.fhdr_fctrl fPort frm mic
  rw [List.getElem?_eq_getElem (by omega)] at found
  refine ⟨?_, ?_, by omega, ?_, portless⟩
  · simp only [parts, mhdr]
    exact frame.frameType.toMhdr_reads.1
  · simp only [parts, mhdr]
    exact frame.frameType.toMhdr_reads.2
  · rw [Option.some.inj found, length]
    exact congrArg (7 + ·) (frame.fctrl_reads short).1.symm

theorem body_eq (frame : DataFrame) (fPort : Option Byte) (frm : List Byte) (mic : MIC)
    (encCrypto : Crypto) :
    frame.body fPort frm encCrypto = (do
      let cipher ← (frame.parts fPort frm mic).enciphered encCrypto frame.fcnt
        (frame.header_long fPort)
      return frame.header fPort ++ cipher) := by
  unfold body
  by_cases empty : frm = []
  · subst empty
    rfl
  · simp only
    rw [if_neg (by simpa using empty)]
    rw [SecurityHelpers.encryptFrmDataPayload_middle frame.fcnt encCrypto _ _
      (List.append_nil _).symm rfl (List.length_append).symm (frame.header_long fPort)]
    simp only [List.append_nil]
    rfl

theorem buildInto_eq_ok_iff (frame : DataFrame) (bufLen : Nat) (nwkCrypto : Crypto)
    (appCrypto : Option Crypto) (out : List Byte) :
    frame.buildInto bufLen nwkCrypto appCrypto = .ok (.ok out) ↔
      frame.fOpts.length ≤ 15 ∧ ∃ fPort frm encCrypto cipher mic,
        frame.frmParts nwkCrypto appCrypto = .ok (fPort, frm, encCrypto) ∧
        (frame.header fPort).length + frm.length + 4 ≤ bufLen ∧
        (frame.parts fPort frm mic).enciphered encCrypto frame.fcnt (frame.header_long fPort) =
          .ok cipher ∧
        mic = SecurityHelpers.calculateDataMic (frame.header fPort ++ cipher) nwkCrypto frame.fcnt
          (by
            have := frame.header_long fPort
            rw [List.length_append]
            omega) ∧
        out = (frame.parts fPort cipher mic).bytes := by
  unfold buildInto
  constructor
  · intro built
    split at built
    · cases built
    · rename_i short
      split at built
      · cases built
      · rename_i fPort frm encCrypto found
        simp only at built
        split at built
        · cases built
        · rename_i room
          split at built
          · cases built
          · rename_i body success
            cases built
            let mic := SecurityHelpers.calculateDataMic body nwkCrypto frame.fcnt (by
              have := frame.header_length fPort
              rw [body_length frame fPort frm encCrypto body success]
              omega)
            have ran := success
            rw [frame.body_eq fPort frm mic] at ran
            obtain ⟨cipher, enciphered, ran⟩ := Checked.bind_eq_ok_iff.mp ran
            cases ran
            simp only [micLen] at room
            exact ⟨by omega, fPort, frm, encCrypto, cipher, mic, found, by omega, enciphered, rfl,
              rfl⟩
  · rintro ⟨short, fPort, frm, encCrypto, cipher, mic, found, room, enciphered, micEq, rfl⟩
    rw [if_neg (by omega), found]
    simp only
    rw [if_neg (by simp only [micLen]; omega)]
    have ran := frame.body_eq fPort frm mic encCrypto
    rw [enciphered, Checked.ok_bind] at ran
    split
    · rename_i fault failed
      rw [ran] at failed
      cases failed
    · rename_i body success
      rw [ran] at success
      cases success
      rw [Parts.bytes, micEq]
      rfl

end DataFrame

/-! ## What is read back -/

namespace Payload

def fPort : Payload → Option Byte
  | none => .none
  | data fPort _ _ => some fPort
  | macCommands _ => some 0

def frmPayload : Payload → FrmPayload
  | none => .none
  | data _ _ bytes => .data bytes
  | macCommands cmds => .macCommands cmds

end Payload

/-- Every accessor of the view gives the field of the frame; the flags of the other
direction read as unset. -/
structure Shows (frame : DataFrame) (view : DataView) : Prop where
  frameType : view.frameType = frame.frameType
  devAddr : view.fhdr.devAddr = frame.devAddr
  adr : view.fhdr.fctrl.adr = frame.adr
  adrAckReq : view.fhdr.fctrl.adrAckReq = (frame.frameType.isUplink && frame.adrAckReq)
  ack : view.fhdr.fctrl.ack = frame.ack
  fPending : view.fhdr.fctrl.fPending = (!frame.frameType.isUplink && frame.fPending)
  fcnt : view.fhdr.fcnt = frame.fcnt.toUInt16
  fOpts : view.fhdr.fOpts = frame.fOpts
  fPort : view.fPort = frame.payload.fPort

/-- The built frame parses to a view of the given one, its MIC is valid at the counter
and it decrypts to the payload. -/
structure ReadsBack (frame : DataFrame) (nwkCrypto : Crypto) (appCrypto : Option Crypto)
    (out : List Byte) : Prop where
  parsed : ∃ payload, EncryptedDataPayload.parse out = .ok payload ∧
    Shows frame payload.toDataView ∧ payload.validateMic nwkCrypto frame.fcnt = true
  decrypted : ∃ decrypted : DecryptedDataPayload,
    DecryptedDataPayload.checkMicAndDecryptInPlace out nwkCrypto appCrypto frame.fcnt =
      .ok (.ok decrypted) ∧
    Shows frame decrypted.toDataView ∧ decrypted.frmPayload = frame.payload.frmPayload

namespace Fhdr

/-- The address, FCtrl, counter and FOpts of a header that is made of them. -/
theorem reads {fhdr : Fhdr} {addr : Vector Byte 4} {byte : Byte} {wire : UInt16} {opts : List Byte}
    (made : fhdr.bytes = addr.toList ++ [byte] ++ Bytes.leU16 wire ++ opts) :
    fhdr.devAddr = ⟨addr⟩ ∧ fhdr.fctrl = ⟨byte, fhdr.uplink⟩ ∧ fhdr.fcnt = wire ∧
      fhdr.fOpts = opts := by
  obtain ⟨bytes, uplink, long⟩ := fhdr
  obtain ⟨⟨list⟩, size⟩ := addr
  cases made
  match list, size with
  | [_, _, _, _], _ => exact ⟨rfl, rfl, Bytes.ofLeU16_leU16 wire, rfl⟩

end Fhdr

theorem shows_of_parts {frame : DataFrame} {frm : List Byte} {mic : MIC} {view : DataView}
    (short : frame.fOpts.length ≤ 15)
    (formed : (frame.parts frame.payload.fPort frm mic).WellFormed frame.frameType)
    (same : view.bytes = (frame.parts frame.payload.fPort frm mic).bytes) : Shows frame view := by
  have shown := Parts.shownBy formed view same
  obtain ⟨devAddr, fctrl, fcnt, fOpts⟩ := Fhdr.reads shown.fhdr
  have uplink : view.fhdr.uplink = frame.frameType.isUplink :=
    congrArg DataFrameType.isUplink shown.frameType
  obtain ⟨_, adr, adrAckReq, ack, fPending⟩ := frame.fctrl_reads short
  rw [uplink] at fctrl
  refine ⟨shown.frameType, devAddr, ?_, ?_, ?_, ?_, fcnt, fOpts, shown.port⟩
  · rw [fctrl]
    exact adr
  · rw [fctrl]
    exact adrAckReq
  · rw [fctrl]
    exact ack
  · rw [fctrl]
    exact fPending

/-- The upper half of a counter and its lower half. -/
theorem high_or_low (c : UInt32) : ((c >>> 16) <<< 16) ||| c.toUInt16.toUInt32 = c := by
  apply UInt32.toBitVec_inj.mp
  apply BitVec.eq_of_getLsbD_eq
  intro i small
  simp only [UInt32.toBitVec_or, UInt32.toBitVec_shiftLeft, UInt32.toBitVec_shiftRight,
    UInt16.toBitVec_toUInt32, UInt32.toBitVec_toUInt16]
  by_cases low : i < 16
  · simp [low, small]
  · have back : 16 + (i - 16) = i := by omega
    simp [BitVec.getLsbD_setWidth, low, small, back]

theorem frmParts_port {frame : DataFrame} {nwkCrypto encCrypto : Crypto}
    {appCrypto : Option Crypto} {fPort : Option Byte} {frm : List Byte}
    (found : frame.frmParts nwkCrypto appCrypto = .ok (fPort, frm, encCrypto)) :
    fPort = frame.payload.fPort ∧ (fPort = none → frm = []) ∧
      (frm ≠ [] → Parts.keyFor fPort (some nwkCrypto) appCrypto = some encCrypto) ∧
      ∀ decrypted : DecryptedDataPayload, decrypted.fPort = fPort → decrypted.frm = frm →
        decrypted.frmPayload = frame.payload.frmPayload := by
  unfold DataFrame.frmParts at found
  cases payload : frame.payload with
  | none =>
      rw [payload] at found
      cases found
      refine ⟨rfl, fun _ => rfl, fun filled => absurd rfl filled, ?_⟩
      intro decrypted port frm
      rw [DecryptedDataPayload.frmPayload, port, Payload.frmPayload]
  | data port nonzero bytes =>
      rw [payload] at found
      cases appCrypto with
      | none => cases found
      | some crypto =>
          cases found
          refine ⟨rfl, nofun, ?_, ?_⟩
          · intro _
            simp [Parts.keyFor, nonzero]
          · intro decrypted read frm
            rw [DecryptedDataPayload.frmPayload, read, Payload.frmPayload]
            split
            · rename_i absent
              cases absent
            · rename_i zero
              exact absurd (Option.some.inj zero) nonzero
            · rw [frm]
  | macCommands cmds =>
      rw [payload] at found
      simp only at found
      split at found
      · cases found
      · cases found
        refine ⟨rfl, nofun, fun _ => rfl, ?_⟩
        intro decrypted read frm
        rw [DecryptedDataPayload.frmPayload, read, Payload.frmPayload]
        simp only [frm]

theorem built_reads_back {frame : DataFrame} {bufLen : Nat} {nwkCrypto : Crypto}
    {appCrypto : Option Crypto} {out : List Byte}
    (built : frame.buildInto bufLen nwkCrypto appCrypto = .ok (.ok out)) :
    ReadsBack frame nwkCrypto appCrypto out := by
  obtain ⟨short, fPort, frm, encCrypto, cipher, mic, found, room, enciphered, micEq, rfl⟩ :=
    (frame.buildInto_eq_ok_iff bufLen nwkCrypto appCrypto out).mp built
  obtain ⟨portEq, portless, key, frmPayload⟩ := frmParts_port found
  subst portEq
  have length : cipher.length = frm.length := SecurityHelpers.encryptLoop_length _ _ _ _ _ _ _ enciphered
  have formedPlain := frame.formed_parts mic short portless
  have formed : (frame.parts frame.payload.fPort cipher mic).WellFormed frame.frameType :=
    Parts.formed_withFrm formedPlain length
  let payload : EncryptedDataPayload := ⟨_, _, Parts.validated formed⟩
  have shows : Shows frame payload.toDataView := shows_of_parts short formed rfl
  have shown := Parts.shownBy formed payload.toDataView rfl
  have valid : payload.validateMic nwkCrypto frame.fcnt = true := by
    apply decide_eq_true
    rw [shown.mic, SecurityHelpers.calculateDataMic_congr shown.withoutMic nwkCrypto frame.fcnt
      payload.header_withoutMic (Nat.le_trans (frame.header_long _) (by
        rw [Parts.unsigned, List.length_append]
        exact Nat.le_add_right _ _))]
    exact micEq
  have parsed : EncryptedDataPayload.parse (frame.parts frame.payload.fPort cipher mic).bytes =
      .ok payload := EncryptedDataPayload.parse_bytes payload
  have again := SecurityHelpers.encryptLoop_inverse enciphered
  have wire : ((frame.fcnt >>> 16) <<< 16) ||| payload.fhdr.fcnt.toUInt32 = frame.fcnt := by
    rw [shows.fcnt]
    exact high_or_low frame.fcnt
  have cipherKey : cipher ≠ [] →
      Parts.keyFor frame.payload.fPort (some nwkCrypto) appCrypto = some encCrypto := by
    intro filled
    apply key
    rintro rfl
    exact filled (List.eq_nil_of_length_eq_zero length)
  obtain ⟨decrypted, ran, bytes⟩ :=
    Parts.decryptView_eq formed (rfl : payload.toDataView.bytes = _) cipherKey wire again
  have shownPlain := Parts.shownBy formedPlain decrypted.toDataView bytes
  refine ⟨⟨payload, parsed, shows, valid⟩, decrypted, ?_, shows_of_parts short formedPlain bytes,
    frmPayload decrypted shownPlain.port shownPlain.frm⟩
  unfold DecryptedDataPayload.checkMicAndDecryptInPlace DecryptedDataPayload.decryptInPlace
  rw [parsed]
  simp only [valid, if_true]
  exact ran

/-! ## Building again what was read -/

namespace Fhdr

theorem bytes_eq (fhdr : Fhdr) :
    fhdr.bytes = fhdr.devAddr.bytes.toList ++ [fhdr.fctrl.byte] ++ Bytes.leU16 fhdr.fcnt ++
      fhdr.fOpts := by
  obtain ⟨bytes, uplink, long⟩ := fhdr
  match bytes, long with
  | _ :: _ :: _ :: _ :: _ :: low :: high :: _, _ =>
      have counter : Bytes.leU16 (Bytes.ofLeU16 low high) = [low, high] :=
        Bytes.leU16_ofLeU16 low high
      simp [devAddr, addrBytes, fctrl, fcnt, fOpts, counter]

theorem eq_of_bytes {first second : Fhdr} (bytes : first.bytes = second.bytes)
    (uplink : first.uplink = second.uplink) : first = second := by
  cases first
  cases second
  cases bytes
  cases uplink
  rfl

end Fhdr

namespace DecryptedDataPayload

def payload (view : DecryptedDataPayload) : Payload :=
  match view.fPort with
  | none => .none
  | some port => if zero : port = 0 then .macCommands view.frm else .data port zero view.frm

/-- The frame to build from a decrypted view, with a full counter. -/
def rebuilt (view : DecryptedDataPayload) (fcnt : UInt32) : DataFrame where
  frameType := view.frameType
  devAddr := view.fhdr.devAddr
  adr := view.fhdr.fctrl.adr
  adrAckReq := view.fhdr.fctrl.adrAckReq
  ack := view.fhdr.fctrl.ack
  fPending := view.fhdr.fctrl.fPending
  fcnt
  fOpts := view.fhdr.fOpts
  payload := view.payload

end DecryptedDataPayload

/-- The bits of a frame that a rebuilt one cannot have are unset: the reserved bits of
MHDR, the FCtrl bit of the other direction, and MAC commands in both places. -/
structure Canonical (view : DataView) : Prop where
  mhdr : ∀ mhdr ∈ view.bytes.head?, mhdr &&& 0b11100 = 0
  uplink : view.isUplink = true → view.fhdr.fctrl.byte &&& 0x10 = 0
  downlink : view.isUplink = false → view.fhdr.fctrl.byte &&& 0x40 = 0
  place : view.fPort = some 0 → view.fhdr.fOpts = []

namespace Parts

/-- The key that a frame with both keys present is enciphered under. -/
def cryptoFor (port : Option Byte) (nwkCrypto appCrypto : Crypto) : Crypto :=
  if (match port with
    | some port => port != 0
    | none => false) then appCrypto else nwkCrypto

theorem keyFor_some (port : Option Byte) (nwkCrypto appCrypto : Crypto) :
    keyFor port (some nwkCrypto) (some appCrypto) = some (cryptoFor port nwkCrypto appCrypto) := by
  exact (apply_ite some _ appCrypto nwkCrypto).symm

theorem rebuilt_parts {parts : Parts} {view : DecryptedDataPayload} {fcnt : UInt32} (mic : MIC)
    (shown : parts.ShownBy view.frameType view.toDataView) (formed : parts.WellFormed view.frameType)
    (canonical : Canonical view.toDataView) (low : fcnt.toUInt16 = view.fhdr.fcnt) :
    (view.rebuilt fcnt).parts parts.port parts.frm mic = { parts with mic } := by
  have mhdr : (view.rebuilt fcnt).mhdr = parts.mhdr := by
    have reserved : parts.mhdr &&& 0b11100 = 0 := by
      apply canonical.mhdr
      rw [shown.bytes]
      rfl
    have back := DataFrameType.toMhdr_of_reads parts.mhdr.toFin view.frameType formed.typed
      formed.version reserved
    unfold DataFrame.mhdr
    rw [← UInt8.ofFin_toFin parts.mhdr, ← back]
    simp only [DecryptedDataPayload.rebuilt]
    cases view.frameType <;> rfl
  have fctrl : (view.rebuilt fcnt).fctrl = view.fhdr.fctrl.byte := by
    have inside : 4 < parts.fhdr.length := Nat.lt_of_lt_of_le (by omega) formed.long
    have byte : view.fhdr.fctrl.byte = parts.fhdr[4] := by
      have same := congrArg (·[4]?) shown.fhdr
      simp only [List.getElem?_eq_getElem inside] at same
      exact Option.some.inj ((List.getElem?_eq_getElem _).symm.trans same)
    have length : view.fhdr.fOpts.length = (view.fhdr.fctrl.byte &&& 0x0f).toNat := by
      rw [Fhdr.fOpts, List.length_drop, shown.fhdr, formed.sized, ← byte, Nat.add_sub_cancel_left]
    have back := FCtrl.assemble_of_reads view.fhdr.fctrl.byte.toFin view.isUplink
      canonical.uplink canonical.downlink
    rw [DataFrame.fctrl_eq]
    simp only [DecryptedDataPayload.rebuilt, length]
    exact back
  have fhdr : (view.rebuilt fcnt).devAddr.bytes.toList ++ [(view.rebuilt fcnt).fctrl] ++
      Bytes.leU16 (view.rebuilt fcnt).fcnt.toUInt16 ++ (view.rebuilt fcnt).fOpts = parts.fhdr := by
    rw [← shown.fhdr, view.fhdr.bytes_eq, fctrl, ← low]
    rfl
  simp only [DataFrame.parts, mhdr, fhdr]

theorem enciphered_congr {parts other : Parts} (same : parts = other) (crypto : Crypto)
    (fcnt : UInt32) (long : 5 ≤ parts.front.length) (long' : 5 ≤ other.front.length) :
    parts.enciphered crypto fcnt long = other.enciphered crypto fcnt long' := by
  subst same
  rfl

end Parts

namespace DataView

theorem canonical_of_front {first second : DataView} (canonical : Canonical first)
    (head : second.bytes.head? = first.bytes.head?) (fhdr : second.fhdr = first.fhdr)
    (port : second.fPort = first.fPort) : Canonical second := by
  have uplink : second.isUplink = first.isUplink := congrArg Fhdr.uplink fhdr
  refine ⟨?_, ?_, ?_, ?_⟩
  · rw [head]
    exact canonical.mhdr
  · rw [uplink, fhdr]
    exact canonical.uplink
  · rw [uplink, fhdr]
    exact canonical.downlink
  · rw [port, fhdr]
    exact canonical.place

end DataView

namespace DecryptedDataPayload

/-- The rebuilt frame enciphers what was deciphered, under the same key. -/
theorem frmParts_rebuilt {view : DecryptedDataPayload} (fcnt : UInt32) (nwkCrypto appCrypto : Crypto)
    (canonical : Canonical view.toDataView) (portless : view.fPort = none → view.frm = []) :
    (view.rebuilt fcnt).frmParts nwkCrypto (some appCrypto) =
      .ok (view.fPort, view.frm, Parts.cryptoFor view.fPort nwkCrypto appCrypto) := by
  simp only [DataFrame.frmParts, rebuilt, payload]
  cases port : view.fPort with
  | none =>
      rw [portless port]
      rfl
  | some port' =>
      by_cases zero : port' = 0
      · subst zero
        have empty : view.fhdr.fOpts = [] := canonical.place port
        simp [empty, Parts.cryptoFor]
      · simp [zero, Parts.cryptoFor]

end DecryptedDataPayload

theorem frame_rebuilds {view : EncryptedDataPayload} {bufLen : Nat} {nwkCrypto appCrypto : Crypto}
    {fcnt : UInt32} (short : view.bytes.length ≤ 255) (canonical : Canonical view.toDataView)
    (low : fcnt.toUInt16 = view.fhdr.fcnt) (room : view.bytes.length ≤ bufLen) :
    ∃ decrypted : DecryptedDataPayload,
      DecryptedDataPayload.decryptInPlace view.bytes (some nwkCrypto) (some appCrypto) fcnt =
        .ok (.ok decrypted) ∧
      ∃ mic : MIC, (decrypted.rebuilt fcnt).buildInto bufLen nwkCrypto (some appCrypto) =
        .ok (.ok (view.withoutMic ++ mic.bytes.toList)) := by
  let parts := Parts.ofView view.toDataView
  have formed : parts.WellFormed view.frameType := Parts.formed_ofView view.toDataView
  have same : view.bytes = parts.bytes := (Parts.bytes_ofView view.toDataView).symm
  have shown := Parts.shownBy formed view.toDataView same
  let crypto := Parts.cryptoFor parts.port nwkCrypto appCrypto
  have wire : ((fcnt >>> 16) <<< 16) ||| view.fhdr.fcnt.toUInt32 = fcnt := by
    rw [← low]
    exact high_or_low fcnt
  have fits : parts.frm.length ≤ 255 := by
    have inside := view.frm_length_le
    rw [shown.frm] at inside
    omega
  obtain ⟨plain, ran⟩ := SecurityHelpers.encryptLoop_returns crypto
    (SecurityHelpers.generateHelperBlock parts.front 0x01 fcnt (Parts.front_long formed)) parts.frm
    0 1 (Vector.replicate 16 0) (by
      change 1 + _ ≤ _
      omega)
  have length : plain.length = parts.frm.length :=
    SecurityHelpers.encryptLoop_length _ _ _ _ _ _ _ ran
  obtain ⟨decrypted, done, bytes⟩ := Parts.decryptView_eq formed same
    (fun _ => Parts.keyFor_some parts.port nwkCrypto appCrypto) wire ran
  have formedPlain : (parts.withFrm plain).WellFormed view.frameType :=
    Parts.formed_withFrm formed length
  have shownPlain := Parts.shownBy formedPlain decrypted.toDataView bytes
  have fhdr : decrypted.fhdr = view.fhdr := by
    apply Fhdr.eq_of_bytes
    · rw [shownPlain.fhdr, shown.fhdr]
      rfl
    · exact congrArg DataFrameType.isUplink (shownPlain.frameType.trans shown.frameType.symm)
  have port : decrypted.fPort = view.fPort := by
    rw [shownPlain.port, shown.port]
    rfl
  have canonicalPlain : Canonical decrypted.toDataView := by
    apply DataView.canonical_of_front canonical _ fhdr port
    rw [bytes, same]
    rfl
  have frameType := shownPlain.frameType
  rw [← frameType] at shownPlain formedPlain
  have sameParts : ∀ mic, (decrypted.rebuilt fcnt).parts parts.port plain mic =
      { parts.withFrm plain with mic } := by
    intro mic
    exact Parts.rebuilt_parts mic shownPlain formedPlain canonicalPlain (by rw [low, fhdr])
  have header : (decrypted.rebuilt fcnt).header parts.port = parts.front :=
    congrArg Parts.front (sameParts view.mic)
  let mic := SecurityHelpers.calculateDataMic
    ((decrypted.rebuilt fcnt).header parts.port ++ parts.frm) nwkCrypto fcnt (by
      have := (decrypted.rebuilt fcnt).header_long parts.port
      rw [List.length_append]
      omega)
  refine ⟨decrypted, ?_, mic, ((decrypted.rebuilt fcnt).buildInto_eq_ok_iff _ _ _ _).mpr
    ⟨?_, parts.port, plain, crypto, parts.frm, mic, ?_, ?_, ?_, rfl, ?_⟩⟩
  · rw [DecryptedDataPayload.decryptInPlace, EncryptedDataPayload.parse_bytes]
    exact done
  · exact decrypted.fOpts_length_le
  · have found := DecryptedDataPayload.frmParts_rebuilt fcnt nwkCrypto appCrypto canonicalPlain
      (by rw [shownPlain.port, shownPlain.frm]; exact formedPlain.portless)
    rw [shownPlain.port, shownPlain.frm] at found
    exact found
  · have total := parts.bytes_length
    rw [parts.unsigned_length, ← same] at total
    rw [header]
    omega
  · have long := Parts.front_long formed
    exact (Parts.enciphered_congr (sameParts mic) crypto fcnt _ long).trans
      (SecurityHelpers.encryptLoop_inverse ran)
  · rw [shown.withoutMic]
    exact congrArg (fun built => (built.withFrm parts.frm).bytes) (sameParts mic).symm

/-- Data frames read back as they were built, and what was read builds the same frame
again up to the MIC. -/
theorem data_frames_are_a_codec (nwkCrypto appCrypto : Crypto) :
    (∀ (frame : DataFrame) (bufLen : Nat) (app : Option Crypto) (out : List Byte),
      frame.buildInto bufLen nwkCrypto app = .ok (.ok out) → ReadsBack frame nwkCrypto app out) ∧
    ∀ (view : EncryptedDataPayload) (bufLen : Nat) (fcnt : UInt32),
      view.bytes.length ≤ 255 → Canonical view.toDataView → fcnt.toUInt16 = view.fhdr.fcnt →
      view.bytes.length ≤ bufLen → ∃ decrypted : DecryptedDataPayload,
        DecryptedDataPayload.decryptInPlace view.bytes (some nwkCrypto) (some appCrypto) fcnt =
          .ok (.ok decrypted) ∧
        ∃ mic : MIC, (decrypted.rebuilt fcnt).buildInto bufLen nwkCrypto (some appCrypto) =
          .ok (.ok (view.withoutMic ++ mic.bytes.toList)) := by
  constructor
  · intro frame bufLen app out built
    exact built_reads_back built
  · intro view bufLen fcnt short canonical low room
    exact frame_rebuilds short canonical low room

namespace Sample

def crypto : Crypto := ⟨fun block => block, fun _ _ => ⟨#v[1, 2, 3, 4]⟩⟩

def frame : DataFrame where
  frameType := .confirmedUp
  devAddr := ⟨#v[1, 2, 3, 4]⟩
  adr := true
  adrAckReq := false
  ack := false
  fPending := false
  fcnt := 0x10005
  fOpts := [0x02]
  payload := .data 1 (by decide) [10, 11, 12]

def wire : List Byte := [128, 1, 2, 3, 4, 129, 5, 0, 2, 1, 11, 11, 12, 1, 2, 3, 4]

theorem frame_reads_back : ReadsBack frame crypto (some crypto) wire :=
  (data_frames_are_a_codec crypto crypto).1 frame 32 (some crypto) wire rfl

end Sample

end LoraRs.Encoding
