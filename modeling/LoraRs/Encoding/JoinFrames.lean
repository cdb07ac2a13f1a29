import LoraRs.Encoding.Creator

/-!
# Building and reading join frames

The network side of a join accept and the parser of a join request.  The network
deciphers what the device then enciphers, so a cipher that inverts itself this way gives
every field back.
-/

set_option autoImplicit false

namespace LoraRs.Encoding

open LoraRs.Lib

/-- `NetworkCrypto`: the device side with the decrypt primitive. -/
structure NetworkCrypto extends Crypto where
  decryptBlock : Block → Block

/-! ## The frames -/

/-- A parsed join request. -/
structure JoinRequestPayload where
  bytes : List Byte
  long : bytes.length = JoinRequest.joinRequestLen

namespace JoinRequestPayload

def parse (bytes : List Byte) : Except Error JoinRequestPayload :=
  match checkMhdr bytes 0 with
  | .error e => .error e
  | .ok () =>
      if long : bytes.length = JoinRequest.joinRequestLen then .ok ⟨bytes, long⟩
      else .error .invalidLength

variable (payload : JoinRequestPayload)

theorem field_length (first last : Nat) (inside : first ≤ last ∧ last ≤ 23) :
    first ≤ last ∧ last ≤ payload.bytes.length := by
  rw [payload.long]
  exact inside

def joinEui : JoinEui :=
  ⟨Bytes.arr 8 (Bytes.slice payload.bytes 1 9 (payload.field_length 1 9 (by omega)))
    (by rw [Bytes.slice_length])⟩

def devEui : DevEui :=
  ⟨Bytes.arr 8 (Bytes.slice payload.bytes 9 17 (payload.field_length 9 17 (by omega)))
    (by rw [Bytes.slice_length])⟩

def devNonce : DevNonce :=
  ⟨Bytes.arr 2 (Bytes.slice payload.bytes 17 19 (payload.field_length 17 19 (by omega)))
    (by rw [Bytes.slice_length])⟩

def mic : MIC :=
  ⟨Bytes.arr 4 (payload.bytes.drop (payload.bytes.length - micLen)) (by
    simp only [List.length_drop, payload.long, JoinRequest.joinRequestLen, micLen])⟩

def validateMic (crypto : Crypto) : Bool :=
  decide (payload.mic = SecurityHelpers.calculateMic
    (payload.bytes.take (JoinRequest.joinRequestLen - micLen)) crypto)

end JoinRequestPayload

/-- A still enciphered join accept. -/
structure EncryptedJoinAcceptPayload where
  bytes : List Byte

namespace EncryptedJoinAcceptPayload

def parse (bytes : List Byte) : Except Error EncryptedJoinAcceptPayload := do
  validateJoinAcceptStructure bytes
  return ⟨bytes⟩

end EncryptedJoinAcceptPayload

namespace CfList

/-- The sixteen octets after RxDelay; the last one is the type. -/
def bytes : CfList → List Byte
  | dynamicChannel freqs => freqs.toList.flatMap (·.bytes.toList) ++ [0]
  | fixedChannel mask => mask.bytes.toList ++ List.replicate 6 0 ++ [1]

theorem bytes_length (list : CfList) : list.bytes.length = 16 := by
  cases list with
  | dynamicChannel freqs =>
      obtain ⟨⟨freqs⟩, size⟩ := freqs
      match freqs, size with
      | [_, _, _, _, _], _ => simp [bytes]
  | fixedChannel mask => simp [bytes]

end CfList

structure JoinAccept where
  joinNonce : JoinNonce
  netId : NetId
  devAddr : DevAddr
  dlSettings : DLSettings
  rxDelay : Byte
  cFList : Option CfList

namespace JoinAccept

def fields (accept : JoinAccept) : List Byte :=
  0x20 :: (accept.joinNonce.bytes.toList ++ accept.netId.bytes.toList ++
    accept.devAddr.bytes.toList ++ [accept.dlSettings.raw, accept.rxDelay &&& 0x0f])

def listBytes (accept : JoinAccept) : List Byte := (accept.cFList.map CfList.bytes).getD []

def withoutMic (accept : JoinAccept) : List Byte := accept.fields ++ accept.listBytes

/-- The frame before it is deciphered. -/
def plain (accept : JoinAccept) (crypto : Crypto) : List Byte :=
  accept.withoutMic ++ (SecurityHelpers.calculateMic accept.withoutMic crypto).bytes.toList

theorem block_length (bytes : List Byte) (long : 16 ≤ bytes.length) :
    (bytes.take 16).length = 16 := by simpa using long

/-- The first `n` blocks of 16 bytes are deciphered; a rest stays. -/
def decryptChunks (crypto : NetworkCrypto) : Nat → List Byte → List Byte
  | 0, bytes => bytes
  | n + 1, bytes =>
      if long : 16 ≤ bytes.length then
        (crypto.decryptBlock (Bytes.arr 16 (bytes.take 16) (block_length bytes long))).toList ++
          decryptChunks crypto n (bytes.drop 16)
      else bytes

def buildInto (accept : JoinAccept) (bufLen : Nat) (crypto : NetworkCrypto) :
    Except Error (List Byte) :=
  let len := if accept.cFList.isSome then joinAcceptWithCflistLen else joinAcceptLen
  if len > bufLen then .error .bufferTooShort
  else
    let out := accept.plain crypto.toCrypto
    .ok (out.take 1 ++ decryptChunks crypto ((out.length - 1) / 16) (out.drop 1))

end JoinAccept

/-! ## The cipher and its inverse -/

namespace JoinAccept

variable {crypto : NetworkCrypto}

theorem decryptChunks_length (n : Nat) (bytes : List Byte) :
    (decryptChunks crypto n bytes).length = bytes.length := by
  induction n generalizing bytes with
  | zero => rfl
  | succ n ih =>
      rw [decryptChunks]
      split
      · rename_i long
        rw [List.length_append, ih, List.length_drop, Vector.length_toList]
        omega
      · rfl

/-- The device enciphers what the network deciphered, block by block. -/
theorem encryptChunks_decryptChunks
    (inverse : ∀ block, crypto.encryptBlock (crypto.decryptBlock block) = block) (n : Nat)
    (bytes : List Byte) :
    DecryptedJoinAcceptPayload.encryptChunks crypto.toCrypto n (decryptChunks crypto n bytes) =
      bytes := by
  induction n generalizing bytes with
  | zero => rfl
  | succ n ih =>
      rw [decryptChunks]
      by_cases long : 16 ≤ bytes.length
      · rw [dif_pos long]
        let block := crypto.decryptBlock (Bytes.arr 16 (bytes.take 16) (block_length bytes long))
        have size : block.toList.length = 16 := Vector.length_toList
        have head : (block.toList ++ decryptChunks crypto n (bytes.drop 16)).take 16 =
            block.toList := List.take_left' size
        have rest : (block.toList ++ decryptChunks crypto n (bytes.drop 16)).drop 16 =
            decryptChunks crypto n (bytes.drop 16) := List.drop_left' size
        have longer : 16 ≤ (block.toList ++ decryptChunks crypto n (bytes.drop 16)).length := by
          rw [List.length_append, size]
          omega
        change DecryptedJoinAcceptPayload.encryptChunks crypto.toCrypto (n + 1)
          (block.toList ++ decryptChunks crypto n (bytes.drop 16)) = bytes
        rw [DecryptedJoinAcceptPayload.encryptChunks, dif_pos longer]
        simp only [head, rest, ih, Bytes.arr_of_toList]
        rw [inverse, Bytes.arr_toList, List.take_append_drop]
      · rw [dif_neg long, DecryptedJoinAcceptPayload.encryptChunks, dif_neg long]

theorem fields_length (accept : JoinAccept) : accept.fields.length = 13 := by
  simp [fields]

theorem listBytes_length (accept : JoinAccept) :
    accept.listBytes.length = if accept.cFList.isSome then 16 else 0 := by
  unfold listBytes
  cases accept.cFList with
  | none => rfl
  | some list => exact list.bytes_length

theorem plain_length (accept : JoinAccept) (crypto : Crypto) :
    (accept.plain crypto).length =
      if accept.cFList.isSome then joinAcceptWithCflistLen else joinAcceptLen := by
  simp only [plain, withoutMic, List.length_append, fields_length, listBytes_length,
    Vector.length_toList, joinAcceptWithCflistLen, joinAcceptLen]
  split <;> rfl

end JoinAccept

/-! ## Reading back -/

theorem field_eq {n first last : Nat} {xs pre post : List Byte} (field : Vector Byte n)
    (cut : xs = pre ++ field.toList ++ post) (firstEq : first = pre.length)
    (lastEq : last = pre.length + n) (inside : first ≤ last ∧ last ≤ xs.length)
    (size : (Bytes.slice xs first last inside).length = n) :
    Bytes.arr n (Bytes.slice xs first last inside) size = field := by
  have same : Bytes.slice xs first last inside = field.toList :=
    Bytes.slice_eq cut firstEq (by rw [List.length_append, Vector.length_toList, lastEq]) inside
  simp only [same, Bytes.arr_of_toList]

namespace JoinRequestPayload

/-- The request that a payload shows, with a valid MIC. -/
structure Shows (payload : JoinRequestPayload) (request : JoinRequest) (crypto : Crypto) : Prop where
  joinEui : payload.joinEui = request.joinEui
  devEui : payload.devEui = request.devEui
  devNonce : payload.devNonce = request.devNonce
  valid : payload.validateMic crypto = true

end JoinRequestPayload

theorem join_request_reads_back (request : JoinRequest) (bufLen : Nat) (crypto : Crypto)
    (room : 23 ≤ bufLen) : ∃ out payload, request.buildInto bufLen crypto = .ok out ∧
      JoinRequestPayload.parse out = .ok payload ∧ payload.Shows request crypto := by
  let mic := SecurityHelpers.calculateMic request.withoutMic crypto
  let out := request.withoutMic ++ mic.bytes.toList
  have size : request.withoutMic.length = 19 := by simp [JoinRequest.withoutMic]
  have long : out.length = JoinRequest.joinRequestLen := by
    simp only [out, List.length_append, size, Vector.length_toList, JoinRequest.joinRequestLen]
  have build : request.buildInto bufLen crypto = .ok out := by
    rw [JoinRequest.buildInto, if_neg (by simp only [JoinRequest.joinRequestLen]; omega)]
  have parsed : JoinRequestPayload.parse out = .ok ⟨out, long⟩ := by
    rw [JoinRequestPayload.parse, dif_pos long]
    rfl
  have joinEuiCut : out = [0x00] ++ request.joinEui.bytes.toList ++
      (request.devEui.bytes.toList ++ request.devNonce.bytes.toList ++ mic.bytes.toList) := by
    simp [out, JoinRequest.withoutMic]
  have devEuiCut : out = ([0x00] ++ request.joinEui.bytes.toList) ++ request.devEui.bytes.toList ++
      (request.devNonce.bytes.toList ++ mic.bytes.toList) := by
    simp [out, JoinRequest.withoutMic]
  have devNonceCut : out =
      ([0x00] ++ request.joinEui.bytes.toList ++ request.devEui.bytes.toList) ++
        request.devNonce.bytes.toList ++ mic.bytes.toList := by
    simp [out, JoinRequest.withoutMic]
  have tail : out.drop (out.length - micLen) = mic.bytes.toList := by
    rw [long]
    exact List.drop_left' size
  have front : out.take (JoinRequest.joinRequestLen - micLen) = request.withoutMic :=
    List.take_left' size
  refine ⟨out, ⟨out, long⟩, build, parsed, ?_, ?_, ?_, ?_⟩
  · exact congrArg JoinEui.mk (field_eq _ joinEuiCut rfl rfl _ _)
  · exact congrArg DevEui.mk (field_eq _ devEuiCut (by simp) (by simp) _ _)
  · exact congrArg DevNonce.mk (field_eq _ devNonceCut (by simp) (by simp) _ _)
  · apply decide_eq_true
    simp only [JoinRequestPayload.mic, tail, front, Bytes.arr_of_toList]
    rfl

namespace DecryptedJoinAcceptPayload

/-- The accept that a payload shows, with a valid MIC. -/
structure Shows (payload : DecryptedJoinAcceptPayload) (accept : JoinAccept) : Prop where
  joinNonce : payload.joinNonce = accept.joinNonce
  netId : payload.netId = accept.netId
  devAddr : payload.devAddr = accept.devAddr
  dlSettings : payload.dlSettings = accept.dlSettings
  rxDelay : payload.rxDelay = accept.rxDelay
  cFList : payload.cFList = accept.cFList

theorem frequency_octets (frequency : Frequency) : ∃ low middle high,
    frequency = ⟨#v[low, middle, high]⟩ := by
  obtain ⟨⟨⟨octets⟩, size⟩⟩ := frequency
  match octets, size with
  | [low, middle, high], _ => exact ⟨low, middle, high, rfl⟩

theorem frequency_list (freqs : Vector Frequency 5) : ∃ first second third fourth fifth,
    freqs = #v[first, second, third, fourth, fifth] := by
  refine ⟨freqs.get 0, freqs.get 1, freqs.get 2, freqs.get 3, freqs.get 4, ?_⟩
  apply Vector.ext
  intro i inside
  interval_cases i <;> rfl

theorem mask_octets (mask : Vector Byte 9) : ∃ a b c d e f g h i,
    mask = #v[a, b, c, d, e, f, g, h, i] := by
  refine ⟨mask.get 0, mask.get 1, mask.get 2, mask.get 3, mask.get 4, mask.get 5, mask.get 6,
    mask.get 7, mask.get 8, ?_⟩
  apply Vector.ext
  intro i inside
  interval_cases i <;> rfl

theorem cFList_of_plain {payload : DecryptedJoinAcceptPayload} {accept : JoinAccept} {mic : MIC}
    (same : payload.bytes = accept.withoutMic ++ mic.bytes.toList) :
    payload.cFList = accept.cFList := by
  have total : payload.bytes.length = 13 + accept.listBytes.length + 4 := by
    rw [same, JoinAccept.withoutMic, List.length_append, List.length_append,
      JoinAccept.fields_length, Vector.length_toList]
  unfold cFList
  cases held : accept.cFList with
  | none =>
      have plain : payload.bytes.length = joinAcceptLen := by
        rw [total, JoinAccept.listBytes_length, held]
        rfl
      rw [dif_pos plain]
  | some list =>
      have listEq : accept.listBytes = list.bytes := by
        rw [JoinAccept.listBytes, held]
        rfl
      have plain : ¬ payload.bytes.length = joinAcceptLen := by
        rw [total, listEq, list.bytes_length, joinAcceptLen]
        omega
      have cut : payload.bytes = accept.fields ++
          (Bytes.arr 16 list.bytes list.bytes_length).toList ++ mic.bytes.toList := by
        rw [same, JoinAccept.withoutMic, listEq, Bytes.arr_toList]
      have start : 13 = accept.fields.length := accept.fields_length.symm
      have read : Bytes.arr 16 (Bytes.slice payload.bytes 13 29
          (payload.cFList_inside (payload.long_of_not_plain plain)))
          (payload.cFList_length (payload.long_of_not_plain plain)) =
          Bytes.arr 16 list.bytes list.bytes_length :=
        field_eq _ cut start (by rw [← start]) _ _
      rw [dif_neg plain]
      simp only [read]
      cases list with
      | dynamicChannel freqs =>
          obtain ⟨first, second, third, fourth, fifth, rfl⟩ := frequency_list freqs
          obtain ⟨_, _, _, rfl⟩ := frequency_octets first
          obtain ⟨_, _, _, rfl⟩ := frequency_octets second
          obtain ⟨_, _, _, rfl⟩ := frequency_octets third
          obtain ⟨_, _, _, rfl⟩ := frequency_octets fourth
          obtain ⟨_, _, _, rfl⟩ := frequency_octets fifth
          rfl
      | fixedChannel mask =>
          obtain ⟨octets⟩ := mask
          obtain ⟨_, _, _, _, _, _, _, _, _, rfl⟩ := mask_octets octets
          rfl

theorem small_nibble : ∀ delay : Fin 256, UInt8.ofFin delay < 16 →
    UInt8.ofFin delay &&& 0x0f &&& 0x0f = UInt8.ofFin delay := by
  decide +kernel

theorem shows_of_plain {payload : DecryptedJoinAcceptPayload} {accept : JoinAccept} {mic : MIC}
    (small : accept.rxDelay < 16)
    (same : payload.bytes = accept.withoutMic ++ mic.bytes.toList) : payload.Shows accept := by
  have list := cFList_of_plain same
  have delay := small_nibble accept.rxDelay.toFin small
  obtain ⟨bytes, long⟩ := payload
  obtain ⟨⟨⟨⟨nonce⟩, nonceSize⟩⟩, ⟨⟨⟨net⟩, netSize⟩⟩, ⟨⟨⟨addr⟩, addrSize⟩⟩, dl, rxDelay, cFList⟩ :=
    accept
  cases same
  match nonce, nonceSize, net, netSize, addr, addrSize with
  | [_, _, _], _, [_, _, _], _, [_, _, _, _], _ => exact ⟨rfl, rfl, rfl, rfl, delay, list⟩

theorem decryptInPlace_bytes {buf : List Byte} (crypto : Crypto)
    (valid : validateJoinAcceptStructure buf = .ok ()) :
    ∃ payload, decryptInPlace buf crypto = .ok payload ∧
      payload.bytes = buf.take 1 ++ encryptChunks crypto ((buf.length - 1) / 16) (buf.drop 1) := by
  unfold decryptInPlace
  split
  · rename_i e failed
    rw [valid] at failed
    cases failed
  · exact ⟨_, rfl, rfl⟩

end DecryptedJoinAcceptPayload

theorem join_accept_reads_back {accept : JoinAccept} {crypto : NetworkCrypto} (bufLen : Nat)
    (inverse : ∀ block, crypto.encryptBlock (crypto.decryptBlock block) = block)
    (small : accept.rxDelay < 16) (room : 33 ≤ bufLen) :
    ∃ out payload, accept.buildInto bufLen crypto = .ok out ∧
      DecryptedJoinAcceptPayload.checkMicAndDecryptInPlace out crypto.toCrypto = .ok payload ∧
      payload.Shows accept := by
  let mic := SecurityHelpers.calculateMic accept.withoutMic crypto.toCrypto
  let plain := accept.plain crypto.toCrypto
  let out := plain.take 1 ++
    JoinAccept.decryptChunks crypto ((plain.length - 1) / 16) (plain.drop 1)
  have length : plain.length =
      if accept.cFList.isSome then joinAcceptWithCflistLen else joinAcceptLen :=
    accept.plain_length crypto.toCrypto
  have bounds : plain.length = 17 ∨ plain.length = 33 := by
    rw [length]
    split
    · exact .inr rfl
    · exact .inl rfl
  have build : accept.buildInto bufLen crypto = .ok out := by
    rw [JoinAccept.buildInto, ← length, if_neg (by omega)]
  have mhdr : plain.take 1 = [0x20] := rfl
  have outLength : out.length = plain.length := by
    rw [List.length_append, JoinAccept.decryptChunks_length, ← List.length_append,
      List.take_append_drop]
  have valid : validateJoinAcceptStructure out = .ok () := by
    have fits : ¬ (out.length ≠ joinAcceptLen ∧ out.length ≠ joinAcceptWithCflistLen) := by
      rw [outLength]
      simp only [joinAcceptLen, joinAcceptWithCflistLen]
      omega
    have checked : checkMhdr out 1 = .ok () := by
      simp only [out, mhdr]
      rfl
    rw [validateJoinAcceptStructure, checked]
    simp only [bind, Except.bind]
    rw [if_neg fits]
    rfl
  obtain ⟨payload, decrypted, bytes⟩ :=
    DecryptedJoinAcceptPayload.decryptInPlace_bytes crypto.toCrypto valid
  have restored : payload.bytes = accept.withoutMic ++ mic.bytes.toList := by
    have head : out.take 1 = plain.take 1 := rfl
    have rest : out.drop 1 =
        JoinAccept.decryptChunks crypto ((plain.length - 1) / 16) (plain.drop 1) := rfl
    rw [bytes, outLength, head, rest, JoinAccept.encryptChunks_decryptChunks inverse,
      List.take_append_drop]
    rfl
  have micValid : payload.validateMic crypto.toCrypto = true := by
    have short : payload.bytes.length - micLen = accept.withoutMic.length := by
      rw [restored, List.length_append, Vector.length_toList, micLen, Nat.add_sub_cancel]
    have front : payload.bytes.take (payload.bytes.length - micLen) = accept.withoutMic := by
      rw [short, restored]
      exact List.take_left' rfl
    have tail : payload.bytes.drop (payload.bytes.length - micLen) = mic.bytes.toList := by
      rw [short, restored]
      exact List.drop_left' rfl
    apply decide_eq_true
    simp only [DecryptedJoinAcceptPayload.mic, tail, front, Bytes.arr_of_toList]
    rfl
  refine ⟨out, payload, build, ?_, DecryptedJoinAcceptPayload.shows_of_plain small restored⟩
  rw [DecryptedJoinAcceptPayload.checkMicAndDecryptInPlace, decrypted]
  simp only [bind, Except.bind, micValid, if_true]
  rfl

namespace JoinAccept

/-- The accept that the frame carries: the delay is cut to four bits. -/
def carried (accept : JoinAccept) : JoinAccept :=
  { accept with rxDelay := accept.rxDelay &&& 0x0f }

theorem carried_buildInto (accept : JoinAccept) (bufLen : Nat) (crypto : NetworkCrypto) :
    accept.carried.buildInto bufLen crypto = accept.buildInto bufLen crypto := by
  have delay : accept.rxDelay &&& 0x0f &&& 0x0f = accept.rxDelay &&& 0x0f := by
    rw [UInt8.and_assoc, UInt8.and_self]
  have fields : accept.carried.fields = accept.fields := by
    simp only [JoinAccept.fields, carried, delay]
  have withoutMic : accept.carried.withoutMic = accept.withoutMic := by
    rw [JoinAccept.withoutMic, fields]
    rfl
  simp only [buildInto, plain, withoutMic]
  rfl

theorem carried_reads_back (accept : JoinAccept) {crypto : NetworkCrypto} (bufLen : Nat)
    (inverse : ∀ block, crypto.encryptBlock (crypto.decryptBlock block) = block)
    (room : 33 ≤ bufLen) :
    ∃ out payload, accept.buildInto bufLen crypto = .ok out ∧
      DecryptedJoinAcceptPayload.checkMicAndDecryptInPlace out crypto.toCrypto = .ok payload ∧
      payload.Shows accept.carried := by
  have nibble : ∀ delay : Fin 256, UInt8.ofFin delay &&& 0x0f < 16 := by decide +kernel
  rw [← carried_buildInto]
  exact join_accept_reads_back bufLen inverse (nibble accept.rxDelay.toFin) room

end JoinAccept

theorem join_accept_length (bytes : List Byte) (crypto : Crypto) (short : bytes.length ≠ 17)
    (long : bytes.length ≠ 33) :
    (∃ e, EncryptedJoinAcceptPayload.parse bytes = .error e) ∧
      (∃ e, DecryptedJoinAcceptPayload.decryptInPlace bytes crypto = .error e) ∧
      ∃ e, DecryptedJoinAcceptPayload.checkMicAndDecryptInPlace bytes crypto = .error e := by
  obtain ⟨e, refused⟩ : ∃ e, validateJoinAcceptStructure bytes = .error e := by
    cases checked : validateJoinAcceptStructure bytes with
    | error e => exact ⟨e, rfl⟩
    | ok accepted =>
        rcases DecryptedJoinAcceptPayload.validateJoinAcceptStructure_length bytes checked with
          plain | listed
        · exact absurd plain short
        · exact absurd listed long
  have undecrypted : DecryptedJoinAcceptPayload.decryptInPlace bytes crypto = .error e := by
    unfold DecryptedJoinAcceptPayload.decryptInPlace
    split
    · rename_i e' failed
      rw [refused] at failed
      cases failed
      rfl
    · rename_i accepted
      rw [refused] at accepted
      cases accepted
  refine ⟨⟨e, ?_⟩, ⟨e, undecrypted⟩, e, ?_⟩
  · rw [EncryptedJoinAcceptPayload.parse, refused]
    rfl
  · rw [DecryptedJoinAcceptPayload.checkMicAndDecryptInPlace, undecrypted]
    rfl

/-- Join requests and join accepts read back as they were built; other lengths are
refused. -/
theorem join_frames_are_a_codec (crypto : NetworkCrypto)
    (inverse : ∀ block, crypto.encryptBlock (crypto.decryptBlock block) = block) :
    (∀ (request : JoinRequest) (bufLen : Nat), 23 ≤ bufLen →
      ∃ out payload, request.buildInto bufLen crypto.toCrypto = .ok out ∧
        JoinRequestPayload.parse out = .ok payload ∧ payload.Shows request crypto.toCrypto) ∧
    (∀ (accept : JoinAccept) (bufLen : Nat), accept.rxDelay < 16 → 33 ≤ bufLen →
      ∃ out payload, accept.buildInto bufLen crypto = .ok out ∧
        DecryptedJoinAcceptPayload.checkMicAndDecryptInPlace out crypto.toCrypto = .ok payload ∧
        payload.Shows accept) ∧
    ∀ bytes : List Byte, bytes.length ≠ 17 → bytes.length ≠ 33 →
      (∃ e, EncryptedJoinAcceptPayload.parse bytes = .error e) ∧
        (∃ e, DecryptedJoinAcceptPayload.decryptInPlace bytes crypto.toCrypto = .error e) ∧
        ∃ e, DecryptedJoinAcceptPayload.checkMicAndDecryptInPlace bytes crypto.toCrypto =
          .error e := by
  refine ⟨?_, ?_, ?_⟩
  · intro request bufLen room
    exact join_request_reads_back request bufLen crypto.toCrypto room
  · intro accept bufLen small room
    exact join_accept_reads_back bufLen inverse small room
  · intro bytes short long
    exact join_accept_length bytes crypto.toCrypto short long

namespace Sample

/-- A cipher that flips every bit. -/
def networkCrypto : NetworkCrypto where
  encryptBlock block := block.map (· ^^^ 0xFF)
  calculateMic _ data := ⟨#v[data.length.toUInt8, 2, 3, 4]⟩
  decryptBlock block := block.map (· ^^^ 0xFF)

def accept : JoinAccept where
  joinNonce := ⟨#v[1, 2, 3]⟩
  netId := ⟨#v[4, 5, 6]⟩
  devAddr := ⟨#v[7, 8, 9, 10]⟩
  dlSettings := ⟨0x53⟩
  rxDelay := 5
  cFList := some (.fixedChannel ⟨#v[1, 0, 0, 0, 0, 0, 0, 0, 1]⟩)

theorem networkCrypto_inverse (block : Block) :
    networkCrypto.encryptBlock (networkCrypto.decryptBlock block) = block := by
  have flip : ∀ byte : Byte, byte ^^^ 0xFF ^^^ 0xFF = byte := by
    intro byte
    rw [UInt8.xor_assoc, UInt8.xor_self, UInt8.xor_zero]
  simp [networkCrypto, Vector.map_map, Function.comp_def, flip]

theorem accept_reads_back : ∃ out payload, accept.buildInto 33 networkCrypto = .ok out ∧
    DecryptedJoinAcceptPayload.checkMicAndDecryptInPlace out networkCrypto.toCrypto =
      .ok payload ∧ payload.Shows accept :=
  (join_frames_are_a_codec networkCrypto networkCrypto_inverse).2.1 accept 33 (by decide)
    (by omega)

end Sample

end LoraRs.Encoding
