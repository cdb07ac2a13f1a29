import LoraRs.Encoding.DataFrames
import LoraRs.Lib.Fields

/-!
# The counters of a frame

The keystream counts blocks in an octet, and the MIC counts the message in another.  A data
frame is built for any payload that fits the buffer, so only the shorter ones keep to these
counts.
-/

set_option autoImplicit false

namespace LoraRs.Encoding

open LoraRs.Lib

namespace SecurityHelpers

/-! ## Blocks of the keystream -/

def counterBlock (a : Block) (ctr : UInt8) : Block := Fields.setAt a 15 ctr

/-- The blocks that the loop of `encrypt_frm_data_payload` hands to the cipher. -/
def counterBlocks (a : Block) : List Byte → Nat → UInt8 → Checked (List Block)
  | [], _, _ => .ok []
  | _ :: rest, i, ctr =>
    if i &&& 0x0f = 0 then do
      let next ← Checked.addU8 ctr 1
      let later ← counterBlocks a rest (i + 1) next
      return counterBlock a ctr :: later
    else counterBlocks a rest (i + 1) ctr

/-- The octets of the block in use that are still to come. -/
def left (i : Nat) (s : Block) : List Byte := s.toList.drop ((i + 15) % 16 + 1)

def keystream (crypto : Crypto) (blocks : List Block) : List Byte :=
  blocks.flatMap fun block => (crypto.encryptBlock block).toList

theorem left_fresh {i : Nat} (fresh : i % 16 = 0) (s : Block) : left i s = [] := by
  rw [left, List.drop_eq_nil_iff, Vector.length_toList]
  omega

theorem drop_octet (i : Nat) (s : Block) :
    s.toList.drop (i % 16) = s.get ⟨i &&& 0x0f, and_fifteen_lt i⟩ :: left (i + 1) s := by
  have next : (i + 1 + 15) % 16 + 1 = i % 16 + 1 := by omega
  have below : i % 16 < s.toList.length := by
    rw [Vector.length_toList]
    omega
  rw [left, next, List.drop_eq_getElem_cons below]
  simp only [Vector.getElem_toList, Vector.get_eq_getElem, and_fifteen]

theorem left_inside {i : Nat} (inside : i % 16 ≠ 0) (s : Block) :
    left i s = s.get ⟨i &&& 0x0f, and_fifteen_lt i⟩ :: left (i + 1) s := by
  have place : (i + 15) % 16 + 1 = i % 16 := by omega
  rw [left, place]
  exact drop_octet i s

theorem left_first {i : Nat} (fresh : i % 16 = 0) (s : Block) :
    s.toList = s.get ⟨i &&& 0x0f, and_fifteen_lt i⟩ :: left (i + 1) s := by
  have whole : s.toList.drop (i % 16) = s.toList := by rw [fresh, List.drop_zero]
  rw [← drop_octet i s, whole]

/-- The loop needs the cipher at these blocks only: every octet of the payload is combined
with the next octet of the blocks' encryptions. -/
theorem encryptLoop_eq (crypto : Crypto) (a : Block) (payload : List Byte) (i : Nat)
    (ctr : UInt8) (s : Block) :
    encryptLoop crypto a payload i ctr s =
      (fun blocks => List.zipWith (· ^^^ ·) payload (left i s ++ keystream crypto blocks)) <$>
        counterBlocks a payload i ctr := by
  induction payload generalizing i ctr s with
  | nil => rfl
  | cons byte rest ih =>
      by_cases fresh : i % 16 = 0
      · have low : i &&& 0x0f = 0 := (and_fifteen i).trans fresh
        rw [encryptLoop, counterBlocks, nextKeystream, if_pos low, if_pos low]
        cases counted : Checked.addU8 ctr 1 with
        | error fault => rfl
        | ok next =>
            simp only [Checked.ok_bind, Checked.pure_eq_ok]
            rw [ih]
            cases counterBlocks a rest (i + 1) next with
            | error fault => rfl
            | ok later =>
                have first := left_first fresh (crypto.encryptBlock (counterBlock a ctr))
                simp only [Checked.map_ok, Checked.ok_bind, left_fresh fresh, keystream,
                  List.flatMap_cons, List.nil_append]
                rw [first]
                rfl
      · have high : ¬ i &&& 0x0f = 0 := by
          rw [and_fifteen]
          exact fresh
        rw [encryptLoop, counterBlocks, nextKeystream, if_neg high, if_neg high]
        simp only [Checked.ok_bind, Checked.pure_eq_ok]
        rw [ih]
        cases counterBlocks a rest (i + 1) ctr with
        | error fault => rfl
        | ok later =>
            simp only [Checked.map_ok, Checked.ok_bind]
            rw [left_inside fresh]
            rfl

theorem counterBlock_injective (a : Block) {ctr other : UInt8}
    (same : counterBlock a ctr = counterBlock a other) : ctr = other := by
  have last := congrArg (fun block : Block => block.get 15) same
  simpa only [counterBlock, Fields.get_setAt, if_true] using last

theorem addU8_ok {ctr next : UInt8} (counted : Checked.addU8 ctr 1 = .ok next) :
    next.toNat = ctr.toNat + 1 := by
  have room : ctr.toNat + (1 : UInt8).toNat < 2 ^ 8 :=
    (Checked.addU8_returns_iff ctr 1).mp ⟨next, counted⟩
  rw [Checked.addU8, if_pos room] at counted
  cases counted
  rw [UInt8.toNat_add]
  exact Nat.mod_eq_of_lt room

theorem counterBlocks_later {a : Block} {payload : List Byte} {i : Nat} {ctr : UInt8}
    {blocks : List Block} (ran : counterBlocks a payload i ctr = .ok blocks) :
    ∀ block ∈ blocks, ∃ later : UInt8, ctr.toNat ≤ later.toNat ∧ block = counterBlock a later := by
  induction payload generalizing i ctr blocks with
  | nil =>
      cases ran
      intro block inside
      cases inside
  | cons byte rest ih =>
      rw [counterBlocks] at ran
      split at ran
      · obtain ⟨next, counted, ran⟩ := Checked.bind_eq_ok_iff.mp ran
        obtain ⟨others, ranOthers, ran⟩ := Checked.bind_eq_ok_iff.mp ran
        cases ran
        have up := addU8_ok counted
        intro block inside
        rcases List.mem_cons.mp inside with first | other
        · exact ⟨ctr, le_refl _, first⟩
        · obtain ⟨later, after, same⟩ := ih ranOthers block other
          exact ⟨later, by omega, same⟩
      · exact ih ran

theorem counterBlocks_nodup {a : Block} {payload : List Byte} {i : Nat} {ctr : UInt8}
    {blocks : List Block} (ran : counterBlocks a payload i ctr = .ok blocks) : blocks.Nodup := by
  induction payload generalizing i ctr blocks with
  | nil =>
      cases ran
      exact List.nodup_nil
  | cons byte rest ih =>
      rw [counterBlocks] at ran
      split at ran
      · obtain ⟨next, counted, ran⟩ := Checked.bind_eq_ok_iff.mp ran
        obtain ⟨others, ranOthers, ran⟩ := Checked.bind_eq_ok_iff.mp ran
        cases ran
        have up := addU8_ok counted
        refine List.nodup_cons.mpr ⟨?_, ih ranOthers⟩
        intro again
        obtain ⟨later, after, same⟩ := counterBlocks_later ranOthers _ again
        have equal := congrArg UInt8.toNat (counterBlock_injective a same)
        omega
      · exact ih ran

/-- The counter holds while the blocks still to be started fit an octet, and no longer. -/
theorem counterBlocks_returns_iff (a : Block) (payload : List Byte) (i : Nat) (ctr : UInt8) :
    Checked.Returns (counterBlocks a payload i ctr) ↔
      ctr.toNat + (i % 16 + payload.length + 15) / 16 ≤ 255 + (i % 16 + 15) / 16 := by
  induction payload generalizing i ctr with
  | nil =>
      have small := ctr.toNat_lt
      simp only [counterBlocks, Checked.returns_ok, true_iff, List.length_nil, Nat.add_zero]
      omega
  | cons byte rest ih =>
      have small := ctr.toNat_lt
      rw [counterBlocks, and_fifteen, List.length_cons]
      split
      · rename_i fresh
        rw [Checked.returns_bind_iff]
        constructor
        · rintro ⟨next, counted, others⟩
          obtain ⟨later, ran, _⟩ := Checked.returns_bind_iff.mp others
          have up := addU8_ok counted
          have room := (ih (i + 1) next).mp ⟨later, ran⟩
          omega
        · intro room
          have one : ctr.toNat + (1 : UInt8).toNat < 2 ^ 8 := by
            change ctr.toNat + 1 < 2 ^ 8
            omega
          obtain ⟨next, counted⟩ := (Checked.addU8_returns_iff ctr 1).mpr one
          have up := addU8_ok counted
          obtain ⟨later, ran⟩ := (ih (i + 1) next).mpr (by omega)
          refine ⟨next, counted, Checked.returns_bind_iff.mpr ⟨later, ran, ?_⟩⟩
          exact Checked.returns_ok _
      · rename_i inside
        rw [ih]
        omega

/-! ## The block of the MIC -/

def b0 (data : List Byte) (fcnt : UInt32) (header : 5 ≤ data.length) : Block :=
  Fields.setAt (generateHelperBlock data 0x49 fcnt header) 15 data.length.toUInt8

theorem calculateDataMic_b0 (data : List Byte) (crypto : Crypto) (fcnt : UInt32)
    (header : 5 ≤ data.length) :
    calculateDataMic data crypto fcnt header =
      crypto.calculateMic (b0 data fcnt header).toList data := rfl

theorem b0_length (data : List Byte) (fcnt : UInt32) (header : 5 ≤ data.length) :
    ((b0 data fcnt header).get 15).toNat = data.length % 256 := by
  rw [b0, Fields.get_setAt, if_pos rfl]
  rfl

end SecurityHelpers

namespace DataFrame

/-! ## Frames that are built -/

variable (frame : DataFrame) (bufLen : Nat) (nwkCrypto : Crypto) (appCrypto : Option Crypto)

/-- What `build_into` checks. -/
structure Accepts (fPort : Option Byte) (frm : List Byte) (encCrypto : Crypto) : Prop where
  fOpts : frame.fOpts.length ≤ 15
  parts : frame.frmParts nwkCrypto appCrypto = .ok (fPort, frm, encCrypto)
  room : (frame.header fPort).length + frm.length + micLen ≤ bufLen

theorem plain_long (fPort : Option Byte) (frm : List Byte) :
    5 ≤ (frame.header fPort ++ frm).length := by
  have header := frame.header_long fPort
  rw [List.length_append]
  omega

/-- The counter blocks of a frame; an empty payload needs none. -/
def counterBlocks (fPort : Option Byte) (frm : List Byte) : Checked (List Block) :=
  if frm.isEmpty then .ok []
  else SecurityHelpers.counterBlocks
    (SecurityHelpers.generateHelperBlock (frame.header fPort ++ frm) 0x01 frame.fcnt
      (frame.plain_long fPort frm)) frm 0 1

variable {frame bufLen nwkCrypto appCrypto} {fPort : Option Byte} {frm : List Byte}
  {encCrypto : Crypto}

theorem accepts_iff :
    (∃ fPort frm encCrypto, frame.Accepts bufLen nwkCrypto appCrypto fPort frm encCrypto) ↔
      ∀ e, frame.buildInto bufLen nwkCrypto appCrypto ≠ .ok (.error e) := by
  constructor
  · rintro ⟨fPort, frm, encCrypto, accepts⟩ e refused
    rw [buildInto, if_neg (Nat.not_lt.mpr accepts.fOpts), accepts.parts] at refused
    simp only at refused
    rw [if_neg (Nat.not_lt.mpr accepts.room)] at refused
    split at refused <;> cases refused
  · intro kept
    by_cases short : frame.fOpts.length > 15
    · exact absurd (if_pos short) (kept .fOptsTooLong)
    · cases found : frame.frmParts nwkCrypto appCrypto with
      | error e =>
          refine absurd ?_ (kept e)
          rw [buildInto, if_neg short, found]
      | ok parts =>
          obtain ⟨fPort, frm, encCrypto⟩ := parts
          refine ⟨fPort, frm, encCrypto, Nat.not_lt.mp short, found, ?_⟩
          by_contra full
          refine absurd ?_ (kept .bufferTooShort)
          rw [buildInto, if_neg short, found]
          exact if_pos (Nat.not_le.mp full)

/-- The frame is its header and the payload combined with the keystream of its blocks. -/
theorem body_blocks :
    frame.body fPort frm encCrypto =
      (fun blocks => frame.header fPort ++
        List.zipWith (· ^^^ ·) frm (SecurityHelpers.keystream encCrypto blocks)) <$>
          frame.counterBlocks fPort frm := by
  rw [body, counterBlocks]
  split
  · rename_i empty
    rw [List.isEmpty_iff.mp empty]
    rfl
  · rw [SecurityHelpers.encryptFrmDataPayload_middle frame.fcnt encCrypto _ _
      (List.append_nil _).symm rfl (List.length_append).symm (frame.header_long fPort),
      SecurityHelpers.generateHelperBlock_append (frame.header fPort) frm 0x01 frame.fcnt
        (frame.plain_long fPort frm) (frame.header_long fPort),
      SecurityHelpers.encryptLoop_eq, SecurityHelpers.left_fresh rfl]
    simp only [List.nil_append, List.append_nil]
    cases SecurityHelpers.counterBlocks _ frm 0 1 <;> rfl

/-- The packet is the frame's header, its payload combined with the keystream, and the MIC of
both; for these it needs the encryptions of the blocks. -/
def Enciphers (frame : DataFrame) (nwkCrypto : Crypto) (appCrypto : Option Crypto)
    (packet : List Byte) (blocks : List Block) : Prop :=
  ∃ fPort frm encCrypto counters message, ∃ long : 5 ≤ message.length,
    frame.frmParts nwkCrypto appCrypto = .ok (fPort, frm, encCrypto) ∧
    frame.counterBlocks fPort frm = .ok counters ∧
    message = frame.header fPort ++
      List.zipWith (· ^^^ ·) frm (SecurityHelpers.keystream encCrypto counters) ∧
    packet = message ++ (nwkCrypto.calculateMic
      (SecurityHelpers.b0 message frame.fcnt long).toList message).bytes.toList ∧
    blocks = counters ++ [SecurityHelpers.b0 message frame.fcnt long]

theorem buildInto_enciphers {out : List Byte}
    (built : frame.buildInto bufLen nwkCrypto appCrypto = .ok (.ok out)) :
    ∃ blocks, frame.Enciphers nwkCrypto appCrypto out blocks := by
  unfold buildInto at built
  split at built
  · cases built
  · split at built
    · cases built
    · rename_i fPort frm encCrypto found
      simp only at built
      split at built
      · cases built
      · split at built
        · cases built
        · rename_i message success
          cases built
          have combined := success
          rw [body_blocks] at combined
          obtain ⟨blocks, ran, rfl⟩ := Checked.map_eq_ok_iff.mp combined
          have length := frame.body_length fPort frm encCrypto _ success
          have header := frame.header_long fPort
          exact ⟨_, fPort, frm, encCrypto, blocks, _, by omega, found, ran, rfl, rfl, rfl⟩

theorem counterBlocks_returns_iff :
    Checked.Returns (frame.counterBlocks fPort frm) ↔ frm.length ≤ 254 * 16 := by
  rw [counterBlocks]
  split
  · rename_i empty
    rw [List.isEmpty_iff.mp empty]
    simp
  · rw [SecurityHelpers.counterBlocks_returns_iff]
    change 1 + _ ≤ _ ↔ _
    omega

theorem counterBlocks_nodup {blocks : List Block}
    (ran : frame.counterBlocks fPort frm = .ok blocks) : blocks.Nodup := by
  rw [counterBlocks] at ran
  split at ran
  · cases ran
    exact List.nodup_nil
  · exact SecurityHelpers.counterBlocks_nodup ran

/-- An accepted frame is built unless its body stops. -/
theorem buildInto_returns_iff
    (accepts : frame.Accepts bufLen nwkCrypto appCrypto fPort frm encCrypto) :
    Checked.Returns (frame.buildInto bufLen nwkCrypto appCrypto) ↔
      Checked.Returns (frame.counterBlocks fPort frm) := by
  have body_returns : Checked.Returns (frame.body fPort frm encCrypto) ↔
      Checked.Returns (frame.counterBlocks fPort frm) := by
    rw [body_blocks]
    cases frame.counterBlocks fPort frm <;> simp
  rw [← body_returns, buildInto, if_neg (Nat.not_lt.mpr accepts.fOpts), accepts.parts]
  simp only
  rw [if_neg (Nat.not_lt.mpr accepts.room)]
  split
  · rename_i fault failed
    simp [failed]
  · rename_i out built
    simp [built]

/-- A frame that was built had been accepted, and is as long as its parts. -/
theorem buildInto_accepted {out : List Byte}
    (built : frame.buildInto bufLen nwkCrypto appCrypto = .ok (.ok out)) :
    ∃ fPort frm encCrypto, frame.Accepts bufLen nwkCrypto appCrypto fPort frm encCrypto ∧
      out.length = (frame.header fPort).length + frm.length + micLen := by
  obtain ⟨fPort, frm, encCrypto, accepts⟩ := accepts_iff.mpr fun e refused => by
    rw [built] at refused
    cases refused
  refine ⟨fPort, frm, encCrypto, accepts, ?_⟩
  rw [buildInto, if_neg (Nat.not_lt.mpr accepts.fOpts), accepts.parts] at built
  simp only at built
  rw [if_neg (Nat.not_lt.mpr accepts.room)] at built
  split at built
  · cases built
  · rename_i message success
    cases built
    rw [List.length_append, frame.body_length fPort frm encCrypto _ success, Vector.length_toList]

/-- An accepted frame is built if its payload has no more blocks than the counter numbers. -/
theorem Accepts.builds
    (accepts : frame.Accepts bufLen nwkCrypto appCrypto fPort frm encCrypto)
    (short : frm.length ≤ 254 * 16) :
    ∃ out, frame.buildInto bufLen nwkCrypto appCrypto = .ok (.ok out) := by
  obtain ⟨result, built⟩ := (buildInto_returns_iff accepts).mpr (counterBlocks_returns_iff.mpr short)
  cases result with
  | ok out => exact ⟨out, built⟩
  | error e => exact absurd built (accepts_iff.mp ⟨fPort, frm, encCrypto, accepts⟩ e)

variable (frame bufLen nwkCrypto appCrypto fPort frm encCrypto)

/-- What the counters of an accepted frame owe: no overflow, no block twice, and the length of
the message in the block of the MIC. -/
structure CountersHold : Prop where
  returns : Checked.Returns (frame.buildInto bufLen nwkCrypto appCrypto)
  distinct : ∀ blocks, frame.counterBlocks fPort frm = .ok blocks → blocks.Nodup
  lengthOctet : ∀ (message : List Byte) (long : 5 ≤ message.length),
    frame.body fPort frm encCrypto = .ok message →
      ((SecurityHelpers.b0 message frame.fcnt long).get 15).toNat = message.length

variable {fPort frm encCrypto}

theorem countersHold_iff
    (accepts : frame.Accepts bufLen nwkCrypto appCrypto fPort frm encCrypto) :
    frame.CountersHold bufLen nwkCrypto appCrypto fPort frm encCrypto ↔
      (frame.header fPort).length + frm.length ≤ 255 := by
  have long := frame.header_long fPort
  constructor
  · intro hold
    obtain ⟨blocks, ran⟩ := (buildInto_returns_iff accepts).mp hold.returns
    have built : frame.body fPort frm encCrypto = _ := body_blocks
    rw [ran, Checked.map_ok] at built
    have length := frame.body_length fPort frm encCrypto _ built
    have octet := hold.lengthOctet _ (by omega) built
    rw [SecurityHelpers.b0_length] at octet
    omega
  · intro short
    refine ⟨?_, fun _ => counterBlocks_nodup, ?_⟩
    · exact (buildInto_returns_iff accepts).mpr (counterBlocks_returns_iff.mpr (by omega))
    · intro message long built
      rw [SecurityHelpers.b0_length, frame.body_length fPort frm encCrypto _ built]
      omega

/-- The counters hold just for the accepted frames of at most 255 octets before the MIC. -/
theorem counters_hold_iff (fPort : Option Byte) (frm : List Byte) (encCrypto : Crypto) :
    (frame.Accepts bufLen nwkCrypto appCrypto fPort frm encCrypto →
      frame.CountersHold bufLen nwkCrypto appCrypto fPort frm encCrypto) ↔
    (frame.Accepts bufLen nwkCrypto appCrypto fPort frm encCrypto →
      (frame.header fPort).length + frm.length ≤ 255) := by
  constructor
  · intro holds accepts
    exact (frame.countersHold_iff bufLen nwkCrypto appCrypto accepts).mp (holds accepts)
  · intro short accepts
    exact (frame.countersHold_iff bufLen nwkCrypto appCrypto accepts).mpr (short accepts)

end DataFrame

namespace Sample

theorem port_two : (2 : Byte) ≠ 0 := by decide

def zeros (octets : Nat) : DataFrame :=
  { frame with fOpts := [], payload := .data 2 port_two (List.replicate octets 0) }

theorem zeros_header (octets : Nat) : ((zeros octets).header (some 2)).length = 9 := by
  rw [DataFrame.header_length]
  rfl

theorem zeros_accepted {octets bufLen : Nat} (room : octets + 13 ≤ bufLen) :
    (zeros octets).Accepts bufLen crypto (some crypto) (some 2) (List.replicate octets 0)
      crypto := by
  refine ⟨Nat.zero_le 15, rfl, ?_⟩
  rw [zeros_header, List.length_replicate]
  change 9 + octets + 4 ≤ bufLen
  omega

/-- A message of 256 octets is accepted and its length octet is 0; with 255 blocks of payload
the counter overflows. -/
theorem long_frames_miscounted :
    ((zeros 247).Accepts 300 crypto (some crypto) (some 2) (List.replicate 247 0) crypto ∧
      ¬ (zeros 247).CountersHold 300 crypto (some crypto) (some 2) (List.replicate 247 0)
        crypto) ∧
    (zeros 4065).Accepts 5000 crypto (some crypto) (some 2) (List.replicate 4065 0) crypto ∧
      ¬ Checked.Returns ((zeros 4065).buildInto 5000 crypto (some crypto)) := by
  have short := @zeros_accepted 247 300 (by omega)
  have long := @zeros_accepted 4065 5000 (by omega)
  refine ⟨⟨short, ?_⟩, long, ?_⟩
  · rw [DataFrame.countersHold_iff _ _ _ _ short, zeros_header, List.length_replicate]
    omega
  · rw [DataFrame.buildInto_returns_iff long, DataFrame.counterBlocks_returns_iff,
      List.length_replicate]
    omega

end Sample

end LoraRs.Encoding
