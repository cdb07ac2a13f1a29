import LoraRs.Encoding.MacCommands

/-!
# Remote multicast setup commands

The downlink commands of the multicast setup package, the session a setup request
derives and the creators of the answers, from `lorawan-encoding/src/multicast`.
-/

set_option autoImplicit false

namespace LoraRs.Encoding.Multicast

open LoraRs.Lib

abbrev maxGroups : Nat := 4

/-- `multicast::Session`. -/
structure Session where
  multicastAddr : McAddr
  mcNetSKey : McNetSKey
  mcAppSKey : McAppSKey
  fcntDown : UInt32
  maxFcntDown : UInt32
  deriving DecidableEq

/-- The two low bits of a group header: a group id. -/
def groupId (header : Byte) : Fin maxGroups := ⟨(header &&& 0b11).toNat, by
  have small : (header &&& 0b11).toNat ≤ 3 := by
    rw [UInt8.toNat_and]
    exact Nat.and_le_right
  exact Nat.lt_succ_of_le small⟩

def ofLeU32 (b0 b1 b2 b3 : Byte) : UInt32 :=
  b0.toUInt32 ||| (b1.toUInt32 <<< 8) ||| (b2.toUInt32 <<< 16) ||| (b3.toUInt32 <<< 24)

structure McGroupSetupReqPayload where
  bytes : Vector Byte 29
  deriving DecidableEq

namespace McGroupSetupReqPayload

def mcGroupIdHeader (payload : McGroupSetupReqPayload) : Fin maxGroups :=
  groupId payload.bytes[0]

def mcAddr (payload : McGroupSetupReqPayload) : McAddr :=
  ⟨#v[payload.bytes[1], payload.bytes[2], payload.bytes[3], payload.bytes[4]]⟩

def mcKeyEncrypted (payload : McGroupSetupReqPayload) : Block :=
  Vector.ofFn fun i => payload.bytes[5 + i.val]

/-- `crypto` is bound to the McKEKey. -/
def mcKeyDecrypted (payload : McGroupSetupReqPayload) (crypto : Crypto) : McKey :=
  ⟨crypto.encryptBlock payload.mcKeyEncrypted⟩

def minMcFcount (payload : McGroupSetupReqPayload) : UInt32 :=
  ofLeU32 payload.bytes[21] payload.bytes[22] payload.bytes[23] payload.bytes[24]

def maxMcFcount (payload : McGroupSetupReqPayload) : UInt32 :=
  ofLeU32 payload.bytes[25] payload.bytes[26] payload.bytes[27] payload.bytes[28]

def deriveSession (payload : McGroupSetupReqPayload) (newCrypto : NewCrypto) (crypto : Crypto) :
    Fin maxGroups × Session :=
  let mcKeyCrypto := newCrypto (payload.mcKeyDecrypted crypto).inner
  (payload.mcGroupIdHeader,
    { multicastAddr := payload.mcAddr
      mcNetSKey := McKey.deriveMcNetSKey mcKeyCrypto payload.mcAddr
      mcAppSKey := McKey.deriveMcAppSKey mcKeyCrypto payload.mcAddr
      fcntDown := payload.minMcFcount
      maxFcntDown := payload.maxMcFcount })

end McGroupSetupReqPayload

structure McGroupStatusReqPayload where
  bytes : Vector Byte 1
  deriving DecidableEq

namespace McGroupStatusReqPayload

def reqGroupMask (payload : McGroupStatusReqPayload) : Byte := payload.bytes.get 0 &&& 0b1111

end McGroupStatusReqPayload

structure McGroupDeleteReqPayload where
  bytes : Vector Byte 1
  deriving DecidableEq

namespace McGroupDeleteReqPayload

def mcGroupIdHeader (payload : McGroupDeleteReqPayload) : Fin maxGroups :=
  groupId (payload.bytes.get 0)

end McGroupDeleteReqPayload

inductive DownlinkRemoteSetup where
  | packageVersionReq
  | mcGroupStatusReq (payload : McGroupStatusReqPayload)
  | mcGroupSetupReq (payload : McGroupSetupReqPayload)
  | mcGroupDeleteReq (payload : McGroupDeleteReqPayload)
  | mcClassCSessionReq (payload : Vector Byte 10)
  | mcClassBSessionReq (payload : Vector Byte 10)
  deriving DecidableEq

namespace DownlinkRemoteSetup

open MacCommandSet

def parseOne (cid : Byte) (rest : List Byte) :
    Except ParseError (DownlinkRemoteSetup × Nat) :=
  match cid.toNat with
  | 0x00 => fixed cid 0 rest fun _ => packageVersionReq
  | 0x01 => fixed cid 1 rest fun payload => mcGroupStatusReq ⟨payload⟩
  | 0x02 => fixed cid 29 rest fun payload => mcGroupSetupReq ⟨payload⟩
  | 0x03 => fixed cid 1 rest fun payload => mcGroupDeleteReq ⟨payload⟩
  | 0x04 => fixed cid 10 rest mcClassCSessionReq
  | 0x05 => fixed cid 10 rest mcClassBSessionReq
  | _ => .error (.unknownCid cid)

instance : MacCommandSet DownlinkRemoteSetup where
  parseOne := parseOne
  consumed := by
    intro cid rest cmd n success
    unfold parseOne at success
    split at success
    all_goals first | exact fixed_consumed success | cases success

end DownlinkRemoteSetup

/-! ## Uplink commands -/

def countOnes (b : Byte) : Nat := (List.range 8).countP fun i => b.toNat.testBit i

/-- `required_len`: the octets of the groups that a status octet lists. -/
def requiredLen (status : Byte) : Nat := countOnes (status &&& 0b1111) * 5

/-- `McGroupStatusAnsPayload`: the status octet says how many octets come after it. -/
structure McGroupStatusAnsPayload where
  status : Byte
  groups : List Byte
  complete : groups.length = requiredLen status
  deriving DecidableEq

namespace McGroupStatusAnsPayload

def bytes (payload : McGroupStatusAnsPayload) : List Byte := payload.status :: payload.groups

end McGroupStatusAnsPayload

inductive UplinkRemoteSetup where
  | packageVersionAns (payload : Vector Byte 2)
  | mcGroupStatusAns (payload : McGroupStatusAnsPayload)
  | mcGroupSetupAns (payload : Vector Byte 1)
  | mcGroupDeleteAns (payload : Vector Byte 1)
  | mcClassCSessionAns (payload : Vector Byte 4)
  | mcClassBSessionAns (payload : Vector Byte 4)
  deriving DecidableEq

namespace UplinkRemoteSetup

open MacCommandSet

/-- The arm of the answer that says its own length. -/
def parseGroupStatus (cid : Byte) : List Byte → Except ParseError (UplinkRemoteSetup × Nat)
  | [] => .error (.truncated cid)
  | status :: rest =>
      if short : (status :: rest).length < 1 + requiredLen status then .error (.truncated cid)
      else .ok (mcGroupStatusAns ⟨status, rest.take (requiredLen status), by
        rw [List.length_cons] at short
        rw [List.length_take]
        omega⟩, 1 + (1 + requiredLen status))

def parseOne (cid : Byte) (rest : List Byte) : Except ParseError (UplinkRemoteSetup × Nat) :=
  match cid.toNat with
  | 0x00 => fixed cid 2 rest packageVersionAns
  | 0x01 => parseGroupStatus cid rest
  | 0x02 => fixed cid 1 rest mcGroupSetupAns
  | 0x03 => fixed cid 1 rest mcGroupDeleteAns
  | 0x04 => fixed cid 4 rest mcClassCSessionAns
  | 0x05 => fixed cid 4 rest mcClassBSessionAns
  | _ => .error (.unknownCid cid)

theorem parseGroupStatus_eq_ok {cid : Byte} {rest : List Byte} {cmd : UplinkRemoteSetup} {n : Nat}
    (success : parseGroupStatus cid rest = .ok (cmd, n)) :
    ∃ payload after, cmd = mcGroupStatusAns payload ∧ rest = payload.bytes ++ after ∧
      n = 1 + payload.bytes.length := by
  cases rest with
  | nil => cases success
  | cons status rest =>
      rw [parseGroupStatus] at success
      by_cases short : (status :: rest).length < 1 + requiredLen status
      · rw [dif_pos short] at success
        cases success
      · rw [dif_neg short] at success
        cases success
        refine ⟨_, rest.drop (requiredLen status), rfl, ?_, ?_⟩
        · simp only [McGroupStatusAnsPayload.bytes, List.cons_append, List.take_append_drop]
        · simp only [McGroupStatusAnsPayload.bytes, List.length_cons, List.length_take]
          simp only [List.length_cons] at short
          omega

theorem parseGroupStatus_consumed {cid : Byte} {rest : List Byte} {cmd : UplinkRemoteSetup}
    {n : Nat} (success : parseGroupStatus cid rest = .ok (cmd, n)) :
    1 ≤ n ∧ n ≤ 1 + rest.length := by
  obtain ⟨payload, after, _, rfl, rfl⟩ := parseGroupStatus_eq_ok success
  rw [List.length_append]
  omega

instance : MacCommandSet UplinkRemoteSetup where
  parseOne := parseOne
  consumed := by
    intro cid rest cmd n success
    unfold parseOne at success
    split at success
    all_goals first
      | exact fixed_consumed success
      | exact parseGroupStatus_consumed success
      | cases success

end UplinkRemoteSetup

/-! ## Answers, built -/

def packageVersionAns (identifier version : Byte) : List Byte := [0x00, identifier, version]

/-- The header octet of a fresh answer, with the group id set. -/
def setGroupId (id : Fin maxGroups) : Byte :=
  let cleared : Byte := 0 &&& 0b11111100
  let bits : Byte := id.val.toUInt8 &&& 0b11
  cleared ||| bits

def mcGroupSetupAns (id : Fin maxGroups) : List Byte := [0x02, setGroupId id]

def mcGroupDeleteAns (id : Fin maxGroups) : List Byte := [0x03, setGroupId id]

def mcGroupDeleteAnsUndefined : List Byte := [0x03, 0b100]

/-- `McGroupStatusAnsCreator`: the status octet and the items; its array has room
for four. -/
structure McGroupStatusAnsCreator where
  status : Byte
  items : List (Byte × McAddr)

namespace McGroupStatusAnsCreator

def new : McGroupStatusAnsCreator := ⟨0, []⟩

def nbTotalGroups (creator : McGroupStatusAnsCreator) (n : Byte) : McGroupStatusAnsCreator :=
  let total : Byte := (n &&& 0b111) <<< (4 : Byte)
  { creator with status := (creator.status &&& 0b1111) ||| total }

def push (creator : McGroupStatusAnsCreator) (groupId : Byte) (mcAddr : McAddr) :
    Checked McGroupStatusAnsCreator :=
  -- `1 << group_id` on `u8`
  if groupId.toNat ≥ 8 then .error .overflow
  else if creator.items.length < maxGroups then
    .ok { status := creator.status ||| (1 <<< groupId)
          items := creator.items ++ [(groupId, mcAddr)] }
  else .error .outOfBounds

theorem push_ok {creator : McGroupStatusAnsCreator} {groupId : Byte} (small : groupId.toNat < 8)
    (room : creator.items.length < maxGroups) (mcAddr : McAddr) :
    creator.push groupId mcAddr = .ok
      { status := creator.status ||| (1 <<< groupId)
        items := creator.items ++ [(groupId, mcAddr)] } := by
  rw [push, if_neg (Nat.not_le_of_lt small), if_pos room]

def build (creator : McGroupStatusAnsCreator) : List Byte :=
  0x01 :: creator.status :: creator.items.flatMap fun item => item.1 :: item.2.bytes.toList

theorem build_length (creator : McGroupStatusAnsCreator) :
    creator.build.length = 2 + 5 * creator.items.length := by
  have itemsLength : ∀ items : List (Byte × McAddr),
      (items.flatMap fun item => item.1 :: item.2.bytes.toList).length = 5 * items.length := by
    intro items
    induction items with
    | nil => rfl
    | cons item rest ih =>
        simp only [List.flatMap_cons, List.length_append, List.length_cons,
          Vector.length_toList, ih]
        omega
  simp only [build, List.length_cons, itemsLength]
  omega

end McGroupStatusAnsCreator

end LoraRs.Encoding.Multicast
