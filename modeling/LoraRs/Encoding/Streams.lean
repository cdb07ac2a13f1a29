import LoraRs.Encoding.Multicast
import LoraRs.Encoding.Certification

/-!
# Command streams, both ways

The iterator over a command stream as it is stepped, and `build_mac_commands`, from
`lorawan-encoding/src/maccommands.rs` and `maccommandcreator.rs`.  What a command set
has to say about itself for the two to fit together is one class, with the six sets
that derive `CommandHandler` as its instances.
-/

set_option autoImplicit false

namespace LoraRs.Encoding

open LoraRs.Lib

namespace SerializableMacCommand

/-- CID and payload. -/
def bytes (cmd : SerializableMacCommand) : List Byte := cmd.cid :: cmd.payloadBytes

theorem bytes_length (cmd : SerializableMacCommand) : cmd.bytes.length = 1 + cmd.payloadLen := by
  rw [bytes, List.length_cons, payloadLen, Nat.add_comm]

end SerializableMacCommand

/-! ## Command sets -/

/-- `derive(CommandHandler)`: the commands of a set serialise to the bytes they were
parsed from, and those of fixed length parse back from theirs. -/
class CommandHandler (Cmd : Type) extends MacCommandSet Cmd where
  serialize : Cmd → SerializableMacCommand
  fixedLen : Cmd → Bool
  parsed_bytes : ∀ {cid : Byte} {rest : List Byte} {cmd : Cmd} {n : Nat},
    parseOne cid rest = .ok (cmd, n) →
    ∃ after, cid :: rest = (serialize cmd).bytes ++ after ∧ n = (serialize cmd).bytes.length
  parseOne_serialize : ∀ {cmd : Cmd}, fixedLen cmd = true → ∀ after : List Byte,
    parseOne (serialize cmd).cid ((serialize cmd).payloadBytes ++ after) =
      .ok (cmd, 1 + (serialize cmd).payloadLen)

namespace MacCommandSet

variable {Cmd : Type}

/-- A command frames its payload under the CID. -/
structure Frames (serialize : Cmd → SerializableMacCommand) (cid : Byte) (cmd : Cmd)
    (payload : List Byte) : Prop where
  cid : cid.toNat = (serialize cmd).cid.toNat
  payload : (serialize cmd).payloadBytes = payload

theorem Frames.bytes {serialize : Cmd → SerializableMacCommand} {cid : Byte} {cmd : Cmd}
    {payload : List Byte} (framed : Frames serialize cid cmd payload) :
    (serialize cmd).bytes = cid :: payload := by
  rw [SerializableMacCommand.bytes, framed.payload, UInt8.toNat_inj.mp framed.cid]

theorem fixed_parsed (serialize : Cmd → SerializableMacCommand) {cid : Byte} {len : Nat}
    {rest : List Byte} {build : Vector Byte len → Cmd} {cmd : Cmd} {n : Nat}
    (success : fixed cid len rest build = .ok (cmd, n))
    (framed : ∀ payload, Frames serialize cid (build payload) payload.toList) :
    ∃ after, cid :: rest = (serialize cmd).bytes ++ after ∧ n = (serialize cmd).bytes.length := by
  unfold fixed at success
  by_cases short : rest.length < len
  · rw [dif_pos short] at success
    cases success
  · rw [dif_neg short] at success
    cases success
    refine ⟨rest.drop len, ?_, ?_⟩
    · rw [(framed _).bytes, Bytes.arr_toList, List.cons_append, List.take_append_drop]
    · rw [(framed _).bytes, List.length_cons, Vector.length_toList, Nat.add_comm]

theorem toEnd_parsed (serialize : Cmd → SerializableMacCommand) {cid : Byte} {rest : List Byte}
    {build : (payload : List Byte) → payload ≠ [] → Cmd} {cmd : Cmd} {n : Nat}
    (success : toEnd cid rest build = .ok (cmd, n))
    (framed : ∀ payload nonempty, Frames serialize cid (build payload nonempty) payload) :
    ∃ after, cid :: rest = (serialize cmd).bytes ++ after ∧ n = (serialize cmd).bytes.length := by
  unfold toEnd at success
  by_cases empty : rest = []
  · rw [dif_pos empty] at success
    cases success
  · rw [dif_neg empty] at success
    cases success
    refine ⟨[], ?_, ?_⟩
    · rw [(framed _ _).bytes, List.append_nil]
    · rw [(framed _ _).bytes, List.length_cons, Nat.add_comm]

theorem fixed_append (cid : Byte) {len : Nat} (payload : Vector Byte len) (after : List Byte)
    {build : Vector Byte len → Cmd} {cmd : Cmd} (built : build payload = cmd) :
    fixed cid len (payload.toList ++ after) build =
      .ok (cmd, 1 + payload.toList.length) := by
  have long : ¬ (payload.toList ++ after).length < len := by simp
  have taken : (payload.toList ++ after).take len = payload.toList := by
    apply List.take_left'
    exact payload.length_toList
  rw [fixed, dif_neg long]
  simp only [taken, Bytes.arr_of_toList, payload.length_toList, built]

theorem fixed_zero (cid : Byte) (after : List Byte) (cmd : Cmd) :
    fixed cid 0 after (fun _ => cmd) = .ok (cmd, 1) := by
  rw [fixed, dif_neg (Nat.not_lt_zero _)]

theorem nil_eq_toList (payload : Vector Byte 0) : [] = payload.toList :=
  (List.eq_nil_of_length_eq_zero payload.length_toList).symm

end MacCommandSet

open MacCommandSet

namespace DownlinkMacCommand

def serialize : DownlinkMacCommand → SerializableMacCommand
  | linkCheckAns payload => ⟨0x02, payload.toList⟩
  | linkADRReq payload => ⟨0x03, payload.bytes.toList⟩
  | dutyCycleReq payload => ⟨0x04, payload.toList⟩
  | rxParamSetupReq payload => ⟨0x05, payload.bytes.toList⟩
  | devStatusReq => ⟨0x06, []⟩
  | newChannelReq payload => ⟨0x07, payload.bytes.toList⟩
  | rxTimingSetupReq payload => ⟨0x08, payload.bytes.toList⟩
  | txParamSetupReq payload => ⟨0x09, payload.toList⟩
  | dlChannelReq payload => ⟨0x0A, payload.bytes.toList⟩
  | deviceTimeAns payload => ⟨0x0D, payload.toList⟩

instance : CommandHandler DownlinkMacCommand where
  serialize := serialize
  fixedLen _ := true
  parsed_bytes := by
    intro cid rest cmd n success
    change parseOne cid rest = _ at success
    unfold parseOne at success
    split at success
    all_goals first
      | exact fixed_parsed serialize success fun _ => ⟨by assumption, rfl⟩
      | exact fixed_parsed serialize success fun payload => ⟨by assumption, nil_eq_toList payload⟩
      | cases success
  parseOne_serialize := by
    intro cmd _ after
    change parseOne _ _ = _
    cases cmd
    all_goals simp only [serialize, parseOne, SerializableMacCommand.payloadLen]
    all_goals first
      | exact fixed_zero _ after _
      | exact fixed_append _ _ after rfl

end DownlinkMacCommand

namespace UplinkMacCommand

instance : CommandHandler UplinkMacCommand where
  serialize := serialize
  fixedLen := fun _ => true
  parsed_bytes := by
    intro cid rest cmd n success
    change parseOne cid rest = _ at success
    unfold parseOne at success
    split at success
    all_goals first
      | exact fixed_parsed serialize success fun _ => ⟨by assumption, rfl⟩
      | exact fixed_parsed serialize success fun payload => ⟨by assumption, nil_eq_toList payload⟩
      | cases success
  parseOne_serialize := by
    intro cmd isFixed after
    change parseOne _ _ = _
    cases cmd
    all_goals simp only [serialize, parseOne, SerializableMacCommand.payloadLen]
    all_goals first
      | exact fixed_zero _ after _
      | exact fixed_append _ _ after rfl

end UplinkMacCommand

namespace Multicast.DownlinkRemoteSetup

def serialize : DownlinkRemoteSetup → SerializableMacCommand
  | packageVersionReq => ⟨0x00, []⟩
  | mcGroupStatusReq payload => ⟨0x01, payload.bytes.toList⟩
  | mcGroupSetupReq payload => ⟨0x02, payload.bytes.toList⟩
  | mcGroupDeleteReq payload => ⟨0x03, payload.bytes.toList⟩
  | mcClassCSessionReq payload => ⟨0x04, payload.toList⟩
  | mcClassBSessionReq payload => ⟨0x05, payload.toList⟩

instance : CommandHandler DownlinkRemoteSetup where
  serialize := serialize
  fixedLen := fun _ => true
  parsed_bytes := by
    intro cid rest cmd n success
    change parseOne cid rest = _ at success
    unfold parseOne at success
    split at success
    all_goals first
      | exact fixed_parsed serialize success fun _ => ⟨by assumption, rfl⟩
      | exact fixed_parsed serialize success fun payload => ⟨by assumption, nil_eq_toList payload⟩
      | cases success
  parseOne_serialize := by
    intro cmd isFixed after
    change parseOne _ _ = _
    cases cmd
    all_goals simp only [serialize, parseOne, SerializableMacCommand.payloadLen]
    all_goals first
      | exact fixed_zero _ after _
      | exact fixed_append _ _ after rfl

end Multicast.DownlinkRemoteSetup

namespace Multicast.UplinkRemoteSetup

def serialize : UplinkRemoteSetup → SerializableMacCommand
  | packageVersionAns payload => ⟨0x00, payload.toList⟩
  | mcGroupStatusAns payload => ⟨0x01, payload.bytes⟩
  | mcGroupSetupAns payload => ⟨0x02, payload.toList⟩
  | mcGroupDeleteAns payload => ⟨0x03, payload.toList⟩
  | mcClassCSessionAns payload => ⟨0x04, payload.toList⟩
  | mcClassBSessionAns payload => ⟨0x05, payload.toList⟩

/-- All but the answer that says its own length. -/
def hasLen : UplinkRemoteSetup → Bool
  | mcGroupStatusAns _ => false
  | _ => true

theorem parseGroupStatus_parsed {cid : Byte} {rest : List Byte} {cmd : UplinkRemoteSetup} {n : Nat}
    (success : parseGroupStatus cid rest = .ok (cmd, n)) (code : cid.toNat = 0x01) :
    ∃ after, cid :: rest = (serialize cmd).bytes ++ after ∧ n = (serialize cmd).bytes.length := by
  obtain ⟨payload, after, rfl, rfl, rfl⟩ := parseGroupStatus_eq_ok success
  have framed : Frames serialize cid (mcGroupStatusAns payload) payload.bytes := ⟨code, rfl⟩
  refine ⟨after, ?_, ?_⟩
  · rw [framed.bytes, List.cons_append]
  · rw [framed.bytes, List.length_cons, Nat.add_comm]

instance : CommandHandler UplinkRemoteSetup where
  serialize := serialize
  fixedLen := hasLen
  parsed_bytes := by
    intro cid rest cmd n success
    change parseOne cid rest = _ at success
    unfold parseOne at success
    split at success
    all_goals first
      | exact fixed_parsed serialize success fun _ => ⟨by assumption, rfl⟩
      | exact parseGroupStatus_parsed success (by assumption)
      | cases success
  parseOne_serialize := by
    intro cmd isFixed after
    change parseOne _ _ = _
    cases cmd
    all_goals simp only [serialize, parseOne, SerializableMacCommand.payloadLen]
    all_goals first
      | exact fixed_append _ _ after rfl
      | cases isFixed

end Multicast.UplinkRemoteSetup

namespace DownlinkDUTCommand

def serialize : DownlinkDUTCommand → SerializableMacCommand
  | dutResetReq => ⟨0x01, []⟩
  | dutJoinReq => ⟨0x02, []⟩
  | adrBitChangeReq payload => ⟨0x04, payload.bytes.toList⟩
  | txPeriodicityChangeReq payload => ⟨0x06, payload.bytes.toList⟩
  | txFramesCtrlReq payload => ⟨0x07, payload.bytes⟩
  | echoIncPayloadReq payload => ⟨0x08, payload.bytes⟩
  | rxAppCntReq => ⟨0x09, []⟩
  | linkCheckReq => ⟨0x20, []⟩
  | dutVersionsReq => ⟨0x7f, []⟩

/-- All but the two commands that take all the data there is. -/
def hasLen : DownlinkDUTCommand → Bool
  | txFramesCtrlReq _ | echoIncPayloadReq _ => false
  | _ => true

instance : CommandHandler DownlinkDUTCommand where
  serialize := serialize
  fixedLen := hasLen
  parsed_bytes := by
    intro cid rest cmd n success
    change parseOne cid rest = _ at success
    unfold parseOne at success
    split at success
    all_goals first
      | exact fixed_parsed serialize success fun _ => ⟨by assumption, rfl⟩
      | exact fixed_parsed serialize success fun payload => ⟨by assumption, nil_eq_toList payload⟩
      | exact toEnd_parsed serialize success fun _ _ => ⟨by assumption, rfl⟩
      | cases success
  parseOne_serialize := by
    intro cmd isFixed after
    change parseOne _ _ = _
    cases cmd
    all_goals simp only [serialize, parseOne, SerializableMacCommand.payloadLen]
    all_goals first
      | exact fixed_zero _ after _
      | exact fixed_append _ _ after rfl
      | cases isFixed

end DownlinkDUTCommand

namespace UplinkDUTCommand

def serialize : UplinkDUTCommand → SerializableMacCommand
  | echoIncPayloadAns payload => ⟨0x08, payload.bytes⟩
  | rxAppCntAns payload => ⟨0x09, payload.toList⟩
  | dutVersionsAns payload => ⟨0x7f, payload.toList⟩

def hasLen : UplinkDUTCommand → Bool
  | echoIncPayloadAns _ => false
  | _ => true

instance : CommandHandler UplinkDUTCommand where
  serialize := serialize
  fixedLen := hasLen
  parsed_bytes := by
    intro cid rest cmd n success
    change parseOne cid rest = _ at success
    unfold parseOne at success
    split at success
    all_goals first
      | exact fixed_parsed serialize success fun _ => ⟨by assumption, rfl⟩
      | exact toEnd_parsed serialize success fun _ _ => ⟨by assumption, rfl⟩
      | cases success
  parseOne_serialize := by
    intro cmd isFixed after
    change parseOne _ _ = _
    cases cmd
    all_goals simp only [serialize, parseOne, SerializableMacCommand.payloadLen]
    all_goals first
      | exact fixed_append _ _ after rfl
      | cases isFixed

end UplinkDUTCommand

/-! ## The iterator -/

/-- `MacCommands`, the iterator over a stream. -/
structure MacCommands (Cmd : Type) where
  data : List Byte
  errored : Bool

namespace MacCommands

variable {Cmd : Type}

def new (data : List Byte) : MacCommands Cmd := ⟨data, false⟩

section

variable [MacCommandSet Cmd]

def next (stream : MacCommands Cmd) :
    Checked (Option (Except ParseError Cmd) × MacCommands Cmd) :=
  match stream.data with
  | [] => .ok (none, stream)
  | cid :: rest =>
      if stream.errored then .ok (none, stream)
      else
        match MacCommandSet.parseOne cid rest with
        | .ok (cmd, consumed) =>
            -- `&self.data[consumed..]`
            if consumed ≤ (cid :: rest).length then
              .ok (some (.ok cmd), { stream with data := (cid :: rest).drop consumed })
            else .error .outOfBounds
        | .error e => .ok (some (.error e), { stream with errored := true })

/-- Iterating to the first `None`: the items yielded and the iterator left. -/
inductive Yields : MacCommands Cmd → List (Except ParseError Cmd) → MacCommands Cmd → Prop where
  | ended {stream last : MacCommands Cmd} (stopped : stream.next = .ok (none, last)) :
      Yields stream [] last
  | item {stream middle last : MacCommands Cmd} {first : Except ParseError Cmd}
      {rest : List (Except ParseError Cmd)} (yielded : stream.next = .ok (some first, middle))
      (later : Yields middle rest last) : Yields stream (first :: rest) last

end

section

variable [CommandHandler Cmd]

def bytesOf (cmds : List Cmd) : List Byte :=
  cmds.flatMap fun cmd => (CommandHandler.serialize cmd).bytes

@[simp] theorem bytesOf_cons (cmd : Cmd) (rest : List Cmd) :
    bytesOf (cmd :: rest) = (CommandHandler.serialize cmd).bytes ++ bytesOf rest := by
  rw [bytesOf, List.flatMap_cons, bytesOf]

/-- How a stream ends: the commands it was taken apart into, the error if there was one,
and an iterator that yields nothing more. -/
structure TakenApart (data : List Byte) (cmds : List Cmd) (failure : Option ParseError)
    (last : MacCommands Cmd) : Prop where
  yielded : Yields (.new data) (cmds.map .ok ++ failure.toList.map .error) last
  listed : results data = cmds.map .ok ++ failure.toList.map .error
  fused : last.next = .ok (none, last)
  consumed : data = bytesOf cmds ++ last.data
  whole : failure = none ↔ last.data = []

theorem next_cmd {cid : Byte} {rest : List Byte} {cmd : Cmd} {n : Nat}
    (parsed : MacCommandSet.parseOne cid rest = .ok (cmd, n)) :
    next (.new (cid :: rest)) = .ok (some (.ok cmd), .new ((cid :: rest).drop n)) := by
  have inside : n ≤ (cid :: rest).length := by
    have taken := MacCommandSet.consumed parsed
    rw [List.length_cons]
    omega
  simp only [next, new, Bool.false_eq_true, if_false, parsed, if_pos inside]

theorem next_error {cid : Byte} {rest : List Byte} {e : ParseError}
    (failed : (MacCommandSet.parseOne cid rest : Except ParseError (Cmd × Nat)) = .error e) :
    next (.new (cid :: rest) : MacCommands Cmd) = .ok (some (.error e), ⟨cid :: rest, true⟩) := by
  simp only [next, new, Bool.false_eq_true, if_false, failed]

theorem takenApart (data : List Byte) :
    ∃ (cmds : List Cmd) (failure : Option ParseError) (last : MacCommands Cmd),
      TakenApart data cmds failure last := by
  induction short : data.length using Nat.strong_induction_on generalizing data with
  | _ size ih =>
      cases data with
      | nil => exact ⟨[], none, .new [], .ended rfl, rfl, rfl, rfl, iff_of_true rfl rfl⟩
      | cons cid rest =>
          cases parsed : (MacCommandSet.parseOne cid rest : Except ParseError (Cmd × Nat)) with
          | error e =>
              refine ⟨[], some e, ⟨cid :: rest, true⟩, .item (next_error parsed) (.ended rfl),
                results_error parsed, rfl, rfl, ?_⟩
              apply iff_of_false <;> simp
          | ok found =>
              obtain ⟨cmd, n⟩ := found
              obtain ⟨after, framed, length⟩ := CommandHandler.parsed_bytes parsed
              have dropped : (cid :: rest).drop n = after := by
                rw [framed, length, List.drop_left]
              have shorter : after.length < size := by
                have total := congrArg List.length framed
                rw [List.length_append, SerializableMacCommand.bytes_length] at total
                omega
              obtain ⟨cmds, failure, last, apart⟩ := ih after.length shorter after rfl
              have first := next_cmd parsed
              rw [dropped] at first
              have listed := results_ok parsed
              rw [dropped, apart.listed] at listed
              refine ⟨cmd :: cmds, failure, last, .item first apart.yielded, listed, apart.fused,
                ?_, apart.whole⟩
              rw [framed, apart.consumed, bytesOf_cons, List.append_assoc]

/-- Commands of fixed length come back from their bytes. -/
theorem takenApart_bytesOf (cmds : List Cmd)
    (hasLen : ∀ cmd ∈ cmds, CommandHandler.fixedLen cmd = true) :
    TakenApart (bytesOf cmds) cmds none (.new []) := by
  induction cmds with
  | nil => exact ⟨.ended rfl, rfl, rfl, rfl, iff_of_true rfl rfl⟩
  | cons cmd rest ih =>
      have parsed := CommandHandler.parseOne_serialize (hasLen cmd List.mem_cons_self)
        (bytesOf rest)
      have dropped : ((CommandHandler.serialize cmd).bytes ++ bytesOf rest).drop
          (1 + (CommandHandler.serialize cmd).payloadLen) = bytesOf rest := by
        rw [← SerializableMacCommand.bytes_length, List.drop_left]
      have apart := ih fun other member => hasLen other (List.mem_cons_of_mem _ member)
      have first := next_cmd parsed
      have listed := results_ok parsed
      rw [← List.cons_append] at first listed
      simp only [SerializableMacCommand.bytes] at dropped
      rw [dropped] at first listed
      rw [apart.listed] at listed
      refine ⟨?_, ?_, rfl, (List.append_nil _).symm, iff_of_true rfl rfl⟩
      · rw [bytesOf_cons]
        exact .item first apart.yielded
      · rw [bytesOf_cons]
        exact listed

end

end MacCommands

/-! ## Building -/

/-- `maccommandcreator::Error`, as far as building uses it. -/
inductive CreatorError where
  | bufferTooShort
  deriving DecidableEq, Repr

def macCommandsLen (cmds : List SerializableMacCommand) : Nat :=
  (cmds.map fun cmd => cmd.payloadLen + 1).sum

/-- `res[start..end].copy_from_slice(..)`. -/
def copyInto (res : List Byte) (start : Nat) (data : List Byte) : Checked (List Byte) :=
  if start + data.length ≤ res.length then
    .ok (res.take start ++ data ++ res.drop (start + data.length))
  else .error .outOfBounds

/-- The loop of `build_mac_commands`. -/
def writeCommands : List SerializableMacCommand → Nat → List Byte → Checked (Nat × List Byte)
  | [], i, res => .ok (i, res)
  | cmd :: rest, i, res => do
      let res ← copyInto res i [cmd.cid]
      let res ← copyInto res (i + 1) cmd.payloadBytes
      writeCommands rest (i + 1 + cmd.payloadLen) res

/-- `build_mac_commands`: the length written and the buffer after it. -/
def buildMacCommands (cmds : List SerializableMacCommand) (out : List Byte) :
    Checked (Except CreatorError (Nat × List Byte)) :=
  if macCommandsLen cmds > out.length then .ok (.error .bufferTooShort)
  else do
    let written ← writeCommands cmds 0 out
    return .ok written

/-- A buffer with `data` over it from `start` on. -/
def overlay (res : List Byte) (start : Nat) (data : List Byte) : List Byte :=
  res.take start ++ data ++ res.drop (start + data.length)

theorem overlay_length {res data : List Byte} {start : Nat}
    (inside : start + data.length ≤ res.length) : (overlay res start data).length = res.length := by
  simp only [overlay, List.length_append, List.length_take, List.length_drop]
  omega

/-- Two writes one after the other are one write. -/
theorem overlay_overlay {res first second : List Byte} {start : Nat}
    (inside : start + first.length ≤ res.length) :
    overlay (overlay res start first) (start + first.length) second = overlay res start (first ++ second) := by
  have head : (res.take start ++ first).length = start + first.length := by
    rw [List.length_append, List.length_take]
    omega
  have kept : (overlay res start first).take (start + first.length) = res.take start ++ first := by
    rw [overlay, List.take_left' head]
  have rest : (overlay res start first).drop (start + first.length + second.length) =
      res.drop (start + (first ++ second).length) := by
    rw [← List.drop_drop, overlay, List.drop_left' head, List.drop_drop, List.length_append,
      Nat.add_assoc]
  rw [overlay, kept, rest, overlay, List.append_assoc (res.take start)]

theorem copyInto_ok {res data : List Byte} {start : Nat}
    (inside : start + data.length ≤ res.length) :
    copyInto res start data = .ok (overlay res start data) := if_pos inside

theorem flatMap_bytes_length (cmds : List SerializableMacCommand) :
    (cmds.flatMap SerializableMacCommand.bytes).length = macCommandsLen cmds := by
  induction cmds with
  | nil => rfl
  | cons cmd rest ih =>
      rw [List.flatMap_cons, List.length_append, ih, SerializableMacCommand.bytes_length,
        macCommandsLen, macCommandsLen, List.map_cons, List.sum_cons]
      omega

theorem writeCommands_ok (cmds : List SerializableMacCommand) (i : Nat) (res : List Byte)
    (room : i + macCommandsLen cmds ≤ res.length) :
    writeCommands cmds i res =
      .ok (i + macCommandsLen cmds, overlay res i (cmds.flatMap SerializableMacCommand.bytes)) := by
  induction cmds generalizing i res with
  | nil => simp [writeCommands, macCommandsLen, overlay]
  | cons cmd rest ih =>
      have total : macCommandsLen (cmd :: rest) = 1 + cmd.payloadLen + macCommandsLen rest := by
        rw [macCommandsLen, List.map_cons, List.sum_cons, macCommandsLen]
        omega
      have cidRoom : i + [cmd.cid].length ≤ res.length := by
        rw [List.length_singleton]
        omega
      have payloadRoom : i + 1 + cmd.payloadBytes.length ≤ (overlay res i [cmd.cid]).length := by
        rw [overlay_length cidRoom]
        simp only [SerializableMacCommand.payloadLen] at total
        omega
      have merged : overlay (overlay res i [cmd.cid]) (i + 1) cmd.payloadBytes = overlay res i cmd.bytes :=
        overlay_overlay cidRoom
      have bytesRoom : i + cmd.bytes.length ≤ res.length := by
        rw [SerializableMacCommand.bytes_length]
        omega
      rw [writeCommands, copyInto_ok cidRoom, Checked.ok_bind, copyInto_ok payloadRoom,
        Checked.ok_bind, merged, ih _ _ (by rw [overlay_length bytesRoom]; omega)]
      have next : i + 1 + cmd.payloadLen = i + cmd.bytes.length := by
        rw [SerializableMacCommand.bytes_length]
        omega
      rw [next, overlay_overlay bytesRoom, List.flatMap_cons, total, SerializableMacCommand.bytes_length]
      simp only [Nat.add_assoc]

theorem buildMacCommands_ok (cmds : List SerializableMacCommand) (out : List Byte)
    (room : macCommandsLen cmds ≤ out.length) :
    ∃ written, buildMacCommands cmds out = .ok (.ok (macCommandsLen cmds, written)) ∧
      written.length = out.length ∧
      written.take (macCommandsLen cmds) = cmds.flatMap SerializableMacCommand.bytes := by
  have size := flatMap_bytes_length cmds
  refine ⟨overlay out 0 (cmds.flatMap SerializableMacCommand.bytes), ?_, ?_, ?_⟩
  · rw [buildMacCommands, if_neg (by omega), writeCommands_ok cmds 0 out (by omega), Nat.zero_add]
    rfl
  · apply overlay_length
    omega
  · rw [overlay, List.take_zero, List.nil_append, List.take_left' size]

/-! ## The codec -/

/-- A command set whose streams are taken apart without a fault into commands and at most
one error, with the bytes consumed those of the commands, and whose fixed-length commands
come back from what is built of them. -/
structure StreamCodec (Cmd : Type) [CommandHandler Cmd] : Prop where
  parses : ∀ data : List Byte, ∃ (cmds : List Cmd) (failure : Option ParseError)
    (last : MacCommands Cmd), MacCommands.TakenApart data cmds failure last
  builds : ∀ (cmds : List Cmd) (out : List Byte),
    (∀ cmd ∈ cmds, CommandHandler.fixedLen cmd = true) →
    macCommandsLen (cmds.map CommandHandler.serialize) ≤ out.length →
    ∃ n written last,
      buildMacCommands (cmds.map CommandHandler.serialize) out = .ok (.ok (n, written)) ∧
      MacCommands.TakenApart (written.take n) cmds none last

theorem streamCodec (Cmd : Type) [CommandHandler Cmd] : StreamCodec Cmd where
  parses := MacCommands.takenApart
  builds := by
    intro cmds out hasLen room
    obtain ⟨written, built, _, taken⟩ := buildMacCommands_ok _ out room
    have bytes : written.take (macCommandsLen (cmds.map CommandHandler.serialize)) =
        MacCommands.bytesOf cmds := by
      rw [taken, List.flatMap_map, MacCommands.bytesOf]
    refine ⟨_, written, .new [], built, ?_⟩
    rw [bytes]
    exact MacCommands.takenApart_bytesOf cmds hasLen

/-- Every command set that derives `CommandHandler` is such a codec. -/
theorem command_streams_are_codecs :
    StreamCodec DownlinkMacCommand ∧ StreamCodec UplinkMacCommand ∧
      StreamCodec Multicast.DownlinkRemoteSetup ∧ StreamCodec Multicast.UplinkRemoteSetup ∧
      StreamCodec DownlinkDUTCommand ∧ StreamCodec UplinkDUTCommand :=
  ⟨streamCodec _, streamCodec _, streamCodec _, streamCodec _, streamCodec _, streamCodec _⟩

end LoraRs.Encoding
