import LoraRs.Mac.Runs

/-!
# Where the receive path stops

`handle_rx` and `handle_downlink_macs` return on every frame of at most 255 bytes, except
for three things: a mask command with control 4, the certification counter at its end and
setup answers that have no room.  Each is traced to the one operation that stops.
-/

set_option autoImplicit false
set_option linter.dupNamespace false

namespace LoraRs.Mac

open LoraRs.Encoding LoraRs.Lib

/-! ## Command streams -/

def NoControlFour (cmds : List Byte) : Prop :=
  ∀ payload, .linkADRReq payload ∈ parseDownlinkMacCommands cmds →
    payload.redundancy.channelMaskControl ≠ 4

theorem linkADRDataRate_returns {st : CmdState} (requested : DR)
    (defined : Settings.DataRateDefined ⟨st.configuration, st.region⟩) :
    ∃ dr, linkADRDataRate st requested = .ok dr ∧
      ∀ d, dr = some d → d.val < Region.numDatarates := by
  unfold linkADRDataRate
  split
  · refine ⟨_, rfl, ?_⟩
    rintro d same
    cases same
    obtain ⟨rate, found⟩ := defined
    exact getDatarate_inside found
  · rename_i other
    have inside := Region.DR_val_lt other
    obtain ⟨entry, found⟩ := Region.getDatarate_returns st.region.params.datarates inside
    rw [Region.Configuration.getDatarate, found, Checked.ok_bind]
    split
    · refine ⟨_, rfl, ?_⟩
      rintro d same
      cases same
      exact inside
    · refine ⟨_, rfl, ?_⟩
      rintro d same
      cases same

theorem finishLinkADRBlock_returns {payload : LinkADRReqPayload} {st : CmdState}
    (defined : Settings.DataRateDefined ⟨st.configuration, st.region⟩) :
    Checked.Returns (finishLinkADRBlock payload st) := by
  obtain ⟨dr, rate, inside⟩ := linkADRDataRate_returns payload.dataRate defined
  obtain ⟨cmAck, valid⟩ := st.region.channelMaskValidate_returns st.channelMask dr inside
  rw [finishLinkADRBlock, rate, Checked.ok_bind]
  simp only [valid, Checked.ok_bind]
  split <;> exact Checked.returns_ok _

theorem handleRXParamSetupReq_returns (payload : RXParamSetupReqPayload) (st : CmdState) :
    Checked.Returns (handleRXParamSetupReq payload st) := by
  have rate : Checked.Returns (rxParamRx2Dr st payload.dlSettings.rx2DataRate) := by
    unfold rxParamRx2Dr
    split
    · exact Checked.returns_ok _
    · rename_i other
      obtain ⟨entry, found⟩ := Region.getDatarate_returns st.region.params.datarates
        (Region.DR_val_lt other)
      rw [Region.Configuration.getDatarate, found, Checked.ok_bind]
      split <;> exact Checked.returns_ok _
  obtain ⟨rx2Dr, rate⟩ := rate
  rw [handleRXParamSetupReq]
  simp only [rate, Checked.ok_bind]
  split <;> exact Checked.returns_ok _

theorem handleNewChannelReq_returns (payload : NewChannelReqPayload) (st : CmdState) :
    Checked.Returns (handleNewChannelReq payload st) := by
  unfold handleNewChannelReq
  cases regionEq : st.region with
  | fixed region plan => exact Checked.returns_ok _
  | dynamic region plan =>
      obtain ⟨⟨next, ackF, ackD⟩, handled⟩ :=
        Region.DynamicChannelPlan.handleNewChannel_returns region.params plan payload.channelIndex
          payload.frequency.value payload.dataRateRange.toOption
      simp only [Region.Configuration.hasFixedChannelPlan, Bool.false_eq_true, if_false,
        Region.Configuration.handleNewChannel, handled, Checked.ok_bind]
      exact Checked.returns_ok _

theorem handleOther_returns (snr : Int8) {cmd : DownlinkMacCommand}
    (unlinked : cmd.isLinkADRReq = false) (st : CmdState) :
    Checked.Returns (handleCommand snr cmd false st) := by
  cases cmd with
  | linkADRReq payload => cases unlinked
  | newChannelReq payload => exact handleNewChannelReq_returns payload st
  | rxParamSetupReq payload => exact handleRXParamSetupReq_returns payload st
  | dlChannelReq payload =>
      obtain ⟨next, answers, handled, _⟩ := handleDlChannelReq_outcome payload st
      exact ⟨_, handled⟩
  | linkCheckAns | dutyCycleReq | devStatusReq | rxTimingSetupReq | txParamSetupReq
    | deviceTimeAns => exact Checked.returns_ok _

/-- Only the mask steps of a block can stop. -/
theorem handleItem_returns_iff (snr : Int8) (item : Item) {st : CmdState}
    (defined : Settings.DataRateDefined ⟨st.configuration, st.region⟩) :
    Checked.Returns (handleItem snr item st) ↔ ∀ payload, .linkADRReq payload ∈ item.commands →
      payload.redundancy.channelMaskControl ≠ 4 := by
  cases item with
  | other cmd unlinked =>
      refine iff_of_true (handleOther_returns snr unlinked st) ?_
      intro payload listed
      cases List.mem_singleton.mp listed
      cases unlinked
  | block earlier last =>
      have listed : ∀ payload, .linkADRReq payload ∈ (Item.block earlier last).commands ↔
          payload ∈ earlier ++ [last] := by
        intro payload
        rw [Item.commands, List.mem_map]
        constructor
        · rintro ⟨other, inside, same⟩
          cases same
          exact inside
        · intro inside
          exact ⟨payload, inside, rfl⟩
      simp only [listed]
      rw [← stepMasks_returns_iff st.region (earlier ++ [last]) st.channelMask, handleItem,
        handleBlock, Checked.returns_bind_iff]
      constructor
      · rintro ⟨mask, stepped, _⟩
        exact ⟨mask, stepped⟩
      · rintro ⟨mask, stepped⟩
        exact ⟨mask, stepped, finishLinkADRBlock_returns defined⟩

theorem runItems_returns_iff (snr : Int8) (items : List Item) {st : CmdState} (uplink : Uplink)
    (defined : Settings.DataRateDefined ⟨st.configuration, st.region⟩) :
    Checked.Returns (runItems snr items st uplink) ↔
      ∀ payload, .linkADRReq payload ∈ items.flatMap Item.commands →
        payload.redundancy.channelMaskControl ≠ 4 := by
  induction items generalizing st uplink with
  | nil =>
      refine iff_of_true (Checked.returns_ok _) ?_
      intro payload listed
      cases listed
  | cons item rest ih =>
      have split : (∀ payload, .linkADRReq payload ∈ (item :: rest).flatMap Item.commands →
          payload.redundancy.channelMaskControl ≠ 4) ↔
          (∀ payload, .linkADRReq payload ∈ item.commands →
            payload.redundancy.channelMaskControl ≠ 4) ∧
          ∀ payload, .linkADRReq payload ∈ rest.flatMap Item.commands →
            payload.redundancy.channelMaskControl ≠ 4 := by
        simp only [List.flatMap_cons, List.mem_append, or_imp, forall_and]
      rw [split, ← handleItem_returns_iff snr item defined, runItems, Checked.returns_bind_iff]
      constructor
      · rintro ⟨⟨next, answers⟩, handled, ran⟩
        have stepped : itemStep snr item st = .ok next := by
          rw [itemStep, handled]
          rfl
        have kept := itemStep_keeps_dataRate defined stepped
        exact ⟨⟨_, handled⟩, (ih _ kept).mp ran⟩
      · rintro ⟨⟨⟨next, answers⟩, handled⟩, others⟩
        have stepped : itemStep snr item st = .ok next := by
          rw [itemStep, handled]
          rfl
        have kept := itemStep_keeps_dataRate defined stepped
        exact ⟨_, handled, (ih _ kept).mpr others⟩

/-- A stream over settings with a defined data rate stops exactly at a control 4. -/
theorem handleDownlinkMacs_returns_iff (snr : Int8) (cmds : List Byte)
    {configuration : Configuration} {region : Region.Configuration} (uplink : Uplink)
    (defined : Settings.DataRateDefined ⟨configuration, region⟩) :
    Checked.Returns (handleDownlinkMacs snr cmds configuration region uplink) ↔
      NoControlFour cmds := by
  have started : Settings.DataRateDefined ⟨(CmdState.start configuration region).configuration,
      (CmdState.start configuration region).region⟩ := defined
  have run := runItems_returns_iff snr (items (parseDownlinkMacCommands cmds)) uplink started
  rw [items_commands] at run
  rw [handleDownlinkMacs_eq_runItems, Checked.returns_bind_iff, NoControlFour, ← run]
  constructor
  · rintro ⟨final, ran, _⟩
    exact ⟨final, ran⟩
  · rintro ⟨final, ran⟩
    exact ⟨final, ran, Checked.returns_ok _⟩

/-! ## Certification -/

namespace Certification

/-- The messages up to the first that decides end with one that the application is
given too. -/
def passesOn : List (Except ParseError DownlinkDUTCommand) → Bool
  | .ok (.adrBitChangeReq payload) :: rest => payload.adrEnable.toOption.isSome || passesOn rest
  | .ok (.txFramesCtrlReq payload) :: rest =>
      payload.frameTypeOverride.toOption.isSome || passesOn rest
  | .ok (.txPeriodicityChangeReq payload) :: rest =>
      !payload.periodicity.toOption.isSome && passesOn rest
  | _ => false

def Response.goesOn : Response → Bool
  | .adrBitChange _ | .txFramesCtrlReq _ => true
  | _ => false

theorem prepareUplink_returns (certification : Certification) (answer : List Byte)
    (short : answer.length ≤ 256) :
    ∃ next, certification.prepareUplink answer = .ok (.uplinkPrepared, next) := by
  have room : ([] : List Byte).length + answer.length ≤ 256 := by
    rw [List.length_nil]
    omega
  exact ⟨_, by rw [prepareUplink, extendFromSlice, if_pos room]; rfl⟩

/-- Messages whose echo requests fit the answer's array are always handled. -/
theorem handleMessages_returns (rxAppCnt : UInt16) (certification : Certification)
    (messages : List (Except ParseError DownlinkDUTCommand))
    (echoes : ∀ payload, .ok (.echoIncPayloadReq payload) ∈ messages →
      payload.bytes.length ≤ 241) :
    ∃ response next, handleMessages rxAppCnt certification messages = .ok (response, next) ∧
      response.goesOn = passesOn messages := by
  induction messages with
  | nil => exact ⟨_, _, rfl, rfl⟩
  | cons message rest ih =>
      have later := ih fun payload listed => echoes payload (List.mem_cons_of_mem _ listed)
      cases message with
      | error e => exact ⟨_, _, rfl, rfl⟩
      | ok cmd =>
          cases cmd with
          | dutResetReq | dutJoinReq | linkCheckReq => exact ⟨_, _, rfl, rfl⟩
          | rxAppCntReq =>
              have short : (rxAppCntAns rxAppCnt).length ≤ 256 := by
                simp [rxAppCntAns, Bytes.leU16]
              obtain ⟨next, prepared⟩ := certification.prepareUplink_returns _ short
              exact ⟨_, _, prepared, rfl⟩
          | dutVersionsReq =>
              obtain ⟨next, prepared⟩ :=
                certification.prepareUplink_returns (dutVersionsAns versions) (by decide)
              exact ⟨_, _, prepared, rfl⟩
          | echoIncPayloadReq payload =>
              have fits := echoes payload (List.mem_cons_self ..)
              have short : (0x08 :: payload.bytes.map (· + 1)).length ≤ 256 := by
                rw [List.length_cons, List.length_map]
                omega
              obtain ⟨next, prepared⟩ := certification.prepareUplink_returns _ short
              refine ⟨.uplinkPrepared, next, ?_, rfl⟩
              rw [handleMessages, echoIncPayloadAns, if_pos fits, Checked.ok_bind, prepared]
          | adrBitChangeReq payload =>
              simp only [handleMessages, passesOn]
              cases payload.adrEnable with
              | ok adr => exact ⟨_, _, rfl, rfl⟩
              | error e => exact later
          | txPeriodicityChangeReq payload =>
              simp only [handleMessages, passesOn]
              cases payload.periodicity with
              | ok periodicity => exact ⟨_, _, rfl, rfl⟩
              | error e => exact later
          | txFramesCtrlReq payload =>
              simp only [handleMessages, passesOn]
              cases payload.frameTypeOverride with
              | ok ftype => exact ⟨_, _, rfl, rfl⟩
              | error e => exact later

end Certification

/-! ## Multicast setup -/

namespace Multicast

open LoraRs.Encoding.Multicast (maxGroups DownlinkRemoteSetup McGroupStatusAnsCreator
  mcGroupSetupAns packageVersionAns mcGroupDeleteAns mcGroupDeleteAnsUndefined)

/-- Which groups have a session. -/
def present (sessions : McSessions) (id : Fin maxGroups) : Bool := (sessions.get id).isSome

def listed (groups : Fin maxGroups → Bool) (mask : Byte) (id : Fin maxGroups) : Bool :=
  groups id && decide (mask &&& (1 <<< id.val.toUInt8) ≠ 0)

def answerSize (groups : Fin maxGroups → Bool) : DownlinkRemoteSetup → Nat
  | .packageVersionReq => 3
  | .mcGroupStatusReq payload =>
      2 + 5 * ((List.finRange maxGroups).filter (listed groups payload.reqGroupMask)).length
  | .mcGroupSetupReq _ => 2
  | .mcGroupDeleteReq _ => 2
  | .mcClassCSessionReq _ => 0
  | .mcClassBSessionReq _ => 0

def presentAfter (groups : Fin maxGroups → Bool) : DownlinkRemoteSetup → Fin maxGroups → Bool
  | .mcGroupSetupReq payload => Function.update groups payload.mcGroupIdHeader true
  | .mcGroupDeleteReq payload => Function.update groups payload.mcGroupIdHeader false
  | _ => groups

def answersSize : List (Except ParseError DownlinkRemoteSetup) → (Fin maxGroups → Bool) → Nat
  | .ok message :: rest, groups =>
      answerSize groups message + answersSize rest (presentAfter groups message)
  | _, _ => 0

/-- Answers of this size can be added to the pending ones. -/
def HasRoom (pending size : Nat) : Prop := size = 0 ∨ pending + size ≤ 256

theorem statusAnswer_ok (sessions : McSessions) (mask : Byte) (ids : List (Fin maxGroups))
    (total : Byte) (creator : McGroupStatusAnsCreator)
    (room : creator.items.length + ids.length ≤ maxGroups) :
    ∃ answer, statusAnswer sessions mask ids total creator = .ok answer ∧
      answer.length = 2 + 5 *
        (creator.items.length + (ids.filter (listed (present sessions) mask)).length) := by
  induction ids generalizing total creator with
  | nil =>
      refine ⟨_, rfl, ?_⟩
      rw [McGroupStatusAnsCreator.build_length]
      rfl
  | cons id rest ih =>
      rw [List.length_cons] at room
      rw [statusAnswer]
      cases held : sessions.get id with
      | none =>
          have off : listed (present sessions) mask id = false := by
            rw [listed, present, held]
            rfl
          rw [List.filter_cons_of_neg (by rw [off]; exact Bool.false_ne_true)]
          exact ih total creator (by omega)
      | some session =>
          have on : listed (present sessions) mask id =
              decide (mask &&& (1 <<< id.val.toUInt8) ≠ 0) := by
            rw [listed, present, held]
            rfl
          simp only
          split
          · rename_i requested
            rw [List.filter_cons_of_pos (by rw [on]; exact decide_eq_true requested)]
            have small : id.val.toUInt8.toNat < 8 := by
              have bound := id.isLt
              rw [Nat.toUInt8, UInt8.toNat_ofNat_of_lt' (Nat.lt_trans bound (by decide))]
              exact Nat.lt_trans bound (by decide)
            rw [McGroupStatusAnsCreator.push_ok small (by omega), Checked.ok_bind]
            obtain ⟨answer, ran, size⟩ := ih (total + 1)
              { status := creator.status ||| (1 <<< id.val.toUInt8)
                items := creator.items ++ [(id.val.toUInt8, session.multicastAddr)] }
              (by rw [List.length_append, List.length_singleton]; omega)
            refine ⟨answer, ran, ?_⟩
            rw [size, List.length_append, List.length_singleton, List.length_cons]
            omega
          · rename_i ignored
            rw [List.filter_cons_of_neg fun holds => ignored (of_decide_eq_true (on.symm.trans holds))]
            exact ih (total + 1) creator (by omega)

/-- A setup message changes the sessions and adds an answer of the size it has. -/
theorem handleSetupCommand_eq (newCrypto : NewCrypto) (key : McKEKey) (multicast : Multicast)
    (newSession : Option Response) (message : DownlinkRemoteSetup) :
    ∃ (set : Multicast) (noted : Option Response) (answer : List Byte),
      answer.length = answerSize (present multicast.sessions) message ∧
      set.pendingUplinks = multicast.pendingUplinks ∧
      present set.sessions = presentAfter (present multicast.sessions) message ∧
      handleSetupCommand newCrypto key multicast newSession message =
        if answer = [] then .ok (set, noted)
        else (do return (← set.addAnswer answer, noted)) := by
  have setSession : ∀ (id : Fin maxGroups) (value : Option Encoding.Multicast.Session),
      present (multicast.sessions.set id value id.isLt) =
        Function.update (present multicast.sessions) id value.isSome := by
    intro id value
    funext other
    by_cases same : other = id
    · subst same
      have entry : (multicast.sessions.set other value other.isLt).get other = value :=
        Vector.getElem_set_self _
      rw [Function.update_self, present, entry]
    · have apart : id.val ≠ other.val := fun equal => same (Fin.ext equal.symm)
      have entry : (multicast.sessions.set id value id.isLt).get other =
          multicast.sessions.get other := Vector.getElem_set_ne _ _ apart
      rw [Function.update_of_ne same, present, present, entry]
  cases message with
  | packageVersionReq => exact ⟨multicast, newSession, packageVersionAns 2 2, rfl, rfl, rfl, rfl⟩
  | mcGroupSetupReq payload =>
      refine ⟨_, some (.groupSetupTransmitRequest payload.mcGroupIdHeader),
        mcGroupSetupAns payload.mcGroupIdHeader, rfl, ?_, ?_, rfl⟩
      · rfl
      · exact setSession _ _
  | mcGroupDeleteReq payload =>
      cases held : (multicast.sessions.get payload.mcGroupIdHeader).isSome with
      | true =>
          refine ⟨{ multicast with
              sessions := multicast.sessions.set payload.mcGroupIdHeader none (Fin.isLt _) },
            newSession, mcGroupDeleteAns payload.mcGroupIdHeader, rfl, rfl, setSession _ _, ?_⟩
          simp only [handleSetupCommand, held, if_true]
          rfl
      | false =>
          have absent : present multicast.sessions =
              Function.update (present multicast.sessions) payload.mcGroupIdHeader false := by
            rw [← held]
            exact (Function.update_eq_self _ _).symm
          refine ⟨multicast, newSession, mcGroupDeleteAnsUndefined, rfl, rfl, absent, ?_⟩
          simp only [handleSetupCommand, held, Bool.false_eq_true, if_false]
          rfl
  | mcGroupStatusReq payload =>
      obtain ⟨answer, ran, size⟩ := statusAnswer_ok multicast.sessions payload.reqGroupMask
        (List.finRange maxGroups) 0 McGroupStatusAnsCreator.new (by decide)
      refine ⟨multicast, newSession, answer, ?_, rfl, rfl, ?_⟩
      · rw [size]
        simp only [McGroupStatusAnsCreator.new, List.length_nil, Nat.zero_add]
        rfl
      · have nonempty : answer ≠ [] := by
          intro empty
          rw [empty, List.length_nil] at size
          omega
        rw [if_neg nonempty, handleSetupCommand, ran]
        rfl
  | mcClassCSessionReq payload => exact ⟨multicast, newSession, [], rfl, rfl, rfl, rfl⟩
  | mcClassBSessionReq payload => exact ⟨multicast, newSession, [], rfl, rfl, rfl, rfl⟩

/-- The messages are handled exactly if the answers have room. -/
theorem handleSetupCommands_returns_iff (newCrypto : NewCrypto) (key : McKEKey)
    (messages : List (Except ParseError DownlinkRemoteSetup)) (multicast : Multicast)
    (newSession : Option Response) :
    Checked.Returns (handleSetupCommands newCrypto key messages multicast newSession) ↔
      HasRoom multicast.pendingUplinks.length
        (answersSize messages (present multicast.sessions)) := by
  induction messages generalizing multicast newSession with
  | nil => exact iff_of_true (Checked.returns_ok _) (.inl rfl)
  | cons message rest ih =>
      cases message with
      | error e => exact iff_of_true (Checked.returns_ok _) (.inl rfl)
      | ok message =>
          obtain ⟨set, noted, answer, size, pending, groups, handled⟩ :=
            handleSetupCommand_eq newCrypto key multicast newSession message
          rw [handleSetupCommands, handled, answersSize, ← size, ← groups]
          split
          · rename_i silent
            rw [Checked.ok_bind, ih, pending, silent, List.length_nil, Nat.zero_add]
          · rename_i answered
            have positive := List.length_pos_iff.mpr answered
            rw [addAnswer, extendFromSlice, pending]
            split
            · rename_i room
              simp only [Checked.ok_bind, Checked.pure_eq_ok]
              rw [ih, List.length_append]
              change HasRoom _ (answersSize rest (present set.sessions)) ↔ _
              unfold HasRoom
              omega
            · rename_i full
              refine iff_of_false (Checked.not_returns_error _) ?_
              unfold HasRoom
              omega

theorem handleSetupMessage_returns_iff (newCrypto : NewCrypto) (multicast : Multicast)
    (data : List Byte) :
    Checked.Returns (multicast.handleSetupMessage newCrypto data) ↔
      (multicast.mcKEKey.isSome = true → HasRoom multicast.pendingUplinks.length
        (answersSize (MacCommands.results data) (present multicast.sessions))) := by
  unfold handleSetupMessage
  cases multicast.mcKEKey with
  | none => exact iff_of_true (Checked.returns_ok _) fun absent => by cases absent
  | some key =>
      simp only [Option.isSome_some, forall_const]
      rw [← handleSetupCommands_returns_iff newCrypto key _ multicast none,
        Checked.returns_bind_iff]
      constructor
      · rintro ⟨result, ran, _⟩
        exact ⟨result, ran⟩
      · rintro ⟨result, ran⟩
        refine ⟨result, ran, ?_⟩
        split <;> exact Checked.returns_ok _

end Multicast

/-! ## Received frames -/

namespace Session

/-- Where the data is for the setup handler, its answers have room. -/
def AppFits (env : RxEnv) (multicast : Multicast) (fport : Byte) (data : List Byte) : Prop :=
  (env.features.multicast && multicast.isRemoteSetupPort fport) = true →
    multicast.mcKEKey.isSome = true →
      Multicast.HasRoom multicast.pendingUplinks.length
        (Multicast.answersSize (MacCommands.results data) (Multicast.present multicast.sessions))

/-- Whether the certification handler leaves the data to the application. -/
def reachesApp (env : RxEnv) (fport : Byte) (data : List Byte) : Bool :=
  if env.features.certification && fport == certificationPort then
    Certification.passesOn (MacCommands.results data)
  else true

def DeliveryFits (env : RxEnv) (decrypted : DecryptedDataPayload) (multicast : Multicast) : Prop :=
  ∀ fport data, decrypted.fPort = some fport → decrypted.frmPayload = .data data →
    reachesApp env fport data = true → AppFits env multicast fport data

theorem deliverToApp_returns_iff (env : RxEnv) (fport : Byte) {data : List Byte} (fcnt : UInt32)
    (rx : RxState) (short : data.length ≤ 256) :
    Checked.Returns (deliverToApp env fport data fcnt rx) ↔
      AppFits env rx.multicast fport data := by
  unfold deliverToApp AppFits
  split
  · rename_i setup
    rw [← Multicast.handleSetupMessage_returns_iff env.newCrypto rx.multicast data,
      Checked.returns_bind_iff]
    constructor
    · rintro ⟨result, ran, _⟩ _
      exact ⟨result, ran⟩
    · intro handled
      obtain ⟨result, ran⟩ := handled setup
      exact ⟨result, ran, Checked.returns_ok _⟩
  · rename_i application
    refine iff_of_true ?_ fun setup => absurd setup application
    have room : ([] : List Byte).length + data.length ≤ 256 := by
      rw [List.length_nil]
      omega
    rw [extendFromSlice, if_pos room]
    exact Checked.returns_ok _

theorem afterCertification_returns_iff (env : RxEnv) (response : Certification.Response)
    (fport : Byte) {data : List Byte} (fcnt : UInt32) (rx : RxState)
    (short : data.length ≤ 256) :
    Checked.Returns (afterCertification env response fport data fcnt rx) ↔
      (response.goesOn = true → AppFits env rx.multicast fport data) := by
  cases response with
  | adrBitChange adr =>
      exact (deliverToApp_returns_iff env fport fcnt _ short).trans (imp_iff_right rfl).symm
  | txFramesCtrlReq ftype =>
      exact (deliverToApp_returns_iff env fport fcnt _ short).trans (imp_iff_right rfl).symm
  | dutJoinReq | dutResetReq | linkCheckReq | uplinkPrepared | noUpdate =>
      exact iff_of_true (Checked.returns_ok _) fun absent => by cases absent
  | txPeriodicityChange periodicity =>
      exact iff_of_true (Checked.returns_ok _) fun absent => by cases absent

theorem frmPayload_eq_data {decrypted : DecryptedDataPayload} {data : List Byte}
    (payload : decrypted.frmPayload = .data data) :
    data = decrypted.frm ∧ ∃ port, decrypted.fPort = some port := by
  unfold DecryptedDataPayload.frmPayload at payload
  split at payload
  · cases payload
  · cases payload
  · rename_i port _ found
    cases payload
    exact ⟨rfl, port, found⟩

theorem deliver_returns_iff (env : RxEnv) {decrypted : DecryptedDataPayload} (fcnt : UInt32)
    (rx : RxState) (short : decrypted.bytes.length ≤ 255) :
    Checked.Returns (deliver env decrypted fcnt rx) ↔
      DeliveryFits env decrypted rx.multicast := by
  unfold deliver DeliveryFits
  split
  · rename_i fport data portEq payload
    obtain ⟨dataEq, _⟩ := frmPayload_eq_data payload
    have bound := decrypted.frm_length_le_of_port portEq
    have fits : data.length ≤ 242 := by
      rw [dataEq]
      omega
    have only : (∀ port bytes, decrypted.fPort = some port → decrypted.frmPayload = .data bytes →
        reachesApp env port bytes = true → AppFits env rx.multicast port bytes) ↔
        (reachesApp env fport data = true → AppFits env rx.multicast fport data) := by
      constructor
      · intro all
        exact all fport data portEq payload
      · rintro one port bytes otherPort otherPayload
        rw [portEq] at otherPort
        rw [payload] at otherPayload
        cases otherPort
        cases otherPayload
        exact one
    rw [only]
    unfold reachesApp
    split
    · obtain ⟨response, certification, handled, goes⟩ :=
        Certification.handleMessages_returns fcnt.toUInt16 rx.certification
          (MacCommands.results data) (by
            intro echo listed
            have shorter := DownlinkDUTCommand.echo_length_lt listed
            omega)
      rw [Certification.handleMessage, handled, Checked.ok_bind, ← goes]
      exact afterCertification_returns_iff env response fport fcnt _ (by omega)
    · rw [imp_iff_right rfl]
      exact deliverToApp_returns_iff env fport fcnt rx (by omega)
  · rename_i none
    refine iff_of_true (Checked.returns_ok _) ?_
    intro fport data portEq payload
    exact absurd payload (none fport data portEq)

def CommandsFit (decrypted : DecryptedDataPayload) (ignoreMac : Bool) : Prop :=
  ignoreMac = false → NoControlFour decrypted.fhdr.fOpts ∧
    ∀ cmds, decrypted.frmPayload = .macCommands cmds → NoControlFour cmds

theorem runMacs_returns_iff (snr : Int8) (cmds : List Byte) {rx : RxState}
    (defined : Settings.DataRateDefined ⟨rx.configuration, rx.region⟩) :
    Checked.Returns (runMacs snr cmds rx) ↔ NoControlFour cmds := by
  rw [← handleDownlinkMacs_returns_iff snr cmds rx.session.uplink defined, runMacs,
    Checked.returns_bind_iff]
  constructor
  · rintro ⟨result, ran, _⟩
    exact ⟨result, ran⟩
  · rintro ⟨result, ran⟩
    exact ⟨result, ran, Checked.returns_ok _⟩

theorem settingsRun_dataRate {first next : Settings} (before : first.DataRateDefined)
    (run : SettingsRun first next) : next.DataRateDefined := by
  obtain ⟨events, ran⟩ := run
  exact Transition.run_preserves _ settingsStep_keeps_dataRate events first next before ran

theorem runFrameMacs_returns_iff (decrypted : DecryptedDataPayload) (snr : Int8)
    (ignoreMac : Bool) {rx : RxState}
    (defined : Settings.DataRateDefined ⟨rx.configuration, rx.region⟩) :
    Checked.Returns (runFrameMacs decrypted snr ignoreMac rx) ↔
      CommandsFit decrypted ignoreMac := by
  unfold runFrameMacs CommandsFit
  cases ignoreMac with
  | true => exact iff_of_true (Checked.returns_ok _) fun absent => by cases absent
  | false =>
      simp only [Bool.false_eq_true, if_false, forall_const]
      rw [← runMacs_returns_iff snr decrypted.fhdr.fOpts defined, Checked.returns_bind_iff]
      constructor
      · rintro ⟨middle, first, rest⟩
        refine ⟨⟨middle, first⟩, ?_⟩
        intro cmds payload
        have kept := settingsRun_dataRate defined (runMacs_settings first)
        rw [payload] at rest
        exact (runMacs_returns_iff snr cmds kept).mp rest
      · rintro ⟨⟨middle, first⟩, others⟩
        refine ⟨middle, first, ?_⟩
        have kept := settingsRun_dataRate defined (runMacs_settings first)
        split
        · rename_i cmds payload
          exact (runMacs_returns_iff snr cmds kept).mpr (others cmds payload)
        · exact Checked.returns_ok _

theorem acceptDownlink_returns_iff {env : RxEnv} {data : EncryptedDataPayload} {fcnt : UInt32}
    (snr : Int8) (ignoreMac : Bool) {rx : RxState} {decrypted : DecryptedDataPayload}
    (defined : Settings.DataRateDefined ⟨rx.configuration, rx.region⟩)
    (short : decrypted.bytes.length ≤ 255)
    (deciphered : DecryptedDataPayload.decryptInPlace data.bytes
      (some (env.newCrypto rx.session.nwkskey.inner))
      (some (env.newCrypto rx.session.appskey.inner)) fcnt = .ok (.ok decrypted)) :
    Checked.Returns (acceptDownlink env data fcnt snr ignoreMac rx) ↔
      CommandsFit decrypted ignoreMac ∧
        (rx.session.fcntUp ≠ lastFcntUp → DeliveryFits env decrypted rx.multicast) := by
  have commands : Checked.Returns (runFrameMacs decrypted snr ignoreMac (noteDownlink fcnt rx)) ↔
      CommandsFit decrypted ignoreMac := runFrameMacs_returns_iff decrypted snr ignoreMac defined
  rw [acceptDownlink, deciphered, Checked.ok_bind, Checked.unwrapResult_ok, Checked.ok_bind,
    ← commands, Checked.returns_bind_iff]
  have close : ∀ middle, runFrameMacs decrypted snr ignoreMac (noteDownlink fcnt rx) = .ok middle →
      (Checked.Returns (closeDownlink env decrypted fcnt (noteConfirmed data.isConfirmed middle)) ↔
        (rx.session.fcntUp ≠ lastFcntUp → DeliveryFits env decrypted rx.multicast)) := by
    intro middle ran
    have kept := runFrameMacs_ok ran
    have fcntUp : (noteConfirmed data.isConfirmed middle).session.fcntUp = rx.session.fcntUp := by
      rw [noteConfirmed_session, kept]
      rfl
    have multicast : (noteConfirmed data.isConfirmed middle).multicast = rx.multicast := by
      rw [kept]
      unfold noteConfirmed
      split <;> rfl
    unfold closeDownlink
    rw [fcntUp]
    split
    · rename_i expired
      exact iff_of_true (Checked.returns_ok _) fun going => absurd expired going
    · rename_i going
      rw [imp_iff_right going, deliver_returns_iff env fcnt _ short, multicast]
  constructor
  · rintro ⟨middle, ran, closed⟩
    exact ⟨⟨middle, ran⟩, (close middle ran).mp closed⟩
  · rintro ⟨⟨middle, ran⟩, fits⟩
    exact ⟨middle, ran, (close middle ran).mpr fits⟩

theorem countAppDownlink_returns_iff (env : RxEnv) (data : DataView) (rx : RxState) :
    Checked.Returns (countAppDownlink env data rx) ↔
      ((env.features.certification && portIs data fun port => decide (port > 0)) = true →
        rx.session.rxAppCnt.toNat ≠ 65535) := by
  have small := rx.session.rxAppCnt.toNat_lt
  unfold countAppDownlink
  split
  · rename_i counts
    have room : Checked.Returns (Checked.addU16 rx.session.rxAppCnt 1) ↔
        rx.session.rxAppCnt.toNat ≠ 65535 := by
      rw [Checked.addU16_returns_iff]
      change rx.session.rxAppCnt.toNat + 1 < 2 ^ 16 ↔ _
      omega
    rw [imp_iff_right counts, ← room, Checked.returns_bind_iff]
    constructor
    · rintro ⟨count, ran, _⟩
      exact ⟨count, ran⟩
    · rintro ⟨count, ran⟩
      exact ⟨count, ran, Checked.returns_ok _⟩
  · rename_i silent
    exact iff_of_true (Checked.returns_ok _) fun counts => absurd counts silent

theorem rx2Complete_returns (session : Session) (configuration : Configuration)
    (region : Region.Configuration) :
    Checked.Returns (session.rx2Complete configuration region) := by
  have backs : ∀ session : Session, Checked.Returns (session.backOff configuration region) := by
    intro session
    have small : configuration.dataRate.val ≤ 15 := by
      have bound := configuration.dataRate.isLt
      omega
    obtain ⟨found, lower⟩ := lowerDatarate_returns region small
    unfold backOff
    split
    · simp only
      split
      · rw [nextLowerDatarate, lower, Checked.ok_bind]
        split <;> exact Checked.returns_ok _
      · exact Checked.returns_ok _
    · exact Checked.returns_ok _
  unfold rx2Complete
  split
  · exact Checked.returns_ok _
  · simp only
    split
    · obtain ⟨lowered, backed⟩ := backs { session with
        fcntUp := session.fcntUp + 1, adrAckCnt := countUplink session.adrAckCnt }
      rw [backed]
      exact Checked.returns_ok _
    · exact Checked.returns_ok _

/-- The multicast handler returns on every frame of at most 255 bytes. -/
theorem multicastHandleRx_returns (newCrypto : NewCrypto) (capacity : Nat)
    (multicast : Multicast) (dl : List Downlink) {bytes : List Byte} (short : bytes.length ≤ 255) :
    Checked.Returns (multicast.handleRx newCrypto capacity dl bytes) := by
  unfold Multicast.handleRx
  cases parsed : EncryptedDataPayload.parse bytes with
  | error e => exact Checked.returns_ok _
  | ok data =>
      have same := (EncryptedDataPayload.parse_eq_ok_iff bytes data).mp parsed
      subst same
      simp only
      split
      · rename_i id session found
        split
        · obtain ⟨decrypted, deciphered, length⟩ :=
            DecryptedDataPayload.decryptInPlace_returns data
              (newCrypto session.mcNetSKey.inner) (newCrypto session.mcAppSKey.inner)
              data.fhdr.fcnt.toUInt32 short
          simp only [Multicast.acceptDownlink, deciphered, Checked.ok_bind,
            Checked.unwrapResult_ok]
          split
          · exact Checked.returns_ok _
          · have delivered : Checked.Returns (Multicast.deliver capacity decrypted dl) := by
              unfold Multicast.deliver
              split
              · rename_i fport bytes portEq payload
                obtain ⟨bytesEq, _⟩ := frmPayload_eq_data payload
                have bound := decrypted.frm_length_le
                have room : ([] : List Byte).length + bytes.length ≤ 256 := by
                  rw [List.length_nil, bytesEq]
                  omega
                rw [extendFromSlice, if_pos room]
                exact Checked.returns_ok _
              · exact Checked.returns_ok _
            obtain ⟨dl, delivered⟩ := delivered
            rw [delivered]
            exact Checked.returns_ok _
        · exact Checked.returns_ok _
      · exact Checked.returns_ok _

theorem handleMulticast_returns (env : RxEnv) (data : EncryptedDataPayload) (rx : RxState)
    (short : data.bytes.length ≤ 255) : Checked.Returns (handleMulticast env data rx) := by
  obtain ⟨result, handled⟩ :=
    multicastHandleRx_returns env.newCrypto env.capacity rx.multicast rx.dl short
  rw [handleMulticast, handled]
  exact Checked.returns_ok _

/-- When `handle_rx` returns on a frame: the certification counter is not at its end, and
an accepted frame has no command that stops and no setup messages without room for their
answers. -/
structure ReceivesSafely (env : RxEnv) (bytes : List Byte) (maxPayloadLen : Nat)
    (ignoreMac : Bool) (rx : RxState) : Prop where
  counter : ∀ data, EncryptedDataPayload.parse bytes = .ok data →
    isOversized maxPayloadLen bytes = false →
    (env.features.certification && portIs data.toDataView fun port => decide (port > 0)) = true →
    rx.session.rxAppCnt.toNat ≠ 65535
  accepted : ∀ fcnt decrypted, acceptedCounter env bytes maxPayloadLen rx = some fcnt →
    DecryptedDataPayload.decryptInPlace bytes (some (env.newCrypto rx.session.nwkskey.inner))
      (some (env.newCrypto rx.session.appskey.inner)) fcnt = .ok (.ok decrypted) →
    CommandsFit decrypted ignoreMac ∧
      (rx.session.fcntUp ≠ lastFcntUp → DeliveryFits env decrypted rx.multicast)

theorem acceptedCounter_none_of_unparsed {env : RxEnv} {bytes : List Byte} {maxPayloadLen : Nat}
    {rx : RxState} {e : Encoding.Error} (unparsed : EncryptedDataPayload.parse bytes = .error e) :
    acceptedCounter env bytes maxPayloadLen rx = none := by
  simp only [acceptedCounter, unparsed]

theorem acceptedCounter_none_of_oversized {env : RxEnv} {bytes : List Byte} {maxPayloadLen : Nat}
    {rx : RxState} (large : isOversized maxPayloadLen bytes = true) :
    acceptedCounter env bytes maxPayloadLen rx = none := by
  unfold acceptedCounter
  split
  · rfl
  · rw [large, Bool.true_or, if_pos rfl]

theorem acceptedCounter_none_of_group {env : RxEnv} {data : EncryptedDataPayload}
    {maxPayloadLen : Nat} {rx : RxState}
    (group : isMulticastFrame env data.toDataView rx = true) :
    acceptedCounter env data.bytes maxPayloadLen rx = none := by
  simp only [acceptedCounter, EncryptedDataPayload.parse_bytes, group, Bool.or_true, if_true]

/-- After the counter, a unicast frame stops only where it is accepted. -/
theorem handleUnicast_returns_iff {env : RxEnv} {data : EncryptedDataPayload}
    {maxPayloadLen : Nat} (snr : Int8) {ignoreMac : Bool} {rx counted : RxState}
    (defined : Settings.DataRateDefined ⟨rx.configuration, rx.region⟩)
    (short : data.bytes.length ≤ 255) (same : SameButQueue rx counted)
    (fits : isOversized maxPayloadLen data.bytes = false)
    (unicast : isMulticastFrame env data.toDataView rx = false) :
    Checked.Returns (handleUnicast env data snr ignoreMac counted) ↔
      ∀ fcnt decrypted, acceptedCounter env data.bytes maxPayloadLen rx = some fcnt →
        DecryptedDataPayload.decryptInPlace data.bytes
          (some (env.newCrypto rx.session.nwkskey.inner))
          (some (env.newCrypto rx.session.appskey.inner)) fcnt = .ok (.ok decrypted) →
        CommandsFit decrypted ignoreMac ∧
          (rx.session.fcntUp ≠ lastFcntUp → DeliveryFits env decrypted rx.multicast) := by
  have appskey : counted.session.appskey = rx.session.appskey := by rw [same.session]
  have keys : ∀ fcnt, micValid env counted.session data fcnt =
      micValid env rx.session data fcnt := by
    intro fcnt
    simp only [micValid, same.nwkskey]
  rw [acceptedCounter_of_parse rfl fits unicast]
  unfold handleUnicast
  rw [same.fcntDown]
  cases nextFcntDown rx.session.fcntDown data.fhdr.fcnt with
  | none => exact iff_of_true (Checked.returns_ok _) fun _ _ absent => by cases absent
  | some fcnt =>
      rw [Option.bind_some]
      simp only [keys]
      cases micValid env rx.session data fcnt with
      | false =>
          simp only [Bool.false_eq_true, if_false]
          exact iff_of_true (Checked.returns_ok _) fun _ _ absent => by cases absent
      | true =>
          simp only [if_true]
          have kept : Settings.DataRateDefined ⟨counted.configuration, counted.region⟩ := by
            rw [same.configuration, same.region]
            exact defined
          obtain ⟨decrypted, deciphered, length⟩ := DecryptedDataPayload.decryptInPlace_returns data
            (env.newCrypto rx.session.nwkskey.inner) (env.newCrypto rx.session.appskey.inner)
            fcnt short
          have accepts := acceptDownlink_returns_iff snr ignoreMac kept
            (by rw [length]; exact short) (by rw [same.nwkskey, appskey]; exact deciphered)
          rw [accepts, same.fcntUp, same.multicast]
          constructor
          · rintro safe counter other found opened
            cases found
            rw [deciphered] at opened
            cases opened
            exact safe
          · intro safe
            exact safe fcnt decrypted rfl deciphered

/-- A frame of at most 255 bytes stops exactly where it is not received safely. -/
theorem handleRx_returns_iff {env : RxEnv} {bytes : List Byte} {maxPayloadLen : Nat} (snr : Int8)
    {ignoreMac : Bool} {rx : RxState}
    (defined : Settings.DataRateDefined ⟨rx.configuration, rx.region⟩)
    (short : bytes.length ≤ 255) :
    Checked.Returns (handleRx env bytes maxPayloadLen snr ignoreMac rx) ↔
      ReceivesSafely env bytes maxPayloadLen ignoreMac rx := by
  cases parsed : EncryptedDataPayload.parse bytes with
  | error e =>
      refine iff_of_true ?_ ⟨?_, ?_⟩
      · rw [handleRx, parsed]
        exact Checked.returns_ok _
      · intro data found
        rw [parsed] at found
        cases found
      · intro fcnt decrypted found
        rw [acceptedCounter_none_of_unparsed parsed] at found
        cases found
  | ok data =>
      have same := (EncryptedDataPayload.parse_eq_ok_iff bytes data).mp parsed
      subst same
      cases large : isOversized maxPayloadLen data.bytes with
      | true =>
          refine iff_of_true ?_ ⟨?_, ?_⟩
          · obtain ⟨⟨response, session, configuration⟩, completed⟩ :=
              rx2Complete_returns rx.session rx.configuration rx.region
            rw [handleRx, parsed]
            simp only [large, if_true, dropOversized, completed, Checked.ok_bind]
            exact Checked.returns_ok _
          · intro other _ fits
            rw [large] at fits
            cases fits
          · intro fcnt decrypted found
            rw [acceptedCounter_none_of_oversized large] at found
            cases found
      | false =>
          have cleared := clearAnswers_same ignoreMac rx
          have count := countAppDownlink_returns_iff env data.toDataView (clearAnswers ignoreMac rx)
          have kept : (clearAnswers ignoreMac rx).session.rxAppCnt = rx.session.rxAppCnt := by
            unfold clearAnswers
            split <;> rfl
          rw [kept] at count
          have safely : ReceivesSafely env data.bytes maxPayloadLen ignoreMac rx ↔
              Checked.Returns (countAppDownlink env data.toDataView (clearAnswers ignoreMac rx)) ∧
                ∀ fcnt decrypted, acceptedCounter env data.bytes maxPayloadLen rx = some fcnt →
                  DecryptedDataPayload.decryptInPlace data.bytes
                    (some (env.newCrypto rx.session.nwkskey.inner))
                    (some (env.newCrypto rx.session.appskey.inner)) fcnt = .ok (.ok decrypted) →
                  CommandsFit decrypted ignoreMac ∧
                    (rx.session.fcntUp ≠ lastFcntUp →
                      DeliveryFits env decrypted rx.multicast) := by
            rw [count]
            constructor
            · intro safe
              exact ⟨safe.counter data parsed large, safe.accepted⟩
            · rintro ⟨counter, accepted⟩
              refine ⟨?_, accepted⟩
              intro other found _
              rw [parsed] at found
              cases found
              exact counter
          rw [safely, handleRx, parsed]
          simp only [large, Bool.false_eq_true, if_false]
          rw [handleData, Checked.returns_bind_iff]
          have routed : ∀ counted,
              countAppDownlink env data.toDataView (clearAnswers ignoreMac rx) = .ok counted →
              isMulticastFrame env data.toDataView counted =
                isMulticastFrame env data.toDataView rx := by
            intro counted counting
            simp only [isMulticastFrame, (counted_same counting).multicast]
          cases group : isMulticastFrame env data.toDataView rx with
          | true =>
              constructor
              · rintro ⟨counted, counting, _⟩
                refine ⟨⟨counted, counting⟩, ?_⟩
                intro fcnt decrypted found
                rw [acceptedCounter_none_of_group group] at found
                cases found
              · rintro ⟨⟨counted, counting⟩, _⟩
                refine ⟨counted, counting, ?_⟩
                rw [routed counted counting, group, if_pos rfl]
                exact handleMulticast_returns env data counted short
          | false =>
              constructor
              · rintro ⟨counted, counting, ran⟩
                rw [routed counted counting, group, if_neg Bool.false_ne_true] at ran
                exact ⟨⟨counted, counting⟩, (handleUnicast_returns_iff snr defined short
                  (counted_same counting) large group).mp ran⟩
              · rintro ⟨⟨counted, counting⟩, accepted⟩
                refine ⟨counted, counting, ?_⟩
                rw [routed counted counting, group, if_neg Bool.false_ne_true]
                exact (handleUnicast_returns_iff snr defined short
                  (counted_same counting) large group).mpr accepted

end Session

/-- A frame of at most 255 bytes that a reachable MAC receives in a session, in any window,
stops the device exactly where it is not received safely, and a command stream exactly
where it has a control 4. -/
theorem received_frames_return_iff (env : MacEnv) (mac : Mac) (session : Session)
    (reached : Transition.Reachable (macStep env) Mac.Initial mac) :
    (∀ bytes maxPayloadLen snr ignoreMac dl, bytes.length ≤ 255 →
      (Checked.Returns (Session.handleRx env.toRxEnv bytes maxPayloadLen snr ignoreMac
          (mac.lend session dl)) ↔
        Session.ReceivesSafely env.toRxEnv bytes maxPayloadLen ignoreMac (mac.lend session dl))) ∧
    ∀ snr cmds,
      (Checked.Returns (handleDownlinkMacs snr cmds mac.configuration mac.region session.uplink) ↔
        NoControlFour cmds) := by
  have defined : mac.settings.DataRateDefined := reachable_mac_dataRate mac reached
  refine ⟨?_, ?_⟩
  · intro bytes maxPayloadLen snr ignoreMac dl short
    exact Session.handleRx_returns_iff snr defined short
  · intro snr cmds
    exact handleDownlinkMacs_returns_iff snr cmds session.uplink defined

namespace Sample

def macEnv : MacEnv := { toRxEnv := env, bufferSize := 256, fuel := 64 }

/-- A new device in EU868, and the same device after ABP activation. -/
def newMac : Mac := Mac.new (Region.Configuration.new (.dynamic .eu868)) 14 0

def joinedMac : Mac := newMac.setSession session

theorem joinedMac_reachable (env : MacEnv) :
    Transition.Reachable (macStep env) Mac.Initial joinedMac := by
  have started : newMac.Initial := ⟨_, 14, 0, .plain (.dynamic .eu868), rfl⟩
  have created : Transition.Reachable (macStep env) Mac.Initial newMac :=
    Transition.reachable_initial _ started
  have activated : macStep env (.setSession session) newMac = .ok joinedMac := rfl
  exact Transition.reachable_step created activated

end Sample

/-- A LinkADRReq of the network with control 4 stops a joined device. -/
theorem control_four_stops :
    ¬ ∀ (env : MacEnv) (mac : Mac) (session : Session),
      Transition.Reachable (macStep env) Mac.Initial mac → mac.state = .joined session →
      ∀ bytes maxPayloadLen snr ignoreMac dl, bytes.length ≤ 255 →
        Checked.Returns (Session.handleRx env.toRxEnv bytes maxPayloadLen snr ignoreMac
          (mac.lend session dl)) := by
  intro returns
  obtain ⟨result, ran⟩ := returns Sample.macEnv Sample.joinedMac Sample.session
    (Sample.joinedMac_reachable _) rfl (Sample.commands 1 [0x03, 0x50, 0x00, 0x00, 0x40]) 250 0
    false [] (by decide +kernel)
  have stopped : Session.handleRx Sample.macEnv.toRxEnv
      (Sample.commands 1 [0x03, 0x50, 0x00, 0x00, 0x40]) 250 0 false
      (Sample.joinedMac.lend Sample.session []) = .error .outOfBounds := by
    decide +kernel
  rw [stopped] at ran
  cases ran

/-- A device status request is received safely. -/
theorem received_frames_return_iff_sample :
    Checked.Returns (Session.handleRx Sample.env (Sample.commands 1 [0x06]) 250 0 false
      (Sample.joinedMac.lend Sample.session [])) ∧
    Session.ReceivesSafely Sample.env (Sample.commands 1 [0x06]) 250 false
      (Sample.joinedMac.lend Sample.session []) := by
  have exact := (received_frames_return_iff Sample.macEnv Sample.joinedMac Sample.session
    (Sample.joinedMac_reachable _)).1 (Sample.commands 1 [0x06]) 250 0 false []
    (by decide +kernel)
  have ran : (Prod.fst <$> Session.handleRx Sample.env (Sample.commands 1 [0x06]) 250 0 false
      (Sample.joinedMac.lend Sample.session [])) = .ok (.downlinkReceived 1) := by
    decide +kernel
  obtain ⟨result, ran, _⟩ := Checked.map_eq_ok_iff.mp ran
  exact ⟨⟨result, ran⟩, exact.mp ⟨result, ran⟩⟩

end LoraRs.Mac
