import LoraRs.Mac.Received
import LoraRs.Region.Masks
import LoraRs.Lib.Transition

/-!
# LinkADRReq blocks

A command stream as items, each a maximal block of LinkADRReq commands or one other
command; the loop over the commands handles it item by item.  The working mask is
the one thing a block takes over from the items before it.
-/

set_option autoImplicit false

namespace LoraRs.Mac

open LoraRs.Encoding LoraRs.Lib

/-- A block of LinkADRReq commands, or one other command. -/
inductive Item where
  | block (earlier : List LinkADRReqPayload) (last : LinkADRReqPayload)
  | other (cmd : DownlinkMacCommand) (unlinked : cmd.isLinkADRReq = false)
  deriving DecidableEq

namespace Item

def isBlock : Item → Bool
  | block _ _ => true
  | other _ _ => false

def commands : Item → List DownlinkMacCommand
  | block earlier last => (earlier ++ [last]).map .linkADRReq
  | other cmd _ => [cmd]

end Item

/-- A LinkADRReq in front of a stream that is already split. -/
def pushLinkADRReq (payload : LinkADRReqPayload) : List Item → List Item
  | .block earlier last :: rest => .block (payload :: earlier) last :: rest
  | rest => .block [] payload :: rest

def pushItem (cmd : DownlinkMacCommand) (rest : List Item) : List Item :=
  match cmd with
  | .linkADRReq payload => pushLinkADRReq payload rest
  | .linkCheckAns payload => .other (.linkCheckAns payload) rfl :: rest
  | .dutyCycleReq payload => .other (.dutyCycleReq payload) rfl :: rest
  | .rxParamSetupReq payload => .other (.rxParamSetupReq payload) rfl :: rest
  | .devStatusReq => .other .devStatusReq rfl :: rest
  | .newChannelReq payload => .other (.newChannelReq payload) rfl :: rest
  | .rxTimingSetupReq payload => .other (.rxTimingSetupReq payload) rfl :: rest
  | .txParamSetupReq payload => .other (.txParamSetupReq payload) rfl :: rest
  | .dlChannelReq payload => .other (.dlChannelReq payload) rfl :: rest
  | .deviceTimeAns payload => .other (.deviceTimeAns payload) rfl :: rest

def items : List DownlinkMacCommand → List Item
  | [] => []
  | cmd :: rest => pushItem cmd (items rest)

/-! ## The items partition the stream into maximal blocks -/

theorem pushItem_of_other {cmd : DownlinkMacCommand} (unlinked : cmd.isLinkADRReq = false)
    (rest : List Item) : pushItem cmd rest = .other cmd unlinked :: rest := by
  cases cmd with
  | linkADRReq payload => cases unlinked
  | linkCheckAns | dutyCycleReq | rxParamSetupReq | devStatusReq | newChannelReq
    | rxTimingSetupReq | txParamSetupReq | dlChannelReq | deviceTimeAns => rfl

theorem eq_linkADRReq {cmd : DownlinkMacCommand} (linked : cmd.isLinkADRReq = true) :
    ∃ payload, cmd = .linkADRReq payload := by
  cases cmd with
  | linkADRReq payload => exact ⟨payload, rfl⟩
  | linkCheckAns | dutyCycleReq | rxParamSetupReq | devStatusReq | newChannelReq
    | rxTimingSetupReq | txParamSetupReq | dlChannelReq | deviceTimeAns => cases linked

def beginsWithBlock : List Item → Bool
  | [] => false
  | item :: _ => item.isBlock

/-- A LinkADRReq joins the block in front of which it comes, or is a new one. -/
theorem pushLinkADRReq_cases (payload : LinkADRReqPayload) (rest : List Item) :
    (∃ earlier last tail, rest = .block earlier last :: tail ∧
      pushLinkADRReq payload rest = .block (payload :: earlier) last :: tail) ∨
    (beginsWithBlock rest = false ∧ pushLinkADRReq payload rest = .block [] payload :: rest) := by
  cases rest with
  | nil => exact .inr ⟨rfl, rfl⟩
  | cons head tail =>
      cases head with
      | block earlier last => exact .inl ⟨earlier, last, tail, rfl, rfl⟩
      | other cmd unlinked => exact .inr ⟨rfl, rfl⟩

theorem pushLinkADRReq_begins (payload : LinkADRReqPayload) (rest : List Item) :
    beginsWithBlock (pushLinkADRReq payload rest) = true := by
  unfold pushLinkADRReq
  split <;> rfl

theorem peeksLinkADRReq_eq (cmds : List DownlinkMacCommand) :
    peeksLinkADRReq cmds = beginsWithBlock (items cmds) := by
  cases cmds with
  | nil => rfl
  | cons cmd rest =>
      simp only [peeksLinkADRReq, List.head?_cons, items]
      cases linked : cmd.isLinkADRReq with
      | false => rw [pushItem_of_other linked]; rfl
      | true =>
          obtain ⟨payload, rfl⟩ := eq_linkADRReq linked
          exact (pushLinkADRReq_begins payload (items rest)).symm

theorem items_commands (cmds : List DownlinkMacCommand) :
    (items cmds).flatMap Item.commands = cmds := by
  induction cmds with
  | nil => rfl
  | cons cmd rest ih =>
      rw [items]
      cases linked : cmd.isLinkADRReq with
      | false =>
          rw [pushItem_of_other linked, List.flatMap_cons, ih]
          rfl
      | true =>
          obtain ⟨payload, rfl⟩ := eq_linkADRReq linked
          obtain ⟨earlier, last, tail, splitEq, pushed⟩ | ⟨_, pushed⟩ :=
            pushLinkADRReq_cases payload (items rest)
          · rw [splitEq, List.flatMap_cons] at ih
            rw [pushItem, pushed, List.flatMap_cons, ← ih]
            rfl
          · rw [pushItem, pushed, List.flatMap_cons, ih]
            rfl

theorem items_maximal (cmds : List DownlinkMacCommand) :
    (items cmds).IsChain fun first second =>
      ¬ (first.isBlock = true ∧ second.isBlock = true) := by
  induction cmds with
  | nil => exact List.isChain_nil
  | cons cmd rest ih =>
      rw [items]
      cases linked : cmd.isLinkADRReq with
      | false =>
          rw [pushItem_of_other linked]
          cases splitEq : items rest with
          | nil => exact List.isChain_singleton _
          | cons head tail =>
              rw [splitEq] at ih
              refine List.isChain_cons_cons.mpr ⟨?_, ih⟩
              rintro ⟨first, _⟩
              cases first
      | true =>
          obtain ⟨payload, rfl⟩ := eq_linkADRReq linked
          obtain ⟨earlier, last, tail, splitEq, pushed⟩ | ⟨apart, pushed⟩ :=
            pushLinkADRReq_cases payload (items rest)
          · rw [splitEq] at ih
            rw [pushItem, pushed]
            cases tail with
            | nil => exact List.isChain_singleton _
            | cons second more => exact List.isChain_cons_cons.mpr (List.isChain_cons_cons.mp ih)
          · rw [pushItem, pushed]
            cases splitEq : items rest with
            | nil => exact List.isChain_singleton _
            | cons head tail =>
                rw [splitEq] at ih apart
                refine List.isChain_cons_cons.mpr ⟨?_, ih⟩
                rintro ⟨_, second⟩
                exact Bool.false_ne_true (apart.symm.trans second)

/-! ## The loop, item by item -/

def stepMasks (region : Region.Configuration) (payloads : List LinkADRReqPayload)
    (mask : ChannelMask 9) : Checked (ChannelMask 9) :=
  payloads.foldlM (fun mask payload => stepMask region payload mask) mask

/-- A block as a whole: all its mask steps, then its end. -/
def handleBlock (earlier : List LinkADRReqPayload) (last : LinkADRReqPayload) (st : CmdState) :
    Checked CmdResult := do
  let mask ← stepMasks st.region (earlier ++ [last]) st.channelMask
  finishLinkADRBlock last
    { st with numAdrreq := st.numAdrreq + earlier.length + 1, channelMask := mask }

def handleItem (snr : Int8) : Item → CmdState → Checked CmdResult
  | .block earlier last, st => handleBlock earlier last st
  | .other cmd _, st => handleCommand snr cmd false st

def itemStep (snr : Int8) (item : Item) (st : CmdState) : Checked CmdState := do
  let (next, _) ← handleItem snr item st
  return next

def runItems (snr : Int8) : List Item → CmdState → Uplink → Checked (CmdState × Uplink)
  | [], st, uplink => .ok (st, uplink)
  | item :: rest, st, uplink => do
      let (st, answers) ← handleItem snr item st
      runItems snr rest st (uplink.addMacCommands answers)

theorem handleCommand_peek (snr : Int8) {cmd : DownlinkMacCommand}
    (unlinked : cmd.isLinkADRReq = false) (continues : Bool) (st : CmdState) :
    handleCommand snr cmd continues st = handleCommand snr cmd false st := by
  cases cmd with
  | linkADRReq payload => cases unlinked
  | linkCheckAns | dutyCycleReq | rxParamSetupReq | devStatusReq | newChannelReq
    | rxTimingSetupReq | txParamSetupReq | dlChannelReq | deviceTimeAns => rfl

/-- A LinkADRReq in front of a block only steps the working mask. -/
theorem handleBlock_cons (payload : LinkADRReqPayload) (earlier : List LinkADRReqPayload)
    (last : LinkADRReqPayload) (st : CmdState) :
    handleBlock (payload :: earlier) last st =
      (stepMask st.region payload st.channelMask >>= fun mask =>
        handleBlock earlier last
          { st with numAdrreq := st.numAdrreq + 1, channelMask := mask }) := by
  simp only [handleBlock, stepMasks, List.cons_append, List.foldlM_cons, List.length_cons,
    bind_assoc]
  have counts : st.numAdrreq + (earlier.length + 1) + 1 = st.numAdrreq + 1 + earlier.length + 1 := by
    omega
  rw [counts]

theorem handleCommands_eq_runItems (snr : Int8) (cmds : List DownlinkMacCommand) (st : CmdState)
    (uplink : Uplink) :
    handleCommands snr cmds st uplink = runItems snr (items cmds) st uplink := by
  induction cmds generalizing st uplink with
  | nil => rfl
  | cons cmd rest ih =>
      rw [handleCommands, items, peeksLinkADRReq_eq]
      cases linked : cmd.isLinkADRReq with
      | false =>
          rw [pushItem_of_other linked, handleCommand_peek snr linked, runItems, handleItem]
          simp only [ih]
      | true =>
          obtain ⟨payload, rfl⟩ := eq_linkADRReq linked
          obtain ⟨earlier, last, tail, splitEq, pushed⟩ | ⟨apart, pushed⟩ :=
            pushLinkADRReq_cases payload (items rest)
          · rw [pushItem, pushed, runItems, handleItem, handleBlock_cons, splitEq]
            simp only [handleCommand, handleLinkADRReq, beginsWithBlock, Item.isBlock, if_true,
              bind_assoc, ih, splitEq, pure_bind, Uplink.addMacCommands, List.foldl_nil, runItems,
              handleItem]
          · rw [pushItem, pushed, runItems, handleItem, handleBlock, apart]
            simp only [handleCommand, handleLinkADRReq, stepMasks, List.nil_append,
              List.foldlM_cons, List.foldlM_nil, bind_assoc, Bool.false_eq_true, if_false, ih,
              bind_pure, List.length_nil, Nat.add_zero]

theorem handleDownlinkMacs_eq_runItems (snr : Int8) (cmds : List Byte)
    (configuration : Configuration) (region : Region.Configuration) (uplink : Uplink) :
    handleDownlinkMacs snr cmds configuration region uplink = (do
      let (st, uplink) ← runItems snr (items (parseDownlinkMacCommands cmds))
        (CmdState.start configuration region) uplink
      return (st.configuration, st.region, uplink)) := by
  rw [handleDownlinkMacs, handleCommands_eq_runItems]

/-! ## Mask steps -/

theorem stepMask_returns_iff (region : Region.Configuration) (payload : LinkADRReqPayload)
    (mask : ChannelMask 9) :
    Checked.Returns (stepMask region payload mask) ↔
      payload.redundancy.channelMaskControl ≠ 4 := by
  rw [← region.channelMaskUpdate_returns_iff mask payload.redundancy.channelMaskControl
    payload.channelMask, stepMask, Checked.returns_bind_iff]
  constructor
  · rintro ⟨updated, ran, _⟩
    exact ⟨updated, ran⟩
  · rintro ⟨updated, ran⟩
    exact ⟨updated, ran, Checked.returns_ok _⟩

/-- Whether the steps of a block can be done does not depend on the mask. -/
theorem stepMasks_returns_iff (region : Region.Configuration) (payloads : List LinkADRReqPayload)
    (mask : ChannelMask 9) :
    Checked.Returns (stepMasks region payloads mask) ↔
      ∀ payload ∈ payloads, payload.redundancy.channelMaskControl ≠ 4 :=
  Checked.foldlM_returns_iff (fun mask payload => stepMask_returns_iff region payload mask) _ _

theorem stepMasks_stops (region : Region.Configuration) (payloads : List LinkADRReqPayload)
    (mask : ChannelMask 9) :
    Checked.StopsOnlyWith .outOfBounds (stepMasks region payloads mask) :=
  Checked.foldlM_stops (fun mask _ =>
    (region.channelMaskUpdate_stops mask _ _).bind fun updated => .ok (updated.getD mask)) _ _

/-- The two masks have the same banks where the steps of the block keep them. -/
def AgreeWhereKept (region : Region.Configuration) (payloads : List LinkADRReqPayload)
    (first second : ChannelMask 9) : Prop :=
  ∀ bank : Fin 9,
    (∀ payload ∈ payloads,
      region.overwrites payload.redundancy.channelMaskControl bank.val = false) →
    first.bytes.get bank = second.bytes.get bank

theorem channelMask_eq_iff {first second : ChannelMask 9} :
    first = second ↔ ∀ bank : Fin 9, first.bytes.get bank = second.bytes.get bank := by
  constructor
  · rintro rfl _
    rfl
  · intro banks
    obtain ⟨firstBytes⟩ := first
    obtain ⟨secondBytes⟩ := second
    congr 1
    ext bank inside
    exact congrArg (·.toNat) (banks ⟨bank, inside⟩)

/-- The steps of a block end at one mask exactly when the two masks they start from agree in
the banks that no step overwrites. -/
theorem stepMasks_eq_iff {region : Region.Configuration} {payloads : List LinkADRReqPayload}
    {first second firstNext secondNext : ChannelMask 9}
    (firstRan : stepMasks region payloads first = .ok firstNext)
    (secondRan : stepMasks region payloads second = .ok secondNext) :
    firstNext = secondNext ↔ AgreeWhereKept region payloads first second := by
  have writes := Region.Writes.each (fun payload : LinkADRReqPayload =>
    region.channelMaskUpdate_writes payload.redundancy.channelMaskControl payload.channelMask)
    payloads
  rw [channelMask_eq_iff]
  refine forall_congr' fun bank => ?_
  rw [writes first second firstNext secondNext firstRan secondRan bank, or_iff_not_imp_left,
    Bool.not_eq_true, List.any_eq_false]
  simp only [Bool.not_eq_true]

/-! ## Blocks computed alone -/

/-- What an item leaves to the rest of the MAC; the working mask is not part of it. -/
abbrev Effect := Configuration × Region.Configuration × List SerializableMacCommand

def effect (result : Checked CmdResult) : Checked Effect :=
  (fun done => (done.1.configuration, done.1.region, done.2)) <$> result

namespace CmdState

/-- The state as the loop would start from it: the working mask is the one in force. -/
def alone (st : CmdState) : CmdState := { st with channelMask := st.region.channelMaskGet }

end CmdState

/-- The item does what it would do as the first of a stream. -/
def Isolated (snr : Int8) (item : Item) (st : CmdState) : Prop :=
  effect (handleItem snr item st) = effect (handleItem snr item st.alone)

/-- The working mask that a block takes over makes no difference: after the block's own
steps it is judged like the mask in force after the same steps and, where the block is
accepted, it differs from the mask in force only in banks that the steps overwrite. -/
def Undisturbed (item : Item) (st : CmdState) : Prop :=
  match item with
  | .block earlier last =>
      ∀ taken inForce dr,
        stepMasks st.region (earlier ++ [last]) st.channelMask = .ok taken →
        stepMasks st.region (earlier ++ [last]) st.region.channelMaskGet = .ok inForce →
        linkADRDataRate st last.dataRate = .ok dr →
        st.region.channelMaskValidate taken dr = st.region.channelMaskValidate inForce dr ∧
          (st.region.channelMaskValidate taken dr = .ok true → dr.isSome = true →
            (linkADRTxPower st last.txPower).isSome = true →
            AgreeWhereKept st.region (earlier ++ [last]) st.channelMask st.region.channelMaskGet)
  | .other _ _ => True

def blockEffect (st : CmdState) (payload : LinkADRReqPayload) (count : Nat) (dr : Option DR)
    (mask : ChannelMask 9) (cmAck : Bool) : Effect :=
  let pw := linkADRTxPower st payload.txPower
  let cmd := ((LinkADRAnsCreator.new.setChannelMaskAck cmAck).setDataRateAck
    dr.isSome).setTxPowerAck pw.isSome
  let answers := List.replicate count cmd.build
  match cmAck, dr, pw with
  | true, some dr, some pw =>
      ({ st.configuration with dataRate := dr, txPower := pw }, st.region.channelMaskSet mask,
        answers)
  | _, _, _ => (st.configuration, st.region, answers)

theorem effect_handleBlock (earlier : List LinkADRReqPayload) (last : LinkADRReqPayload)
    (st : CmdState) :
    effect (handleBlock earlier last st) = (do
      let mask ← stepMasks st.region (earlier ++ [last]) st.channelMask
      let dr ← linkADRDataRate st last.dataRate
      let cmAck ← st.region.channelMaskValidate mask dr
      return blockEffect st last (st.numAdrreq + earlier.length + 1) dr mask cmAck) := by
  simp only [effect, handleBlock, finishLinkADRBlock, map_bind]
  congr 1
  funext mask
  congr 1
  funext dr
  congr 1
  funext cmAck
  have power : linkADRTxPower { st with
      numAdrreq := st.numAdrreq + earlier.length + 1, channelMask := mask } last.txPower =
      linkADRTxPower st last.txPower := rfl
  simp only [power, blockEffect]
  cases cmAck <;> cases dr <;> cases linkADRTxPower st last.txPower <;> rfl

/-- The octet of a LinkADRAns tells its first bit. -/
theorem linkADRAns_channelMaskAck {first second : Bool} (drAck pwAck : Bool)
    (same : (((LinkADRAnsCreator.new.setChannelMaskAck first).setDataRateAck
        drAck).setTxPowerAck pwAck).build =
      (((LinkADRAnsCreator.new.setChannelMaskAck second).setDataRateAck
        drAck).setTxPowerAck pwAck).build) : first = second := by
  revert same
  cases first <;> cases second <;> cases drAck <;> cases pwAck <;> decide

theorem channelMaskSet_inj {region : Region.Configuration} {first second : ChannelMask 9}
    (same : region.channelMaskSet first = region.channelMaskSet second) : first = second := by
  cases region with
  | dynamic r plan =>
      exact (Region.DynamicChannelPlan.mk.inj (Region.Configuration.dynamic.inj same).2).2
  | fixed r plan => exact (Region.FixedChannelPlan.mk.inj (Region.Configuration.fixed.inj same).2).1

theorem blockEffect_answers (st : CmdState) (payload : LinkADRReqPayload) (count : Nat)
    (dr : Option DR) (mask : ChannelMask 9) (cmAck : Bool) :
    (blockEffect st payload count dr mask cmAck).2.2 =
      List.replicate count (((LinkADRAnsCreator.new.setChannelMaskAck cmAck).setDataRateAck
        dr.isSome).setTxPowerAck (linkADRTxPower st payload.txPower).isSome).build := by
  unfold blockEffect
  cases cmAck <;> cases dr <;> cases linkADRTxPower st payload.txPower <;> rfl

/-- Two ends of one block are the same exactly when the masks are judged alike and, if
the block is accepted, are the same. -/
theorem blockEffect_eq_iff (st : CmdState) (payload : LinkADRReqPayload) (count : Nat)
    (dr : Option DR) (first second : ChannelMask 9) (firstAck secondAck : Bool) :
    blockEffect st payload (count + 1) dr first firstAck =
        blockEffect st payload (count + 1) dr second secondAck ↔
      firstAck = secondAck ∧ (firstAck = true → dr.isSome = true →
        (linkADRTxPower st payload.txPower).isSome = true → first = second) := by
  constructor
  · intro same
    have judged : firstAck = secondAck := by
      have answers := congrArg (fun done : Effect => done.2.2) same
      simp only [blockEffect_answers, List.replicate_succ] at answers
      exact linkADRAns_channelMaskAck _ _ (List.cons.inj answers).1
    subst judged
    refine ⟨rfl, ?_⟩
    intro ack drSome pwSome
    obtain ⟨dr, rfl⟩ := Option.isSome_iff_exists.mp drSome
    obtain ⟨pw, pwEq⟩ := Option.isSome_iff_exists.mp pwSome
    subst ack
    simp only [blockEffect, pwEq, Prod.mk.injEq, true_and, and_true] at same
    exact channelMaskSet_inj same
  · rintro ⟨rfl, masks⟩
    cases firstAck with
    | false => rfl
    | true =>
        cases dr with
        | none => rfl
        | some dr =>
            simp only [blockEffect]
            cases pwEq : linkADRTxPower st payload.txPower with
            | none => rfl
            | some pw => rw [masks rfl rfl (by rw [pwEq]; rfl)]

theorem judgedEffect_eq_iff (st : CmdState) (payload : LinkADRReqPayload) (count : Nat)
    (dr : Option DR) (first second : ChannelMask 9) (firstAck secondAck : Checked Bool) :
    (do return blockEffect st payload (count + 1) dr first (← firstAck) : Checked Effect) =
        (do return blockEffect st payload (count + 1) dr second (← secondAck)) ↔
      firstAck = secondAck ∧ (firstAck = .ok true → dr.isSome = true →
        (linkADRTxPower st payload.txPower).isSome = true → first = second) := by
  cases firstAck with
  | error fault =>
      cases secondAck with
      | error other => simp
      | ok ack => simp
  | ok ack =>
      cases secondAck with
      | error other => simp
      | ok other =>
          simp only [Checked.ok_bind, Checked.pure_eq_ok, Except.ok.injEq, blockEffect_eq_iff]

/-- A block is isolated exactly when the working mask makes no difference to it. -/
theorem handleBlock_isolated_iff (snr : Int8) (earlier : List LinkADRReqPayload)
    (last : LinkADRReqPayload) (st : CmdState) :
    Isolated snr (.block earlier last) st ↔ Undisturbed (.block earlier last) st := by
  have rate : linkADRDataRate st.alone last.dataRate = linkADRDataRate st last.dataRate := rfl
  simp only [Isolated, handleItem, effect_handleBlock, rate]
  by_cases stepped : ∀ payload ∈ earlier ++ [last], payload.redundancy.channelMaskControl ≠ 4
  · obtain ⟨taken, takenEq⟩ :=
      (stepMasks_returns_iff st.region (earlier ++ [last]) st.channelMask).mpr stepped
    obtain ⟨inForce, inForceEq⟩ :=
      (stepMasks_returns_iff st.region (earlier ++ [last]) st.region.channelMaskGet).mpr stepped
    have aloneEq : stepMasks st.alone.region (earlier ++ [last]) st.alone.channelMask =
        .ok inForce := inForceEq
    rw [takenEq, aloneEq]
    cases rateEq : linkADRDataRate st last.dataRate with
    | error fault =>
        refine iff_of_true rfl ?_
        intro _ _ dr _ _ found
        rw [rateEq] at found
        cases found
    | ok dr =>
        simp only [Checked.ok_bind]
        refine (judgedEffect_eq_iff st last _ dr taken inForce _ _).trans ?_
        rw [stepMasks_eq_iff takenEq inForceEq]
        constructor
        · intro agree mask other rate maskEq otherEq found
          rw [takenEq] at maskEq
          rw [inForceEq] at otherEq
          rw [rateEq] at found
          cases maskEq
          cases otherEq
          cases found
          exact agree
        · intro agree
          exact agree taken inForce dr takenEq inForceEq rateEq
  · have stuck := (stepMasks_stops st.region (earlier ++ [last]) st.channelMask).eq_error
      (mt (stepMasks_returns_iff _ _ _).mp stepped)
    have aloneStuck := (stepMasks_stops st.alone.region (earlier ++ [last])
      st.alone.channelMask).eq_error (mt (stepMasks_returns_iff _ _ _).mp stepped)
    rw [stuck, aloneStuck]
    refine iff_of_true rfl ?_
    intro taken inForce dr takenEq
    rw [stuck] at takenEq
    cases takenEq

theorem handleCommand_isolated (snr : Int8) {cmd : DownlinkMacCommand}
    (unlinked : cmd.isLinkADRReq = false) (st : CmdState) :
    Isolated snr (.other cmd unlinked) st := by
  simp only [Isolated, handleItem, effect]
  cases cmd with
  | linkADRReq payload => cases unlinked
  | dlChannelReq payload =>
      simp only [handleCommand, handleDlChannelReq]
      by_cases fixed : st.region.hasFixedChannelPlan = true
      · have alike : st.alone.region.hasFixedChannelPlan = true := fixed
        rw [if_pos fixed, if_pos alike]
        rfl
      · have alike : ¬ st.alone.region.hasFixedChannelPlan = true := fixed
        rw [if_neg fixed, if_neg alike, CmdState.alone]
        cases st.region.channelDlUpdate payload.channelIndex payload.frequency.value <;> rfl
  | newChannelReq payload =>
      simp only [handleCommand, handleNewChannelReq]
      by_cases fixed : st.region.hasFixedChannelPlan = true
      · have alike : st.alone.region.hasFixedChannelPlan = true := fixed
        rw [if_pos fixed, if_pos alike]
        rfl
      · have alike : ¬ st.alone.region.hasFixedChannelPlan = true := fixed
        rw [if_neg fixed, if_neg alike, CmdState.alone]
        cases st.region.handleNewChannel payload.channelIndex payload.frequency.value
          payload.dataRateRange.toOption <;> rfl
  | rxParamSetupReq payload =>
      have rate : rxParamRx2Dr st.alone payload.dlSettings.rx2DataRate =
          rxParamRx2Dr st payload.dlSettings.rx2DataRate := rfl
      simp only [handleCommand, handleRXParamSetupReq, rate]
      cases rxParamRx2Dr st payload.dlSettings.rx2DataRate with
      | error fault => rfl
      | ok rx2Dr =>
          simp only [Checked.ok_bind, CmdState.alone]
          split <;> rfl
  | linkCheckAns | dutyCycleReq | devStatusReq | rxTimingSetupReq | txParamSetupReq
    | deviceTimeAns => rfl

theorem isolated_iff_undisturbed (snr : Int8) (item : Item) (st : CmdState) :
    Isolated snr item st ↔ Undisturbed item st := by
  cases item with
  | block earlier last => exact handleBlock_isolated_iff snr earlier last st
  | other cmd unlinked => exact iff_of_true (handleCommand_isolated snr unlinked st) trivial

/-- A stream is run item by item, its blocks as long as they can be; every block of it does
what it would do alone, from the channel mask then in force, if and only if no block is
disturbed by the working mask left to it. -/
theorem blocks_isolated_iff (snr : Int8) (cmds : List Byte) (configuration : Configuration)
    (region : Region.Configuration) :
    (∀ uplink, handleDownlinkMacs snr cmds configuration region uplink = (do
      let (st, uplink) ← runItems snr (items (parseDownlinkMacCommands cmds))
        (CmdState.start configuration region) uplink
      return (st.configuration, st.region, uplink))) ∧
    (items (parseDownlinkMacCommands cmds)).flatMap Item.commands =
      parseDownlinkMacCommands cmds ∧
    ((items (parseDownlinkMacCommands cmds)).IsChain fun first second =>
      ¬ (first.isBlock = true ∧ second.isBlock = true)) ∧
    (Transition.Guarded (itemStep snr) (Isolated snr) (items (parseDownlinkMacCommands cmds))
        (CmdState.start configuration region) ↔
      Transition.Guarded (itemStep snr) Undisturbed (items (parseDownlinkMacCommands cmds))
        (CmdState.start configuration region)) :=
  ⟨handleDownlinkMacs_eq_runItems snr cmds configuration region, items_commands _,
    items_maximal _, Transition.guarded_congr (isolated_iff_undisturbed snr) _ _⟩

/-- The state that a rejected block leaves: its empty banks are still in the working mask. -/
def Sample.leaked : CmdState :=
  { CmdState.start Sample.configuration Sample.rx.region with
    channelMask := ⟨#v[0, 0, 255, 255, 255, 255, 255, 255, 255]⟩ }

/-- LinkADRReq with an empty mask, DevStatusReq, LinkADRReq for banks 2 and 3: the first
block is rejected and its mask makes the second one rejected too. -/
theorem rejected_block_leaks :
    ¬ Transition.Guarded (itemStep 0) (Isolated 0)
      (items (parseDownlinkMacCommands
        [0x03, 0x50, 0x00, 0x00, 0x00, 0x06, 0x03, 0x50, 0x00, 0x00, 0x10]))
      (CmdState.start Sample.configuration Sample.rx.region) := by
  have split : items (parseDownlinkMacCommands
      [0x03, 0x50, 0x00, 0x00, 0x00, 0x06, 0x03, 0x50, 0x00, 0x00, 0x10]) =
      [.block [] ⟨#v[0x50, 0x00, 0x00, 0x00]⟩, .other .devStatusReq rfl,
        .block [] ⟨#v[0x50, 0x00, 0x00, 0x10]⟩] := by
    decide +kernel
  rw [split]
  rintro ⟨_, afterFirst⟩
  obtain ⟨_, afterSecond⟩ := afterFirst Sample.leaked (by decide +kernel)
  obtain ⟨isolated, _⟩ := afterSecond Sample.leaked (by decide +kernel)
  revert isolated
  unfold Isolated
  decide +kernel

end LoraRs.Mac
