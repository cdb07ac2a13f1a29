import LoraRs.Encoding.Streams
import LoraRs.Mac.Answers

/-!
# The room for answers

The answers that a command stream gives rise to, item by item, and which of them reach
the queue: each one that fits in what the earlier ones left of the fifteen bytes.
-/

set_option autoImplicit false

namespace LoraRs.Mac

open LoraRs.Encoding LoraRs.Lib

/-! ## What fits -/

/-- The commands that reach a queue with this much room, each tried in turn. -/
def fitting : Nat → List SerializableMacCommand → List SerializableMacCommand
  | _, [] => []
  | room, cmd :: rest =>
      if cmd.bytes.length ≤ room then cmd :: fitting (room - cmd.bytes.length) rest
      else fitting room rest

def cutToFit : Nat → List SerializableMacCommand → List SerializableMacCommand
  | _, [] => []
  | room, cmd :: rest =>
      if cmd.bytes.length ≤ room then cmd :: cutToFit (room - cmd.bytes.length) rest else []

theorem serializeAll_cons (cmd : SerializableMacCommand) (rest : List SerializableMacCommand) :
    serializeAll (cmd :: rest) = cmd.bytes ++ serializeAll rest := rfl

theorem addMacCommands_pending (uplink : Uplink) (cmds : List SerializableMacCommand) :
    (uplink.addMacCommands cmds).pending =
      uplink.pending ++ serializeAll (fitting (15 - uplink.pending.length) cmds) := by
  induction cmds generalizing uplink with
  | nil => exact (List.append_nil _).symm
  | cons cmd rest ih =>
      have within : uplink.pending.length ≤ 15 := uplink.fits
      have size := cmd.bytes_length
      rw [Uplink.addMacCommands, List.foldl_cons]
      change ((uplink.addMacCommand cmd).addMacCommands rest).pending = _
      rw [ih, fitting]
      by_cases room : uplink.pending.length + cmd.payloadLen < fOptsMaxLen
      · have fits : cmd.bytes.length ≤ 15 - uplink.pending.length := by
          simp only [fOptsMaxLen] at room
          omega
        have added : (uplink.addMacCommand cmd).pending = uplink.pending ++ cmd.bytes :=
          Uplink.addMacCommand_pending room
        have left : 15 - (uplink.pending ++ cmd.bytes).length =
            15 - uplink.pending.length - cmd.bytes.length := by
          rw [List.length_append]
          omega
        rw [added, if_pos fits, serializeAll_cons, left, List.append_assoc]
      · have refused : ¬ cmd.bytes.length ≤ 15 - uplink.pending.length := by
          simp only [fOptsMaxLen] at room
          omega
        rw [Uplink.addMacCommand_full room, if_neg refused]

/-- Up to the first one that does not fit, every command is taken. -/
theorem cutToFit_prefix (room : Nat) (cmds : List SerializableMacCommand) :
    cutToFit room cmds <+: fitting room cmds ∧ cutToFit room cmds <+: cmds := by
  induction cmds generalizing room with
  | nil => exact ⟨List.prefix_refl _, List.prefix_refl _⟩
  | cons cmd rest ih =>
      rw [fitting, cutToFit]
      by_cases fits : cmd.bytes.length ≤ room
      · rw [if_pos fits, if_pos fits]
        obtain ⟨taken, listed⟩ := ih (room - cmd.bytes.length)
        exact ⟨List.cons_prefix_cons.mpr ⟨rfl, taken⟩, List.cons_prefix_cons.mpr ⟨rfl, listed⟩⟩
      · rw [if_neg fits]
        exact ⟨List.nil_prefix, List.nil_prefix⟩

theorem fitting_sublist (room : Nat) (cmds : List SerializableMacCommand) :
    (fitting room cmds).Sublist cmds := by
  induction cmds generalizing room with
  | nil => exact List.Sublist.slnil
  | cons cmd rest ih =>
      rw [fitting]
      split
      · exact (ih _).cons_cons cmd
      · exact (ih _).cons cmd

theorem fitting_of_room {room : Nat} {cmds : List SerializableMacCommand}
    (fits : (serializeAll cmds).length ≤ room) : fitting room cmds = cmds := by
  induction cmds generalizing room with
  | nil => rfl
  | cons cmd rest ih =>
      rw [serializeAll_cons, List.length_append] at fits
      rw [fitting, if_pos (by omega), ih (by omega)]

/-! ## The answers of a stream -/

def requestedAnswers (snr : Int8) :
    List Item → CmdState → Checked (List (List SerializableMacCommand))
  | [], _ => .ok []
  | item :: rest, st => do
      let (st, answers) ← handleItem snr item st
      let later ← requestedAnswers snr rest st
      return answers :: later

theorem addMacCommands_append (uplink : Uplink) (first second : List SerializableMacCommand) :
    uplink.addMacCommands (first ++ second) =
      (uplink.addMacCommands first).addMacCommands second := List.foldl_append

theorem runItems_adds {snr : Int8} {items : List Item} {st next : CmdState}
    {uplink out : Uplink} (ran : runItems snr items st uplink = .ok (next, out)) :
    ∃ answers, requestedAnswers snr items st = .ok answers ∧
      out = uplink.addMacCommands answers.flatten := by
  induction items generalizing st uplink with
  | nil =>
      cases ran
      exact ⟨[], rfl, rfl⟩
  | cons item rest ih =>
      obtain ⟨⟨after, answers⟩, handled, ran⟩ := Checked.bind_eq_ok_iff.mp ran
      obtain ⟨later, requested, outEq⟩ := ih ran
      refine ⟨answers :: later, ?_, ?_⟩
      · simp only [requestedAnswers, handled, Checked.ok_bind, requested]
        rfl
      · rw [outEq, List.flatten_cons, addMacCommands_append]

/-- The requests that are answered one by one; a region with a fixed channel plan leaves
those about channels. -/
def isAnswered (fixedPlan : Bool) : DownlinkMacCommand → Bool
  | .devStatusReq | .rxParamSetupReq _ | .rxTimingSetupReq _ => true
  | .newChannelReq _ | .dlChannelReq _ => !fixedPlan
  | .linkCheckAns _ | .linkADRReq _ | .dutyCycleReq _ | .txParamSetupReq _
    | .deviceTimeAns _ => false

/-- One LinkADRAns for each LinkADRReq of a block, all with one status; one answer under
the CID of the request for each other request. -/
def Answering (fixedPlan : Bool) (item : Item) (answers : List SerializableMacCommand) : Prop :=
  match item with
  | .block earlier _ => ∃ status, answers = List.replicate (earlier.length + 1) ⟨0x03, [status]⟩
  | .other cmd _ =>
      if isAnswered fixedPlan cmd then
        ∃ answer : SerializableMacCommand, answers = [answer] ∧ answer.cid = cmd.serialize.cid
      else answers = []

/-- Between items the count of a block is zero, and the kind of channel plan is kept. -/
structure Between (fixedPlan : Bool) (st : CmdState) : Prop where
  counted : st.numAdrreq = 0
  plan : st.region.hasFixedChannelPlan = fixedPlan

theorem channelMaskSet_plan (region : Region.Configuration) (mask : ChannelMask 9) :
    (region.channelMaskSet mask).hasFixedChannelPlan = region.hasFixedChannelPlan := by
  cases region <;> rfl

theorem handleItem_answering {snr : Int8} {fixedPlan : Bool} {item : Item} {st next : CmdState}
    {answers : List SerializableMacCommand} (between : Between fixedPlan st)
    (ran : handleItem snr item st = .ok (next, answers)) :
    Answering fixedPlan item answers ∧ Between fixedPlan next := by
  obtain ⟨counted, plan⟩ := between
  cases item with
  | block earlier last =>
      have length : st.numAdrreq + earlier.length + 1 = earlier.length + 1 := by omega
      cases handleBlock_outcome ran with
      | accepted mask stepped dr pw rate power valid =>
          rw [length]
          exact ⟨⟨_, rfl⟩, rfl, (channelMaskSet_plan _ _).trans plan⟩
      | rejected mask stepped bad status incomplete =>
          rw [length]
          exact ⟨⟨_, rfl⟩, rfl, plan⟩
  | other cmd unlinked =>
      cases cmd with
      | linkADRReq payload => cases unlinked
      | devStatusReq =>
          cases ran
          exact ⟨⟨_, rfl, rfl⟩, counted, plan⟩
      | rxTimingSetupReq payload =>
          cases ran
          exact ⟨⟨_, rfl, rfl⟩, counted, plan⟩
      | rxParamSetupReq payload =>
          obtain ⟨answer, rfl, outcome⟩ := handleRXParamSetupReq_outcome ran
          cases outcome with
          | accepted rx2DataRate rate => exact ⟨⟨_, rfl, rfl⟩, counted, plan⟩
          | rejected status incomplete => exact ⟨⟨_, rfl, rfl⟩, counted, plan⟩
      | newChannelReq payload =>
          cases handleNewChannelReq_outcome ran with
          | fixed region channels regionEq =>
              rw [regionEq] at plan
              subst plan
              exact ⟨rfl, counted, by rw [regionEq]⟩
          | dynamic region before after regionEq ackF ackD status outcome complete =>
              rw [regionEq] at plan
              subst plan
              exact ⟨⟨_, rfl, rfl⟩, counted, rfl⟩
      | dlChannelReq payload =>
          obtain ⟨after, found, handled, outcome⟩ := handleDlChannelReq_outcome payload st
          have same : handleDlChannelReq payload st = .ok (next, answers) := ran
          rw [handled] at same
          cases same
          cases outcome with
          | fixed region channels regionEq =>
              rw [regionEq] at plan
              subst plan
              exact ⟨rfl, counted, by rw [regionEq]⟩
          | dynamic region before after regionEq ackF ackC status outcome complete =>
              rw [regionEq] at plan
              subst plan
              exact ⟨⟨_, rfl, rfl⟩, counted, rfl⟩
      | linkCheckAns payload =>
          cases ran
          exact ⟨rfl, counted, plan⟩
      | dutyCycleReq payload =>
          cases ran
          exact ⟨rfl, counted, plan⟩
      | txParamSetupReq payload =>
          cases ran
          exact ⟨rfl, counted, plan⟩
      | deviceTimeAns payload =>
          cases ran
          exact ⟨rfl, counted, plan⟩

theorem requestedAnswers_answering {snr : Int8} {fixedPlan : Bool} {items : List Item}
    {st : CmdState} {answers : List (List SerializableMacCommand)}
    (between : Between fixedPlan st) (requested : requestedAnswers snr items st = .ok answers) :
    List.Forall₂ (Answering fixedPlan) items answers := by
  induction items generalizing st answers with
  | nil =>
      cases requested
      exact List.Forall₂.nil
  | cons item rest ih =>
      obtain ⟨⟨next, found⟩, handled, requested⟩ := Checked.bind_eq_ok_iff.mp requested
      obtain ⟨later, laterEq, same⟩ := Checked.bind_eq_ok_iff.mp requested
      cases same
      obtain ⟨answering, after⟩ := handleItem_answering between handled
      exact List.Forall₂.cons answering (ih after laterEq)

/-! ## LinkADRAns -/

def isLinkADRAns (answer : SerializableMacCommand) : Bool := answer.cid == 0x03

theorem serialize_isLinkADRAns (cmd : DownlinkMacCommand) :
    isLinkADRAns cmd.serialize = cmd.isLinkADRReq := by
  cases cmd <;> rfl

theorem answering_linkADR {fixedPlan : Bool} {item : Item} {answers : List SerializableMacCommand}
    (answering : Answering fixedPlan item answers) :
    answers.countP isLinkADRAns = item.commands.countP DownlinkMacCommand.isLinkADRReq := by
  cases item with
  | block earlier last =>
      obtain ⟨status, rfl⟩ := answering
      have all : ∀ payloads : List LinkADRReqPayload,
          (payloads.map DownlinkMacCommand.linkADRReq).countP DownlinkMacCommand.isLinkADRReq =
            payloads.length := by
        intro payloads
        rw [List.countP_map]
        exact congrFun List.countP_true payloads
      rw [Item.commands, all, List.countP_replicate, List.length_append]
      rfl
  | other cmd unlinked =>
      simp only [Answering] at answering
      rw [Item.commands, List.countP_singleton, unlinked]
      by_cases answered : isAnswered fixedPlan cmd = true
      · rw [if_pos answered] at answering
        obtain ⟨answer, rfl, cid⟩ := answering
        have other : isLinkADRAns answer = false := by
          rw [isLinkADRAns, cid]
          exact (serialize_isLinkADRAns cmd).trans unlinked
        rw [List.countP_singleton, other]
      · rw [if_neg answered] at answering
        rw [answering]
        rfl

theorem answers_linkADR {fixedPlan : Bool} {items : List Item}
    {answers : List (List SerializableMacCommand)}
    (answering : List.Forall₂ (Answering fixedPlan) items answers) :
    answers.flatten.countP isLinkADRAns =
      (items.flatMap Item.commands).countP DownlinkMacCommand.isLinkADRReq := by
  induction answering with
  | nil => rfl
  | cons first rest ih =>
      rw [List.flatten_cons, List.flatMap_cons, List.countP_append, List.countP_append, ih,
        answering_linkADR first]

/-! ## The queue after a stream -/

/-- The answers of a stream, and the queue that they leave: each answer that fits in what
the earlier ones left is appended, in order. -/
structure AnswersQueued (snr : Int8) (cmds : List Byte) (configuration : Configuration)
    (region : Region.Configuration) (before after : Uplink)
    (answers : List (List SerializableMacCommand)) : Prop where
  requested : requestedAnswers snr (items (parseDownlinkMacCommands cmds))
    (CmdState.start configuration region) = .ok answers
  answering : List.Forall₂ (Answering region.hasFixedChannelPlan)
    (items (parseDownlinkMacCommands cmds)) answers
  appended : after.pending =
    before.pending ++ serializeAll (fitting (15 - before.pending.length) answers.flatten)

/-- The answers that are appended are those that fit when their turn comes: all up to the
first one that does not fit, and none out of order.  When all fit, there is a LinkADRAns
for each LinkADRReq. -/
theorem answers_are_queued_while_they_fit {snr : Int8} {cmds : List Byte}
    {configuration configuration' : Configuration} {region region' : Region.Configuration}
    {before after : Uplink}
    (ran : handleDownlinkMacs snr cmds configuration region before =
      .ok (configuration', region', after)) :
    ∃ answers, AnswersQueued snr cmds configuration region before after answers ∧
      (let room := 15 - before.pending.length
      cutToFit room answers.flatten <+: fitting room answers.flatten ∧
      cutToFit room answers.flatten <+: answers.flatten ∧
      (fitting room answers.flatten).Sublist answers.flatten ∧
      ((serializeAll answers.flatten).length ≤ room →
        after.pending = before.pending ++ serializeAll answers.flatten ∧
        answers.flatten.countP isLinkADRAns =
          (parseDownlinkMacCommands cmds).countP DownlinkMacCommand.isLinkADRReq)) := by
  rw [handleDownlinkMacs_eq_runItems] at ran
  obtain ⟨⟨next, out⟩, ran, same⟩ := Checked.bind_eq_ok_iff.mp ran
  cases same
  obtain ⟨answers, requested, rfl⟩ := runItems_adds ran
  have between : Between region.hasFixedChannelPlan (CmdState.start configuration region) :=
    ⟨rfl, rfl⟩
  have answering := requestedAnswers_answering between requested
  have appended := addMacCommands_pending before answers.flatten
  obtain ⟨taken, listed⟩ := cutToFit_prefix (15 - before.pending.length) answers.flatten
  refine ⟨answers, ⟨requested, answering, appended⟩, taken, listed, fitting_sublist _ _, ?_⟩
  intro fits
  refine ⟨?_, ?_⟩
  · rw [appended, fitting_of_room fits]
  · rw [answers_linkADR answering, items_commands]

namespace Sample

/-- Six LinkADRAns and one RXTimingSetupAns wait for the next uplink. -/
def waiting : Uplink where
  pending := [0x03, 7, 0x03, 7, 0x03, 7, 0x03, 7, 0x03, 7, 0x03, 7, 0x08]
  confirmed := false
  fits := by decide

theorem waiting_answers : ∃ configuration' region' after,
    handleDownlinkMacs 0 [0x06, 0x08, 0x01] configuration rx.region waiting =
      .ok (configuration', region', after) ∧ after.pending = waiting.pending ++ [0x08] := by
  refine ⟨_, _, _, rfl, ?_⟩
  decide +kernel

end Sample

theorem answers_are_queued_while_they_fit_sample : ∃ after answers,
    AnswersQueued 0 [0x06, 0x08, 0x01] Sample.configuration Sample.rx.region Sample.waiting after
      answers := by
  obtain ⟨_, _, after, ran, _⟩ := Sample.waiting_answers
  obtain ⟨answers, queued, _⟩ := answers_are_queued_while_they_fit ran
  exact ⟨after, answers, queued⟩

/-- DevStatusReq and RXTimingSetupReq with two bytes left: the first answer is dropped and
the second one queued. -/
theorem later_answer_overtakes : ¬ ∀ (snr : Int8) (cmds : List Byte)
    (configuration configuration' : Configuration) (region region' : Region.Configuration)
    (before after : Uplink) (answers : List (List SerializableMacCommand)),
    handleDownlinkMacs snr cmds configuration region before =
      .ok (configuration', region', after) →
    requestedAnswers snr (items (parseDownlinkMacCommands cmds))
      (CmdState.start configuration region) = .ok answers →
    after.pending = before.pending ++
      serializeAll (cutToFit (15 - before.pending.length) answers.flatten) := by
  intro cut
  obtain ⟨_, _, after, ran, appended⟩ := Sample.waiting_answers
  have requested : requestedAnswers 0 (items (parseDownlinkMacCommands [0x06, 0x08, 0x01]))
      (CmdState.start Sample.configuration Sample.rx.region) =
      .ok [[⟨0x06, [255, 0]⟩], [⟨0x08, []⟩]] := by
    decide +kernel
  have stopped := cut _ _ _ _ _ _ _ _ _ ran requested
  rw [appended] at stopped
  revert stopped
  decide +kernel

end LoraRs.Mac
