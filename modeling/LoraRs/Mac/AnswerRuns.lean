import LoraRs.Lib.Transition
import LoraRs.Mac.Received
import LoraRs.Mac.UplinkFrames

/-!
# Answers from queueing to acknowledgment

Every order of queueing an answer, building an uplink and clearing the queue.  The queue
is at all times the answers that last until then, in the order in which they were queued,
and each uplink carries the queue as it found it.
-/

set_option autoImplicit false

namespace LoraRs.Mac

open LoraRs.Encoding LoraRs.Lib

/-! ## Operations and what is noted of them -/

inductive QueueOp where
  | queue (answer : UplinkMacCommand)
  | build (data : SendData) (configuration : Configuration) (region : Region.Configuration)
  | clear

/-- An answer that was queued, or had no room; a packet with the session that built it; the
end of the wait for an acknowledgment. -/
inductive QueueEvent where
  | queued (answer : UplinkMacCommand)
  | refused (answer : UplinkMacCommand)
  | built (sender : Session) (packet : List Byte)
  | cleared

namespace QueueEvent

def isBuilt : QueueEvent → Bool
  | built _ _ => true
  | queued _ | refused _ | cleared => false

def isCleared : QueueEvent → Bool
  | cleared => true
  | queued _ | refused _ | built _ _ => false

end QueueEvent

structure QueueRun where
  session : Session
  log : List QueueEvent

namespace QueueRun

/-- A session that has nothing to answer yet. -/
def Starts (run : QueueRun) : Prop := run.session.uplink.pending = [] ∧ run.log = []

end QueueRun

def queueStep (newCrypto : NewCrypto) (N : Nat) (op : QueueOp) (run : QueueRun) :
    Checked QueueRun :=
  match op with
  | .queue answer =>
      let uplink := run.session.uplink.addMacCommand answer.serialize
      let event : QueueEvent :=
        if uplink = run.session.uplink then .refused answer else .queued answer
      .ok ⟨{ run.session with uplink }, run.log ++ [event]⟩
  | .build data configuration region => do
      let (_, packet, session) ←
        run.session.prepareBuffer newCrypto N data configuration region
      return ⟨session, run.log ++ [.built run.session packet]⟩
  | .clear =>
      .ok ⟨{ run.session with uplink := run.session.uplink.clearMacCommands false },
        run.log ++ [.cleared]⟩

/-! ## What lasts -/

/-- An answer lasts through these events: the queue is not cleared and, unless the answer is
sticky, no uplink is built. -/
def lasts (later : List QueueEvent) (answer : UplinkMacCommand) : Bool :=
  later.all (!·.isCleared) && (isSticky answer || later.all (!·.isBuilt))

/-- The answers that were queued and last to the end. -/
def survivors : List QueueEvent → List UplinkMacCommand
  | [] => []
  | .queued answer :: later => (if lasts later answer then [answer] else []) ++ survivors later
  | .refused _ :: later | .built _ _ :: later | .cleared :: later => survivors later

/-- The sticky answers by name: all three outlast the uplinks, no answer the end of the wait. -/
theorem lasts_iff {later : List QueueEvent} {answer : UplinkMacCommand} :
    lasts later answer = true ↔ (∀ event ∈ later, event.isCleared = false) ∧
      ((∃ payload, answer = .rxParamSetupAns payload) ∨ answer = .rxTimingSetupAns ∨
        (∃ payload, answer = .dlChannelAns payload) ∨ ∀ event ∈ later, event.isBuilt = false) := by
  have sticky : isSticky answer = true ↔ (∃ payload, answer = .rxParamSetupAns payload) ∨
      answer = .rxTimingSetupAns ∨ ∃ payload, answer = .dlChannelAns payload := by
    cases answer with
    | rxParamSetupAns payload => exact iff_of_true rfl (.inl ⟨payload, rfl⟩)
    | rxTimingSetupAns => exact iff_of_true rfl (.inr (.inl rfl))
    | dlChannelAns payload => exact iff_of_true rfl (.inr (.inr ⟨payload, rfl⟩))
    | linkCheckReq | linkADRAns payload | dutyCycleAns | devStatusAns payload
      | newChannelAns payload | txParamSetupAns | deviceTimeReq =>
        refine iff_of_false Bool.false_ne_true ?_
        rintro (⟨_, same⟩ | same | ⟨_, same⟩) <;> cases same
  simp only [lasts, Bool.and_eq_true, Bool.or_eq_true, sticky, List.all_eq_true,
    Bool.not_eq_true', or_assoc]

/-- An answer is queued if, with its identifier, it has room in the fifteen octets. -/
theorem queueStep_notes (newCrypto : NewCrypto) (N : Nat) (answer : UplinkMacCommand)
    (run next : QueueRun) (stepped : queueStep newCrypto N (.queue answer) run = .ok next) :
    next.log = run.log ++
      [if run.session.uplink.pending.length + answer.serialize.bytes.length ≤ 15
        then .queued answer else .refused answer] := by
  cases stepped
  have length := answer.serialize.bytes_length
  by_cases room : run.session.uplink.pending.length + answer.serialize.payloadLen < fOptsMaxLen
  · have changed := Uplink.addMacCommand_ne room
    have fits : run.session.uplink.pending.length + answer.serialize.bytes.length ≤ 15 := by
      simp only [fOptsMaxLen] at room
      omega
    rw [if_neg changed, if_pos fits]
  · have same := Uplink.addMacCommand_full room
    have full : ¬ run.session.uplink.pending.length + answer.serialize.bytes.length ≤ 15 := by
      simp only [fOptsMaxLen] at room
      omega
    rw [if_pos same, if_neg full]

theorem lasts_append (first second : List QueueEvent) (answer : UplinkMacCommand) :
    lasts (first ++ second) answer = (lasts first answer && lasts second answer) := by
  simp only [lasts, List.all_append]
  cases isSticky answer <;> grind

/-- Later events take their part of the survivors, and add their own behind them. -/
theorem survivors_append (first second : List QueueEvent) :
    survivors (first ++ second) = (survivors first).filter (lasts second) ++ survivors second := by
  induction first with
  | nil => rfl
  | cons event rest ih =>
      rw [List.cons_append]
      cases event with
      | queued answer =>
          rw [survivors, survivors, ih, lasts_append, List.filter_append, List.append_assoc]
          cases lasts rest answer <;> cases kept : lasts second answer <;> simp [kept]
      | refused answer => exact ih
      | built sender packet => exact ih
      | cleared => exact ih

theorem survivors_queued (log : List QueueEvent) (answer : UplinkMacCommand) :
    survivors (log ++ [.queued answer]) = survivors log ++ [answer] := by
  rw [survivors_append]
  have all : lasts [.queued answer] = fun _ => true := by
    funext other
    simp [lasts, QueueEvent.isCleared, QueueEvent.isBuilt]
  rw [all, List.filter_true]
  simp [survivors, lasts]

theorem survivors_refused (log : List QueueEvent) (answer : UplinkMacCommand) :
    survivors (log ++ [.refused answer]) = survivors log := by
  rw [survivors_append]
  have all : lasts [.refused answer] = fun _ => true := by
    funext other
    simp [lasts, QueueEvent.isCleared, QueueEvent.isBuilt]
  rw [all, List.filter_true]
  exact List.append_nil _

theorem survivors_built (log : List QueueEvent) (sender : Session) (packet : List Byte) :
    survivors (log ++ [.built sender packet]) = (survivors log).filter isSticky := by
  rw [survivors_append]
  have sticky : lasts [.built sender packet] = isSticky := by
    funext other
    simp [lasts, QueueEvent.isCleared, QueueEvent.isBuilt]
  rw [sticky]
  exact List.append_nil _

theorem survivors_cleared (log : List QueueEvent) : survivors (log ++ [.cleared]) = [] := by
  rw [survivors_append]
  have none : lasts [.cleared] = fun _ => false := by
    funext other
    simp [lasts, QueueEvent.isCleared]
  rw [none, List.filter_false]
  rfl

/-! ## The queue as bytes -/

theorem parseUplinkMacCommands_bytesOf (answers : List UplinkMacCommand) :
    parseUplinkMacCommands (MacCommands.bytesOf answers) = answers := by
  have apart := MacCommands.takenApart_bytesOf answers fun _ _ => rfl
  rw [parseUplinkMacCommands, MacCommands.oks, apart.listed]
  simp [List.filterMap_map]

theorem stickyBytes_bytesOf (answers : List UplinkMacCommand) :
    stickyBytes (MacCommands.bytesOf answers) =
      MacCommands.bytesOf (answers.filter isSticky) := by
  rw [stickyBytes, parseUplinkMacCommands_bytesOf, serializeAll, List.flatMap_map]
  rfl

/-- The queue is the answers that have lasted, and what each packet carried was the queue
when it was built. -/
structure Queued (newCrypto : NewCrypto) (run : QueueRun) : Prop where
  pending : run.session.uplink.pending = MacCommands.bytesOf (survivors run.log)
  carried : ∀ before sender packet after, run.log = before ++ .built sender packet :: after →
    Carries newCrypto sender packet (survivors before)

theorem carried_concat {newCrypto : NewCrypto} {log : List QueueEvent} {event : QueueEvent}
    (earlier : ∀ before sender packet after, log = before ++ .built sender packet :: after →
      Carries newCrypto sender packet (survivors before))
    (last : ∀ sender packet, event = .built sender packet →
      Carries newCrypto sender packet (survivors log))
    (before : List QueueEvent) (sender : Session) (packet : List Byte) (after : List QueueEvent)
    (split : log ++ [event] = before ++ .built sender packet :: after) :
    Carries newCrypto sender packet (survivors before) := by
  rcases List.eq_nil_or_concat after with rfl | ⟨front, final, rfl⟩
  · obtain ⟨rfl, same⟩ := List.append_inj' split rfl
    exact last sender packet (List.cons.inj same).1
  · have shifted : log ++ [event] = (before ++ .built sender packet :: front) ++ [final] := by
      rw [split]
      simp
    exact earlier before sender packet front (List.append_inj' shifted rfl).1

theorem queueStep_keeps_queued {newCrypto : NewCrypto} {N : Nat} (op : QueueOp)
    (run next : QueueRun) (before : Queued newCrypto run)
    (stepped : queueStep newCrypto N op run = .ok next) : Queued newCrypto next := by
  obtain ⟨pending, carried⟩ := before
  cases op with
  | queue answer =>
      cases stepped
      by_cases room : run.session.uplink.pending.length + answer.serialize.payloadLen < fOptsMaxLen
      · have added : (run.session.uplink.addMacCommand answer.serialize).pending =
            run.session.uplink.pending ++ answer.serialize.bytes :=
          Uplink.addMacCommand_pending room
        have changed := Uplink.addMacCommand_ne room
        simp only [if_neg changed]
        constructor
        · rw [added, survivors_queued, pending, MacCommands.bytesOf, MacCommands.bytesOf,
            List.flatMap_append]
          simp [CommandHandler.serialize]
        · exact carried_concat carried fun _ _ same => by cases same
      · have same := Uplink.addMacCommand_full room
        simp only [same, if_true]
        constructor
        · rw [survivors_refused]
          exact pending
        · exact carried_concat carried fun _ _ same => by cases same
  | build data configuration region =>
      obtain ⟨⟨fcnt, packet, session⟩, built, stepped⟩ := Checked.bind_eq_ok_iff.mp stepped
      cases stepped
      obtain ⟨_, rfl, _, _, _, prepared⟩ :=
        (Session.prepareBuffer_eq_ok_iff _ _ _ _ _ _ _ _ _).mp built
      constructor
      · rw [survivors_built]
        change stickyBytes run.session.uplink.pending = _
        rw [pending, stickyBytes_bytesOf]
      · apply carried_concat carried
        intro sender sent same
        cases same
        obtain ⟨decrypted, ran, bytes⟩ := prepared.macBytes_eq
        rw [pending] at bytes
        refine ⟨decrypted, ran, bytes, ?_⟩
        rw [bytes, parseUplinkMacCommands_bytesOf]
  | clear =>
      cases stepped
      constructor
      · rw [survivors_cleared]
        rfl
      · exact carried_concat carried fun _ _ same => by cases same

/-- In every run the queue holds at most fifteen bytes, those of the answers that have
lasted.  A packet carries the ones that lasted until it was built: an answer behind those
queued before it and in front of those queued after it, and only while it lasts.  What
lasts, and what has room, is told by name. -/
theorem answers_are_carried_while_they_last {newCrypto : NewCrypto} {N : Nat} {run : QueueRun}
    (reached : Transition.Reachable (queueStep newCrypto N) QueueRun.Starts run) :
    run.session.uplink.pending.length ≤ 15 ∧
    run.session.uplink.pending = MacCommands.bytesOf (survivors run.log) ∧
    parseUplinkMacCommands run.session.uplink.pending = survivors run.log ∧
    (∀ before sender packet after, run.log = before ++ .built sender packet :: after →
      Carries newCrypto sender packet (survivors before)) ∧
    (∀ before answer between sender packet after,
      run.log = before ++ .queued answer :: between ++ .built sender packet :: after →
      Carries newCrypto sender packet
        ((survivors before).filter (lasts (.queued answer :: between)) ++
          (if lasts between answer then [answer] else []) ++ survivors between)) ∧
    (∀ later answer, lasts later answer = true ↔
      (∀ event ∈ later, event.isCleared = false) ∧
        ((∃ payload, answer = .rxParamSetupAns payload) ∨ answer = .rxTimingSetupAns ∨
          (∃ payload, answer = .dlChannelAns payload) ∨
          ∀ event ∈ later, event.isBuilt = false)) ∧
    ∀ answer next, queueStep newCrypto N (.queue answer) run = .ok next →
      next.log = run.log ++
        [if run.session.uplink.pending.length + answer.serialize.bytes.length ≤ 15
          then .queued answer else .refused answer] := by
  have kept : Queued newCrypto run := by
    apply Transition.reachable_induction _ queueStep_keeps_queued run reached
    intro start starts
    obtain ⟨empty, none⟩ := starts
    constructor
    · rw [empty, none]
      rfl
    · intro before sender packet after split
      rw [none] at split
      cases (List.append_eq_nil_iff.mp split.symm).2
  refine ⟨run.session.uplink.fits, kept.pending, ?_, kept.carried, ?_, fun _ _ => lasts_iff,
    fun answer next => queueStep_notes newCrypto N answer run next⟩
  · rw [kept.pending, parseUplinkMacCommands_bytesOf]
  · intro before answer between sender packet after split
    have carried := kept.carried _ _ _ _ split
    rw [survivors_append, survivors, ← List.append_assoc] at carried
    exact carried

/-- RXTimingSetupAns, LinkADRAns and an uplink: what is sent again. -/
theorem answers_are_carried_while_they_last_sample :
    ∃ run : QueueRun, run.log.length = 3 ∧ run.session.uplink.pending = [0x08] ∧
      parseUplinkMacCommands run.session.uplink.pending = survivors run.log := by
  let start : QueueRun := ⟨Sample.session, []⟩
  let ops : List QueueOp := [.queue .rxTimingSetupAns, .queue (.linkADRAns #v[7]),
    .build ⟨[1], 1, false⟩ Sample.configuration Sample.rx.region]
  have sent : (do
      let run ← Transition.run (queueStep Sample.env.newCrypto 256) ops start
      return (run.log.length, run.session.uplink.pending)) = .ok (3, [0x08]) := by
    decide +kernel
  obtain ⟨run, ran, same⟩ := Checked.bind_eq_ok_iff.mp sent
  obtain ⟨length, pending⟩ := Prod.mk.inj (Except.ok.inj same)
  have reached : Transition.Reachable (queueStep Sample.env.newCrypto 256) QueueRun.Starts run :=
    ⟨start, ops, ⟨rfl, rfl⟩, ran⟩
  exact ⟨run, length, pending, (answers_are_carried_while_they_last reached).2.2.1⟩

end LoraRs.Mac
