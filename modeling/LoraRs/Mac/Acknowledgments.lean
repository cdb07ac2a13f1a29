import LoraRs.Mac.FrameCounter
import LoraRs.Mac.UplinkFrames

/-!
# The ACK bit over runs

Confirmed downlinks are noted when they are accepted and acknowledged by the next uplink
that is built, whatever is received or built in between.
-/

set_option autoImplicit false

namespace LoraRs.Mac

open LoraRs.Encoding LoraRs.Lib

/-! ## What a received frame does to the flag -/

theorem addMacCommands_confirmed (uplink : Uplink) (cmds : List SerializableMacCommand) :
    (uplink.addMacCommands cmds).confirmed = uplink.confirmed := by
  induction cmds generalizing uplink with
  | nil => rfl
  | cons cmd rest ih =>
      exact (ih (uplink.addMacCommand cmd)).trans (uplink.addMacCommand_confirmed cmd)

theorem handleCommands_confirmed {snr : Int8} {cmds : List DownlinkMacCommand}
    {st next : CmdState} {uplink out : Uplink}
    (ran : handleCommands snr cmds st uplink = .ok (next, out)) :
    out.confirmed = uplink.confirmed := by
  induction cmds generalizing st uplink with
  | nil =>
      cases ran
      rfl
  | cons cmd rest ih =>
      obtain ⟨⟨after, answers⟩, _, ran⟩ := Checked.bind_eq_ok_iff.mp ran
      exact (ih ran).trans (addMacCommands_confirmed uplink answers)

namespace Session

def confirmedFrame (env : RxEnv) (bytes : List Byte) (maxPayloadLen : Nat) (rx : RxState) :
    Bool :=
  (acceptedCounter env bytes maxPayloadLen rx).isSome &&
    match EncryptedDataPayload.parse bytes with
    | .ok data => data.isConfirmed
    | .error _ => false

theorem runMacs_confirmed {snr : Int8} {cmds : List Byte} {rx next : RxState}
    (ran : runMacs snr cmds rx = .ok next) :
    next.session.uplink.confirmed = rx.session.uplink.confirmed := by
  obtain ⟨⟨configuration, region, uplink⟩, handled, ran⟩ := Checked.bind_eq_ok_iff.mp ran
  cases ran
  obtain ⟨⟨st, out⟩, looped, handled⟩ := Checked.bind_eq_ok_iff.mp handled
  cases handled
  exact handleCommands_confirmed looped

theorem runFrameMacs_confirmed {decrypted : DecryptedDataPayload} {snr : Int8} {ignoreMac : Bool}
    {rx next : RxState} (ran : runFrameMacs decrypted snr ignoreMac rx = .ok next) :
    next.session.uplink.confirmed = rx.session.uplink.confirmed := by
  unfold runFrameMacs at ran
  split at ran
  · cases ran
    rfl
  · obtain ⟨middle, first, ran⟩ := Checked.bind_eq_ok_iff.mp ran
    split at ran
    · exact (runMacs_confirmed ran).trans (runMacs_confirmed first)
    · cases ran
      exact runMacs_confirmed first

theorem noteConfirmed_confirmed (confirmed : Bool) (rx : RxState) :
    (noteConfirmed confirmed rx).session.uplink.confirmed =
      (rx.session.uplink.confirmed || confirmed) := by
  cases confirmed with
  | false => exact (Bool.or_false _).symm
  | true => exact (Bool.or_true _).symm

theorem acceptDownlink_confirmed {env : RxEnv} {data : EncryptedDataPayload} {fcnt : UInt32}
    {snr : Int8} {ignoreMac : Bool} {rx next : RxState} {response : Response}
    (ran : acceptDownlink env data fcnt snr ignoreMac rx = .ok (response, next)) :
    next.session.uplink.confirmed = (rx.session.uplink.confirmed || data.isConfirmed) := by
  obtain ⟨deciphered, _, ran⟩ := Checked.bind_eq_ok_iff.mp ran
  obtain ⟨decrypted, _, ran⟩ := Checked.bind_eq_ok_iff.mp ran
  obtain ⟨middle, commands, ran⟩ := Checked.bind_eq_ok_iff.mp ran
  have kept := runFrameMacs_confirmed commands
  rw [closeDownlink_ok ran]
  exact (noteConfirmed_confirmed _ _).trans (congrArg (· || data.isConfirmed) kept)

/-- Only an accepted confirmed frame sets the flag, and nothing that is received unsets
it. -/
theorem handleRx_confirmed {env : RxEnv} {bytes : List Byte} {maxPayloadLen : Nat} {snr : Int8}
    {ignoreMac : Bool} {rx next : RxState} {response : Response}
    (ran : handleRx env bytes maxPayloadLen snr ignoreMac rx = .ok (response, next)) :
    next.session.uplink.confirmed =
      (rx.session.uplink.confirmed || confirmedFrame env bytes maxPayloadLen rx) := by
  cases handleRx_outcome ran with
  | malformed e unparsed =>
      rw [confirmedFrame, unparsed, Bool.and_false, Bool.or_false]
  | oversized data parsed large response session configuration completed =>
      have read := (EncryptedDataPayload.parse_eq_ok_iff bytes data).mpr parsed
      have none : acceptedCounter env bytes maxPayloadLen rx = none := by
        simp only [acceptedCounter, read, large, Bool.true_or, if_true]
      rw [confirmedFrame, none, Option.isSome_none, Bool.false_and, Bool.or_false]
      simp only
      rw [(rx2Complete_session completed).1]
  | multicast data parsed fits counted counting group response next handled =>
      have read := (EncryptedDataPayload.parse_eq_ok_iff bytes data).mpr parsed
      have none : acceptedCounter env bytes maxPayloadLen rx = none := by
        simp only [acceptedCounter, read, group, Bool.or_true, if_true]
      rw [confirmedFrame, none, Option.isSome_none, Bool.false_and, Bool.or_false]
      obtain ⟨⟨answer, multicast, dl⟩, _, handled⟩ := Checked.bind_eq_ok_iff.mp handled
      cases handled
      exact (counted_same counting).confirmed
  | stale data parsed fits counted counting unicast old =>
      rw [confirmedFrame, acceptedCounter_of_parse parsed fits unicast, old, Option.bind_none,
        Option.isSome_none, Bool.false_and, Bool.or_false]
      exact (counted_same counting).confirmed
  | forged data parsed fits counted counting unicast fcnt fresh invalid =>
      rw [confirmedFrame, acceptedCounter_of_parse parsed fits unicast, fresh, Option.bind_some,
        invalid, if_neg Bool.false_ne_true, Option.isSome_none, Bool.false_and, Bool.or_false]
      exact (counted_same counting).confirmed
  | accepted data parsed fits counted counting unicast fcnt fresh valid response next handled =>
      have read := (EncryptedDataPayload.parse_eq_ok_iff bytes data).mpr parsed
      rw [confirmedFrame, acceptedCounter_of_parse parsed fits unicast, fresh, Option.bind_some,
        valid, if_pos rfl, Option.isSome_some, Bool.true_and, read, acceptDownlink_confirmed handled,
        (counted_same counting).confirmed]

end Session

/-! ## Runs -/

/-- A confirmed frame was accepted; an uplink was built. -/
inductive AckEvent where
  | confirmed
  | built (packet : List Byte)
  deriving DecidableEq

namespace AckEvent

def isBuilt : AckEvent → Bool
  | built _ => true
  | confirmed => false

end AckEvent

/-- A run of a session with what matters for acknowledgments. -/
structure AckRun where
  run : SessionRun
  log : List AckEvent

namespace AckRun

/-- A session that has not received anything. -/
def Starts (state : AckRun) : Prop :=
  state.run.rx.session.uplink.confirmed = false ∧ state.log = []

end AckRun

def ackEvents (env : RxEnv) (bufferSize : Nat) (event : SessionEvent) (rx : RxState) :
    List AckEvent :=
  match event with
  | .received bytes maxPayloadLen _ _ =>
      if Session.confirmedFrame env bytes maxPayloadLen rx then [.confirmed] else []
  | .uplinkBuilt data =>
      match rx.session.prepareBuffer env.newCrypto bufferSize data rx.configuration rx.region with
      | .ok (_, packet, _) => [.built packet]
      | .error _ => []
  | .windowsClosed | .answerQueued _ | .reconfigured _ _ _ _ _ => []

def ackStep (env : RxEnv) (bufferSize : Nat) (event : SessionEvent) (state : AckRun) :
    Checked AckRun := do
  let run ← sessionStep env bufferSize event state.run
  return ⟨run, state.log ++ ackEvents env bufferSize event state.run.rx⟩

/-- A confirmed frame was accepted and no uplink was built since. -/
def Owed (log : List AckEvent) : Prop :=
  ∃ before after, log = before ++ .confirmed :: after ∧ ∀ event ∈ after, event.isBuilt = false

theorem not_owed_nil : ¬ Owed [] := by
  rintro ⟨before, after, split, _⟩
  cases (List.append_eq_nil_iff.mp split.symm).2

theorem owed_confirmed (log : List AckEvent) : Owed (log ++ [.confirmed]) :=
  ⟨log, [], rfl, fun _ inside => absurd inside List.not_mem_nil⟩

theorem not_owed_built (log : List AckEvent) (packet : List Byte) :
    ¬ Owed (log ++ [.built packet]) := by
  rintro ⟨before, after, split, unbuilt⟩
  rcases List.eq_nil_or_concat after with rfl | ⟨front, final, rfl⟩
  · cases (List.append_inj' split rfl).2
  · have shifted : log ++ [AckEvent.built packet] = (before ++ .confirmed :: front) ++ [final] := by
      rw [split]
      simp
    have same := (List.append_inj' shifted rfl).2
    have last := unbuilt final (by simp)
    rw [← (List.cons.inj same).1] at last
    cases last

theorem mem_of_owed {before between : List AckEvent} {first : List Byte}
    (owed : Owed (before ++ .built first :: between)) : .confirmed ∈ between := by
  obtain ⟨earlier, later, split, unbuilt⟩ := owed
  rcases List.append_eq_append_iff.mp split with ⟨front, _, rest⟩ | ⟨front, _, rest⟩
  · cases front with
    | nil => cases rest
    | cons head front =>
        rw [(List.cons.inj rest).2]
        simp
  · cases front with
    | nil => cases rest
    | cons head front =>
        have built := unbuilt (.built first) (by rw [(List.cons.inj rest).2]; simp)
        cases built

/-- The flag is what is owed, and each uplink acknowledged what was owed. -/
structure Acknowledging (state : AckRun) : Prop where
  flag : state.run.rx.session.uplink.confirmed = true ↔ Owed state.log
  packets : ∀ before packet after, state.log = before ++ .built packet :: after →
    (acknowledges packet = true ↔ Owed before)

theorem packets_concat {log : List AckEvent} {event : AckEvent}
    (earlier : ∀ before packet after, log = before ++ .built packet :: after →
      (acknowledges packet = true ↔ Owed before))
    (last : ∀ packet, event = .built packet → (acknowledges packet = true ↔ Owed log))
    (before : List AckEvent) (packet : List Byte) (after : List AckEvent)
    (split : log ++ [event] = before ++ .built packet :: after) :
    acknowledges packet = true ↔ Owed before := by
  rcases List.eq_nil_or_concat after with rfl | ⟨front, final, rfl⟩
  · obtain ⟨rfl, same⟩ := List.append_inj' split rfl
    exact last packet (List.cons.inj same).1
  · have shifted : log ++ [event] = (before ++ .built packet :: front) ++ [final] := by
      rw [split]
      simp
    exact earlier before packet front (List.append_inj' shifted rfl).1

theorem ackStep_keeps_acknowledging {env : RxEnv} {bufferSize : Nat} (event : SessionEvent)
    (state next : AckRun) (before : Acknowledging state)
    (stepped : ackStep env bufferSize event state = .ok next) : Acknowledging next := by
  obtain ⟨flag, packets⟩ := before
  obtain ⟨run, ran, same⟩ := Checked.bind_eq_ok_iff.mp stepped
  cases same
  cases event with
  | received bytes maxPayloadLen snr ignoreMac =>
      obtain ⟨⟨response, rx⟩, handled, ran⟩ := Checked.bind_eq_ok_iff.mp ran
      cases ran
      have moved := Session.handleRx_confirmed handled
      simp only [ackEvents]
      cases confirmed : Session.confirmedFrame env bytes maxPayloadLen state.run.rx with
      | false =>
          rw [confirmed, Bool.or_false] at moved
          simp only [Bool.false_eq_true, if_false, List.append_nil]
          refine ⟨?_, packets⟩
          rw [moved]
          exact flag
      | true =>
          rw [confirmed, Bool.or_true] at moved
          rw [if_pos rfl]
          exact ⟨iff_of_true moved (owed_confirmed _),
            packets_concat packets fun _ same => by cases same⟩
  | windowsClosed =>
      obtain ⟨⟨response, session, configuration⟩, completed, ran⟩ :=
        Checked.bind_eq_ok_iff.mp ran
      cases ran
      simp only [ackEvents, List.append_nil]
      refine ⟨?_, packets⟩
      rw [(Session.rx2Complete_session completed).1]
      exact flag
  | uplinkBuilt data =>
      obtain ⟨⟨fcnt, packet, session⟩, built, ran⟩ := Checked.bind_eq_ok_iff.mp ran
      cases ran
      obtain ⟨_, rfl, _, _, _, prepared⟩ :=
        (Session.prepareBuffer_eq_ok_iff _ _ _ _ _ _ _ _ _).mp built
      simp only [ackEvents, built]
      refine ⟨iff_of_false (by simp [Session.afterUplink, Uplink.sent,
        Uplink.clearDownlinkConfirmation]) (not_owed_built _ _), ?_⟩
      apply packets_concat packets
      intro sent same
      cases same
      rw [prepared.acknowledges_eq]
      exact flag
  | answerQueued cmd =>
      cases ran
      simp only [ackEvents, List.append_nil]
      refine ⟨?_, packets⟩
      rw [Uplink.addMacCommand_confirmed]
      exact flag
  | reconfigured region configuration certification multicast dl =>
      cases ran
      simp only [ackEvents, List.append_nil]
      exact ⟨flag, packets⟩

/-- In every run an uplink has its ACK bit set if and only if a confirmed frame was accepted
since the uplink before it; so no frame is acknowledged in two uplinks. -/
theorem uplinks_acknowledge_what_is_owed {env : RxEnv} {bufferSize : Nat} {state : AckRun}
    (reached : Transition.Reachable (ackStep env bufferSize) AckRun.Starts state) :
    (∀ before packet after, state.log = before ++ .built packet :: after →
      (acknowledges packet = true ↔ Owed before)) ∧
    ∀ before first between second after,
      state.log = before ++ .built first :: between ++ .built second :: after →
      acknowledges second = true → .confirmed ∈ between := by
  have kept : Acknowledging state := by
    apply Transition.reachable_induction _ ackStep_keeps_acknowledging state reached
    intro start starts
    obtain ⟨unset, empty⟩ := starts
    constructor
    · rw [unset, empty]
      exact iff_of_false Bool.false_ne_true not_owed_nil
    · intro before packet after split
      rw [empty] at split
      cases (List.append_eq_nil_iff.mp split.symm).2
  refine ⟨kept.packets, ?_⟩
  intro before first between second after split set
  exact mem_of_owed ((kept.packets _ _ _ split).mp set)

/-- A confirmed downlink, the same one replayed, and two uplinks. -/
theorem uplinks_acknowledge_what_is_owed_sample : ∃ (state : AckRun) (first second : List Byte),
    state.log = [.confirmed, .built first, .built second] ∧
      (acknowledges first = true ↔ Owed [.confirmed]) ∧
      (acknowledges second = true ↔ Owed [.confirmed, .built first]) := by
  let start : AckRun := ⟨⟨Sample.rx, []⟩, []⟩
  let frame := Sample.frame .confirmedDown 5 [] (.macCommands [])
  let events : List SessionEvent := [.received frame 59 0 false, .uplinkBuilt ⟨[1], 1, false⟩,
    .received frame 59 0 false, .uplinkBuilt ⟨[1], 1, false⟩]
  have noted : (·.log) <$> Transition.run (ackStep Sample.env 256) events start =
      .ok [.confirmed, .built [64, 4, 3, 2, 1, 160, 1, 0, 1, 1, 97, 98, 99, 100],
        .built [64, 4, 3, 2, 1, 128, 1, 0, 1, 1, 65, 66, 67, 68]] := by
    decide +kernel
  obtain ⟨state, ran, log⟩ := Checked.map_eq_ok_iff.mp noted
  have reached : Transition.Reachable (ackStep Sample.env 256) AckRun.Starts state :=
    ⟨start, events, ⟨rfl, rfl⟩, ran⟩
  obtain ⟨packets, _⟩ := uplinks_acknowledge_what_is_owed reached
  exact ⟨state, _, _, log, packets [.confirmed] _ _ log, packets [.confirmed, .built _] _ [] log⟩

end LoraRs.Mac
