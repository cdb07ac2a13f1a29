import LoraRs.AsyncDevice.InSession
import LoraRs.Encoding.CipherLimits
import LoraRs.Lib.Numbering
import LoraRs.Mac.UplinkFrames

/-!
# Counters of the uplinks of a session

A frame is built with the counter of the session and the counter moves later, at the end
of the windows or with a received frame.  The counter of each uplink therefore tells how
often that has happened, and two uplinks have the same counter when it has not.
-/

set_option autoImplicit false

namespace LoraRs.AsyncDevice

open LoraRs.Encoding LoraRs.Lib LoraRs.Mac
open LoraRs.Region (Frame Window RfConfig RxConfig TxConfig)

/-! ## Steps that count an uplink -/

/-- The counter after an uplink has been counted; the last one stays. -/
def countUplink (fcntUp : UInt32) : UInt32 :=
  if fcntUp = lastFcntUp then lastFcntUp else fcntUp + 1

theorem countUplink_toNat (fcntUp : UInt32) :
    (countUplink fcntUp).toNat = min (fcntUp.toNat + 1) lastFcntUp.toNat := by
  have bound := fcntUp.toNat_lt
  have last : lastFcntUp.toNat = 4294967295 := rfl
  unfold countUplink
  split
  · rename_i same
    rw [same, last]
    omega
  · rename_i below
    have unequal : fcntUp.toNat ≠ lastFcntUp.toNat := fun same => below (UInt32.toNat_inj.mp same)
    have one : (1 : UInt32).toNat = 1 := rfl
    rw [UInt32.toNat_add, one]
    omega

def sessionCounts (env : RxEnv) (bytes : List Byte) (maxPayloadLen : Nat) (rx : RxState) : Bool :=
  (EncryptedDataPayload.parse bytes).isOk && Session.isOversized maxPayloadLen bytes ||
    (Session.acceptedCounter env bytes maxPayloadLen rx).isSome

/-- A received frame moves the counter just when the session counts an uplink with it. -/
theorem handleRx_counts {env : RxEnv} {bytes : List Byte} {maxPayloadLen : Nat} {snr : Int8}
    {ignoreMac : Bool} {rx next : RxState} {response : Response}
    (ran : Session.handleRx env bytes maxPayloadLen snr ignoreMac rx = .ok (response, next)) :
    next.session.fcntUp =
      if sessionCounts env bytes maxPayloadLen rx then countUplink rx.session.fcntUp
      else rx.session.fcntUp := by
  cases Session.handleRx_outcome ran with
  | malformed e unparsed =>
      have refused : sessionCounts env bytes maxPayloadLen rx = false := by
        simp only [sessionCounts, Session.acceptedCounter, unparsed]
        rfl
      rw [refused]
      rfl
  | oversized data parsed large response session configuration completed =>
      have counts : sessionCounts env bytes maxPayloadLen rx = true := by
        simp only [sessionCounts, (EncryptedDataPayload.parse_eq_ok_iff bytes data).mpr parsed,
          large]
        rfl
      rw [counts, if_pos rfl, countUplink]
      obtain ⟨last, _, counter⟩ | ⟨going, _, counter⟩ := Session.rx2Complete_counts completed
      · rw [if_pos last, ← last]
        exact counter
      · rw [if_neg going]
        exact counter
  | multicast data parsed fits counted counting group response next handled =>
      have refused : sessionCounts env bytes maxPayloadLen rx = false := by
        simp only [sessionCounts, Session.acceptedCounter,
          (EncryptedDataPayload.parse_eq_ok_iff bytes data).mpr parsed, fits, group]
        rfl
      obtain ⟨⟨answer, multicast, dl⟩, _, handled⟩ := Checked.bind_eq_ok_iff.mp handled
      cases handled
      rw [refused]
      exact (Session.counted_same counting).fcntUp
  | stale data parsed fits counted counting unicast old =>
      have refused : sessionCounts env bytes maxPayloadLen rx = false := by
        simp only [sessionCounts, Session.acceptedCounter_of_parse parsed fits unicast, fits, old,
          Bool.and_false]
        rfl
      rw [refused]
      exact (Session.counted_same counting).fcntUp
  | forged data parsed fits counted counting unicast fcnt fresh invalid =>
      have refused : sessionCounts env bytes maxPayloadLen rx = false := by
        simp only [sessionCounts, Session.acceptedCounter_of_parse parsed fits unicast, fits, fresh,
          Option.bind_some, invalid, Bool.and_false]
        rfl
      rw [refused]
      exact (Session.counted_same counting).fcntUp
  | accepted data parsed fits counted counting unicast fcnt fresh valid response next handled =>
      have counts : sessionCounts env bytes maxPayloadLen rx = true := by
        simp only [sessionCounts, Session.acceptedCounter_of_parse parsed fits unicast, fresh,
          Option.bind_some, valid, if_true, Option.isSome_some, Bool.or_true]
      rw [counts, (Session.acceptDownlink_ok handled).fcntUp,
        (Session.counted_same counting).fcntUp]
      rfl

def Reception.counts (env : DeviceEnv) (reception : Reception) : Bool :=
  match reception.mac.state with
  | .joined session =>
      sessionCounts env.toRxEnv reception.frame.bytes reception.rf.maxPayloadLen
        (reception.mac.lend session [])
  | .otaa _ | .unjoined => false

/-- The windows end, or a frame is received with which the session counts an uplink. -/
def Action.counts (env : DeviceEnv) : Action → Bool
  | .windowsClosed => true
  | .received reception => reception.counts env
  | .tx _ _ _ | .setupRx _ _ | .lowPower | .timerFired _ => false

/-- The counter of a data frame that is handed to the radio. -/
def Action.fcnt : Action → Option Nat
  | .tx fcnt _ _ => fcnt.map UInt32.toNat
  | .received _ | .windowsClosed | .setupRx _ _ | .lowPower | .timerFired _ => none

/-! ## Runs -/

/-- The counter that is reached by these steps from `start`. -/
abbrev fcntAfter (env : DeviceEnv) (start : UInt32) (steps : List Action) : Nat :=
  numberAfter (Action.counts env) lastFcntUp.toNat start.toNat steps

abbrev UplinksNumbered (env : DeviceEnv) (start : UInt32) (steps : List Action) : Prop :=
  Numbered (Action.counts env) Action.fcnt lastFcntUp.toNat start.toNat steps

/-- The uplinks since `seen` are numbered from `start` on, up to the counter of the session. -/
structure CountedFrom (env : DeviceEnv) (start : UInt32) (seen : List Action)
    (session : Session) (steps : List Action) (world : World) : Prop where
  joined : world.device.mac.state = .joined session
  trace : world.trace = seen ++ steps
  numbered : UplinksNumbered env start steps
  reached : session.fcntUp.toNat = fcntAfter env start steps

namespace CountedFrom

variable {env : DeviceEnv} {start : UInt32} {seen steps : List Action} {session : Session}
  {world : World}

/-- A step that is no uplink, with the counter that the session has after it. -/
theorem note (counted : CountedFrom env start seen session steps world) {action : Action}
    {next : Device} {after : Session} (joined : next.mac.state = .joined after)
    (silent : action.fcnt = none)
    (reached : after.fcntUp.toNat = fcntAfter env start (steps ++ [action])) :
    CountedFrom env start seen after (steps ++ [action])
      (({ world with device := next } : World).note action) := by
  refine ⟨joined, ?_, ?_, reached⟩
  · rw [World.note_trace, counted.trace, List.append_assoc]
  · refine Numbered.concat_iff.mpr ⟨counted.numbered, ?_⟩
    intro n found
    rw [silent] at found
    cases found

theorem count (counted : CountedFrom env start seen session steps world) {action : Action}
    {next : Device} {after : Session} (joined : next.mac.state = .joined after)
    (silent : action.fcnt = none) (counts : action.counts env = true)
    (moved : after.fcntUp = countUplink session.fcntUp) :
    CountedFrom env start seen after (steps ++ [action])
      (({ world with device := next } : World).note action) := by
  refine counted.note joined silent ?_
  rw [moved, countUplink_toNat, counted.reached]
  exact (numberAfter_counted counts).symm

theorem rest (counted : CountedFrom env start seen session steps world) {action : Action}
    {next : Device} {after : Session} (joined : next.mac.state = .joined after)
    (silent : action.fcnt = none) (uncounted : action.counts env = false)
    (same : after.fcntUp = session.fcntUp) :
    CountedFrom env start seen after (steps ++ [action])
      (({ world with device := next } : World).note action) := by
  refine counted.note joined silent ?_
  rw [same, counted.reached]
  exact (numberAfter_uncounted uncounted).symm

end CountedFrom

theorem counted_keptInSession (env : DeviceEnv) (start : UInt32) (seen : List Action) :
    KeptInSession env fun world =>
      ∃ session steps, CountedFrom env start seen session steps world where
  joined := by
    rintro world ⟨session, steps, counted⟩
    exact ⟨session, counted.joined⟩
  passive := by
    rintro action world passive ⟨session, steps, counted⟩
    cases action with
    | setupRx | lowPower | timerFired =>
        exact ⟨session, _, counted.rest counted.joined rfl rfl rfl⟩
    | tx | received | windowsClosed => exact absurd passive id
  changed := by
    rintro next world ⟨same⟩ ⟨session, steps, counted⟩
    obtain ⟨after, joined, kept⟩ := same session counted.joined
    refine ⟨after, steps, joined, counted.trace, counted.numbered, ?_⟩
    rw [kept]
    exact counted.reached
  sent := by
    rintro world next fcnt packet config ⟨session, steps, counted⟩ built
    obtain ⟨before, after, state, joined, counter, kept⟩ := built.session
    cases counted.joined.symm.trans state
    have same : after.fcntUp = session.fcntUp := by rw [kept]
    refine ⟨after, steps ++ [.tx (some fcnt) packet config], joined, ?_, ?_, ?_⟩
    · rw [World.note_trace, counted.trace, List.append_assoc]
    · refine Numbered.concat_iff.mpr ⟨counted.numbered, ?_⟩
      intro n found
      cases found
      rw [counter]
      exact counted.reached
    · rw [same, counted.reached]
      exact (numberAfter_uncounted rfl).symm
  received := by
    rintro listening frame rf ignoreMac world session response rx ⟨begun, steps, counted⟩ joined
      handled
    cases counted.joined.symm.trans joined
    have moved := handleRx_counts handled
    have heard : Reception.counts env ⟨listening, frame, rf, world.device.mac⟩ =
        sessionCounts env.toRxEnv frame.bytes rf.maxPayloadLen (world.device.lend session) := by
      simp only [Reception.counts, joined]
      rfl
    cases counts : sessionCounts env.toRxEnv frame.bytes rf.maxPayloadLen
      (world.device.lend session) with
    | true =>
        rw [counts, if_pos rfl] at moved
        exact ⟨rx.session, _, counted.count rfl rfl (heard.trans counts) moved⟩
    | false =>
        rw [counts, if_neg Bool.false_ne_true] at moved
        exact ⟨rx.session, _, counted.rest rfl rfl (heard.trans counts) moved⟩
  closed := by
    rintro response next world ⟨session, steps, counted⟩ ran
    obtain ⟨after, configuration, completed, rfl⟩ := Device.rx2Complete_joined counted.joined ran
    refine ⟨after, _, counted.count rfl rfl rfl ?_⟩
    rw [countUplink]
    obtain ⟨last, _, counter⟩ | ⟨going, _, counter⟩ := Session.rx2Complete_counts completed
    · rw [if_pos last, counter, last]
    · rw [if_neg going, counter]

/-! ## Blocks -/

/-- A block as `generate_helper_block` makes it for this counter; the last octet counts the blocks
or tells the length. -/
def UsesBlock (fcnt : UInt32) (block : Block) : Prop :=
  ∃ data first header octet,
    block = Fields.setAt (SecurityHelpers.generateHelperBlock data first fcnt header) 15 octet

theorem usesBlock_unique {first second : UInt32} {block : Block} (uses : UsesBlock first block)
    (again : UsesBlock second block) : first = second := by
  obtain ⟨data, head, header, octet, rfl⟩ := uses
  obtain ⟨other, otherHead, otherHeader, otherOctet, same⟩ := again
  refine SecurityHelpers.fcntByte_injective ?_
  intro k small
  have place := congrArg (fun block : Block => block.get ⟨10 + k, by omega⟩) same
  simp only [Fields.get_setAt] at place
  have octets : k = 0 ∨ k = 1 ∨ k = 2 ∨ k = 3 := by omega
  obtain rfl | rfl | rfl | rfl := octets <;> exact place

theorem enciphers_usesBlock {frame : Encoding.DataFrame} {nwkCrypto : Crypto}
    {appCrypto : Option Crypto} {packet : List Byte} {blocks : List Block}
    (enciphers : frame.Enciphers nwkCrypto appCrypto packet blocks) :
    ∀ block ∈ blocks, UsesBlock frame.fcnt block := by
  obtain ⟨fPort, frm, encCrypto, counters, message, long, _, ran, _, _, rfl⟩ := enciphers
  intro block inside
  obtain counted | last := List.mem_append.mp inside
  · rw [DataFrame.counterBlocks] at ran
    split at ran
    · cases ran
      cases counted
    · obtain ⟨octet, _, rfl⟩ := SecurityHelpers.counterBlocks_later ran block counted
      exact ⟨_, _, DataFrame.plain_long _ _ _, octet, rfl⟩
  · rw [List.mem_singleton.mp last]
    exact ⟨_, _, long, _, rfl⟩

/-- A session has built the packet from a frame with this counter, and these are the blocks
that it has enciphered for it. -/
def BuiltWith (newCrypto : NewCrypto) (fcnt : UInt32) (packet : List Byte)
    (blocks : List Block) : Prop :=
  ∃ (session : Session) (frame : Encoding.DataFrame), frame.fcnt = fcnt ∧
    frame.Enciphers (newCrypto session.nwkskey.inner) (some (newCrypto session.appskey.inner))
      packet blocks

theorem prepareData_builtWith {env : MacEnv} {data : SendData} {mac next : Mac.Mac}
    {fcnt : UInt32} {packet : List Byte}
    (ran : mac.prepareData env data = .ok (.ok (fcnt, packet, next))) :
    ∃ blocks, BuiltWith env.newCrypto fcnt packet blocks := by
  obtain ⟨session, _, joined, _, counter, _⟩ := (prepareData_built ran).session
  obtain ⟨given, adrAckReq, fOpts, payload, state, prepared⟩ := prepareData_prepared ran
  cases joined.symm.trans state
  obtain ⟨blocks, enciphers⟩ := DataFrame.buildInto_enciphers prepared.built
  exact ⟨blocks, session, _, counter.symm, enciphers⟩

/-- Every data frame since `seen` was handed to the radio as a session has built it. -/
def FramesBuilt (env : DeviceEnv) (seen : List Action) (world : World) : Prop :=
  ∃ steps, world.trace = seen ++ steps ∧
    ∀ fcnt packet config, .tx (some fcnt) packet config ∈ steps →
      ∃ blocks, BuiltWith env.newCrypto fcnt packet blocks

namespace FramesBuilt

variable {env : DeviceEnv} {seen : List Action} {world : World}

theorem note (built : FramesBuilt env seen world) (next : Device) {action : Action}
    (frame : ∀ fcnt packet config, action = .tx (some fcnt) packet config →
      ∃ blocks, BuiltWith env.newCrypto fcnt packet blocks) :
    FramesBuilt env seen (world.after action next) := by
  obtain ⟨steps, trace, earlier⟩ := built
  refine ⟨steps ++ [action], ?_, ?_⟩
  · rw [World.after, World.note_trace, trace, List.append_assoc]
  · intro fcnt packet config inside
    obtain before | last := List.mem_append.mp inside
    · exact earlier fcnt packet config before
    · exact frame fcnt packet config (List.mem_singleton.mp last).symm

theorem keptBySteps (env : DeviceEnv) (seen : List Action) :
    KeptBySteps env (fun _ => True) (FramesBuilt env seen) where
  passive action world passive built := by
    refine built.note world.device ?_
    rintro fcnt packet config rfl
    exact absurd passive id
  linked _ built := built
  sent data world next fcnt packet config rxWindows _ built ran := by
    refine built.note next ?_
    rintro _ _ _ ⟨⟩
    obtain ⟨middle, prepared⟩ := Device.send_prepares ran
    exact prepareData_builtWith prepared
  replied world next fcnt packet config built replies := by
    refine built.note next ?_
    rintro _ _ _ ⟨⟩
    obtain ran | ran := replies
    · obtain ⟨data, middle, prepared⟩ := Device.multicastSetupSend_prepares ran
      exact prepareData_builtWith prepared
    · obtain ⟨data, middle, prepared⟩ := Device.certificationSetupSend_prepares ran
      exact prepareData_builtWith prepared
  received _ _ _ _ _ next built _ := built.note next (by intro _ _ _ same; cases same)
  receivedRxc _ _ _ _ _ next built _ := built.note next (by intro _ _ _ same; cases same)
  refused _ _ _ world _ built _ := built.note world.device (by intro _ _ _ same; cases same)
  closed _ next _ built _ := built.note next (by intro _ _ _ same; cases same)

theorem call_keeps {call : Call} (within : call.WithinSession) :
    call.Keeps env (fun _ => True) (FramesBuilt env seen) := by
  cases call with
  | joinOtaa credentials answers => exact absurd within id
  | joinAbp nwkskey appskey devaddr => exact absurd within id
  | send | rxcListen => trivial
  | takeDownlink | setClassC | setDatarate | setAdr | setMulticast => exact fun _ built => built

end FramesBuilt

/-- A run of a session from `start` and the steps it has added. -/
theorem uplinks_counted {env : DeviceEnv} {world final : World} {session : Session}
    {calls : List Call} (joined : world.device.mac.state = .joined session)
    (within : ∀ call ∈ calls, call.WithinSession)
    (ran : Transition.run (callStep env) calls world = .ok final) :
    ∃ steps, final.trace = world.trace ++ steps ∧ UplinksNumbered env session.fcntUp steps ∧
      ∀ fcnt packet config, .tx (some fcnt) packet config ∈ steps →
        ∃ blocks, BuiltWith env.newCrypto fcnt packet blocks := by
  obtain ⟨reached, steps, counted⟩ :=
    (counted_keptInSession env session.fcntUp world.trace).run calls world final within
      ⟨session, [], joined, (List.append_nil _).symm, Numbered.nil, by
        have bound := session.fcntUp.toNat_lt
        have last : lastFcntUp.toNat = 4294967295 := rfl
        simp only [numberAfter, List.countP_nil]
        omega⟩ ran
  obtain ⟨later, trace, built⟩ := (FramesBuilt.keptBySteps env world.trace).run calls world final
    (fun call inside => FramesBuilt.call_keeps (within call inside))
    ⟨[], (List.append_nil _).symm, by
      intro _ _ _ inside
      cases inside⟩ ran
  cases List.append_cancel_left (counted.trace.symm.trans trace)
  exact ⟨steps, trace, counted.numbered, built⟩

theorem BuiltWith.usesBlock {newCrypto : NewCrypto} {fcnt : UInt32} {packet : List Byte}
    {blocks : List Block} (built : BuiltWith newCrypto fcnt packet blocks) :
    ∀ block ∈ blocks, UsesBlock fcnt block := by
  obtain ⟨session, frame, rfl, enciphers⟩ := built
  exact enciphers_usesBlock enciphers

/-- In every run of a session, whatever fails, each uplink has the counter that the session
started with plus one for each end of windows and each frame counted before it, up to the
last counter, and is enciphered with blocks of its counter only.  Of two uplinks the later has
a counter that is not below; it is the same just when nothing was counted in between or the
counters have run out, and otherwise the two share no block. -/
theorem uplinks_numbered (env : DeviceEnv) (world final : World) (session : Session)
    (calls : List Call) (joined : world.device.mac.state = .joined session)
    (within : ∀ call ∈ calls, call.WithinSession)
    (ran : Transition.run (callStep env) calls world = .ok final) :
    ∃ steps, final.trace = world.trace ++ steps ∧
      UplinksNumbered env session.fcntUp steps ∧
      (∀ (before between after : List Action) (first second : UInt32)
        (packet other : List Byte) (config otherConfig : TxConfig),
        steps = before ++ .tx (some first) packet config :: between ++
          .tx (some second) other otherConfig :: after →
        first ≤ second ∧
          (first = second ↔ first = lastFcntUp ∨
            ∀ action ∈ between, action.counts env = false) ∧
          (first ≠ second → ∀ block, UsesBlock first block → ¬ UsesBlock second block)) ∧
      ∀ (fcnt : UInt32) (packet : List Byte) (config : TxConfig),
        .tx (some fcnt) packet config ∈ steps →
        ∃ blocks, BuiltWith env.newCrypto fcnt packet blocks ∧
          ∀ block ∈ blocks, UsesBlock fcnt block := by
  obtain ⟨steps, trace, numbered, built⟩ := uplinks_counted joined within ran
  refine ⟨steps, trace, numbered, ?_, ?_⟩
  · intro before between after first second packet other config otherConfig split
    obtain ⟨below, same⟩ := numbered.compare split rfl rfl rfl
    refine ⟨UInt32.le_iff_toNat_le.mpr below, ?_, ?_⟩
    · rw [UInt32.toNat_inj, UInt32.toNat_inj] at same
      exact same
    · intro unequal block uses again
      exact unequal (usesBlock_unique uses again)
  · intro fcnt packet config inside
    obtain ⟨blocks, frame⟩ := built fcnt packet config inside
    exact ⟨blocks, frame, frame.usesBlock⟩

namespace Sample

def failing : UplinkAnswers := { uplink .rxTimeout .rxTimeout with tx := .error () }

/-- Two uplinks, the first of which fails, after one that went well. -/
def sends : List Call :=
  [.send data (uplink .rxTimeout .rxTimeout), .send data failing,
    .send ⟨[7], 3, true⟩ (uplink .rxTimeout .rxTimeout)]

end Sample

/-- The uplink after a failed transmission has its counter again. -/
theorem uplinks_numbered_sample : ∃ final steps,
    Transition.run (callStep Sample.env) Sample.sends Sample.world = .ok final ∧
      final.trace = Sample.world.trace ++ steps ∧
      UplinksNumbered Sample.env Mac.Sample.session.fcntUp steps ∧
      steps.filterMap Action.fcnt = [0, 1, 1] := by
  have counters : (fun final : World => final.trace.filterMap Action.fcnt) <$>
      Transition.run (callStep Sample.env) Sample.sends Sample.world = .ok [0, 1, 1] := by
    decide +kernel
  obtain ⟨final, ran, found⟩ := Checked.map_eq_ok_iff.mp counters
  obtain ⟨steps, trace, numbered, _⟩ := uplinks_numbered Sample.env Sample.world final
    Mac.Sample.session Sample.sends rfl (by
      intro call inside
      simp only [Sample.sends, List.mem_cons, List.not_mem_nil, or_false] at inside
      obtain rfl | rfl | rfl := inside <;> trivial) ran
  refine ⟨final, steps, ran, trace, numbered, ?_⟩
  rw [trace] at found
  exact found

namespace Sample

def sentFrame : Action → Option (UInt32 × List Byte)
  | .tx (some fcnt) packet _ => some (fcnt, packet)
  | _ => none

end Sample

end LoraRs.AsyncDevice
