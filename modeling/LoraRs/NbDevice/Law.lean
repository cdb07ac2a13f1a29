import LoraRs.NbDevice.Timing

/-!
# The law of a data procedure

A data frame that the non-blocking device has begun to send is answered once and counted
once by the time the machine is idle again, in every order of events.  The machine takes
`NoUpdate` for a stray frame, so the law needs that no frame is accepted and answered with
it; only the certification handler does that.
-/

set_option autoImplicit false

namespace LoraRs.NbDevice

open LoraRs.Encoding LoraRs.Lib LoraRs.Mac
open LoraRs.Region (Frame Window RfConfig TxConfig)

/-! ## Events that are illegal in a state -/

theorem illegal_refused {env : DeviceEnv} {event : Event} {turn : RadioTurn} {device : Device}
    {e : StateError} (refuses : illegal device.state event = some e) :
    device.handleEvent env event turn = .ok (device.stay [] (.error (.state e))) := by
  unfold Device.handleEvent
  cases state : device.state with
  | idle =>
      rw [state] at refuses
      cases event <;> cases refuses
      rfl
  | sendingData frame rxWindows =>
      rw [state] at refuses
      cases event <;> cases refuses <;> rfl
  | waitingForRxWindow frame rxWindows window =>
      rw [state] at refuses
      cases event <;> cases refuses <;> rfl
  | waitingForRx frame rxWindows window rf =>
      rw [state] at refuses
      cases event <;> cases refuses <;> rfl

/-- An event that fails leaves the device, the MAC and the random numbers included, but for
a frame that was built and that the radio did not begin to send. -/
theorem failed_leaves_device {env : DeviceEnv} {event : Event} {turn : RadioTurn}
    {device : Device} {handled : Handled} {e : Error}
    (ran : device.handleEvent env event turn = .ok handled) (failed : handled.result = .error e) :
    handled.device = device ∨
      device.state = .idle ∧ handled.device.state = .idle ∧
        (e = .radio ∨ e = .state .unexpectedRadioResponse) ∧
        ∃ frame packet config rxWindows fcntUp,
          FrameBuilt env device event frame packet config rxWindows fcntUp handled.device := by
  cases Device.handleEvent_outcome ran with
  | refused | ignored | radioFailed | notSent => exact .inl rfl
  | @transmitted _ frame packet config rxWindows fcntUp prepared _ idle built ran =>
      refine .inr ⟨idle, ?_⟩
      have kept : { prepared with state := State.idle } = prepared := by
        have prepared_idle : prepared.state = .idle := by
          cases built <;> exact idle
        rw [← prepared_idle]
      obtain ⟨state, result, rfl, ⟨_, rfl⟩ | ⟨t1, _, rfl⟩ | ⟨rfl, unsent⟩⟩ := transmit_eq ran
      · cases failed
      · cases failed
      · refine ⟨rfl, ?_, frame, packet, config, rxWindows, fcntUp, ?_⟩
        · obtain rfl | rfl := unsent
          · cases failed
            exact .inl rfl
          · cases failed
            exact .inr rfl
        · rw [Device.enter, kept]
          exact built
  | txDone state answer ran =>
      obtain ⟨t1, _, rfl⟩ := dataRxwindow1Timeout_eq ran
      cases failed
  | opened state closes => cases failed
  | received state answer ran =>
      obtain ⟨_, response, downlink, mac, _, ⟨_, rfl⟩ | ⟨_, result, _, rfl⟩⟩ | ⟨_, rfl⟩ :=
        receive_eq ran
      · cases failed
      · cases failed
      · exact .inl rfl
  | ended state ran =>
      obtain ⟨t1, t2, _, rfl⟩ | ⟨t2, response, mac, answer, _, _, _, rfl⟩ := endWindow_eq ran
      · cases failed
      · cases failed

theorem refused_illegal {env : DeviceEnv} {event : Event} {turn : RadioTurn} {device : Device}
    {handled : Handled} {e : StateError} (ran : device.handleEvent env event turn = .ok handled)
    (unasked : handled.requests = []) (failed : handled.result = .error (.state e)) :
    illegal device.state event = some e := by
  cases Device.handleEvent_outcome ran with
  | refused refuses =>
      cases failed
      exact refuses
  | ignored | radioFailed | notSent | opened => cases failed
  | transmitted idle built ran =>
      obtain ⟨state, result, rfl, _⟩ := transmit_eq ran
      cases unasked
  | txDone state answer ran =>
      obtain ⟨t1, _, rfl⟩ := dataRxwindow1Timeout_eq ran
      cases failed
  | received state answer ran =>
      obtain ⟨_, response, downlink, mac, _, ⟨_, rfl⟩ | ⟨_, result, _, rfl⟩⟩ | ⟨_, rfl⟩ :=
        receive_eq ran
      · cases failed
      · cases failed
      · cases unasked
  | ended state ran =>
      obtain ⟨t1, t2, _, rfl⟩ | ⟨t2, response, mac, answer, _, _, _, rfl⟩ := endWindow_eq ran
      · cases failed
      · cases failed

theorem refused_iff {env : DeviceEnv} {event : Event} {turn : RadioTurn} {device : Device}
    {e : StateError} :
    device.handleEvent env event turn = .ok (device.stay [] (.error (.state e))) ↔
      illegal device.state event = some e :=
  ⟨fun ran => refused_illegal ran rfl rfl, illegal_refused⟩

def deviceStep (env : DeviceEnv) (event : Event × RadioTurn) (device : Device) :
    Checked Device := do
  return (← device.handleEvent env event.1 event.2).device

/-- Events that fail do not disturb a procedure: an illegal one is refused with the error of
its state and without a word to the radio, and a run is the same without it; no failure
changes the device, but for a frame that was built while idle, its counter not advanced, and
that the radio did not begin to send. -/
theorem failures_leave_the_machine (env : DeviceEnv) (event : Event) (turn : RadioTurn)
    (device : Device) :
    (∀ e, device.handleEvent env event turn = .ok (device.stay [] (.error (.state e))) ↔
      illegal device.state event = some e) ∧
    (∀ handled e, device.handleEvent env event turn = .ok handled → handled.result = .error e →
      handled.device = device ∨
        device.state = .idle ∧ handled.device.state = .idle ∧
          (e = .radio ∨ e = .state .unexpectedRadioResponse) ∧
          (∃ frame packet config rxWindows fcntUp,
            FrameBuilt env device event frame packet config rxWindows fcntUp handled.device) ∧
          ∀ session after, device.mac.state = .joined session →
            handled.device.mac.state = .joined after → after.fcntUp = session.fcntUp) ∧
    ∀ before after start, Transition.run (deviceStep env) before start = .ok device →
      illegal device.state event ≠ none →
      Transition.run (deviceStep env) (before ++ (event, turn) :: after) start =
        Transition.run (deviceStep env) (before ++ after) start := by
  refine ⟨fun e => refused_iff, ?_, ?_⟩
  · intro handled e ran failed
    rcases failed_leaves_device ran failed with same | ⟨idle, still, error, frame, packet, built⟩
    · exact .inl same
    · obtain ⟨config, rxWindows, fcntUp, built⟩ := built
      exact .inr ⟨idle, still, error, ⟨frame, packet, config, rxWindows, fcntUp, built⟩,
        fun session after => built.uncounted⟩
  intro before after start ran refused
  obtain ⟨e, refuses⟩ := Option.ne_none_iff_exists'.mp refused
  have skipped : deviceStep env (event, turn) device = .ok device := by
    rw [deviceStep, illegal_refused refuses]
    rfl
  rw [Transition.run_append, Transition.run_append, ran, Checked.ok_bind, Checked.ok_bind,
    Transition.run_cons, skipped, Checked.ok_bind]

/-! ## What ends a procedure -/

/-- The responses that end a procedure. -/
def Response.isTerminal : Response → Bool
  | .joinSuccess | .noJoinAccept | .downlinkReceived _ | .noAck | .sessionExpired
    | .rxComplete => true
  | .noUpdate | .timeoutRequest _ | .joinRequestSending | .uplinkSending _
    | .readyToSend => false

/-- What the client is told at the end of a procedure. -/
def terminals : Except Error Response → List Response
  | .ok response => if response.isTerminal then [response] else []
  | .error _ => []

theorem from_terminals {response : Mac.Response} {answer : Response}
    (updates : response ≠ .noUpdate) (converted : Response.from response = .ok answer) :
    terminals (.ok answer) = [answer] := by
  cases response with
  | noUpdate => exact absurd rfl updates
  | noAck | sessionExpired | downlinkReceived | noJoinAccept | joinSuccess | rxComplete =>
      cases converted
      rfl
  | linkCheckReq | uplinkPrepared | deviceHandler | multicast => cases converted

/-- The counter before a procedure, its response and the counter after it: the uplink is
counted, or there is no counter left and the response says so. -/
def Counted (counter : UInt32) (response : Response) (after : UInt32) : Prop :=
  (counter ≠ lastFcntUp ∧ response ≠ .sessionExpired ∧ after = counter + 1) ∨
    (counter = lastFcntUp ∧ response = .sessionExpired ∧ after = counter)

/-- A frame that the session accepts and that its handlers answer with `NoUpdate`. -/
def AcceptedSilently (env : RxEnv) (bytes : List Byte) (maxPayloadLen : Nat) (rx : RxState) :
    Prop :=
  rx.session.fcntUp ≠ lastFcntUp ∧ ∃ data fcnt decrypted,
    Session.Accepts env bytes maxPayloadLen rx data fcnt decrypted ∧
      Session.answerTo env rx.certification rx.multicast decrypted fcnt = .ok .noUpdate

section Received

variable {env : RxEnv} {bytes : List Byte} {maxPayloadLen : Nat} {rx : RxState}
  {response : Mac.Response} {after : UInt32}

/-- A frame that leaves the machine waiting is not counted. -/
theorem noUpdate_uncounted
    (answered : Session.Answered env bytes maxPayloadLen rx .noUpdate after)
    (heard : ¬ AcceptedSilently env bytes maxPayloadLen rx) : after = rx.session.fcntUp := by
  generalize same : Mac.Response.noUpdate = response at answered
  cases answered with
  | ignored => rfl
  | group => rfl
  | spent => rfl
  | closed large going =>
      split at same <;> cases same
  | expired => rfl
  | delivered data fcnt decrypted accepts going response answer =>
      subst same
      exact absurd ⟨going, data, fcnt, decrypted, accepts, answer⟩ heard

theorem answered_counted {answer : Response}
    (answered : Session.Answered env bytes maxPayloadLen rx response after)
    (updates : response ≠ .noUpdate) (converted : Response.from response = .ok answer) :
    Counted rx.session.fcntUp answer after := by
  cases answered with
  | ignored => exact absurd rfl updates
  | group => cases converted
  | spent large last =>
      cases converted
      exact .inr ⟨last, rfl, rfl⟩
  | closed large going =>
      refine .inl ⟨going, ?_, rfl⟩
      split at converted <;> cases converted <;> exact nofun
  | expired data fcnt decrypted accepts last =>
      cases converted
      exact .inr ⟨last, rfl, rfl⟩
  | delivered data fcnt decrypted accepts going response answer =>
      refine .inl ⟨going, ?_, rfl⟩
      obtain rfl | rfl | rfl | rfl | ⟨event, rfl⟩ | ⟨setup, rfl, _⟩ :=
        Session.answerTo_response answer
      · exact absurd rfl updates
      · cases converted
        exact nofun
      · cases converted
      · cases converted
      · cases converted
      · cases converted

theorem answered_not_joined
    (answered : Session.Answered env bytes maxPayloadLen rx response after) :
    response ≠ .joinSuccess := by
  cases answered with
  | ignored | group | spent | expired => exact nofun
  | closed => split <;> exact nofun
  | delivered data fcnt decrypted accepts going response answer =>
      obtain rfl | rfl | rfl | rfl | ⟨event, rfl⟩ | ⟨setup, rfl, _⟩ :=
        Session.answerTo_response answer <;> exact nofun

end Received

/-- A frame in a window of a session goes through the session. -/
theorem handleRx_answered {env : MacEnv} {mac next : Mac.Mac} {session : Session}
    {bytes : List Byte} {dl left : List Downlink} {snr : Int8} {rf : RfConfig}
    {response : Mac.Response} (joined : mac.state = .joined session)
    (ran : mac.handleRx env bytes dl snr rf = .ok (response, left, next)) :
    ∃ after, next.state = .joined after ∧
      Session.Answered env.toRxEnv bytes rf.maxPayloadLen (mac.lend session dl) response
        after.fcntUp := by
  simp only [Mac.Mac.handleRx, joined] at ran
  obtain ⟨⟨answer, rx⟩, handled, ran⟩ := Checked.bind_eq_ok_iff.mp ran
  cases ran
  exact ⟨rx.session, rfl, Session.handleRx_answered handled⟩

/-! ## The ledger of a run -/

/-- A data frame that was begun: the counter before it and what ended its procedure. -/
structure Sent where
  counter : UInt32
  terminals : List Response

/-- A data frame whose procedure is over, with the counter after it. -/
structure Done extends Sent where
  after : Option UInt32

/-- A device, the data frame it is sending and those sent in its session. -/
structure Ledger where
  device : Device
  current : Option Sent
  finished : List Done

def counter (mac : Mac.Mac) : Option UInt32 :=
  match mac.state with
  | .joined session => some session.fcntUp
  | .otaa _ => none
  | .unjoined => none

def begun (event : Event) (device : Device) (handled : Handled) : Option Sent :=
  match event with
  | .sendDataRequest _ =>
      if device.state = .idle ∧ handled.device.state ≠ .idle then
        (counter device.mac).map fun counter => ⟨counter, []⟩
      else none
  | _ => none

def isJoin : Except Error Response → Bool
  | .ok .joinSuccess => true
  | _ => false

def Ledger.follow (event : Event) (handled : Handled) (ledger : Ledger) : Ledger :=
  let current := (ledger.current.or (begun event ledger.device handled)).map fun sent =>
    { sent with terminals := sent.terminals ++ terminals handled.result }
  let finished := if isJoin handled.result then [] else ledger.finished
  if handled.device.state = .idle then
    ⟨handled.device, none,
      finished ++ (current.map fun sent => ⟨sent, counter handled.device.mac⟩).toList⟩
  else ⟨handled.device, current, finished⟩

def ledgerStep (env : DeviceEnv) (event : Event × RadioTurn) (ledger : Ledger) :
    Checked Ledger := do
  return ledger.follow event.1 (← ledger.device.handleEvent env event.1 event.2)

def Ledger.new (device : Device) : Ledger := ⟨device, none, []⟩

/-- The end of a data procedure as it should be: one response, and the uplink counted. -/
def Done.Lawful (done : Done) : Prop :=
  ∃ response after, done.terminals = [response] ∧ done.after = some after ∧
    Counted done.counter response after

/-- A later frame has a later counter, unless there was none left. -/
def Before (counter later : UInt32) : Prop := counter < later ∨ counter = lastFcntUp

/-- No frame that the machine receives is accepted silently. -/
def Heard (env : DeviceEnv) (event : Event × RadioTurn) (ledger : Ledger) : Prop :=
  ∀ radioEvent frame rxWindows window rf snr session, event.1 = .radioEvent radioEvent →
    ledger.device.state = .waitingForRx frame rxWindows window rf →
    event.2.answer = .ok (.rxDone snr) → event.2.packet.length < env.bufferSize →
    ledger.device.mac.state = .joined session →
    ¬ AcceptedSilently env.toRxEnv event.2.packet rf.maxPayloadLen
      (ledger.device.mac.lend session ledger.device.downlink)

/-! ## The invariant -/

def State.frame : State → Option Frame
  | .idle => none
  | .sendingData frame _ => some frame
  | .waitingForRxWindow frame _ _ => some frame
  | .waitingForRx frame _ _ _ => some frame

/-- What is under way: a data frame with the counter of the session, a JoinRequest or
nothing. -/
inductive Underway : Option Frame → Mac.State → Option Sent → Prop where
  | nothing (state : Mac.State) : Underway none state none
  | joining (otaa : Otaa) : Underway (some .join) (.otaa otaa) none
  | sending (session : Session) : Underway (some .data) (.joined session)
      (some ⟨session.fcntUp, []⟩)

/-- The data frames of the session were answered and counted once each, and the counter is
past them. -/
structure Past (finished : List Done) (state : Mac.State) : Prop where
  lawful : ∀ done ∈ finished, done.Lawful
  ordered : finished.Pairwise fun first second => Before first.counter second.counter
  behind : ∀ session, state = .joined session →
    ∀ done ∈ finished, Before done.counter session.fcntUp

structure Ledger.Lawful (ledger : Ledger) : Prop where
  underway : Underway ledger.device.state.frame ledger.device.mac.state ledger.current
  past : Past ledger.finished ledger.device.mac.state

namespace Past

variable {finished : List Done}

/-- The session may change as long as its counter does not. -/
theorem same {state next : Mac.State} (past : Past finished state)
    (kept : ∀ after, next = .joined after → ∃ session, state = .joined session ∧
      after.fcntUp = session.fcntUp) : Past finished next := by
  refine ⟨past.lawful, past.ordered, ?_⟩
  intro after joined done inside
  obtain ⟨session, state, counter⟩ := kept after joined
  rw [counter]
  exact past.behind session state done inside

theorem none (state : Mac.State) : Past [] state :=
  ⟨nofun, List.Pairwise.nil, nofun⟩

theorem next_lt {counter : UInt32} (going : counter ≠ lastFcntUp) : counter < counter + 1 := by
  have small := counter.toNat_lt
  have off : counter.toNat ≠ lastFcntUp.toNat := fun same => going (UInt32.toNat_inj.mp same)
  have top : lastFcntUp.toNat = 2 ^ 32 - 1 := rfl
  have room : counter.toNat + (1 : UInt32).toNat < 2 ^ 32 := by
    rw [UInt32.toNat_one]
    omega
  rw [UInt32.lt_iff_toNat_lt, UInt32.toNat_add, Nat.mod_eq_of_lt room, UInt32.toNat_one]
  omega

theorem before_counted {counter after earlier : UInt32} {response : Response}
    (counted : Counted counter response after) (before : Before earlier counter) :
    Before earlier after := by
  obtain ⟨going, _, rfl⟩ | ⟨_, _, rfl⟩ := counted
  · obtain less | last := before
    · exact .inl (UInt32.lt_trans less (next_lt going))
    · exact .inr last
  · exact before

end Past

/-! ## One event -/

theorem isJoin_of_silent {result : Except Error Response} (silent : terminals result = []) :
    isJoin result = false := by
  cases result with
  | error e => rfl
  | ok response => cases response <;> first | rfl | cases silent

theorem begun_of_busy {event : Event} {device : Device} {handled : Handled}
    (busy : device.state ≠ .idle) : begun event device handled = none := by
  cases event with
  | sendDataRequest data => exact if_neg fun both => busy both.1
  | join | radioEvent | timeoutFired => rfl

theorem begun_of_idle {event : Event} {device : Device} {handled : Handled}
    (idle : handled.device.state = .idle) : begun event device handled = none := by
  cases event with
  | sendDataRequest data => exact if_neg fun both => both.2 idle
  | join | radioEvent | timeoutFired => rfl

namespace Ledger

variable {event : Event} {handled : Handled} {ledger : Ledger}

theorem current_silent {current : Option Sent} {result : Except Error Response}
    (silent : terminals result = []) :
    (current.map fun sent => { sent with terminals := sent.terminals ++ terminals result }) =
      current := by
  cases current with
  | none => rfl
  | some sent => rw [Option.map_some, silent, List.append_nil]

/-- Nothing ends, and the machine goes on or stays idle. -/
theorem follow_silent (silent : terminals handled.result = [])
    (unbegun : begun event ledger.device handled = none)
    (still : handled.device.state = .idle → ledger.current = none) :
    ledger.follow event handled = ⟨handled.device, ledger.current, ledger.finished⟩ := by
  simp only [follow, unbegun, Option.or_none, current_silent silent, isJoin_of_silent silent,
    Bool.false_eq_true, if_false]
  split
  · rename_i idle
    rw [still idle]
    exact congrArg _ (List.append_nil _)
  · rfl

theorem follow_begun {sent : Sent} (silent : terminals handled.result = [])
    (free : ledger.current = none) (started : begun event ledger.device handled = some sent)
    (busy : handled.device.state ≠ .idle) :
    ledger.follow event handled = ⟨handled.device, some sent, ledger.finished⟩ := by
  simp only [follow, free, started, Option.none_or, current_silent silent,
    isJoin_of_silent silent, Bool.false_eq_true, if_false, if_neg busy]

theorem follow_ended {c : UInt32} {answer : Response} (sending : ledger.current = some ⟨c, []⟩)
    (told : handled.result = .ok answer) (ends : terminals (.ok answer) = [answer])
    (data : answer ≠ .joinSuccess) (idle : handled.device.state = .idle) :
    ledger.follow event handled = ⟨handled.device, none,
      ledger.finished ++ [⟨⟨c, [answer]⟩, counter handled.device.mac⟩]⟩ := by
  have unjoined : isJoin (.ok answer) = false := by
    cases answer <;> first | rfl | exact absurd rfl data
  simp only [follow, sending, told, ends, unjoined, if_pos idle, Option.some_or, Option.map_some,
    List.nil_append, Bool.false_eq_true, if_false, Option.toList_some]

theorem follow_joined (joining : ledger.current = none) (idle : handled.device.state = .idle) :
    ledger.follow event handled = ⟨handled.device, none,
      if isJoin handled.result then [] else ledger.finished⟩ := by
  simp only [follow, joining, begun_of_idle idle, Option.none_or, Option.map_none, if_pos idle,
    Option.toList_none, List.append_nil]

end Ledger

theorem Done.lawful_of_counted {c : UInt32} {answer : Response} {mac : Mac.Mac}
    {session : Session} (joined : mac.state = .joined session)
    (counted : Counted c answer session.fcntUp) :
    Done.Lawful ⟨⟨c, [answer]⟩, counter mac⟩ := by
  refine ⟨answer, session.fcntUp, rfl, ?_, counted⟩
  rw [counter, joined]

theorem Past.ended {finished : List Done} {mac : Mac.Mac} {session after : Session}
    {answer : Response} (past : Past finished (.joined session))
    (joined : mac.state = .joined after)
    (counted : Counted session.fcntUp answer after.fcntUp) :
    Past (finished ++ [⟨⟨session.fcntUp, [answer]⟩, counter mac⟩]) mac.state := by
  refine ⟨?_, ?_, ?_⟩
  · intro done inside
    obtain earlier | last := List.mem_append.mp inside
    · exact past.lawful done earlier
    · rw [List.mem_singleton.mp last]
      exact Done.lawful_of_counted joined counted
  · refine List.pairwise_append.mpr ⟨past.ordered, List.pairwise_singleton _ _, ?_⟩
    intro done earlier other last
    rw [List.mem_singleton.mp last]
    exact past.behind session rfl done earlier
  · intro other state done inside
    cases joined.symm.trans state
    obtain earlier | last := List.mem_append.mp inside
    · exact Past.before_counted counted (past.behind session rfl done earlier)
    · rw [List.mem_singleton.mp last]
      obtain ⟨going, _, same⟩ | ⟨last, _, _⟩ := counted
      · rw [same]
        exact .inl (Past.next_lt going)
      · exact .inr last

/-- A join accept is waited for without a session. -/
theorem handleRx_otaa {env : MacEnv} {mac next : Mac.Mac} {otaa : Otaa} {bytes : List Byte}
    {dl left : List Downlink} {snr : Int8} {rf : RfConfig} {response : Mac.Response}
    (waiting : mac.state = .otaa otaa)
    (ran : mac.handleRx env bytes dl snr rf = .ok (response, left, next)) :
    response = .joinSuccess ∨ response = .noUpdate ∧ next = mac := by
  simp only [Mac.Mac.handleRx, waiting] at ran
  obtain ⟨found, _, ran⟩ := Checked.bind_eq_ok_iff.mp ran
  cases found with
  | none =>
      cases ran
      exact .inr ⟨rfl, rfl⟩
  | some result =>
      cases ran
      exact .inl rfl

theorem rx2Complete_counted {mac next : Mac.Mac} {session : Session} {response : Mac.Response}
    {answer : Response} (joined : mac.state = .joined session)
    (ran : mac.rx2Complete = .ok (response, next))
    (converted : Response.from response = .ok answer) :
    ∃ after, next.state = .joined after ∧ terminals (.ok answer) = [answer] ∧
      answer ≠ .joinSuccess ∧ Counted session.fcntUp answer after.fcntUp := by
  simp only [Mac.Mac.rx2Complete, joined] at ran
  obtain ⟨⟨found, after, configuration⟩, completed, ran⟩ := Checked.bind_eq_ok_iff.mp ran
  cases ran
  refine ⟨after, rfl, ?_⟩
  obtain ⟨last, rfl, same⟩ | ⟨going, rfl, same⟩ := Session.rx2Complete_counts completed
  · cases converted
    exact ⟨rfl, nofun, .inr ⟨last, rfl, same⟩⟩
  · split at converted
    · cases converted
      exact ⟨rfl, nofun, .inl ⟨going, nofun, same⟩⟩
    · cases converted
      exact ⟨rfl, nofun, .inl ⟨going, nofun, same⟩⟩

/-- While the machine is idle no data frame is under way. -/
theorem Underway.free {frame : Option Frame} {state : Mac.State} {current : Option Sent}
    (underway : Underway frame state current) (nothing : frame = none) : current = none := by
  cases underway with
  | nothing => rfl
  | joining | sending => cases nothing

namespace Ledger.Lawful

variable {env : DeviceEnv} {event : Event} {turn : RadioTurn} {ledger : Ledger}
  {handled : Handled}

theorem idle_free (lawful : ledger.Lawful) (idle : ledger.device.state = .idle) :
    ledger.current = none := by
  refine lawful.underway.free ?_
  rw [idle]
  rfl

theorem stays (lawful : ledger.Lawful) {requests : List RadioEvent}
    {result : Except Error Response} (silent : terminals result = []) :
    (ledger.follow event (ledger.device.stay requests result)).Lawful := by
  have unbegun : begun event ledger.device (ledger.device.stay requests result) = none := by
    by_cases idle : ledger.device.state = .idle
    · exact begun_of_idle idle
    · exact begun_of_busy idle
  rw [Ledger.follow_silent silent unbegun lawful.idle_free]
  exact ⟨lawful.underway, lawful.past⟩

theorem goesOn (silent : terminals handled.result = [])
    (busy : ledger.device.state ≠ .idle) (going : handled.device.state ≠ .idle)
    (underway : Underway handled.device.state.frame handled.device.mac.state ledger.current)
    (past : Past ledger.finished handled.device.mac.state) :
    (ledger.follow event handled).Lawful := by
  rw [Ledger.follow_silent silent (begun_of_busy busy) fun idle => absurd idle going]
  exact ⟨underway, past⟩

theorem transmitted (lawful : ledger.Lawful) {frame : Frame} {packet : List Byte}
    {config : TxConfig} {rxWindows : RxWindows} {fcntUp : UInt32} {prepared : Device}
    (idle : ledger.device.state = .idle)
    (built : FrameBuilt env ledger.device event frame packet config rxWindows fcntUp prepared)
    (ran : prepared.transmit env turn frame packet config rxWindows fcntUp = .ok handled) :
    (ledger.follow event handled).Lawful := by
  have free := lawful.idle_free idle
  obtain ⟨state, result, rfl, how⟩ := transmit_eq ran
  have silent : terminals result = [] := by
    obtain ⟨_, rfl⟩ | ⟨t1, _, rfl⟩ | ⟨_, rfl | rfl⟩ := how <;> rfl
  have frames : state = .idle ∨ state ≠ .idle ∧ state.frame = some frame := by
    obtain ⟨rfl, _⟩ | ⟨t1, rfl, _⟩ | ⟨rfl, _⟩ := how
    · exact .inr ⟨nofun, rfl⟩
    · exact .inr ⟨nofun, rfl⟩
    · exact .inl rfl
  cases built with
  | join joins =>
      obtain ⟨⟨_, left, otaa⟩, _, joins⟩ := Checked.bind_eq_ok_iff.mp joins
      obtain ⟨⟨tx, channel, drawn, region⟩, _, joins⟩ := Checked.bind_eq_ok_iff.mp joins
      obtain ⟨_, _, joins⟩ := Checked.bind_eq_ok_iff.mp joins
      obtain ⟨_, _, joins⟩ := Checked.bind_eq_ok_iff.mp joins
      cases joins
      rw [Ledger.follow_silent silent rfl fun _ => free, free]
      refine ⟨?_, lawful.past.same nofun⟩
      obtain rfl | ⟨_, underway⟩ := frames
      · exact .nothing _
      · rw [Device.enter, underway]
        exact .joining otaa
  | @data data _ _ _ _ rng mac sends =>
      obtain ⟨session, after, joined, next, _, kept⟩ := (send_built sends).session
      have counted : after.fcntUp = session.fcntUp := by rw [kept]
      have past : Past ledger.finished (.joined after) := by
        refine lawful.past.same ?_
        intro other same
        cases same
        exact ⟨session, joined, counted⟩
      obtain rfl | ⟨going, underway⟩ := frames
      · rw [Ledger.follow_silent silent (begun_of_idle rfl) fun _ => free, free]
        refine ⟨.nothing _, ?_⟩
        rw [Device.enter, next]
        exact past
      · have started : begun (.sendDataRequest data) ledger.device
            (Device.enter state [.txRequest config packet] result
              { ledger.device with rng, mac }) = some ⟨session.fcntUp, []⟩ := by
          simp only [begun, counter, joined]
          exact if_pos ⟨idle, going⟩
        rw [Ledger.follow_begun silent free started going]
        refine ⟨?_, ?_⟩
        · rw [Device.enter, underway, next, ← counted]
          exact .sending after
        · rw [Device.enter, next]
          exact past

theorem received (lawful : ledger.Lawful) {radioEvent : RadioEvent} {frame : Frame}
    {rxWindows : RxWindows} {window : Rx} {rf : RfConfig} {snr : Int8}
    (heard : ∀ session, turn.packet.length < env.bufferSize →
      ledger.device.mac.state = .joined session →
      ¬ AcceptedSilently env.toRxEnv turn.packet rf.maxPayloadLen
        (ledger.device.mac.lend session ledger.device.downlink))
    (state : ledger.device.state = .waitingForRx frame rxWindows window rf)
    (ran : ledger.device.receive env radioEvent turn.packet snr rf = .ok handled) :
    (ledger.follow event handled).Lawful := by
  have busy : ledger.device.state ≠ .idle := by
    rw [state]
    nofun
  obtain ⟨room, response, downlink, mac, handles, outcome⟩ | ⟨_, rfl⟩ := receive_eq ran
  · have underway := lawful.underway
    generalize frameEq : ledger.device.state.frame = under at underway
    generalize macEq : ledger.device.mac.state = waiting at underway
    generalize currentEq : ledger.current = current at underway
    cases underway with
    | nothing =>
        rw [state] at frameEq
        cases frameEq
    | joining otaa =>
        obtain ⟨rfl, rfl⟩ | ⟨updates, answer, converted, rfl⟩ := outcome
        · obtain absurd | ⟨_, rfl⟩ := handleRx_otaa macEq handles
          · cases absurd
          · exact goesOn rfl busy busy lawful.underway lawful.past
        · rw [Ledger.follow_joined currentEq rfl]
          obtain rfl | ⟨rfl, _⟩ := handleRx_otaa macEq handles
          · cases converted
            exact ⟨.nothing _, Past.none _⟩
          · exact absurd rfl updates
    | sending session =>
        obtain ⟨after, joined, answered⟩ := handleRx_answered macEq handles
        have past : Past ledger.finished (.joined session) := by
          rw [← macEq]
          exact lawful.past
        obtain ⟨rfl, rfl⟩ | ⟨updates, answer, converted, rfl⟩ := outcome
        · have counted := noUpdate_uncounted answered (heard session room macEq)
          refine goesOn rfl busy busy ?_ ?_
          · change Underway ledger.device.state.frame mac.state ledger.current
            rw [frameEq, joined, currentEq]
            have same : session.fcntUp = after.fcntUp := counted.symm
            rw [same]
            exact .sending after
          · refine lawful.past.same ?_
            intro other same
            cases joined.symm.trans same
            exact ⟨session, macEq, counted⟩
        · have counted := answered_counted answered updates converted
          have data : answer ≠ .joinSuccess := by
            intro same
            subst same
            have joins := answered_not_joined answered
            cases response <;> cases converted
            exact joins rfl
          rw [Ledger.follow_ended currentEq rfl (from_terminals updates converted) data rfl]
          exact ⟨.nothing _, past.ended joined counted⟩
  · exact lawful.stays rfl

theorem ended (lawful : ledger.Lawful) {frame : Frame} {rxWindows : RxWindows} {window : Rx}
    {rf : RfConfig} (state : ledger.device.state = .waitingForRx frame rxWindows window rf)
    (ran : ledger.device.endWindow frame rxWindows window = .ok handled) :
    (ledger.follow event handled).Lawful := by
  have busy : ledger.device.state ≠ .idle := by
    rw [state]
    nofun
  have underway := lawful.underway
  rw [state] at underway
  obtain ⟨t1, t2, _, rfl⟩ | ⟨t2, response, mac, answer, _, completed, converted, rfl⟩ :=
    endWindow_eq ran
  · exact goesOn rfl busy nofun underway lawful.past
  · generalize macEq : ledger.device.mac.state = waiting at underway
    generalize currentEq : ledger.current = current at underway
    generalize frameEq : (State.waitingForRx frame rxWindows window rf).frame = under at underway
    cases underway with
    | nothing => cases frameEq
    | joining otaa =>
        simp only [Mac.Mac.rx2Complete, macEq] at completed
        cases completed
        cases converted
        rw [Ledger.follow_joined currentEq rfl]
        exact ⟨.nothing _, lawful.past⟩
    | sending session =>
        obtain ⟨after, joined, ends, data, counted⟩ := rx2Complete_counted macEq completed converted
        have past : Past ledger.finished (.joined session) := by
          rw [← macEq]
          exact lawful.past
        rw [Ledger.follow_ended currentEq rfl ends data rfl]
        exact ⟨.nothing _, past.ended joined counted⟩

theorem step (lawful : ledger.Lawful) (heard : Heard env (event, turn) ledger)
    (outcome : Outcome env turn ledger.device event handled) :
    (ledger.follow event handled).Lawful := by
  have underway := lawful.underway
  cases outcome with
  | refused | ignored | radioFailed | notSent => exact lawful.stays rfl
  | transmitted idle built ran => exact lawful.transmitted idle built ran
  | txDone state answer ran =>
      obtain ⟨t1, _, rfl⟩ := dataRxwindow1Timeout_eq ran
      rw [state] at underway
      refine goesOn rfl ?_ nofun underway lawful.past
      rw [state]
      nofun
  | opened state closes =>
      rw [state] at underway
      refine goesOn rfl ?_ nofun underway lawful.past
      rw [state]
      nofun
  | received state answer ran =>
      refine lawful.received ?_ state ran
      intro session room joined
      exact heard _ _ _ _ _ _ session rfl state answer room joined
  | ended state ran => exact lawful.ended state ran

end Ledger.Lawful

/-! ## Runs -/

/-- Only the certification handler answers with `NoUpdate`. -/
theorem heard_of_uncertified {env : DeviceEnv} (uncertified : env.features.certification = false)
    (event : Event × RadioTurn) (ledger : Ledger) : Heard env event ledger := by
  rintro radioEvent frame rxWindows window rf snr session _ _ _ _ _
    ⟨_, data, fcnt, decrypted, _, answer⟩
  have app : ∀ {multicast fport data}, Session.appAnswer env.toRxEnv multicast fport data fcnt ≠
      .ok .noUpdate := by
    intro multicast fport data ran
    unfold Session.appAnswer at ran
    split at ran
    · obtain ⟨⟨setup, after⟩, _, ran⟩ := Checked.bind_eq_ok_iff.mp ran
      cases ran
    · cases ran
  unfold Session.answerTo at answer
  split at answer
  · rw [uncertified, Bool.false_and] at answer
    exact app answer
  · cases answer

theorem Ledger.Lawful.new {device : Device} (idle : device.state = .idle) :
    (Ledger.new device).Lawful := by
  refine ⟨?_, Past.none _⟩
  change Underway device.state.frame device.mac.state none
  rw [idle]
  exact .nothing _

theorem Ledger.Lawful.run {env : DeviceEnv} {events : List (Event × RadioTurn)}
    {start ledger : Ledger} (lawful : start.Lawful)
    (heard : Transition.Guarded (ledgerStep env) (Heard env) events start)
    (ran : Transition.run (ledgerStep env) events start = .ok ledger) : ledger.Lawful := by
  refine Transition.guarded_run_preserves Ledger.Lawful ?_ events start ledger heard lawful ran
  rintro ⟨event, turn⟩ ledger next heard lawful stepped
  obtain ⟨handled, ran, stepped⟩ := Checked.bind_eq_ok_iff.mp stepped
  cases stepped
  exact lawful.step heard (Device.handleEvent_outcome ran)

/-- Every data frame that was begun has had one response and was counted once when the
machine is idle again, and the frames of one session have increasing counters up to the last
one: in every run without the certification handler, and with it in every run in which no
frame is accepted silently. -/
theorem data_procedures_lawful (env : DeviceEnv) (device : Device)
    (idle : device.state = .idle) (events : List (Event × RadioTurn)) (ledger : Ledger)
    (heard : env.features.certification = false ∨
      Transition.Guarded (ledgerStep env) (Heard env) events (Ledger.new device))
    (ran : Transition.run (ledgerStep env) events (Ledger.new device) = .ok ledger) :
    ledger.Lawful := by
  have heard : Transition.Guarded (ledgerStep env) (Heard env) events (Ledger.new device) := by
    obtain uncertified | heard := heard
    · exact Transition.guarded_of_forall (heard_of_uncertified uncertified) _ _
    · exact heard
  exact (Ledger.Lawful.new idle).run heard ran

namespace Sample

def uncertifiedEnv : DeviceEnv := { env with features := ⟨false, true, true⟩ }

/-- A frame that is sent at 1000 ms and not answered, with a second one refused meanwhile. -/
def unanswered : List (Event × RadioTurn) :=
  [(.sendDataRequest data, ⟨.ok .txing, []⟩), (.sendDataRequest data, ⟨.ok .txing, []⟩),
    (.radioEvent .phy, ⟨.ok (.txDone 1000), []⟩), (.timeoutFired, ⟨.ok .rxing, []⟩),
    (.timeoutFired, ⟨.ok .idle, []⟩), (.timeoutFired, ⟨.ok .rxing, []⟩),
    (.timeoutFired, ⟨.ok .idle, []⟩)]

end Sample

/-- The unanswered frame is over and counted. -/
theorem data_procedures_lawful_sample : ∃ ledger,
    Transition.run (ledgerStep Sample.uncertifiedEnv) Sample.unanswered (Ledger.new Sample.device) =
      .ok ledger ∧ ledger.finished.length = 1 ∧ ledger.Lawful := by
  have counted : (fun ledger : Ledger => ledger.finished.length) <$>
      Transition.run (ledgerStep Sample.uncertifiedEnv) Sample.unanswered (Ledger.new Sample.device) =
      .ok 1 := by
    decide +kernel
  obtain ⟨ledger, ran, length⟩ := Checked.map_eq_ok_iff.mp counted
  refine ⟨ledger, ran, length, ?_⟩
  exact data_procedures_lawful Sample.uncertifiedEnv Sample.device rfl Sample.unanswered ledger
    (.inl rfl) ran

/-! ## Events that are answered with the error of a state -/

/-- The radio is handed a frame for which the MAC has changed, and begins to send it or
fails. -/
def Taken (env : DeviceEnv) (event : Event × RadioTurn) (device : Device) : Prop :=
  ∀ frame packet config rxWindows fcntUp prepared response, device.state = .idle →
    FrameBuilt env device event.1 frame packet config rxWindows fcntUp prepared →
    prepared.mac ≠ device.mac → event.2.answer = .ok response →
    response = .txing ∨ ∃ ms, response = .txDone ms

namespace Sample

def confirmedSend : Event := .sendDataRequest ⟨[1, 2], 1, true⟩

/-- Two sends, an illegal one, a frame of nobody in RX1 of the first and an answer in RX2. -/
def answered : List (Event × RadioTurn) :=
  [(.sendDataRequest data, ⟨.ok .txing, []⟩), (confirmedSend, ⟨.ok .txing, []⟩),
    (.radioEvent .phy, ⟨.ok (.txDone 1000), []⟩), (.timeoutFired, ⟨.ok .rxing, []⟩),
    (.radioEvent .phy, ⟨.ok (.rxDone 0), [0x60, 0, 0]⟩),
    (.timeoutFired, ⟨.ok .idle, []⟩), (.timeoutFired, ⟨.ok .rxing, []⟩),
    (.radioEvent .phy, ⟨.ok (.rxDone 0), Mac.Sample.frame .unconfirmedDown 1 [] .none⟩),
    (confirmedSend, ⟨.ok (.txDone 9000), []⟩), (.timeoutFired, ⟨.ok .rxing, []⟩),
    (.timeoutFired, ⟨.ok .idle, []⟩), (.timeoutFired, ⟨.ok .rxing, []⟩),
    (.timeoutFired, ⟨.ok .idle, []⟩)]

/-- What the handlers answer, where the session reads the frame. -/
def answer (env : RxEnv) (bytes : List Byte) (rx : RxState) : Option Mac.Response :=
  match EncryptedDataPayload.parse bytes with
  | .error _ => none
  | .ok data =>
      match nextFcntDown rx.session.fcntDown data.fhdr.fcnt with
      | none => none
      | some fcnt =>
          match DecryptedDataPayload.decryptInPlace bytes
            (some (env.newCrypto rx.session.nwkskey.inner))
            (some (env.newCrypto rx.session.appskey.inner)) fcnt with
          | .ok (.ok decrypted) =>
              (Session.answerTo env rx.certification rx.multicast decrypted fcnt).toOption
          | _ => none

def hears (env : DeviceEnv) (turn : RadioTurn) (device : Device) : Bool :=
  match device.mac.state with
  | .joined session =>
      decide (answer env.toRxEnv turn.packet (device.mac.lend session device.downlink) ≠
        some .noUpdate)
  | .otaa _ | .unjoined => true

def takes : Except Unit RadioResponse → Bool
  | .ok .txing | .ok (.txDone _) | .error _ => true
  | .ok _ => false

def meets (env : DeviceEnv) (event : Event × RadioTurn) (ledger : Ledger) : Bool :=
  match ledger.device.state with
  | .idle => takes event.2.answer
  | .waitingForRx _ _ _ _ => hears env event.2 ledger.device
  | _ => true

end Sample

end LoraRs.NbDevice
