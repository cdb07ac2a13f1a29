import LoraRs.AsyncDevice.Runs
import LoraRs.Mac.Timing
import LoraRs.NbDevice.Timing

/-!
# An uplink and its windows

What a join request or a data frame with its two receive windows does to the MAC, whichever
front end carries it out: the frame is prepared, the windows are listened in until one of
them brings a frame that the MAC takes, and if none does the windows end.
-/

set_option autoImplicit false

namespace LoraRs.FrontEnds

open LoraRs.Encoding LoraRs.Lib LoraRs.Mac
open LoraRs.Region (Frame Window RfConfig TxConfig)
open LoraRs.AsyncDevice (Transmission RxFrame)

/-- What both front ends have of a device. -/
structure Node where
  mac : Mac.Mac
  rng : Rng
  downlink : List Downlink

/-- What the radio is used for. -/
inductive RadioUse where
  | tx (packet : List Byte) (config : TxConfig)
  | listen (rf : RfConfig)
  deriving DecidableEq

/-- What the application is told at the end. -/
inductive Told where
  | refused (e : Mac.Error)
  | joinSuccess
  | noJoinAccept
  | sessionExpired
  | downlinkReceived (fcnt : UInt32)
  | noAck
  | rxComplete
  | downlink (downlink : Option Downlink)
  deriving DecidableEq

/-- What can be seen of a call: the use of the radio and what the application is told. -/
structure Observed where
  uses : List RadioUse
  told : Option Told
  deriving DecidableEq

/-- A transmission, the time at its end as the radio of each front end tells it, and what
is heard in the windows. -/
structure Exchange where
  transmission : Transmission
  timestampMs : UInt32
  windowDelay : UInt32
  rx1 : Option RxFrame
  rx2 : Option RxFrame

/-! ## The exchange -/

/-- The responses that end an exchange. -/
def Told.from : Response → Option Told
  | .joinSuccess => some .joinSuccess
  | .noJoinAccept => some .noJoinAccept
  | .sessionExpired => some .sessionExpired
  | .downlinkReceived fcnt => some (.downlinkReceived fcnt)
  | .noAck => some .noAck
  | .rxComplete => some .rxComplete
  | _ => none

namespace Node

def prepare (env : MacEnv) (transmission : Transmission) (node : Node) :
    Checked (Except Mac.Error ((List Byte × TxConfig × RxWindows) × Node)) :=
  match transmission with
  | .join credentials => do
      let (frame, rng, mac) ← node.mac.joinOtaa env node.rng credentials
      return .ok (frame, { node with rng, mac })
  | .data data => do
      match ← node.mac.send env node.rng data with
      | .error e => return .error e
      | .ok ((_, frame), rng, mac) => return .ok (frame, { node with rng, mac })

/-- A frame that is heard goes to the MAC. -/
def hear (env : MacEnv) (rf : RfConfig) (heard : Option RxFrame) (node : Node) :
    Checked (Response × Node) :=
  match heard with
  | none => .ok (.noUpdate, node)
  | some frame => do
      let (response, downlink, mac) ←
        node.mac.handleRx env frame.bytes node.downlink frame.snr rf
      return (response, { node with downlink, mac })

def rx2Complete (node : Node) : Checked (Response × Node) := do
  let (response, mac) ← node.mac.rx2Complete
  return (response, { node with mac })

def window (env : MacEnv) (rf : RfConfig) (heard : Option RxFrame)
    (next : Node → Checked (List RadioUse × Response × Node)) (node : Node) :
    Checked (List RadioUse × Response × Node) := do
  let (response, node) ← node.hear env rf heard
  if response = .noUpdate then
    let (uses, response, node) ← next node
    return (.listen rf :: uses, response, node)
  else return ([.listen rf], response, node)

def rx2 (env : MacEnv) (rxWindows : RxWindows) (heard : Option RxFrame) :
    Node → Checked (List RadioUse × Response × Node) :=
  window env (rxWindows.get .rx2) heard fun node => do
    let (response, node) ← node.rx2Complete
    return ([], response, node)

def rx1 (env : MacEnv) (rxWindows : RxWindows) (exchange : Exchange) :
    Node → Checked (List RadioUse × Response × Node) :=
  window env (rxWindows.get .rx1) exchange.rx1 (rx2 env rxWindows exchange.rx2)

def perform (env : MacEnv) (exchange : Exchange) (node : Node) : Checked (Observed × Node) := do
  match ← node.prepare env exchange.transmission with
  | .error e => return (⟨[], some (.refused e)⟩, node)
  | .ok ((packet, config, rxWindows), node) =>
      let (uses, response, node) ← node.rx1 env rxWindows exchange
      return (⟨.tx packet config :: uses, Told.from response⟩, node)

end Node

/-! ## Delays -/

theorem le_delToDelayMs (del : Byte) : 1000 ≤ delToDelayMs del := by
  unfold delToDelayMs
  split
  · rename_i inside
    have lower := inside.1
    omega
  · decide

/-- RX1 never opens earlier than a second after the transmission. -/
theorem keptBySteps_oneSecond :
    KeptBySteps (fun _ _ => True) (fun _ _ => True)
      (fun st => 1000 ≤ st.configuration.rx1Delay) where
  join payload st next _ before ran := by
    obtain ⟨_, found, _, configurationEq⟩ := join_joined ran
    rw [configurationEq]
    exact le_delToDelayMs payload.rxDelay
  item snr item st next _ before stepped := by
    cases itemStep_configuration stepped with
    | kept configuration =>
        rw [configuration]
        exact before
    | block earlier last itemEq dr pw rate power configuration =>
        rw [configuration]
        exact before
    | rxParam payload itemEq freqValid offsetValid rx2DataRate rate configuration =>
        rw [configuration]
        exact before
    | rxTiming payload itemEq configuration =>
        rw [configuration]
        exact le_delToDelayMs payload.delay
  backOff _ _ _ before _ := before
  walk _ _ _ before _ := before
  adr _ _ _ before := before

/-- The delays of a MAC, in every run of it. -/
structure Admissible (configuration : Configuration) : Prop extends
    NbDevice.Delays configuration where
  oneSecond : 1000 ≤ configuration.rx1Delay

/-- The delays stay admissible whatever the settings go through. -/
theorem Admissible.run {mac next : Mac.Mac} (admissible : Admissible mac.configuration)
    (settings : SettingsRun mac.settings next.settings) : Admissible next.configuration :=
  ⟨NbDevice.keptBySteps_delays.run admissible.toDelays settings,
    keptBySteps_oneSecond.run admissible.oneSecond settings⟩

namespace Admissible

variable {mac : Mac.Mac} (admissible : Admissible mac.configuration) (frame : Frame)
include admissible

end Admissible

/-! ## Responses -/

def Waits : Transmission → Mac.State → Prop
  | .join _, state => ∃ otaa, state = .otaa otaa
  | .data _, state => ∃ session, state = .joined session

/-- The responses after a join request, and after data. -/
def Ends : Transmission → Response → Prop
  | .join _, response => response = .joinSuccess ∨ response = .noJoinAccept
  | .data _, response => response = .sessionExpired ∨ (∃ fcnt, response = .downlinkReceived fcnt) ∨
      response = .noAck ∨ response = .rxComplete

theorem Ends.told {transmission : Transmission} {response : Response}
    (ends : Ends transmission response) : ∃ told, Told.from response = some told := by
  cases transmission with
  | join credentials =>
      obtain rfl | rfl := ends
      · exact ⟨_, rfl⟩
      · exact ⟨_, rfl⟩
  | data data =>
      obtain rfl | ⟨fcnt, rfl⟩ | rfl | rfl := ends
      · exact ⟨_, rfl⟩
      · exact ⟨_, rfl⟩
      · exact ⟨_, rfl⟩
      · exact ⟨_, rfl⟩

theorem Ends.updates {transmission : Transmission} {response : Response}
    (ends : Ends transmission response) : response ≠ .noUpdate := by
  rintro rfl
  obtain ⟨told, found⟩ := ends.told
  cases found

/-- Certification and multicast are not compiled in. -/
structure Plain (env : MacEnv) : Prop where
  certification : env.features.certification = false
  multicast : env.features.multicast = false

/-- An accepted frame is a downlink for the application. -/
theorem answerTo_plain {env : MacEnv} (plain : Plain env) {certification : Certification}
    {multicast : Multicast} {decrypted : DecryptedDataPayload} {fcnt : UInt32}
    {response : Response}
    (answer : Session.answerTo env.toRxEnv certification multicast decrypted fcnt = .ok response) :
    response = .downlinkReceived fcnt := by
  have app : ∀ fport bytes, Session.appAnswer env.toRxEnv multicast fport bytes fcnt =
      .ok (.downlinkReceived fcnt) := by
    intro fport bytes
    rw [Session.appAnswer, plain.multicast]
    rfl
  unfold Session.answerTo at answer
  rw [plain.certification] at answer
  split at answer
  · rw [Bool.false_and, if_neg Bool.false_ne_true, app] at answer
    cases answer
    rfl
  · cases answer
    rfl

theorem answered_ends {env : MacEnv} (plain : Plain env) {bytes : List Byte} {maxPayloadLen : Nat}
    {rx : RxState} {response : Response} {fcntUp : UInt32} (data : SendData)
    (answered : Session.Answered env.toRxEnv bytes maxPayloadLen rx response fcntUp) :
    response = .noUpdate ∨ Ends (.data data) response := by
  cases answered with
  | ignored => exact .inl rfl
  | group small data parsed grouped =>
      rw [Session.isMulticastFrame, plain.multicast] at grouped
      cases grouped
  | spent | expired => exact .inr (.inl rfl)
  | closed =>
      split
      · exact .inr (.inr (.inr (.inl rfl)))
      · exact .inr (.inr (.inr (.inr rfl)))
  | delivered data fcnt decrypted accepts going response answer =>
      exact .inr (.inr (.inl ⟨fcnt, answerTo_plain plain answer⟩))

/-- A frame that leaves the exchange going was not accepted. -/
theorem answered_refused {env : MacEnv} (plain : Plain env) {bytes : List Byte}
    {maxPayloadLen : Nat} {rx : RxState} {response : Response} {fcntUp : UInt32}
    (answered : Session.Answered env.toRxEnv bytes maxPayloadLen rx response fcntUp)
    (passed : response = .noUpdate) (data : EncryptedDataPayload) (fcnt : UInt32)
    (decrypted : DecryptedDataPayload) :
    ¬ Session.Accepts env.toRxEnv bytes maxPayloadLen rx data fcnt decrypted := by
  cases answered with
  | ignored small refused => exact refused data fcnt decrypted
  | group | spent | expired => cases passed
  | closed => split at passed <;> cases passed
  | delivered _ _ _ _ _ _ answer =>
      cases passed
      cases answerTo_plain plain answer

/-- The MAC waits for the answer to a transmission, with delays that are admissible. -/
structure Underway (transmission : Transmission) (mac : Mac.Mac) : Prop where
  waits : Waits transmission mac.state
  delays : Admissible mac.configuration

namespace Node

section Window

variable {env : MacEnv} {rf : RfConfig} {heard : Option RxFrame} {node next : Node}
  {response : Response} {rest : Node → Checked (List RadioUse × Response × Node)}

theorem window_passed (ran : node.hear env rf heard = .ok (.noUpdate, next)) :
    window env rf heard rest node = do
      let (uses, response, node) ← rest next
      return (.listen rf :: uses, response, node) := by
  rw [window, ran, Checked.ok_bind]
  exact if_pos rfl

theorem window_taken (ran : node.hear env rf heard = .ok (response, next))
    (updates : response ≠ .noUpdate) :
    window env rf heard rest node = .ok ([.listen rf], response, next) := by
  rw [window, ran, Checked.ok_bind]
  exact if_neg updates

theorem window_stops {fault : Fault} (ran : node.hear env rf heard = .error fault) :
    window env rf heard rest node = .error fault := by
  rw [window, ran, Checked.error_bind]

end Window

theorem perform_prepared {env : MacEnv} {exchange : Exchange} {node next : Node}
    {packet : List Byte} {config : TxConfig} {rxWindows : RxWindows}
    (prepared : node.prepare env exchange.transmission =
      .ok (.ok ((packet, config, rxWindows), next))) :
    node.perform env exchange = do
      let (uses, response, last) ← next.rx1 env rxWindows exchange
      return (⟨.tx packet config :: uses, Told.from response⟩, last) := by
  rw [perform, prepared, Checked.ok_bind]

variable {env : MacEnv} {transmission : Transmission} {node next : Node}

/-- A frame in a window is passed over, or its response ends the exchange. -/
theorem hear_underway (plain : Plain env) {rf : RfConfig} {heard : Option RxFrame}
    {response : Response} (underway : Underway transmission node.mac)
    (ran : node.hear env rf heard = .ok (response, next)) :
    (response = .noUpdate ∧ Underway transmission next.mac) ∨
      (Ends transmission response ∧ Admissible next.mac.configuration) := by
  cases heard with
  | none =>
      cases ran
      exact .inl ⟨rfl, underway⟩
  | some frame =>
      obtain ⟨⟨answer, downlink, mac⟩, handled, ran⟩ := Checked.bind_eq_ok_iff.mp ran
      cases ran
      have delays := underway.delays.run (macHandleRx_settings handled)
      have waits := underway.waits
      unfold Mac.handleRx at handled
      cases transmission with
      | join credentials =>
          obtain ⟨otaa, state⟩ := waits
          rw [state] at handled
          obtain ⟨found, opened, handled⟩ := Checked.bind_eq_ok_iff.mp handled
          cases found with
          | none =>
              cases handled
              exact .inl ⟨rfl, underway⟩
          | some joined =>
              cases handled
              exact .inr ⟨.inl rfl, delays⟩
      | data data =>
          obtain ⟨session, state⟩ := waits
          rw [state] at handled
          obtain ⟨⟨answer, rx⟩, received, handled⟩ := Checked.bind_eq_ok_iff.mp handled
          cases handled
          obtain ignored | ends := answered_ends plain data (Session.handleRx_answered received)
          · exact .inl ⟨ignored, ⟨rx.session, rfl⟩, delays⟩
          · exact .inr ⟨ends, delays⟩

/-- A frame that is passed over leaves the delays. -/
theorem hear_passed_delay (plain : Plain env) {rf : RfConfig} {heard : Option RxFrame}
    (underway : Underway transmission node.mac)
    (ran : node.hear env rf heard = .ok (.noUpdate, next)) (frame : Frame) :
    next.mac.getRxDelay frame .rx1 = node.mac.getRxDelay frame .rx1 := by
  have same : next.mac.configuration.rx1Delay = node.mac.configuration.rx1Delay := by
    cases heard with
    | none =>
        cases ran
        rfl
    | some given =>
        obtain ⟨⟨answer, downlink, mac⟩, handled, ran⟩ := Checked.bind_eq_ok_iff.mp ran
        cases ran
        have waits := underway.waits
        unfold Mac.handleRx at handled
        cases transmission with
        | join credentials =>
            obtain ⟨otaa, state⟩ := waits
            rw [state] at handled
            obtain ⟨found, opened, handled⟩ := Checked.bind_eq_ok_iff.mp handled
            cases found with
            | none =>
                cases handled
                rfl
            | some joined => cases handled
        | data data =>
            obtain ⟨session, state⟩ := waits
            rw [state] at handled
            obtain ⟨⟨answer, rx⟩, received, handled⟩ := Checked.bind_eq_ok_iff.mp handled
            cases handled
            obtain kept | ⟨_, data, fcnt, decrypted, accepts, _⟩ :=
              Session.handleRx_rx1Delay received
            · exact kept
            · exact absurd accepts
                (answered_refused plain (Session.handleRx_answered received) rfl data fcnt
                  decrypted)
  cases frame with
  | join =>
      obtain ⟨_, after⟩ | ⟨ends, _⟩ := hear_underway plain underway ran
      · exact after.delays.joinAcceptDelay1.trans underway.delays.joinAcceptDelay1.symm
      · exact absurd rfl ends.updates
  | data => exact same

end Node

end LoraRs.FrontEnds
