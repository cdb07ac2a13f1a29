import LoraRs.Mac.MulticastFrames

/-!
# The response to a received frame

Which response `handle_rx` gives and what it does to the uplink counter, read from the
frame and the state before it.
-/

set_option autoImplicit false

namespace LoraRs.Mac

open LoraRs.Encoding LoraRs.Lib

/-! ## The handlers of accepted payloads -/

namespace Multicast

open LoraRs.Encoding.Multicast

theorem handleSetupCommand_response {newCrypto : NewCrypto} {key : McKEKey}
    {multicast next : Multicast} {newSession after : Option Response}
    {message : DownlinkRemoteSetup}
    (ran : handleSetupCommand newCrypto key multicast newSession message = .ok (next, after)) :
    after = newSession ∨ ∃ groupId, after = some (.groupSetupTransmitRequest groupId) := by
  cases message with
  | mcGroupSetupReq payload =>
      obtain ⟨answered, _, ran⟩ := Checked.bind_eq_ok_iff.mp ran
      cases ran
      exact .inr ⟨_, rfl⟩
  | packageVersionReq =>
      obtain ⟨answered, _, ran⟩ := Checked.bind_eq_ok_iff.mp ran
      cases ran
      exact .inl rfl
  | mcGroupDeleteReq payload =>
      simp only [handleSetupCommand] at ran
      split at ran
      · obtain ⟨answered, _, ran⟩ := Checked.bind_eq_ok_iff.mp ran
        cases ran
        exact .inl rfl
      · obtain ⟨answered, _, ran⟩ := Checked.bind_eq_ok_iff.mp ran
        cases ran
        exact .inl rfl
  | mcGroupStatusReq payload =>
      obtain ⟨answer, _, ran⟩ := Checked.bind_eq_ok_iff.mp ran
      obtain ⟨answered, _, ran⟩ := Checked.bind_eq_ok_iff.mp ran
      cases ran
      exact .inl rfl
  | mcClassCSessionReq payload =>
      cases ran
      exact .inl rfl
  | mcClassBSessionReq payload =>
      cases ran
      exact .inl rfl

theorem handleSetupCommands_response {newCrypto : NewCrypto} {key : McKEKey}
    (messages : List (Except ParseError DownlinkRemoteSetup)) {multicast next : Multicast}
    {newSession after : Option Response}
    (ran : handleSetupCommands newCrypto key messages multicast newSession = .ok (next, after)) :
    after = newSession ∨ ∃ groupId, after = some (.groupSetupTransmitRequest groupId) := by
  induction messages generalizing multicast newSession with
  | nil =>
      cases ran
      exact .inl rfl
  | cons message rest ih =>
      cases message with
      | error e =>
          cases ran
          exact .inl rfl
      | ok message =>
          obtain ⟨⟨middle, found⟩, first, ran⟩ := Checked.bind_eq_ok_iff.mp ran
          rcases ih ran with same | setUp
          · rw [same]
            exact handleSetupCommand_response first
          · exact .inr setUp

theorem handleSetupMessage_response {newCrypto : NewCrypto} {multicast next : Multicast}
    {data : List Byte} {response : Response}
    (ran : multicast.handleSetupMessage newCrypto data = .ok (response, next)) :
    response.isTransmitRequest = true ∨ response = .noUpdate := by
  unfold handleSetupMessage at ran
  cases key : multicast.mcKEKey with
  | none =>
      rw [key] at ran
      cases ran
      exact .inr rfl
  | some key' =>
      rw [key] at ran
      obtain ⟨⟨middle, found⟩, handled, ran⟩ := Checked.bind_eq_ok_iff.mp ran
      simp only at ran
      split at ran
      · cases ran
        rcases handleSetupCommands_response _ handled with none | ⟨groupId, setUp⟩
        · rw [none]
          exact .inl rfl
        · rw [setUp]
          exact .inl rfl
      · cases ran
        exact .inr rfl

end Multicast

namespace Session

/-- The response to application data: the multicast setup takes its port. -/
def appAnswer (env : RxEnv) (multicast : Multicast) (fport : Byte) (data : List Byte)
    (fcnt : UInt32) : Checked Response :=
  if env.features.multicast && multicast.isRemoteSetupPort fport then do
    let (response, _) ← multicast.handleSetupMessage env.newCrypto data
    return .multicast response
  else .ok (.downlinkReceived fcnt)

def certificationAnswer (env : RxEnv) (multicast : Multicast)
    (response : Certification.Response) (fport : Byte) (data : List Byte) (fcnt : UInt32) :
    Checked Response :=
  match response with
  | .adrBitChange _ => appAnswer env multicast fport data fcnt
  | .dutJoinReq => .ok (.deviceHandler .resetMac)
  | .dutResetReq => .ok (.deviceHandler .resetDevice)
  | .linkCheckReq => .ok .linkCheckReq
  | .txFramesCtrlReq _ => appAnswer env multicast fport data fcnt
  | .txPeriodicityChange periodicity => .ok (.deviceHandler (.txPeriodicityChange periodicity))
  | .uplinkPrepared => .ok .uplinkPrepared
  | .noUpdate => .ok .noUpdate

/-- The response to an accepted downlink below the last counter, from the handlers that
take its payload. -/
def answerTo (env : RxEnv) (certification : Certification) (multicast : Multicast)
    (decrypted : DecryptedDataPayload) (fcnt : UInt32) : Checked Response :=
  match decrypted.fPort, decrypted.frmPayload with
  | some fport, .data data =>
      if env.features.certification && fport == certificationPort then do
        let (response, _) ← certification.handleMessage data fcnt.toUInt16
        certificationAnswer env multicast response fport data fcnt
      else appAnswer env multicast fport data fcnt
  | _, _ => .ok (.downlinkReceived fcnt)

theorem deliverToApp_answer {env : RxEnv} {fport : Byte} {data : List Byte} {fcnt : UInt32}
    {rx next : RxState} {response : Response}
    (ran : deliverToApp env fport data fcnt rx = .ok (response, next)) :
    appAnswer env rx.multicast fport data fcnt = .ok response := by
  unfold deliverToApp at ran
  unfold appAnswer
  split at ran
  · rename_i setup
    obtain ⟨⟨answer, multicast⟩, handled, ran⟩ := Checked.bind_eq_ok_iff.mp ran
    cases ran
    rw [if_pos setup, handled]
    rfl
  · rename_i app
    obtain ⟨queued, _, ran⟩ := Checked.bind_eq_ok_iff.mp ran
    cases ran
    rw [if_neg app]

theorem deliver_answer {env : RxEnv} {decrypted : DecryptedDataPayload} {fcnt : UInt32}
    {rx next : RxState} {response : Response}
    (ran : deliver env decrypted fcnt rx = .ok (response, next)) :
    answerTo env rx.certification rx.multicast decrypted fcnt = .ok response := by
  cases hasPort : decrypted.fPort with
  | none =>
      simp only [deliver, hasPort] at ran
      cases ran
      simp only [answerTo, hasPort]
  | some fport =>
      cases payload : decrypted.frmPayload with
      | data bytes =>
          simp only [deliver, hasPort, payload] at ran
          simp only [answerTo, hasPort, payload]
          by_cases certified :
              (env.features.certification && fport == certificationPort) = true
          · rw [if_pos certified] at ran
            obtain ⟨⟨answer, certification⟩, handled, ran⟩ := Checked.bind_eq_ok_iff.mp ran
            rw [if_pos certified, handled, Checked.ok_bind]
            cases answer with
            | adrBitChange adr =>
                have answered := deliverToApp_answer ran
                exact answered
            | txFramesCtrlReq ftype =>
                have answered := deliverToApp_answer ran
                exact answered
            | dutJoinReq | dutResetReq | linkCheckReq | uplinkPrepared | noUpdate =>
                cases ran
                rfl
            | txPeriodicityChange periodicity =>
                cases ran
                rfl
          · rw [if_neg certified] at ran
            rw [if_neg certified]
            exact deliverToApp_answer ran
      | macCommands cmds | none =>
          simp only [deliver, hasPort, payload] at ran
          cases ran
          simp only [answerTo, hasPort, payload]

/-! ## The responses -/

/-- A frame that the session accepts, with its counter and its content. -/
structure Accepts (env : RxEnv) (bytes : List Byte) (maxPayloadLen : Nat) (rx : RxState)
    (data : EncryptedDataPayload) (fcnt : UInt32) (decrypted : DecryptedDataPayload) : Prop where
  parsed : data.bytes = bytes
  fits : isOversized maxPayloadLen bytes = false
  unicast : isMulticastFrame env data.toDataView rx = false
  fresh : nextFcntDown rx.session.fcntDown data.fhdr.fcnt = some fcnt
  valid : micValid env rx.session data fcnt = true
  decrypts : DecryptedDataPayload.decryptInPlace bytes
    (some (env.newCrypto rx.session.nwkskey.inner))
    (some (env.newCrypto rx.session.appskey.inner)) fcnt = .ok (.ok decrypted)

/-- A frame over the size limit. -/
def Oversized (bytes : List Byte) (maxPayloadLen : Nat) : Prop :=
  (∃ data : EncryptedDataPayload, data.bytes = bytes) ∧ isOversized maxPayloadLen bytes = true

theorem same_data {bytes : List Byte} {first second : EncryptedDataPayload}
    (parsed : first.bytes = bytes) (again : second.bytes = bytes) : first = second := by
  have found := (EncryptedDataPayload.parse_eq_ok_iff bytes first).mpr parsed
  rw [(EncryptedDataPayload.parse_eq_ok_iff bytes second).mpr again] at found
  cases found
  rfl

theorem not_oversized {bytes : List Byte} {maxPayloadLen : Nat}
    (fits : isOversized maxPayloadLen bytes = false) : ¬ Oversized bytes maxPayloadLen := by
  rintro ⟨_, large⟩
  rw [fits] at large
  cases large

/-- The response to a frame with the uplink counter after it. -/
inductive Answered (env : RxEnv) (bytes : List Byte) (maxPayloadLen : Nat) (rx : RxState) :
    Response → UInt32 → Prop where
  | ignored (small : ¬ Oversized bytes maxPayloadLen)
      (refused : ∀ data fcnt decrypted,
        ¬ Accepts env bytes maxPayloadLen rx data fcnt decrypted) :
      Answered env bytes maxPayloadLen rx .noUpdate rx.session.fcntUp
  | group (small : ¬ Oversized bytes maxPayloadLen)
      (data : EncryptedDataPayload) (parsed : data.bytes = bytes)
      (grouped : isMulticastFrame env data.toDataView rx = true)
      (response : Multicast.Response) (after : Multicast) (dl : List Downlink)
      (handled : rx.multicast.handleRx env.newCrypto env.capacity rx.dl bytes =
        .ok (response, after, dl)) :
      Answered env bytes maxPayloadLen rx (.multicast response) rx.session.fcntUp
  | spent (large : Oversized bytes maxPayloadLen) (last : rx.session.fcntUp = lastFcntUp) :
      Answered env bytes maxPayloadLen rx .sessionExpired rx.session.fcntUp
  | closed (large : Oversized bytes maxPayloadLen) (going : rx.session.fcntUp ≠ lastFcntUp) :
      Answered env bytes maxPayloadLen rx
        (if rx.session.confirmed then .noAck else .rxComplete) (rx.session.fcntUp + 1)
  | expired (data : EncryptedDataPayload) (fcnt : UInt32) (decrypted : DecryptedDataPayload)
      (accepts : Accepts env bytes maxPayloadLen rx data fcnt decrypted)
      (last : rx.session.fcntUp = lastFcntUp) :
      Answered env bytes maxPayloadLen rx .sessionExpired rx.session.fcntUp
  | delivered (data : EncryptedDataPayload) (fcnt : UInt32) (decrypted : DecryptedDataPayload)
      (accepts : Accepts env bytes maxPayloadLen rx data fcnt decrypted)
      (going : rx.session.fcntUp ≠ lastFcntUp) (response : Response)
      (answer : answerTo env rx.certification rx.multicast decrypted fcnt = .ok response) :
      Answered env bytes maxPayloadLen rx response (rx.session.fcntUp + 1)

/-- The payload of an accepted frame is answered by its handlers, whatever its commands
did. -/
theorem acceptDownlink_answer {env : RxEnv} {data : EncryptedDataPayload} {fcnt : UInt32}
    {snr : Int8} {ignoreMac : Bool} {rx next : RxState} {response : Response}
    (ran : acceptDownlink env data fcnt snr ignoreMac rx = .ok (response, next)) :
    ∃ decrypted, DecryptedDataPayload.decryptInPlace data.bytes
        (some (env.newCrypto rx.session.nwkskey.inner))
        (some (env.newCrypto rx.session.appskey.inner)) fcnt = .ok (.ok decrypted) ∧
      (rx.session.fcntUp = lastFcntUp ∧ response = .sessionExpired ∨
        rx.session.fcntUp ≠ lastFcntUp ∧
          answerTo env rx.certification rx.multicast decrypted fcnt = .ok response) := by
  obtain ⟨deciphered, found, ran⟩ := Checked.bind_eq_ok_iff.mp ran
  cases deciphered with
  | error e => cases ran
  | ok decrypted =>
      rw [Checked.unwrapResult_ok, Checked.ok_bind] at ran
      obtain ⟨middle, commands, ran⟩ := Checked.bind_eq_ok_iff.mp ran
      refine ⟨decrypted, found, ?_⟩
      have kept := runFrameMacs_ok commands
      have noted := noteConfirmed_session data.isConfirmed middle
      have counter : (noteConfirmed data.isConfirmed middle).session.fcntUp =
          rx.session.fcntUp := by
        rw [noted, kept]
        rfl
      have handlers : (noteConfirmed data.isConfirmed middle).certification = rx.certification ∧
          (noteConfirmed data.isConfirmed middle).multicast = rx.multicast := by
        unfold noteConfirmed
        rw [kept]
        split <;> exact ⟨rfl, rfl⟩
      unfold closeDownlink at ran
      split at ran
      · rename_i last
        cases ran
        exact .inl ⟨counter.symm.trans last, rfl⟩
      · rename_i going
        have answer := deliver_answer ran
        simp only [handlers.1, handlers.2] at answer
        exact .inr ⟨fun last => going (counter.trans last), answer⟩

/-- Every run of `handle_rx` that returns gives one of the responses. -/
theorem handleRx_answered {env : RxEnv} {bytes : List Byte} {maxPayloadLen : Nat} {snr : Int8}
    {ignoreMac : Bool} {rx next : RxState} {response : Response}
    (ran : handleRx env bytes maxPayloadLen snr ignoreMac rx = .ok (response, next)) :
    Answered env bytes maxPayloadLen rx response next.session.fcntUp := by
  cases handleRx_outcome ran with
  | malformed e unparsed =>
      have absent : ∀ data : EncryptedDataPayload, data.bytes ≠ bytes := by
        intro data parsed
        rw [(EncryptedDataPayload.parse_eq_ok_iff bytes data).mpr parsed] at unparsed
        cases unparsed
      refine .ignored ?_ ?_
      · rintro ⟨⟨data, parsed⟩, _⟩
        exact absent data parsed
      · intro data fcnt decrypted accepts
        exact absent data accepts.parsed
  | oversized data parsed large response session configuration completed =>
      rcases rx2Complete_counts completed with ⟨last, same, counter⟩ | ⟨going, same, counter⟩
      · simp only [same, counter]
        exact .spent ⟨⟨data, parsed⟩, large⟩ last
      · simp only [same, counter]
        exact .closed ⟨⟨data, parsed⟩, large⟩ going
  | multicast data parsed fits counted counting group response next handled =>
      have same := counted_same counting
      obtain ⟨⟨answer, multicast, dl⟩, taken, ends⟩ := Checked.bind_eq_ok_iff.mp handled
      cases ends
      rw [same.multicast, same.dl, parsed] at taken
      simp only [same.fcntUp]
      exact .group (not_oversized fits) data parsed group answer multicast dl taken
  | stale data parsed fits counted counting unicast old =>
      rw [(counted_same counting).fcntUp]
      refine .ignored (not_oversized fits) ?_
      intro other fcnt decrypted accepts
      have fresh := accepts.fresh
      rw [same_data accepts.parsed parsed, old] at fresh
      cases fresh
  | forged data parsed fits counted counting unicast fcnt fresh invalid =>
      rw [(counted_same counting).fcntUp]
      refine .ignored (not_oversized fits) ?_
      intro other found decrypted accepts
      have same := accepts.fresh
      have valid := accepts.valid
      rw [same_data accepts.parsed parsed, fresh] at same
      cases same
      rw [same_data accepts.parsed parsed, invalid] at valid
      cases valid
  | accepted data parsed fits counted counting unicast fcnt fresh valid response next handled =>
      have same := counted_same counting
      have keys : counted.session.nwkskey = rx.session.nwkskey ∧
          counted.session.appskey = rx.session.appskey := by
        rw [same.session]
        exact ⟨rfl, rfl⟩
      obtain ⟨decrypted, decrypts, answer⟩ := acceptDownlink_answer handled
      rw [keys.1, keys.2, parsed] at decrypts
      have accepts : Accepts env bytes maxPayloadLen rx data fcnt decrypted :=
        ⟨parsed, fits, unicast, fresh, valid, decrypts⟩
      have counter := (acceptDownlink_ok handled).fcntUp
      rw [same.fcntUp] at counter answer
      rcases answer with ⟨last, expired⟩ | ⟨going, answer⟩
      · rw [counter, if_pos last, expired, ← last]
        exact .expired data fcnt decrypted accepts last
      · rw [counter, if_neg going]
        rw [same.certification, same.multicast] at answer
        exact .delivered data fcnt decrypted accepts going response answer

theorem Answered.of_accepts {env : RxEnv} {bytes : List Byte} {maxPayloadLen : Nat}
    {rx : RxState} {response : Response} {after : UInt32}
    (answered : Answered env bytes maxPayloadLen rx response after)
    {data : EncryptedDataPayload} {fcnt : UInt32} {decrypted : DecryptedDataPayload}
    (accepts : Accepts env bytes maxPayloadLen rx data fcnt decrypted) :
    rx.session.fcntUp = lastFcntUp ∧ response = .sessionExpired ∨
      rx.session.fcntUp ≠ lastFcntUp ∧
        answerTo env rx.certification rx.multicast decrypted fcnt = .ok response := by
  have small := not_oversized accepts.fits
  cases answered with
  | ignored small refused => exact absurd accepts (refused data fcnt decrypted)
  | group small other parsed grouped response multicast dl handled =>
      have unicast := accepts.unicast
      rw [same_data accepts.parsed parsed, grouped] at unicast
      cases unicast
  | spent large last => exact absurd large small
  | closed large going => exact absurd large small
  | expired other counter content again last => exact .inl ⟨last, rfl⟩
  | delivered other counter content again going response answer =>
      have same := same_data accepts.parsed again.parsed
      have counters := accepts.fresh
      rw [same, again.fresh] at counters
      cases counters
      have contents := accepts.decrypts
      rw [again.decrypts] at contents
      cases contents
      exact .inr ⟨going, answer⟩

/-- The handlers of an accepted payload neither end the windows nor join. -/
theorem answerTo_response {env : RxEnv} {certification : Certification} {multicast : Multicast}
    {decrypted : DecryptedDataPayload} {fcnt : UInt32} {response : Response}
    (answer : answerTo env certification multicast decrypted fcnt = .ok response) :
    response = .noUpdate ∨ response = .downlinkReceived fcnt ∨ response = .linkCheckReq ∨
      response = .uplinkPrepared ∨ (∃ event, response = .deviceHandler event) ∨
      ∃ setup : Multicast.Response, response = .multicast setup ∧
        (setup.isTransmitRequest = true ∨ setup = .noUpdate) := by
  have app : ∀ {fport data}, appAnswer env multicast fport data fcnt = .ok response →
      response = .downlinkReceived fcnt ∨ ∃ setup : Multicast.Response,
        response = .multicast setup ∧ (setup.isTransmitRequest = true ∨ setup = .noUpdate) := by
    intro fport data ran
    unfold appAnswer at ran
    split at ran
    · obtain ⟨⟨setup, after⟩, handled, ran⟩ := Checked.bind_eq_ok_iff.mp ran
      cases ran
      exact .inr ⟨setup, rfl, Multicast.handleSetupMessage_response handled⟩
    · cases ran
      exact .inl rfl
  unfold answerTo at answer
  split at answer
  · split at answer
    · obtain ⟨⟨found, after⟩, _, answer⟩ := Checked.bind_eq_ok_iff.mp answer
      cases found with
      | adrBitChange adr =>
          rcases app answer with received | setup
          · exact .inr (.inl received)
          · exact .inr (.inr (.inr (.inr (.inr setup))))
      | txFramesCtrlReq ftype =>
          rcases app answer with received | setup
          · exact .inr (.inl received)
          · exact .inr (.inr (.inr (.inr (.inr setup))))
      | dutJoinReq | dutResetReq =>
          cases answer
          exact .inr (.inr (.inr (.inr (.inl ⟨_, rfl⟩))))
      | txPeriodicityChange periodicity =>
          cases answer
          exact .inr (.inr (.inr (.inr (.inl ⟨_, rfl⟩))))
      | linkCheckReq =>
          cases answer
          exact .inr (.inr (.inl rfl))
      | uplinkPrepared =>
          cases answer
          exact .inr (.inr (.inr (.inl rfl)))
      | noUpdate =>
          cases answer
          exact .inl rfl
    · rcases app answer with received | setup
      · exact .inr (.inl received)
      · exact .inr (.inr (.inr (.inr (.inr setup))))
  · cases answer
    exact .inr (.inl rfl)

theorem answerTo_linkCheckReq {env : RxEnv} {certification : Certification}
    {multicast : Multicast} {decrypted : DecryptedDataPayload} {fcnt : UInt32}
    (answer : answerTo env certification multicast decrypted fcnt = .ok .linkCheckReq) :
    env.features.certification = true := by
  have app : ∀ {fport data}, appAnswer env multicast fport data fcnt ≠ .ok .linkCheckReq := by
    intro fport data ran
    unfold appAnswer at ran
    split at ran
    · obtain ⟨setup, _, ran⟩ := Checked.bind_eq_ok_iff.mp ran
      cases ran
    · cases ran
  unfold answerTo at answer
  split at answer
  · split at answer
    · rename_i certified
      rw [Bool.and_eq_true] at certified
      exact certified.1
    · exact absurd answer app
  · cases answer

end Session

end LoraRs.Mac
