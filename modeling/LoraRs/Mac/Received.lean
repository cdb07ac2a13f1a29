import LoraRs.Mac.Session

/-!
# What a received frame can do

The outcomes of `handle_rx` as one relation, and what each stage leaves alone.
Everything later that is proved about received frames is proved from these.
-/

set_option autoImplicit false

namespace LoraRs.Mac

open LoraRs.Encoding LoraRs.Lib

namespace Session

/-- The ways `handle_rx` can end, with the response and the state after it. -/
inductive Outcome (env : RxEnv) (bytes : List Byte) (maxPayloadLen : Nat) (snr : Int8)
    (ignoreMac : Bool) (rx : RxState) : Response → RxState → Prop where
  | malformed (e : Encoding.Error) (unparsed : EncryptedDataPayload.parse bytes = .error e) :
      Outcome env bytes maxPayloadLen snr ignoreMac rx .noUpdate rx
  | oversized (data : EncryptedDataPayload) (parsed : data.bytes = bytes)
      (large : isOversized maxPayloadLen bytes = true)
      (response : Response) (session : Session) (configuration : Configuration)
      (completed : rx.session.rx2Complete rx.configuration rx.region =
        .ok (response, session, configuration)) :
      Outcome env bytes maxPayloadLen snr ignoreMac rx response
        { rx with session, configuration }
  | multicast (data : EncryptedDataPayload) (parsed : data.bytes = bytes)
      (fits : isOversized maxPayloadLen bytes = false) (counted : RxState)
      (counting : countAppDownlink env data.toDataView (clearAnswers ignoreMac rx) =
        .ok counted)
      (group : isMulticastFrame env data.toDataView rx = true)
      (response : Response) (next : RxState)
      (handled : handleMulticast env data counted = .ok (response, next)) :
      Outcome env bytes maxPayloadLen snr ignoreMac rx response next
  | stale (data : EncryptedDataPayload) (parsed : data.bytes = bytes)
      (fits : isOversized maxPayloadLen bytes = false) (counted : RxState)
      (counting : countAppDownlink env data.toDataView (clearAnswers ignoreMac rx) =
        .ok counted)
      (unicast : isMulticastFrame env data.toDataView rx = false)
      (old : nextFcntDown rx.session.fcntDown data.fhdr.fcnt = none) :
      Outcome env bytes maxPayloadLen snr ignoreMac rx .noUpdate counted
  | forged (data : EncryptedDataPayload) (parsed : data.bytes = bytes)
      (fits : isOversized maxPayloadLen bytes = false) (counted : RxState)
      (counting : countAppDownlink env data.toDataView (clearAnswers ignoreMac rx) =
        .ok counted)
      (unicast : isMulticastFrame env data.toDataView rx = false) (fcnt : UInt32)
      (fresh : nextFcntDown rx.session.fcntDown data.fhdr.fcnt = some fcnt)
      (invalid : micValid env rx.session data fcnt = false) :
      Outcome env bytes maxPayloadLen snr ignoreMac rx .noUpdate counted
  | accepted (data : EncryptedDataPayload) (parsed : data.bytes = bytes)
      (fits : isOversized maxPayloadLen bytes = false) (counted : RxState)
      (counting : countAppDownlink env data.toDataView (clearAnswers ignoreMac rx) =
        .ok counted)
      (unicast : isMulticastFrame env data.toDataView rx = false) (fcnt : UInt32)
      (fresh : nextFcntDown rx.session.fcntDown data.fhdr.fcnt = some fcnt)
      (valid : micValid env rx.session data fcnt = true)
      (response : Response) (next : RxState)
      (handled : acceptDownlink env data fcnt snr ignoreMac counted = .ok (response, next)) :
      Outcome env bytes maxPayloadLen snr ignoreMac rx response next

/-! ## What the early stages leave alone -/

/-- States that differ at most in the queued answers and the certification
counter. -/
structure SameButQueue (rx next : RxState) : Prop where
  session : next.session =
    { rx.session with uplink := next.session.uplink, rxAppCnt := next.session.rxAppCnt }
  confirmed : next.session.uplink.confirmed = rx.session.uplink.confirmed
  region : next.region = rx.region
  configuration : next.configuration = rx.configuration
  certification : next.certification = rx.certification
  multicast : next.multicast = rx.multicast
  dl : next.dl = rx.dl

theorem clearAnswers_same (ignoreMac : Bool) (rx : RxState) :
    SameButQueue rx (clearAnswers ignoreMac rx) := by
  unfold clearAnswers
  split
  · exact ⟨rfl, rfl, rfl, rfl, rfl, rfl, rfl⟩
  · exact ⟨rfl, Uplink.clearMacCommands_confirmed _ _, rfl, rfl, rfl, rfl, rfl⟩

theorem countAppDownlink_ok {env : RxEnv} {data : DataView} {rx counted : RxState}
    (counting : countAppDownlink env data rx = .ok counted) :
    counted = { rx with session := { rx.session with rxAppCnt := counted.session.rxAppCnt } } := by
  unfold countAppDownlink at counting
  split at counting
  · obtain ⟨count, _, counting⟩ := Checked.bind_eq_ok_iff.mp counting
    cases counting
    rfl
  · cases counting
    rfl

/-- Before authentication only the queue and the certification counter change. -/
theorem counted_same {env : RxEnv} {data : DataView} {ignoreMac : Bool} {rx counted : RxState}
    (counting : countAppDownlink env data (clearAnswers ignoreMac rx) = .ok counted) :
    SameButQueue rx counted := by
  have cleared := clearAnswers_same ignoreMac rx
  rw [countAppDownlink_ok counting]
  exact ⟨by rw [cleared.session], cleared.confirmed, cleared.region, cleared.configuration,
    cleared.certification, cleared.multicast, cleared.dl⟩

namespace SameButQueue

variable {rx next : RxState}

theorem fcntDown (same : SameButQueue rx next) :
    next.session.fcntDown = rx.session.fcntDown := by
  rw [same.session]

theorem nwkskey (same : SameButQueue rx next) : next.session.nwkskey = rx.session.nwkskey := by
  rw [same.session]

theorem fcntUp (same : SameButQueue rx next) : next.session.fcntUp = rx.session.fcntUp := by
  rw [same.session]

end SameButQueue

/-! ## The outcomes -/

/-- Every run of `handle_rx` that returns ends in one of the outcomes. -/
theorem handleRx_outcome {env : RxEnv} {bytes : List Byte} {maxPayloadLen : Nat} {snr : Int8}
    {ignoreMac : Bool} {rx next : RxState} {response : Response}
    (ran : handleRx env bytes maxPayloadLen snr ignoreMac rx = .ok (response, next)) :
    Outcome env bytes maxPayloadLen snr ignoreMac rx response next := by
  unfold handleRx at ran
  cases parsed : EncryptedDataPayload.parse bytes with
  | error e =>
      rw [parsed] at ran
      cases ran
      exact .malformed e parsed
  | ok data =>
      rw [parsed] at ran
      have same := (EncryptedDataPayload.parse_eq_ok_iff bytes data).mp parsed
      simp only at ran
      cases large : isOversized maxPayloadLen bytes with
      | true =>
          rw [large, if_pos rfl] at ran
          obtain ⟨⟨response, session, configuration⟩, completed, ran⟩ :=
            Checked.bind_eq_ok_iff.mp ran
          cases ran
          exact .oversized data same large _ session configuration completed
      | false =>
          rw [large, if_neg Bool.false_ne_true] at ran
          obtain ⟨counted, counting, ran⟩ := Checked.bind_eq_ok_iff.mp ran
          have kept := counted_same counting
          have routing : isMulticastFrame env data.toDataView counted =
              isMulticastFrame env data.toDataView rx := by
            simp only [isMulticastFrame, kept.multicast]
          rw [routing] at ran
          cases group : isMulticastFrame env data.toDataView rx with
          | true =>
              rw [group, if_pos rfl] at ran
              exact .multicast data same large counted counting group response next ran
          | false =>
              rw [group, if_neg Bool.false_ne_true] at ran
              simp only [handleUnicast, kept.fcntDown] at ran
              cases fresh : nextFcntDown rx.session.fcntDown data.fhdr.fcnt with
              | none =>
                  rw [fresh] at ran
                  cases ran
                  exact .stale data same large next counting group fresh
              | some fcnt =>
                  rw [fresh] at ran
                  have keys : micValid env counted.session data fcnt =
                      micValid env rx.session data fcnt := by
                    simp only [micValid, kept.nwkskey]
                  simp only [keys] at ran
                  cases valid : micValid env rx.session data fcnt with
                  | true =>
                      rw [valid, if_pos rfl] at ran
                      exact .accepted data same large counted counting group fcnt fresh valid
                        response next ran
                  | false =>
                      rw [valid, if_neg Bool.false_ne_true] at ran
                      cases ran
                      exact .forged data same large next counting group fcnt fresh valid

/-- The counter at which a unicast frame is accepted: it parses, fits, is not for the
multicast handler, its counter is fresh and its MIC good. -/
def acceptedCounter (env : RxEnv) (bytes : List Byte) (maxPayloadLen : Nat) (rx : RxState) :
    Option UInt32 :=
  match EncryptedDataPayload.parse bytes with
  | .error _ => none
  | .ok data =>
      if isOversized maxPayloadLen bytes || isMulticastFrame env data.toDataView rx then none
      else
        match nextFcntDown rx.session.fcntDown data.fhdr.fcnt with
        | none => none
        | some fcnt => if micValid env rx.session data fcnt then some fcnt else none

theorem acceptedCounter_eq_some {env : RxEnv} {bytes : List Byte} {maxPayloadLen : Nat}
    {rx : RxState} {fcnt : UInt32}
    (accepted : acceptedCounter env bytes maxPayloadLen rx = some fcnt) :
    ∃ data : EncryptedDataPayload, data.bytes = bytes ∧
      isOversized maxPayloadLen bytes = false ∧
      isMulticastFrame env data.toDataView rx = false ∧
      nextFcntDown rx.session.fcntDown data.fhdr.fcnt = some fcnt ∧
      micValid env rx.session data fcnt = true := by
  unfold acceptedCounter at accepted
  cases parsed : EncryptedDataPayload.parse bytes with
  | error e =>
      rw [parsed] at accepted
      cases accepted
  | ok data =>
      rw [parsed] at accepted
      simp only at accepted
      split at accepted
      · cases accepted
      · rename_i routed
        split at accepted
        · cases accepted
        · rename_i found fresh
          split at accepted
          · rename_i valid
            cases accepted
            simp only [Bool.or_eq_true, not_or, Bool.not_eq_true] at routed
            exact ⟨data, (EncryptedDataPayload.parse_eq_ok_iff bytes data).mp parsed,
              routed.1, routed.2, fresh, valid⟩
          · cases accepted

theorem acceptedCounter_of_parse {env : RxEnv} {bytes : List Byte} {maxPayloadLen : Nat}
    {rx : RxState} {data : EncryptedDataPayload} (parsed : data.bytes = bytes)
    (fits : isOversized maxPayloadLen bytes = false)
    (unicast : isMulticastFrame env data.toDataView rx = false) :
    acceptedCounter env bytes maxPayloadLen rx =
      (nextFcntDown rx.session.fcntDown data.fhdr.fcnt).bind fun fcnt =>
        if micValid env rx.session data fcnt then some fcnt else none := by
  simp only [acceptedCounter, (EncryptedDataPayload.parse_eq_ok_iff bytes data).mpr parsed,
    fits, unicast, Bool.or_self, Bool.false_eq_true, if_false]
  cases nextFcntDown rx.session.fcntDown data.fhdr.fcnt <;> rfl

/-! ## What the late stages leave alone -/

theorem runMacs_ok {snr : Int8} {cmds : List Byte} {rx next : RxState}
    (ran : runMacs snr cmds rx = .ok next) :
    next = { rx with
      configuration := next.configuration, region := next.region,
      session := { rx.session with uplink := next.session.uplink } } := by
  obtain ⟨⟨configuration, region, uplink⟩, _, ran⟩ := Checked.bind_eq_ok_iff.mp ran
  cases ran
  rfl

theorem runFrameMacs_ok {decrypted : DecryptedDataPayload} {snr : Int8} {ignoreMac : Bool}
    {rx next : RxState} (ran : runFrameMacs decrypted snr ignoreMac rx = .ok next) :
    next = { rx with
      configuration := next.configuration, region := next.region,
      session := { rx.session with uplink := next.session.uplink } } := by
  unfold runFrameMacs at ran
  split at ran
  · cases ran
    rfl
  · obtain ⟨middle, first, ran⟩ := Checked.bind_eq_ok_iff.mp ran
    have kept := runMacs_ok first
    split at ran
    · have keptSecond := runMacs_ok ran
      rw [kept] at keptSecond
      exact keptSecond
    · cases ran
      exact kept

/-- Delivery changes neither the region nor, but for the frame type override, the
session. -/
structure Delivered (rx next : RxState) : Prop where
  session : next.session =
    { rx.session with overrideConfirmed := next.session.overrideConfirmed }
  region : next.region = rx.region
  configuration : next.configuration =
    { rx.configuration with adrEnabled := next.configuration.adrEnabled }

theorem deliverToApp_ok {env : RxEnv} {fport : Byte} {data : List Byte} {fcnt : UInt32}
    {rx next : RxState} {response : Response}
    (ran : deliverToApp env fport data fcnt rx = .ok (response, next)) : Delivered rx next := by
  unfold deliverToApp at ran
  split at ran
  · obtain ⟨⟨answer, multicast⟩, _, ran⟩ := Checked.bind_eq_ok_iff.mp ran
    cases ran
    exact ⟨rfl, rfl, rfl⟩
  · obtain ⟨data, _, ran⟩ := Checked.bind_eq_ok_iff.mp ran
    cases ran
    exact ⟨rfl, rfl, rfl⟩

theorem afterCertification_ok {env : RxEnv} {answer : Certification.Response} {fport : Byte}
    {data : List Byte} {fcnt : UInt32} {rx next : RxState} {response : Response}
    (ran : afterCertification env answer fport data fcnt rx = .ok (response, next)) :
    Delivered rx next := by
  cases answer with
  | adrBitChange adr =>
      have kept := deliverToApp_ok ran
      exact ⟨kept.session, kept.region, kept.configuration⟩
  | txFramesCtrlReq ftype =>
      have kept := deliverToApp_ok ran
      exact ⟨kept.session, kept.region, kept.configuration⟩
  | dutJoinReq | dutResetReq | linkCheckReq | uplinkPrepared | noUpdate =>
      cases ran
      exact ⟨rfl, rfl, rfl⟩
  | txPeriodicityChange periodicity =>
      cases ran
      exact ⟨rfl, rfl, rfl⟩

theorem deliver_ok {env : RxEnv} {decrypted : DecryptedDataPayload} {fcnt : UInt32}
    {rx next : RxState} {response : Response}
    (ran : deliver env decrypted fcnt rx = .ok (response, next)) : Delivered rx next := by
  unfold deliver at ran
  split at ran
  · split at ran
    · obtain ⟨⟨answer, certification⟩, _, ran⟩ := Checked.bind_eq_ok_iff.mp ran
      have kept := afterCertification_ok ran
      exact ⟨kept.session, kept.region, kept.configuration⟩
    · exact deliverToApp_ok ran
  · cases ran
    exact ⟨rfl, rfl, rfl⟩

/-- An accepted downlink: which session fields it leaves and how it moves the two
counters. -/
structure AcceptedSession (rx next : RxState) (fcnt : UInt32) : Prop where
  fcntDown : next.session.fcntDown = some fcnt
  adrAckCnt : next.session.adrAckCnt = 0
  fcntUp : next.session.fcntUp =
    if rx.session.fcntUp = lastFcntUp then lastFcntUp else rx.session.fcntUp + 1
  confirmed : next.session.confirmed = rx.session.confirmed
  nwkskey : next.session.nwkskey = rx.session.nwkskey
  appskey : next.session.appskey = rx.session.appskey
  devaddr : next.session.devaddr = rx.session.devaddr
  rxAppCnt : next.session.rxAppCnt = rx.session.rxAppCnt

theorem noteConfirmed_session (confirmed : Bool) (rx : RxState) :
    (noteConfirmed confirmed rx).session =
      { rx.session with uplink := (noteConfirmed confirmed rx).session.uplink } := by
  unfold noteConfirmed
  split <;> rfl

theorem closeDownlink_ok {env : RxEnv} {decrypted : DecryptedDataPayload} {fcnt : UInt32}
    {rx next : RxState} {response : Response}
    (ran : closeDownlink env decrypted fcnt rx = .ok (response, next)) :
    next.session = { rx.session with
      fcntUp := if rx.session.fcntUp = lastFcntUp then lastFcntUp else rx.session.fcntUp + 1
      overrideConfirmed := next.session.overrideConfirmed } := by
  unfold closeDownlink at ran
  split at ran
  · rename_i expired
    cases ran
    rw [if_pos expired, ← expired]
  · rename_i going
    rw [if_neg going]
    exact (deliver_ok ran).session

theorem acceptDownlink_ok {env : RxEnv} {data : EncryptedDataPayload} {fcnt : UInt32}
    {snr : Int8} {ignoreMac : Bool} {rx next : RxState} {response : Response}
    (ran : acceptDownlink env data fcnt snr ignoreMac rx = .ok (response, next)) :
    AcceptedSession rx next fcnt := by
  obtain ⟨deciphered, _, ran⟩ := Checked.bind_eq_ok_iff.mp ran
  obtain ⟨decrypted, _, ran⟩ := Checked.bind_eq_ok_iff.mp ran
  obtain ⟨middle, commands, ran⟩ := Checked.bind_eq_ok_iff.mp ran
  have closed := closeDownlink_ok ran
  rw [noteConfirmed_session] at closed
  have kept := runFrameMacs_ok commands
  have session : middle.session =
      { rx.session with fcntDown := some fcnt, adrAckCnt := 0, uplink := middle.session.uplink } := by
    rw [kept]
    rfl
  rw [session] at closed
  constructor <;> rw [closed]

/-- The end of the windows: the two counters move and the back-off may lower the data
rate. -/
theorem rx2Complete_session {session next : Session} {configuration after : Configuration}
    {region : Region.Configuration} {response : Response}
    (ran : session.rx2Complete configuration region = .ok (response, next, after)) :
    next = { session with fcntUp := next.fcntUp, adrAckCnt := next.adrAckCnt } ∧
      after = { configuration with dataRate := after.dataRate } ∧
      ∀ fcnt, response ≠ .downlinkReceived fcnt := by
  unfold rx2Complete at ran
  split at ran
  · cases ran
    exact ⟨rfl, rfl, fun _ same => by cases same⟩
  · simp only at ran
    have answer : ∀ fcnt, (if session.confirmed then Response.noAck else .rxComplete) ≠
        .downlinkReceived fcnt := by
      intro fcnt same
      split at same <;> cases same
    split at ran
    · obtain ⟨lowered, backed, ran⟩ := Checked.bind_eq_ok_iff.mp ran
      cases ran
      refine ⟨rfl, ?_, answer⟩
      unfold backOff at backed
      split at backed
      · simp only at backed
        split at backed
        · obtain ⟨found, _, backed⟩ := Checked.bind_eq_ok_iff.mp backed
          cases found <;> cases backed <;> rfl
        · cases backed
          rfl
      · cases backed
        rfl
    · cases ran
      exact ⟨rfl, rfl, answer⟩

/-- The end of the windows counts the uplink, unless the counter has run out. -/
theorem rx2Complete_counts {session next : Session} {configuration after : Configuration}
    {region : Region.Configuration} {response : Response}
    (ran : session.rx2Complete configuration region = .ok (response, next, after)) :
    (session.fcntUp = lastFcntUp ∧ response = .sessionExpired ∧ next.fcntUp = session.fcntUp) ∨
      (session.fcntUp ≠ lastFcntUp ∧
        response = (if session.confirmed then .noAck else .rxComplete) ∧
        next.fcntUp = session.fcntUp + 1) := by
  unfold rx2Complete at ran
  split at ran
  · rename_i last
    cases ran
    exact .inl ⟨last, rfl, rfl⟩
  · rename_i going
    simp only at ran
    split at ran
    · obtain ⟨lowered, _, ran⟩ := Checked.bind_eq_ok_iff.mp ran
      cases ran
      exact .inr ⟨going, rfl, rfl⟩
    · cases ran
      exact .inr ⟨going, rfl, rfl⟩

/-- How `handle_rx` moves the downlink counter. -/
theorem handleRx_fcntDown {env : RxEnv} {bytes : List Byte} {maxPayloadLen : Nat} {snr : Int8}
    {ignoreMac : Bool} {rx next : RxState} {response : Response}
    (ran : handleRx env bytes maxPayloadLen snr ignoreMac rx = .ok (response, next)) :
    next.session.fcntDown =
      match acceptedCounter env bytes maxPayloadLen rx with
      | some fcnt => some fcnt
      | none => rx.session.fcntDown := by
  cases handleRx_outcome ran with
  | malformed e unparsed => simp only [acceptedCounter, unparsed]
  | oversized data parsed large response session configuration completed =>
      have none : acceptedCounter env bytes maxPayloadLen rx = none := by
        simp only [acceptedCounter, (EncryptedDataPayload.parse_eq_ok_iff bytes data).mpr parsed,
          large, Bool.true_or, if_true]
      rw [none]
      simp only
      rw [(rx2Complete_session completed).1]
  | multicast data parsed fits counted counting group response next handled =>
      have none : acceptedCounter env bytes maxPayloadLen rx = none := by
        simp only [acceptedCounter, (EncryptedDataPayload.parse_eq_ok_iff bytes data).mpr parsed,
          group, Bool.or_true, if_true]
      rw [none]
      obtain ⟨⟨answer, multicast, dl⟩, _, handled⟩ := Checked.bind_eq_ok_iff.mp handled
      cases handled
      exact (counted_same counting).fcntDown
  | stale data parsed fits counted counting unicast old =>
      rw [acceptedCounter_of_parse parsed fits unicast, old]
      exact (counted_same counting).fcntDown
  | forged data parsed fits counted counting unicast fcnt fresh invalid =>
      rw [acceptedCounter_of_parse parsed fits unicast, fresh, Option.bind_some, invalid]
      exact (counted_same counting).fcntDown
  | accepted data parsed fits counted counting unicast fcnt fresh valid response next handled =>
      rw [acceptedCounter_of_parse parsed fits unicast, fresh, Option.bind_some, valid, if_pos rfl]
      exact (acceptDownlink_ok handled).fcntDown

end Session

/-! ## A concrete session

A keyed checksum stands for the cipher, so that runs on given frames can be
evaluated. -/

namespace Sample

def crypto : NewCrypto := fun key =>
  { encryptBlock := fun block => Vector.zipWith (· ^^^ ·) block key
    calculateMic := fun b0 data =>
      let sum : Byte := (b0 ++ data).foldl (fun (acc byte : Byte) => acc * 31 + byte) key[0]
      ⟨#v[sum, sum + 1, sum + 2, sum + 3]⟩ }

def env : RxEnv := ⟨⟨true, true, true⟩, crypto, 4⟩

def session : Session :=
  Session.new ⟨Vector.replicate 16 2⟩ ⟨Vector.replicate 16 1⟩ ⟨#v[4, 3, 2, 1]⟩

def configuration : Configuration where
  dataRate := 0
  rx1Delay := receiveDelay1
  joinAcceptDelay1 := joinAcceptDelay1
  joinAcceptDelay2 := joinAcceptDelay2
  txPower := none
  rx1DrOffset := 0
  rx2DataRate := none
  rx2Frequency := none
  adrEnabled := true

def rx : RxState where
  session := session
  region := Region.Configuration.new (.dynamic .eu868)
  configuration := configuration
  certification := Certification.new
  multicast := Multicast.new
  dl := []

def frame (frameType : DataFrameType) (fcnt : UInt32) (fOpts : List Byte) (payload : Payload) :
    List Byte :=
  let frame : DataFrame :=
    { frameType, devAddr := session.devaddr, adr := false, adrAckReq := false, ack := false,
      fPending := false, fcnt, fOpts, payload }
  match frame.buildInto 256 (crypto session.nwkskey.inner)
      (some (crypto session.appskey.inner)) with
  | .ok (.ok bytes) => bytes
  | _ => []

def commands (fcnt : UInt32) (cmds : List Byte) : List Byte :=
  frame .unconfirmedDown fcnt [] (.macCommands cmds)

end Sample

end LoraRs.Mac
