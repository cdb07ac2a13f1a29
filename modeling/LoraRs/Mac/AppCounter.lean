import LoraRs.Mac.Authentication
import LoraRs.Mac.Responses
import LoraRs.Mac.Safety

/-!
# The certification counter

The counter of application downlinks and the count that a RxAppCntAns reports.  The counter
moves before the frame is authenticated, and the answer is given the downlink frame counter in
its place: the report is right where the two agree.
-/

set_option autoImplicit false

namespace LoraRs.Mac

open LoraRs.Encoding LoraRs.Lib

namespace Certification

/-! ## What the handler reports -/

def asksCount : List (Except ParseError DownlinkDUTCommand) → Bool
  | .ok .rxAppCntReq :: _ => true
  | .ok (.txPeriodicityChangeReq payload) :: rest =>
      !payload.periodicity.toOption.isSome && asksCount rest
  | .ok (.adrBitChangeReq payload) :: rest =>
      !payload.adrEnable.toOption.isSome && asksCount rest
  | .ok (.txFramesCtrlReq payload) :: rest =>
      !payload.frameTypeOverride.toOption.isSome && asksCount rest
  | _ => false

def reportedCount (certification : Certification) : Option UInt16 :=
  match certification.pendingUplink with
  | some [cid, low, high] => if cid = 0x09 then some (Bytes.ofLeU16 low high) else none
  | _ => none

/-- The handler has prepared an answer with this count. -/
def Reports (response : Response) (certification : Certification) (value : UInt16) : Prop :=
  response = .uplinkPrepared ∧ certification.reportedCount = some value

theorem prepareUplink_ok (certification : Certification) {next : Certification}
    {answer : List Byte} {response : Response}
    (ran : certification.prepareUplink answer = .ok (response, next)) :
    response = .uplinkPrepared ∧ next.pendingUplink = some answer := by
  obtain ⟨buf, stored, ran⟩ := Checked.bind_eq_ok_iff.mp ran
  cases ran
  unfold extendFromSlice at stored
  split at stored
  · cases stored
    exact ⟨rfl, rfl⟩
  · cases stored

theorem reportedCount_ans {certification : Certification} {value : UInt16}
    (pending : certification.pendingUplink = some (rxAppCntAns value)) :
    certification.reportedCount = some value := by
  rw [reportedCount, pending]
  exact congrArg some (Bytes.ofLeU16_leU16 value)

theorem reportedCount_other {certification : Certification} {cid : Byte} {rest : List Byte}
    (other : cid ≠ 0x09) (pending : certification.pendingUplink = some (cid :: rest)) :
    certification.reportedCount = none := by
  rw [reportedCount, pending]
  split
  · rename_i found same
    cases same
    exact if_neg other
  · rfl

theorem handleMessages_reports {rxAppCnt value : UInt16} {certification next : Certification}
    {messages : List (Except ParseError DownlinkDUTCommand)} {response : Response}
    (ran : handleMessages rxAppCnt certification messages = .ok (response, next)) :
    Reports response next value ↔ asksCount messages = true ∧ value = rxAppCnt := by
  induction messages with
  | nil =>
      cases ran
      simp [Reports, asksCount]
  | cons message rest ih =>
      cases message with
      | error e =>
          cases ran
          simp [Reports, asksCount]
      | ok cmd =>
          cases cmd with
          | dutResetReq | dutJoinReq | linkCheckReq =>
              cases ran
              simp [Reports, asksCount]
          | rxAppCntReq =>
              obtain ⟨prepared, pending⟩ := prepareUplink_ok certification ran
              rw [Reports, reportedCount_ans pending, asksCount]
              simp [prepared, eq_comm]
          | dutVersionsReq =>
              obtain ⟨_, pending⟩ := prepareUplink_ok certification ran
              simp [Reports, reportedCount_other (by decide) pending, asksCount]
          | echoIncPayloadReq payload =>
              obtain ⟨answer, built, ran⟩ := Checked.bind_eq_ok_iff.mp ran
              obtain ⟨_, pending⟩ := prepareUplink_ok certification ran
              unfold echoIncPayloadAns at built
              split at built
              · cases built
                simp [Reports, reportedCount_other (by decide) pending, asksCount]
              · cases built
          | adrBitChangeReq payload =>
              simp only [handleMessages] at ran
              rw [asksCount]
              cases read : payload.adrEnable with
              | ok adr =>
                  rw [read] at ran
                  cases ran
                  simp [Reports, Except.toOption]
              | error e =>
                  rw [read] at ran
                  simpa [Except.toOption] using ih ran
          | txPeriodicityChangeReq payload =>
              simp only [handleMessages] at ran
              rw [asksCount]
              cases read : payload.periodicity with
              | ok periodicity =>
                  rw [read] at ran
                  cases ran
                  simp [Reports, Except.toOption]
              | error e =>
                  rw [read] at ran
                  simpa [Except.toOption] using ih ran
          | txFramesCtrlReq payload =>
              simp only [handleMessages] at ran
              rw [asksCount]
              cases read : payload.frameTypeOverride with
              | ok ftype =>
                  rw [read] at ran
                  cases ran
                  simp [Reports, Except.toOption]
              | error e =>
                  rw [read] at ran
                  simpa [Except.toOption] using ih ran

end Certification

namespace Session

/-! ## What a received frame reports -/

/-- The application prepares an answer with this count after the frame. -/
def Reports (response : Response) (next : RxState) (value : UInt16) : Prop :=
  response = .uplinkPrepared ∧ next.certification.reportedCount = some value

/-- The payload is a request for the count. -/
def asks (env : RxEnv) (decrypted : DecryptedDataPayload) : Bool :=
  match decrypted.fPort, decrypted.frmPayload with
  | some fport, .data data =>
      env.features.certification && fport == certificationPort &&
        Certification.asksCount (MacCommands.results data)
  | _, _ => false

/-- A frame accepted at this counter asks for the count and is answered. -/
structure AsksCount (env : RxEnv) (bytes : List Byte) (maxPayloadLen : Nat) (rx : RxState)
    (fcnt : UInt32) : Prop where
  accepted : acceptedCounter env bytes maxPayloadLen rx = some fcnt
  going : rx.session.fcntUp ≠ lastFcntUp
  asked : ∃ decrypted,
    DecryptedDataPayload.decryptInPlace bytes (some (env.newCrypto rx.session.nwkskey.inner))
      (some (env.newCrypto rx.session.appskey.inner)) fcnt = .ok (.ok decrypted) ∧
    asks env decrypted = true

theorem deliverToApp_reports {env : RxEnv} {fport : Byte} {data : List Byte} {fcnt : UInt32}
    {rx next : RxState} {response : Response}
    (ran : deliverToApp env fport data fcnt rx = .ok (response, next)) :
    response ≠ .uplinkPrepared := by
  unfold deliverToApp at ran
  split at ran
  · obtain ⟨_, _, ran⟩ := Checked.bind_eq_ok_iff.mp ran
    cases ran
    exact Response.noConfusion
  · obtain ⟨_, _, ran⟩ := Checked.bind_eq_ok_iff.mp ran
    cases ran
    exact Response.noConfusion

theorem afterCertification_reports {env : RxEnv} {answer : Certification.Response} {fport : Byte}
    {data : List Byte} {fcnt : UInt32} {rx next : RxState} {response : Response} {value : UInt16}
    (ran : afterCertification env answer fport data fcnt rx = .ok (response, next)) :
    Reports response next value ↔ Certification.Reports answer rx.certification value := by
  cases answer with
  | adrBitChange adr =>
      have silent := deliverToApp_reports ran
      simp [Reports, Certification.Reports, silent]
  | txFramesCtrlReq ftype =>
      have silent := deliverToApp_reports ran
      simp [Reports, Certification.Reports, silent]
  | dutJoinReq | dutResetReq | linkCheckReq | uplinkPrepared | noUpdate =>
      cases ran
      simp [Reports, Certification.Reports]
  | txPeriodicityChange periodicity =>
      cases ran
      simp [Reports, Certification.Reports]

theorem asks_data {env : RxEnv} {decrypted : DecryptedDataPayload} {fport : Byte} {data : List Byte}
    (port : decrypted.fPort = some fport) (payload : decrypted.frmPayload = .data data) :
    asks env decrypted = (env.features.certification && fport == certificationPort &&
      Certification.asksCount (MacCommands.results data)) := by
  simp only [asks, port, payload]

theorem asks_other {env : RxEnv} {decrypted : DecryptedDataPayload}
    (other : ∀ fport data, decrypted.fPort = some fport →
      decrypted.frmPayload = .data data → False) : asks env decrypted = false := by
  unfold asks
  split
  · rename_i fport data port payload
    exact (other fport data port payload).elim
  · rfl

theorem deliver_reports {env : RxEnv} {decrypted : DecryptedDataPayload} {fcnt : UInt32}
    {rx next : RxState} {response : Response} {value : UInt16}
    (ran : deliver env decrypted fcnt rx = .ok (response, next)) :
    Reports response next value ↔ asks env decrypted = true ∧ value = fcnt.toUInt16 := by
  unfold deliver at ran
  split at ran
  · rename_i fport data port payload
    rw [asks_data port payload]
    split at ran
    · rename_i certifying
      obtain ⟨⟨answer, certification⟩, handled, ran⟩ := Checked.bind_eq_ok_iff.mp ran
      rw [afterCertification_reports ran, Certification.handleMessages_reports handled,
        certifying, Bool.true_and]
    · rename_i plain
      have silent := deliverToApp_reports ran
      simp only [Bool.not_eq_true] at plain
      simp [Reports, silent, plain]
  · rename_i other
    cases ran
    rw [asks_other other]
    simp [Reports]

theorem acceptDownlink_reports {env : RxEnv} {data : EncryptedDataPayload} {fcnt : UInt32}
    {snr : Int8} {ignoreMac : Bool} {rx next : RxState} {response : Response} {value : UInt16}
    (ran : acceptDownlink env data fcnt snr ignoreMac rx = .ok (response, next)) :
    Reports response next value ↔ rx.session.fcntUp ≠ lastFcntUp ∧
      (∃ decrypted, DecryptedDataPayload.decryptInPlace data.bytes
          (some (env.newCrypto rx.session.nwkskey.inner))
          (some (env.newCrypto rx.session.appskey.inner)) fcnt = .ok (.ok decrypted) ∧
        asks env decrypted = true) ∧ value = fcnt.toUInt16 := by
  obtain ⟨deciphered, opened, ran⟩ := Checked.bind_eq_ok_iff.mp ran
  obtain ⟨decrypted, found, ran⟩ := Checked.bind_eq_ok_iff.mp ran
  obtain ⟨middle, commands, ran⟩ := Checked.bind_eq_ok_iff.mp ran
  have inner : deciphered = .ok decrypted := by
    cases deciphered with
    | error e => cases found
    | ok other =>
        cases found
        rfl
  rw [inner] at opened
  have kept := runFrameMacs_ok commands
  have fcntUp : (noteConfirmed data.isConfirmed middle).session.fcntUp = rx.session.fcntUp := by
    rw [noteConfirmed_session, kept]
    rfl
  unfold closeDownlink at ran
  rw [fcntUp] at ran
  split at ran
  · rename_i expired
    cases ran
    simp [Reports, expired]
  · rename_i going
    rw [deliver_reports ran, opened]
    simp [going]

/-- A count is reported just for the requests, and it is the low half of the frame counter. -/
theorem handleRx_reports {env : RxEnv} {bytes : List Byte} {maxPayloadLen : Nat} {snr : Int8}
    {ignoreMac : Bool} {rx next : RxState} {response : Response} {value : UInt16}
    (ran : handleRx env bytes maxPayloadLen snr ignoreMac rx = .ok (response, next)) :
    Reports response next value ↔
      ∃ fcnt, AsksCount env bytes maxPayloadLen rx fcnt ∧ value = fcnt.toUInt16 := by
  have refused : ∀ {response : Response}, response ≠ .uplinkPrepared →
      acceptedCounter env bytes maxPayloadLen rx = none →
      (Reports response next value ↔
        ∃ fcnt, AsksCount env bytes maxPayloadLen rx fcnt ∧ value = fcnt.toUInt16) := by
    intro response silent none
    constructor
    · rintro ⟨prepared, _⟩
      exact absurd prepared silent
    · rintro ⟨fcnt, asking, _⟩
      have taken := asking.accepted
      rw [none] at taken
      cases taken
  cases handleRx_outcome ran with
  | malformed e unparsed =>
      exact refused Response.noConfusion (acceptedCounter_none_of_unparsed unparsed)
  | oversized data parsed large response session configuration completed =>
      refine refused ?_ (acceptedCounter_none_of_oversized large)
      rintro rfl
      rcases rx2Complete_counts completed with ⟨_, answer, _⟩ | ⟨_, answer, _⟩
      · cases answer
      · split at answer <;> cases answer
  | multicast data parsed fits counted counting group response next handled =>
      obtain ⟨_, _, handled⟩ := Checked.bind_eq_ok_iff.mp handled
      cases handled
      subst parsed
      exact refused Response.noConfusion (acceptedCounter_none_of_group group)
  | stale data parsed fits counted counting unicast old =>
      refine refused Response.noConfusion ?_
      rw [acceptedCounter_of_parse parsed fits unicast, old]
      rfl
  | forged data parsed fits counted counting unicast fcnt fresh invalid =>
      refine refused Response.noConfusion ?_
      rw [acceptedCounter_of_parse parsed fits unicast, fresh, Option.bind_some, invalid]
      rfl
  | accepted data parsed fits counted counting unicast fcnt fresh valid response next handled =>
      have same := counted_same counting
      have appskey : counted.session.appskey = rx.session.appskey := by rw [same.session]
      have taken : acceptedCounter env bytes maxPayloadLen rx = some fcnt := by
        rw [acceptedCounter_of_parse parsed fits unicast, fresh, Option.bind_some, valid,
          if_pos rfl]
      rw [acceptDownlink_reports handled, same.fcntUp, same.nwkskey, appskey, parsed]
      constructor
      · rintro ⟨going, asked, low⟩
        exact ⟨fcnt, ⟨taken, going, asked⟩, low⟩
      · rintro ⟨other, asking, low⟩
        have sameCounter := asking.accepted
        rw [taken] at sameCounter
        cases sameCounter
        exact ⟨asking.going, asking.asked, low⟩

end Session

/-! ## Runs -/

/-- The count in the answer that the application is told to send. -/
def reported (response : Response) (next : RxState) : Option UInt16 :=
  if response = .uplinkPrepared then next.certification.reportedCount else none

theorem reported_eq_some {response : Response} {next : RxState} {value : UInt16} :
    reported response next = some value ↔ Session.Reports response next value := by
  rw [reported, Session.Reports]
  split
  · rename_i prepared
    exact ⟨fun told => ⟨prepared, told⟩, And.right⟩
  · rename_i other
    simp [other]

def hasAppPort (bytes : List Byte) : Bool :=
  match EncryptedDataPayload.parse bytes with
  | .error _ => false
  | .ok data => Session.portIs data.toDataView fun port => decide (port > 0)

def groupAccepted : Response → Bool
  | .multicast (.downlinkReceived _ _) | .multicast (.sessionExpired _) => true
  | _ => false

def newDownlinks (env : RxEnv) (bytes : List Byte) (maxPayloadLen : Nat) (rx : RxState)
    (response : Response) : Nat :=
  if hasAppPort bytes &&
      ((Session.acceptedCounter env bytes maxPayloadLen rx).isSome || groupAccepted response) then 1
  else 0

/-- A session in its MAC, with the application downlinks accepted so far and every count
reported, next to the downlinks accepted by then. -/
structure AppRun where
  rx : RxState
  accepted : Nat
  reports : List (UInt16 × Nat)

def appStep (env : RxEnv) (bufferSize : Nat) (event : SessionEvent) (run : AppRun) :
    Checked AppRun :=
  match event with
  | .received bytes maxPayloadLen snr ignoreMac => do
      let (response, rx) ← Session.handleRx env bytes maxPayloadLen snr ignoreMac run.rx
      let accepted := run.accepted + newDownlinks env bytes maxPayloadLen run.rx response
      return { rx, accepted, reports := run.reports ++
        ((reported response rx).map fun value => (value, accepted)).toList }
  | other => do
      let next ← sessionStep env bufferSize other ⟨run.rx, []⟩
      return { run with rx := next.rx }

/-- What a received frame owes the counter: its arithmetic does not overflow, and a count that
is reported after it is that of the downlinks accepted. -/
def CountHolds (env : RxEnv) (event : SessionEvent) (run : AppRun) : Prop :=
  match event with
  | .received bytes maxPayloadLen snr ignoreMac =>
      (∀ data, EncryptedDataPayload.parse bytes = .ok data →
        Session.isOversized maxPayloadLen bytes = false →
        Checked.Returns (Session.countAppDownlink env data.toDataView
          (Session.clearAnswers ignoreMac run.rx))) ∧
      ∀ response next value,
        Session.handleRx env bytes maxPayloadLen snr ignoreMac run.rx = .ok (response, next) →
        reported response next = some value →
        value.toNat = (run.accepted + newDownlinks env bytes maxPayloadLen run.rx response) % 2 ^ 16
  | _ => True

/-- When it meets that: the counter is not at its end before a frame that moves it, and a
frame that asks for the count has as its counter the number of downlinks accepted with it. -/
def CounterAgrees (env : RxEnv) (event : SessionEvent) (run : AppRun) : Prop :=
  match event with
  | .received bytes maxPayloadLen _ _ =>
      (Session.isCounted env bytes = true → Session.isOversized maxPayloadLen bytes = false →
        run.rx.session.rxAppCnt.toNat ≠ 65535) ∧
      ∀ fcnt, Session.AsksCount env bytes maxPayloadLen run.rx fcnt →
        fcnt.toNat % 2 ^ 16 = (run.accepted + 1) % 2 ^ 16
  | _ => True

/-- The counter overflows just at its end, at any frame with a port above 0. -/
theorem counts_iff (env : RxEnv) (bytes : List Byte) (maxPayloadLen : Nat) (ignoreMac : Bool)
    (rx : RxState) :
    (∀ data, EncryptedDataPayload.parse bytes = .ok data →
        Session.isOversized maxPayloadLen bytes = false →
        Checked.Returns (Session.countAppDownlink env data.toDataView
          (Session.clearAnswers ignoreMac rx))) ↔
      (Session.isCounted env bytes = true → Session.isOversized maxPayloadLen bytes = false →
        rx.session.rxAppCnt.toNat ≠ 65535) := by
  have kept : (Session.clearAnswers ignoreMac rx).session.rxAppCnt = rx.session.rxAppCnt := by
    unfold Session.clearAnswers
    split <;> rfl
  unfold Session.isCounted
  cases parsed : EncryptedDataPayload.parse bytes with
  | error e => simp
  | ok data =>
      constructor
      · intro counts counted fits
        have returned := (Session.countAppDownlink_returns_iff env data.toDataView _).mp
          (counts data rfl fits) counted
        rwa [kept] at returned
      · rintro room other found fits
        cases found
        refine (Session.countAppDownlink_returns_iff env data.toDataView _).mpr ?_
        intro counted
        rw [kept]
        exact room counted fits

theorem fPort_eq (view : DataView) :
    view.fPort = view.layout.fPortOffset.bind fun offset => view.bytes[offset]? := by
  obtain ⟨bytes, ⟨frameType, fhdrLen, fPortOffset, frmStart, frmEnd⟩, valid⟩ := view
  cases fPortOffset with
  | none => rfl
  | some offset =>
      have inside := valid.port_inside offset rfl
      exact (List.getElem?_eq_getElem inside).symm

theorem port_before_frm {bytes : List Byte} {layout : Layout} (valid : Layout.Validated bytes layout)
    {offset : Nat} (found : layout.fPortOffset = some offset) : offset < layout.frmStart := by
  rw [valid.placed] at found ⊢
  simp only [Layout.place, mhdrLen, micLen] at found ⊢
  split at found
  · cases found
    rename_i long
    rw [if_pos long]
    exact Nat.lt_succ_self _
  · cases found

theorem decryptInPlace_fPort {data : EncryptedDataPayload} {nwkCrypto appCrypto : Option Crypto}
    {fcnt : UInt32} {decrypted : DecryptedDataPayload}
    (opened : DecryptedDataPayload.decryptInPlace data.bytes nwkCrypto appCrypto fcnt =
      .ok (.ok decrypted)) : decrypted.fPort = data.fPort := by
  simp only [DecryptedDataPayload.decryptInPlace, EncryptedDataPayload.parse_bytes] at opened
  unfold DecryptedDataPayload.decryptView at opened
  split at opened
  · split at opened
    · cases opened
    · simp only at opened
      split at opened
      · cases opened
      · rename_i out success
        cases opened
        rw [fPort_eq, fPort_eq]
        apply Option.bind_congr
        intro offset placed
        exact SecurityHelpers.encryptFrmDataPayload_getElem? _ _ _ _ _ _ _ _ success offset
          (port_before_frm data.valid placed)
  · cases opened
    rfl

theorem hasAppPort_of_asks {env : RxEnv} {bytes : List Byte} {maxPayloadLen : Nat} {rx : RxState}
    {fcnt : UInt32} (asking : Session.AsksCount env bytes maxPayloadLen rx fcnt) :
    hasAppPort bytes = true := by
  obtain ⟨data, rfl, _⟩ := Session.acceptedCounter_eq_some asking.accepted
  obtain ⟨decrypted, opened, asked⟩ := asking.asked
  have port := decryptInPlace_fPort opened
  unfold Session.asks at asked
  split at asked
  · rename_i fport payload found _
    simp only [Bool.and_eq_true, beq_iff_eq] at asked
    rw [asked.1.2] at found
    rw [found] at port
    simp only [hasAppPort, EncryptedDataPayload.parse_bytes, Session.portIs, ← port]
    rfl
  · cases asked

theorem report_right_iff {env : RxEnv} {bytes : List Byte} {maxPayloadLen : Nat} {snr : Int8}
    {ignoreMac : Bool} {run : AppRun} {response : Response} {next : RxState}
    (ran : Session.handleRx env bytes maxPayloadLen snr ignoreMac run.rx = .ok (response, next)) :
    (∀ value, reported response next = some value → value.toNat =
        (run.accepted + newDownlinks env bytes maxPayloadLen run.rx response) % 2 ^ 16) ↔
      ∀ fcnt, Session.AsksCount env bytes maxPayloadLen run.rx fcnt →
        fcnt.toNat % 2 ^ 16 = (run.accepted + 1) % 2 ^ 16 := by
  have one : ∀ {fcnt}, Session.AsksCount env bytes maxPayloadLen run.rx fcnt →
      newDownlinks env bytes maxPayloadLen run.rx response = 1 := by
    intro fcnt asking
    rw [newDownlinks, hasAppPort_of_asks asking, asking.accepted]
    rfl
  constructor
  · intro right fcnt asking
    have told := right fcnt.toUInt16
      (reported_eq_some.mpr ((Session.handleRx_reports ran).mpr ⟨fcnt, asking, rfl⟩))
    rw [one asking, UInt32.toNat_toUInt16] at told
    exact told
  · intro agrees value told
    obtain ⟨fcnt, asking, rfl⟩ := (Session.handleRx_reports ran).mp (reported_eq_some.mp told)
    rw [one asking, UInt32.toNat_toUInt16]
    exact agrees fcnt asking

theorem countHolds_of_agrees (env : RxEnv) (event : SessionEvent) (run : AppRun)
    (agrees : CounterAgrees env event run) : CountHolds env event run := by
  cases event with
  | received bytes maxPayloadLen snr ignoreMac =>
      refine ⟨(counts_iff env bytes maxPayloadLen ignoreMac run.rx).mpr agrees.1, ?_⟩
      intro response next value ran
      exact (report_right_iff ran).mpr agrees.2 value
  | windowsClosed => trivial
  | uplinkBuilt data => trivial
  | answerQueued cmd => trivial
  | reconfigured region configuration certification multicast dl => trivial

def ReportsRight (run : AppRun) : Prop :=
  ∀ report ∈ run.reports, report.1.toNat = report.2 % 2 ^ 16

theorem appStep_keeps_reports (env : RxEnv) (bufferSize : Nat) (event : SessionEvent)
    (run next : AppRun) (holds : CountHolds env event run) (before : ReportsRight run)
    (stepped : appStep env bufferSize event run = .ok next) : ReportsRight next := by
  have others : ∀ {other : SessionEvent}, (sessionStep env bufferSize other ⟨run.rx, []⟩ >>=
      fun after => (pure { run with rx := after.rx } : Checked AppRun)) = .ok next →
      ReportsRight next := by
    intro other stepped
    obtain ⟨after, _, stepped⟩ := Checked.bind_eq_ok_iff.mp stepped
    cases stepped
    exact before
  cases event with
  | received bytes maxPayloadLen snr ignoreMac =>
      obtain ⟨⟨response, rx⟩, ran, stepped⟩ := Checked.bind_eq_ok_iff.mp stepped
      cases stepped
      intro report logged
      rcases List.mem_append.mp logged with earlier | new
      · exact before report earlier
      · obtain ⟨value, told, rfl⟩ := Option.map_eq_some_iff.mp (Option.mem_toList.mp new)
        exact holds.2 response rx value ran told
  | windowsClosed => exact others stepped
  | uplinkBuilt data => exact others stepped
  | answerQueued cmd => exact others stepped
  | reconfigured region configuration certification multicast dl => exact others stepped

/-- In every run whose steps all agree with the counter, each step counts without overflow and
every count reported is the number of application downlinks accepted by then. -/
theorem app_count_reported {env : RxEnv} {bufferSize : Nat} {events : List SessionEvent}
    {rx : RxState}
    (agrees : Transition.Guarded (appStep env bufferSize) (CounterAgrees env) events ⟨rx, 0, []⟩) :
    Transition.Guarded (appStep env bufferSize) (CountHolds env) events ⟨rx, 0, []⟩ ∧
      ∀ final, Transition.run (appStep env bufferSize) events ⟨rx, 0, []⟩ = .ok final →
        ReportsRight final := by
  have holds := Transition.guarded_mono (countHolds_of_agrees env) events _ agrees
  refine ⟨holds, ?_⟩
  intro final ran
  refine Transition.guarded_run_preserves ReportsRight (appStep_keeps_reports env bufferSize) events
    _ final holds ?_ ran
  intro report none
  cases none

/-- A condition that is enough, by evaluation: every accepted frame has the counter that a
request would need. -/
def agreesBy (env : RxEnv) (event : SessionEvent) (run : AppRun) : Bool :=
  match event with
  | .received bytes maxPayloadLen _ _ =>
      decide (run.rx.session.rxAppCnt.toNat ≠ 65535) &&
        (Session.acceptedCounter env bytes maxPayloadLen run.rx).all fun fcnt =>
          decide (fcnt.toNat % 2 ^ 16 = (run.accepted + 1) % 2 ^ 16)
  | _ => true

theorem agrees_of_agreesBy {env : RxEnv} (event : SessionEvent) (run : AppRun)
    (passed : agreesBy env event run = true) : CounterAgrees env event run := by
  cases event with
  | received bytes maxPayloadLen snr ignoreMac =>
      simp only [agreesBy, Bool.and_eq_true, decide_eq_true_eq] at passed
      refine ⟨fun _ _ => passed.1, ?_⟩
      intro fcnt asking
      have agrees := passed.2
      rw [asking.accepted, Option.all_some, decide_eq_true_eq] at agrees
      exact agrees
  | windowsClosed | uplinkBuilt | answerQueued | reconfigured => trivial

namespace Sample

theorem port_224 : (224 : Byte) ≠ 0 := by decide

theorem port_1 : (1 : Byte) ≠ 0 := by decide

/-- A RxAppCntReq of the network. -/
def countRequest (fcnt : UInt32) : List Byte :=
  frame .unconfirmedDown fcnt [] (.data 224 port_224 [0x09])

/-- An application frame of somebody else. -/
def forged : List Byte := (countRequest 5).dropLast ++ [0]

/-- Two requests and a downlink for the application, the first request replayed, with a forged
one before them; an uplink ends without a downlink in between. -/
def countRun : List SessionEvent :=
  [.received forged 59 0 false, .received (countRequest 1) 59 0 false,
    .received (countRequest 1) 59 0 true, .windowsClosed,
    .received (frame .confirmedDown 2 [] (.data 1 port_1 [7])) 59 0 false,
    .received (countRequest 3) 59 0 false]

end Sample

/-- A network that starts at 5 is told 5 application downlinks when it has sent one; and at its
end the counter overflows at a frame that nobody authenticated. -/
theorem frame_counter_reported :
    (∃ final, Transition.run (appStep Sample.env 256)
        [.received (Sample.countRequest 5) 59 0 false] ⟨Sample.rx, 0, []⟩ = .ok final ∧
      final.reports = [(5, 1)] ∧ ¬ ReportsRight final) ∧
    Session.isAuthentic Sample.env Sample.forged Sample.rx = false ∧
      Session.handleRx Sample.env Sample.forged 59 0 false
        { Sample.rx with session := { Sample.session with rxAppCnt := 65535 } } =
          .error .overflow := by
  have ran : (AppRun.reports <$> Transition.run (appStep Sample.env 256)
      [.received (Sample.countRequest 5) 59 0 false] ⟨Sample.rx, 0, []⟩) = .ok [(5, 1)] := by
    decide +kernel
  obtain ⟨final, ran, logged⟩ := Checked.map_eq_ok_iff.mp ran
  refine ⟨⟨final, ran, logged, ?_⟩, by decide +kernel, by decide +kernel⟩
  intro right
  have told := right (5, 1) (by rw [logged]; exact List.mem_singleton_self _)
  exact absurd told (by decide)

/-- A network that counts from 1 is told what it has sent. -/
theorem app_count_reported_sample :
    ∃ final, Transition.run (appStep Sample.env 256) Sample.countRun ⟨Sample.rx, 0, []⟩ =
        .ok final ∧
      final.reports = [(1, 1), (3, 3)] ∧ ReportsRight final := by
  have agrees : Transition.Guarded (appStep Sample.env 256) (CounterAgrees Sample.env)
      Sample.countRun ⟨Sample.rx, 0, []⟩ :=
    Transition.guarded_of_passes agrees_of_agreesBy _ _ (by decide +kernel)
  have ran : (AppRun.reports <$> Transition.run (appStep Sample.env 256) Sample.countRun
      ⟨Sample.rx, 0, []⟩) = .ok [(1, 1), (3, 3)] := by
    decide +kernel
  obtain ⟨final, ran, logged⟩ := Checked.map_eq_ok_iff.mp ran
  exact ⟨final, ran, logged, (app_count_reported agrees).2 final ran⟩

end LoraRs.Mac
