import LoraRs.Mac.FrameCounter

/-!
# Authentication of received frames

What frames that nobody authenticated leave alone, and when only frames addressed to
the session act on it.
-/

set_option autoImplicit false

namespace LoraRs.Mac

open LoraRs.Encoding LoraRs.Encoding.Multicast LoraRs.Lib

namespace Session

/-! ## Frames addressed to the session -/

/-- A downlink that carries the session's address. -/
def isAddressed (session : Session) (bytes : List Byte) : Bool :=
  match EncryptedDataPayload.parse bytes with
  | .error _ => false
  | .ok data => !data.isUplink && decide (data.fhdr.devAddr = session.devaddr)

/-- What only an accepted unicast downlink is for: it advances the counter, its MAC
commands change region or configuration, it asks for an acknowledgment, it is
delivered.  An oversized frame runs no command; the multicast handler has a queue entry
and an address of its own. -/
inductive Acts (bytes : List Byte) (maxPayloadLen : Nat) (rx : RxState) (response : Response)
    (next : RxState) : Prop where
  | counter (advanced : next.session.fcntDown ≠ rx.session.fcntDown)
  | region (changed : next.region ≠ rx.region)
  | configuration (fits : isOversized maxPayloadLen bytes = false)
      (changed : next.configuration ≠ rx.configuration)
  | acknowledgment (raised : next.session.uplink.confirmed ≠ rx.session.uplink.confirmed)
  | delivered (fcnt : UInt32) (downlink : response = .downlinkReceived fcnt)

namespace SameButQueue

variable {bytes : List Byte} {maxPayloadLen : Nat} {rx next : RxState}

theorem not_acts (same : SameButQueue rx next) {response : Response}
    (silent : ∀ fcnt, response ≠ .downlinkReceived fcnt) :
    ¬ Acts bytes maxPayloadLen rx response next := by
  intro acts
  cases acts with
  | counter advanced => exact advanced same.fcntDown
  | region changed => exact changed same.region
  | configuration _ changed => exact changed same.configuration
  | acknowledgment raised => exact raised same.confirmed
  | delivered fcnt downlink => exact silent fcnt downlink

end SameButQueue

theorem acts_iff_accepted {env : RxEnv} {bytes : List Byte} {maxPayloadLen : Nat} {snr : Int8}
    {ignoreMac : Bool} {rx next : RxState} {response : Response}
    (ran : handleRx env bytes maxPayloadLen snr ignoreMac rx = .ok (response, next)) :
    Acts bytes maxPayloadLen rx response next ↔
      (acceptedCounter env bytes maxPayloadLen rx).isSome = true := by
  have noUpdate : ∀ fcnt, Response.noUpdate ≠ .downlinkReceived fcnt := by
    intro fcnt same
    cases same
  constructor
  · intro acts
    cases handleRx_outcome ran with
    | malformed e unparsed =>
        have unchanged : SameButQueue rx rx := ⟨rfl, rfl, rfl, rfl, rfl, rfl, rfl⟩
        exact absurd acts (unchanged.not_acts noUpdate)
    | oversized data parsed large response session configuration completed =>
        obtain ⟨sessionEq, _, silent⟩ := rx2Complete_session completed
        exfalso
        cases acts with
        | counter advanced =>
            apply advanced
            simp only
            rw [sessionEq]
        | region changed => exact changed rfl
        | configuration fits _ =>
            rw [large] at fits
            cases fits
        | acknowledgment raised =>
            apply raised
            simp only
            rw [sessionEq]
        | delivered fcnt downlink => exact silent fcnt downlink
    | multicast data parsed fits counted counting group response next handled =>
        obtain ⟨⟨answer, multicast, dl⟩, _, handled⟩ := Checked.bind_eq_ok_iff.mp handled
        cases handled
        have kept := counted_same counting
        exfalso
        cases acts with
        | counter advanced => exact advanced kept.fcntDown
        | region changed => exact changed kept.region
        | configuration _ changed => exact changed kept.configuration
        | acknowledgment raised => exact raised kept.confirmed
        | delivered fcnt downlink => cases downlink
    | stale data parsed fits counted counting unicast old =>
        exact absurd acts ((counted_same counting).not_acts noUpdate)
    | forged data parsed fits counted counting unicast fcnt fresh invalid =>
        exact absurd acts ((counted_same counting).not_acts noUpdate)
    | accepted data parsed fits counted counting unicast fcnt fresh valid response next handled =>
        rw [acceptedCounter_of_parse parsed fits unicast, fresh, Option.bind_some, valid,
          if_pos rfl]
        rfl
  · intro accepted
    obtain ⟨fcnt, acceptedEq⟩ := Option.isSome_iff_exists.mp accepted
    obtain ⟨data, _, _, _, fresh, _⟩ := acceptedCounter_eq_some acceptedEq
    have moved := handleRx_fcntDown ran
    rw [acceptedEq] at moved
    apply Acts.counter
    rw [moved]
    intro same
    rw [← same] at fresh
    exact absurd (nextFcntDown_gt fresh) (UInt32.lt_irrefl fcnt)

/-- Only frames addressed to the session act on it if and only if no other frame has a
fresh counter and a good MIC: neither the direction nor the address is compared. -/
theorem acts_only_if_addressed_iff {env : RxEnv} {bytes : List Byte} {maxPayloadLen : Nat}
    {snr : Int8} {ignoreMac : Bool} {rx next : RxState} {response : Response}
    (ran : handleRx env bytes maxPayloadLen snr ignoreMac rx = .ok (response, next)) :
    (Acts bytes maxPayloadLen rx response next → isAddressed rx.session bytes = true) ↔
      ∀ (data : EncryptedDataPayload) (fcnt : UInt32), data.bytes = bytes →
        isOversized maxPayloadLen bytes = false →
        isMulticastFrame env data.toDataView rx = false →
        nextFcntDown rx.session.fcntDown data.fhdr.fcnt = some fcnt →
        micValid env rx.session data fcnt = true →
        data.isUplink = false ∧ data.fhdr.devAddr = rx.session.devaddr := by
  have reading : ∀ data : EncryptedDataPayload, data.bytes = bytes →
      (isAddressed rx.session bytes = true ↔
        data.isUplink = false ∧ data.fhdr.devAddr = rx.session.devaddr) := by
    intro data parsed
    simp only [isAddressed, (EncryptedDataPayload.parse_eq_ok_iff bytes data).mpr parsed,
      Bool.and_eq_true, Bool.not_eq_true', decide_eq_true_eq]
  rw [acts_iff_accepted ran]
  constructor
  · intro only data fcnt parsed fits unicast fresh valid
    apply (reading data parsed).mp
    apply only
    rw [acceptedCounter_of_parse parsed fits unicast, fresh, Option.bind_some, valid, if_pos rfl]
    rfl
  · intro addressed accepted
    obtain ⟨fcnt, acceptedEq⟩ := Option.isSome_iff_exists.mp accepted
    obtain ⟨data, parsed, fits, unicast, fresh, valid⟩ := acceptedCounter_eq_some acceptedEq
    exact (reading data parsed).mpr (addressed data fcnt parsed fits unicast fresh valid)

/-- The uplink that a fresh session builds, received by that session. -/
theorem reflected_uplink_acts :
    Sample.session.prepareBuffer Sample.crypto 256 ⟨[1, 2, 3], 1, false⟩ Sample.configuration
        Sample.rx.region =
      .ok (0, [64, 4, 3, 2, 1, 128, 0, 0, 1, 1, 3, 2, 164, 165, 166, 167], Sample.session) ∧
    (∃ next, handleRx Sample.env
        [64, 4, 3, 2, 1, 128, 0, 0, 1, 1, 3, 2, 164, 165, 166, 167] 59 0 false Sample.rx =
        .ok (.downlinkReceived 0, next) ∧
      next.session.fcntDown = some 0 ∧ next.dl = [⟨[1, 2, 3], 1⟩]) ∧
    isAddressed Sample.session
      [64, 4, 3, 2, 1, 128, 0, 0, 1, 1, 3, 2, 164, 165, 166, 167] = false := by
  refine ⟨by decide +kernel, ⟨{ Sample.rx with
    session := { Sample.session with fcntUp := 1, fcntDown := some 0, rxAppCnt := 1 }
    dl := [⟨[1, 2, 3], 1⟩] }, by decide +kernel, rfl, rfl⟩, by decide +kernel⟩

/-- A downlink of the network to the session acts, and is addressed to it. -/
theorem acts_only_if_addressed_iff_sample :
    ∃ next, handleRx Sample.env (Sample.commands 5 []) 59 0 false Sample.rx =
        .ok (.downlinkReceived 5, next) ∧
      ((Acts (Sample.commands 5 []) 59 Sample.rx (.downlinkReceived 5) next →
          isAddressed Sample.session (Sample.commands 5 []) = true) ↔
        ∀ (data : EncryptedDataPayload) (fcnt : UInt32), data.bytes = Sample.commands 5 [] →
          isOversized 59 (Sample.commands 5 []) = false →
          isMulticastFrame Sample.env data.toDataView Sample.rx = false →
          nextFcntDown Sample.session.fcntDown data.fhdr.fcnt = some fcnt →
          micValid Sample.env Sample.session data fcnt = true →
          data.isUplink = false ∧ data.fhdr.devAddr = Sample.session.devaddr) := by
  have ran : handleRx Sample.env (Sample.commands 5 []) 59 0 false Sample.rx =
      .ok (.downlinkReceived 5, { Sample.rx with
        session := { Sample.session with fcntUp := 1, fcntDown := some 5 } }) := by
    decide +kernel
  exact ⟨_, ran, acts_only_if_addressed_iff ran⟩

/-! ## Frames that nobody authenticated -/

/-- Whether the MIC is good: under the session's key at the reconstructed counter, or
under the key of a multicast session at the counter on the wire. -/
def isAuthentic (env : RxEnv) (bytes : List Byte) (rx : RxState) : Bool :=
  match EncryptedDataPayload.parse bytes with
  | .error _ => false
  | .ok data =>
      (match nextFcntDown rx.session.fcntDown data.fhdr.fcnt with
        | some fcnt => micValid env rx.session data fcnt
        | none => false) ||
      (List.finRange maxGroups).any fun id =>
        match rx.multicast.sessions.get id with
        | some session =>
            data.validateMic (env.newCrypto session.mcNetSKey.inner) data.fhdr.fcnt.toUInt32
        | none => false

/-- Whether the frame is over the size limit of the window. -/
def endsWindows (bytes : List Byte) (maxPayloadLen : Nat) : Bool :=
  (EncryptedDataPayload.parse bytes).isOk && isOversized maxPayloadLen bytes

def isCounted (env : RxEnv) (bytes : List Byte) : Bool :=
  match EncryptedDataPayload.parse bytes with
  | .error _ => false
  | .ok data => env.features.certification && portIs data.toDataView fun port => decide (port > 0)

/-- What is sure not to change: everything but the queued answers of a Class A window
and the certification counter. -/
structure Unchanged (env : RxEnv) (bytes : List Byte) (ignoreMac : Bool) (rx next : RxState) :
    Prop where
  same : SameButQueue rx next
  queue : ignoreMac = true → next.session.uplink = rx.session.uplink
  count : isCounted env bytes = false → next.session.rxAppCnt = rx.session.rxAppCnt
  unparsed : (EncryptedDataPayload.parse bytes).isOk = false → next = rx

theorem counted_unchanged {env : RxEnv} {data : EncryptedDataPayload} {bytes : List Byte}
    {ignoreMac : Bool} {rx counted : RxState} (parsed : data.bytes = bytes)
    (counting : countAppDownlink env data.toDataView (clearAnswers ignoreMac rx) = .ok counted) :
    Unchanged env bytes ignoreMac rx counted := by
  have parsedEq := (EncryptedDataPayload.parse_eq_ok_iff bytes data).mpr parsed
  refine ⟨counted_same counting, ?_, ?_, ?_⟩
  · intro classC
    rw [countAppDownlink_ok counting, clearAnswers, if_pos classC]
  · intro uncounted
    simp only [isCounted, parsedEq] at uncounted
    rw [countAppDownlink, uncounted, if_neg Bool.false_ne_true] at counting
    cases counting
    unfold clearAnswers
    split <;> rfl
  · intro failed
    rw [parsedEq] at failed
    cases failed

theorem matchingSession_eq_some {multicast : Multicast} {addr : McAddr} {id : Fin maxGroups}
    {session : Encoding.Multicast.Session}
    (found : multicast.matchingSession addr = some (id, session)) :
    multicast.sessions.get id = some session := by
  obtain ⟨candidate, _, matched⟩ := List.exists_of_findSome?_eq_some found
  split at matched
  · rename_i held heldEq
    split at matched
    · cases matched
      exact heldEq
    · cases matched
  · cases matched

/-- A multicast frame whose MIC is good for no group changes nothing. -/
theorem multicastHandleRx_forged (newCrypto : NewCrypto) (capacity : Nat)
    (multicast : Multicast) (dl : List Downlink) (data : EncryptedDataPayload)
    (forged : ∀ (id : Fin maxGroups) (session : Encoding.Multicast.Session),
      multicast.sessions.get id = some session →
      data.validateMic (newCrypto session.mcNetSKey.inner) data.fhdr.fcnt.toUInt32 = false) :
    multicast.handleRx newCrypto capacity dl data.bytes = .ok (.noUpdate, multicast, dl) := by
  simp only [Multicast.handleRx, EncryptedDataPayload.parse_bytes]
  cases found : multicast.matchingSession data.fhdr.mcAddr with
  | none => rfl
  | some group =>
      obtain ⟨id, session⟩ := group
      simp only [forged id session (matchingSession_eq_some found), Bool.false_and,
        Bool.false_eq_true, if_false]

/-- Within the size limit a frame that nobody authenticated ends where it is counted. -/
theorem handleRx_counted {env : RxEnv} {data : EncryptedDataPayload} {maxPayloadLen : Nat}
    {snr : Int8} {ignoreMac : Bool} {rx next : RxState} {response : Response}
    (forged : isAuthentic env data.bytes rx = false)
    (fits : isOversized maxPayloadLen data.bytes = false)
    (ran : handleRx env data.bytes maxPayloadLen snr ignoreMac rx = .ok (response, next)) :
    countAppDownlink env data.toDataView (clearAnswers ignoreMac rx) = .ok next := by
  simp only [isAuthentic, EncryptedDataPayload.parse_bytes, Bool.or_eq_false_iff,
    List.any_eq_false] at forged
  have read : ∀ other : EncryptedDataPayload, other.bytes = data.bytes →
      other.toDataView = data.toDataView := fun _ parsed => DataView.ext_bytes parsed
  cases handleRx_outcome ran with
  | malformed e unparsed =>
      rw [EncryptedDataPayload.parse_bytes] at unparsed
      cases unparsed
  | oversized other parsed large response session configuration completed =>
      rw [fits] at large
      cases large
  | multicast other parsed fits counted counting group response next handled =>
      rw [read other parsed] at counting
      have silent := multicastHandleRx_forged env.newCrypto env.capacity counted.multicast
        counted.dl data (by
          rw [(counted_same counting).multicast]
          intro id session held
          have refused := forged.2 id (List.mem_finRange id)
          rw [held] at refused
          simpa only [Bool.not_eq_true] using refused)
      simp only [handleMulticast, parsed, silent, Checked.ok_bind] at handled
      cases handled
      exact counting
  | stale other parsed fits counted counting unicast old =>
      rw [read other parsed] at counting
      exact counting
  | forged other parsed fits counted counting unicast fcnt fresh invalid =>
      rw [read other parsed] at counting
      exact counting
  | accepted other parsed fits counted counting unicast fcnt fresh valid response next handled =>
      have same : other = data := by
        cases other
        cases data
        exact congrArg EncryptedDataPayload.mk (read _ parsed)
      rw [same] at fresh valid
      simp only [fresh, valid] at forged
      cases forged.1

/-- A frame that nobody authenticated: over the size limit it does what the end of the
receive windows does and nothing else; otherwise everything but the queued answers and
the certification counter stays. -/
theorem unauthenticated_frame_changes {env : RxEnv} {bytes : List Byte} {maxPayloadLen : Nat}
    {snr : Int8} {ignoreMac : Bool} {rx next : RxState} {response : Response}
    (forged : isAuthentic env bytes rx = false)
    (ran : handleRx env bytes maxPayloadLen snr ignoreMac rx = .ok (response, next)) :
    if endsWindows bytes maxPayloadLen = true then
      ∃ session configuration,
        rx.session.rx2Complete rx.configuration rx.region =
          .ok (response, session, configuration) ∧
        next = { rx with session, configuration }
    else Unchanged env bytes ignoreMac rx next := by
  cases parsed : EncryptedDataPayload.parse bytes with
  | error e =>
      simp only [handleRx, parsed] at ran
      cases ran
      simp only [endsWindows, parsed, Except.isOk, Except.toBool, Bool.false_and,
        Bool.false_eq_true, if_false]
      exact ⟨⟨rfl, rfl, rfl, rfl, rfl, rfl, rfl⟩, fun _ => rfl, fun _ => rfl, fun _ => rfl⟩
  | ok data =>
      have same := (EncryptedDataPayload.parse_eq_ok_iff bytes data).mp parsed
      subst same
      simp only [endsWindows, parsed, Except.isOk, Except.toBool, Bool.true_and]
      split
      · rename_i large
        simp only [handleRx, parsed, large, if_true] at ran
        obtain ⟨⟨answer, session, configuration⟩, completed, ran⟩ := Checked.bind_eq_ok_iff.mp ran
        cases ran
        exact ⟨session, configuration, completed, rfl⟩
      · rename_i fits
        rw [Bool.not_eq_true] at fits
        exact counted_unchanged rfl (handleRx_counted forged fits ran)

/-- A frame that nobody authenticated, is within the size limit, finds no answers to clear and
is not counted changes nothing and is not answered. -/
theorem handleRx_stray {env : RxEnv} {bytes : List Byte} {maxPayloadLen : Nat} (snr : Int8)
    {ignoreMac : Bool} {rx : RxState} (forged : isAuthentic env bytes rx = false)
    (fits : endsWindows bytes maxPayloadLen = false) (uncounted : isCounted env bytes = false)
    (kept : clearAnswers ignoreMac rx = rx) :
    handleRx env bytes maxPayloadLen snr ignoreMac rx = .ok (.noUpdate, rx) ∨
      handleRx env bytes maxPayloadLen snr ignoreMac rx = .ok (.multicast .noUpdate, rx) := by
  unfold handleRx
  cases parsed : EncryptedDataPayload.parse bytes with
  | error e => exact .inl rfl
  | ok data =>
      simp only [endsWindows, isCounted, isAuthentic, parsed, Except.isOk, Except.toBool,
        Bool.true_and, Bool.or_eq_false_iff, List.any_eq_false] at fits uncounted forged
      simp only [fits, Bool.false_eq_true, if_false, handleData, kept, countAppDownlink, uncounted,
        Checked.ok_bind]
      split
      · -- No group has the key of a multicast frame.
        have silent := multicastHandleRx_forged env.newCrypto env.capacity rx.multicast rx.dl data (by
          intro id session held
          have refused := forged.2 id (List.mem_finRange id)
          rw [held] at refused
          simpa only [Bool.not_eq_true] using refused)
        simp only [handleMulticast, silent, Checked.ok_bind]
        exact .inr rfl
      · unfold handleUnicast
        cases fresh : nextFcntDown rx.session.fcntDown data.fhdr.fcnt with
        | none => exact .inl rfl
        | some fcnt =>
            rw [fresh] at forged
            refine .inl ?_
            simp only [forged.1, Bool.false_eq_true, if_false]

/-- Over the size limit such a frame changes nothing once the counter is at its end. -/
theorem handleRx_stray_expired {env : RxEnv} {bytes : List Byte} {maxPayloadLen : Nat} {snr : Int8}
    {ignoreMac : Bool} {rx : RxState} (large : endsWindows bytes maxPayloadLen = true)
    (expired : rx.session.fcntUp = lastFcntUp) :
    handleRx env bytes maxPayloadLen snr ignoreMac rx = .ok (.sessionExpired, rx) := by
  unfold handleRx
  cases parsed : EncryptedDataPayload.parse bytes with
  | error e =>
      simp only [endsWindows, parsed, Except.isOk, Except.toBool, Bool.false_and] at large
      cases large
  | ok data =>
      simp only [endsWindows, parsed, Except.isOk, Except.toBool, Bool.true_and] at large
      simp only [large, if_true, dropOversized, Session.rx2Complete, expired, Checked.ok_bind]
      rfl

theorem clearAnswers_eq_self_iff {ignoreMac : Bool} {rx : RxState} :
    clearAnswers ignoreMac rx = rx ↔ ignoreMac = true ∨ rx.session.uplink.macCommands = [] := by
  cases ignoreMac with
  | true => exact iff_of_true rfl (.inl rfl)
  | false =>
      constructor
      · intro same
        exact .inr (congrArg (fun rx : RxState => rx.session.uplink.macCommands) same).symm
      · rintro (classC | none)
        · cases classC
        · have cleared : rx.session.uplink.clearMacCommands false = rx.session.uplink := by
            cases uplink : rx.session.uplink with
            | mk pending confirmed fits =>
                rw [uplink] at none
                cases none
                rfl
          rw [clearAnswers, if_neg Bool.false_ne_true, cleared]

theorem countAppDownlink_eq_self {env : RxEnv} {data : DataView} {rx next : RxState}
    (counting : countAppDownlink env data rx = .ok next)
    (same : next.session.rxAppCnt = rx.session.rxAppCnt) :
    (env.features.certification && portIs data fun port => decide (port > 0)) = false ∧
      next = rx := by
  unfold countAppDownlink at counting
  split at counting
  · obtain ⟨count, added, counting⟩ := Checked.bind_eq_ok_iff.mp counting
    cases counting
    unfold Checked.addU16 at added
    split at added
    · rename_i small
      cases added
      have values := congrArg UInt16.toNat same
      rw [UInt16.toNat_add, Nat.mod_eq_of_lt small, UInt16.toNat_one] at values
      omega
    · cases added
  · rename_i uncounted
    cases counting
    exact ⟨by simpa using uncounted, rfl⟩

/-- When a frame that nobody authenticated leaves everything: it does not parse; or it is over
the size limit and the uplink counter is at its end; or it is within the limit, finds no answers
to clear and is not counted. -/
def LeavesAlone (env : RxEnv) (bytes : List Byte) (maxPayloadLen : Nat) (ignoreMac : Bool)
    (rx : RxState) : Prop :=
  (EncryptedDataPayload.parse bytes).isOk = true →
    if isOversized maxPayloadLen bytes = true then rx.session.fcntUp = lastFcntUp
    else (ignoreMac = true ∨ rx.session.uplink.macCommands = []) ∧ isCounted env bytes = false

theorem leavesAlone_of_unchanged {env : RxEnv} {bytes : List Byte} {maxPayloadLen : Nat}
    {snr : Int8} {ignoreMac : Bool} {rx : RxState} {response : Response}
    (forged : isAuthentic env bytes rx = false)
    (ran : handleRx env bytes maxPayloadLen snr ignoreMac rx = .ok (response, rx)) :
    LeavesAlone env bytes maxPayloadLen ignoreMac rx := by
  intro parses
  cases parsed : EncryptedDataPayload.parse bytes with
  | error e =>
      rw [parsed] at parses
      cases parses
  | ok data =>
      have same := (EncryptedDataPayload.parse_eq_ok_iff bytes data).mp parsed
      subst same
      split
      · rename_i large
        simp only [handleRx, parsed, large, if_true] at ran
        obtain ⟨⟨answer, session, configuration⟩, completed, ran⟩ := Checked.bind_eq_ok_iff.mp ran
        have kept : session = rx.session := congrArg (fun result => result.2.session)
          (Except.ok.inj ran)
        rcases rx2Complete_counts completed with ⟨last, _⟩ | ⟨_, _, counted⟩
        · exact last
        · have values := congrArg UInt32.toBitVec counted
          rw [kept] at values
          simp at values
      · rename_i fits
        rw [Bool.not_eq_true] at fits
        have counting := handleRx_counted forged fits ran
        obtain ⟨uncounted, same⟩ := countAppDownlink_eq_self counting (by
          rw [(clearAnswers_same ignoreMac rx).session]
          unfold clearAnswers
          split <;> rfl)
        refine ⟨clearAnswers_eq_self_iff.mp same.symm, ?_⟩
        simpa only [isCounted, parsed] using uncounted

/-- A frame that nobody authenticated changes nothing exactly if the steps before the checks
of counter and MIC have nothing to do; otherwise it ends the receive windows, or it clears the
queued answers and is counted, and no more. -/
theorem unauthenticated_frame_changes_nothing_iff {env : RxEnv} {bytes : List Byte}
    {maxPayloadLen : Nat} {snr : Int8} {ignoreMac : Bool} {rx : RxState}
    (forged : isAuthentic env bytes rx = false) :
    ((∃ response, handleRx env bytes maxPayloadLen snr ignoreMac rx = .ok (response, rx)) ↔
      LeavesAlone env bytes maxPayloadLen ignoreMac rx) ∧
    ∀ response next, handleRx env bytes maxPayloadLen snr ignoreMac rx = .ok (response, next) →
      if endsWindows bytes maxPayloadLen = true then
        ∃ session configuration,
          rx.session.rx2Complete rx.configuration rx.region =
            .ok (response, session, configuration) ∧
          next = { rx with session, configuration }
      else Unchanged env bytes ignoreMac rx next := by
  refine ⟨⟨?_, ?_⟩, fun response next ran => unauthenticated_frame_changes forged ran⟩
  · rintro ⟨response, ran⟩
    exact leavesAlone_of_unchanged forged ran
  · intro alone
    cases parsed : EncryptedDataPayload.parse bytes with
    | error e => exact ⟨.noUpdate, by simp only [handleRx, parsed]⟩
    | ok data =>
        have parses : (EncryptedDataPayload.parse bytes).isOk = true := by
          rw [parsed]
          rfl
        have spared := alone parses
        have limit : endsWindows bytes maxPayloadLen = isOversized maxPayloadLen bytes := by
          rw [endsWindows, parses, Bool.true_and]
        split at spared
        · rename_i large
          exact ⟨_, handleRx_stray_expired (limit.trans large) spared⟩
        · rename_i fits
          rw [Bool.not_eq_true] at fits
          rcases handleRx_stray snr forged (limit.trans fits) spared.2
            (clearAnswers_eq_self_iff.mpr spared.1) with handled | handled
          · exact ⟨_, handled⟩
          · exact ⟨_, handled⟩

end Session

namespace Sample

/-- A session whose answer to an RXTimingSetupReq waits to be sent. -/
def answering : RxState :=
  { rx with session := { session with uplink := session.uplink.addMacCommand rxTimingSetupAns } }

def strayFrame : List Byte := 0x60 :: List.replicate 19 0

/-- A data frame to no one, longer than the RXC data rate allows. -/
def longStrayFrame : List Byte := 0x60 :: List.replicate 79 0

end Sample

namespace Session

/-- In RX1 a forged frame clears the queued answers; in the RXC window one over the size limit
counts the uplink. -/
theorem forged_frames_change_the_state :
    (isAuthentic Sample.env Sample.strayFrame Sample.answering = false ∧
      ∃ next, handleRx Sample.env Sample.strayFrame 59 0 false Sample.answering =
          .ok (.noUpdate, next) ∧
        Sample.answering.session.uplink.macCommands = [0x08] ∧
        next.session.uplink.macCommands = []) ∧
    (isAuthentic Sample.env Sample.longStrayFrame Sample.rx = false ∧
      ∃ next, handleRx Sample.env Sample.longStrayFrame 59 0 true Sample.rx =
          .ok (.rxComplete, next) ∧
        next.session.fcntUp = Sample.rx.session.fcntUp + 1 ∧ next ≠ Sample.rx) := by
  refine ⟨⟨by decide +kernel, Sample.rx, by decide +kernel, rfl, rfl⟩, by decide +kernel,
    { Sample.rx with session := { Sample.session with fcntUp := 1, adrAckCnt := 1 } },
    by decide +kernel, rfl, ?_⟩
  decide +kernel

/-- The frame that changes the queue in RX1 changes nothing in the RXC window. -/
theorem unauthenticated_frame_changes_nothing_iff_sample :
    (∃ response, handleRx Sample.env Sample.strayFrame 59 0 true Sample.answering =
      .ok (response, Sample.answering)) ∧
    ¬ ∃ response, handleRx Sample.env Sample.strayFrame 59 0 false Sample.answering =
      .ok (response, Sample.answering) := by
  have forged : isAuthentic Sample.env Sample.strayFrame Sample.answering = false := by
    decide +kernel
  have fits : ¬ isOversized 59 Sample.strayFrame = true := by decide
  constructor
  · apply (unauthenticated_frame_changes_nothing_iff forged).1.mpr
    intro _
    rw [if_neg fits]
    exact ⟨.inl rfl, by decide +kernel⟩
  · intro kept
    have alone := (unauthenticated_frame_changes_nothing_iff forged).1.mp kept
      (by decide +kernel)
    rw [if_neg fits] at alone
    rcases alone.1 with classC | none
    · cases classC
    · exact absurd none (by decide)

end Session

end LoraRs.Mac
