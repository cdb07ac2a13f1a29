import LoraRs.Mac.Responses
import LoraRs.Mac.Settings
import LoraRs.Mac.UplinkFrames

/-!
# ADR back-off

What a series of uplinks without a downlink does to the data rate: one step down for each
full delay past the limit, through the rates that the region defines.
-/

set_option autoImplicit false

namespace LoraRs.Mac

open LoraRs.Encoding LoraRs.Lib

/-! ## The rates below a rate -/

/-- The region has this data rate. -/
def defines (region : Region.Configuration) (rate : Nat) : Bool :=
  match region.getDatarate rate with
  | .ok found => found.isSome
  | .error _ => false

/-- The rates below `start` that the region defines, highest first. -/
def lowerRates (region : Region.Configuration) (start : Nat) : List Nat :=
  ((List.range start).filter (defines region)).reverse

/-- The rate that many steps below `start`; past the lowest one it stays there. -/
def lowered (region : Region.Configuration) (start steps : Nat) : Nat :=
  ((lowerRates region start).take steps).getLastD start

theorem mem_lowerRates {region : Region.Configuration} {start rate : Nat} :
    rate ∈ lowerRates region start ↔ rate < start ∧ defines region rate = true := by
  rw [lowerRates, List.mem_reverse, List.mem_filter, List.mem_range]

theorem lowerRates_succ (region : Region.Configuration) (rate : Nat) :
    lowerRates region (rate + 1) =
      if defines region rate then rate :: lowerRates region rate else lowerRates region rate := by
  unfold lowerRates
  rw [List.range_succ, List.filter_append, List.reverse_append]
  split
  · rename_i here
    rw [List.filter_cons_of_pos here]
    rfl
  · rename_i missing
    rw [List.filter_cons_of_neg missing]
    rfl

/-- From the first rate below, the rates below are the others. -/
theorem lowerRates_of_cons {region : Region.Configuration} {start rate : Nat} {rest : List Nat}
    (below : lowerRates region start = rate :: rest) : lowerRates region rate = rest := by
  induction start with
  | zero => cases below
  | succ start ih =>
      rw [lowerRates_succ] at below
      split at below
      · cases below
        rfl
      · exact ih below

theorem lowered_zero (region : Region.Configuration) (start : Nat) :
    lowered region start 0 = start := rfl

theorem lowered_of_none {region : Region.Configuration} {start : Nat}
    (lowest : lowerRates region start = []) (steps : Nat) : lowered region start steps = start := by
  rw [lowered, lowest, List.take_nil]
  rfl

theorem lowered_of_cons {region : Region.Configuration} {start rate : Nat} {rest : List Nat}
    (below : lowerRates region start = rate :: rest) (steps : Nat) :
    lowered region start (steps + 1) = lowered region rate steps := by
  rw [lowered, lowered, lowerRates_of_cons below, below, List.take_succ_cons, List.getLastD_cons]

/-- One more step goes to the first rate below, if there is one. -/
theorem lowered_succ (region : Region.Configuration) (start steps : Nat) :
    lowered region start (steps + 1) =
      (lowerRates region (lowered region start steps)).headD (lowered region start steps) := by
  induction steps generalizing start with
  | zero =>
      rw [lowered_zero]
      cases below : lowerRates region start with
      | nil => exact lowered_of_none below _
      | cons rate rest => exact lowered_of_cons below 0
  | succ steps ih =>
      cases below : lowerRates region start with
      | nil => rw [lowered_of_none below, lowered_of_none below, below, List.headD_nil]
      | cons rate rest => rw [lowered_of_cons below, lowered_of_cons below, ih]

/-! ## The search -/

theorem getDatarate_defines (region : Region.Configuration) {rate : Nat} (inside : rate < 15) :
    ∃ found, region.getDatarate rate = .ok found ∧ found.isSome = defines region rate := by
  have looked : region.getDatarate rate = .ok region.params.datarates[rate] := by
    rw [Region.Configuration.getDatarate, Region.getDatarate, dif_pos]
  exact ⟨_, looked, by rw [defines, looked]⟩

/-- The search of the code finds the first of the rates below. -/
theorem lowerDatarate_eq (region : Region.Configuration) {bound : Nat} (inside : bound ≤ 15) :
    ∃ found, lowerDatarate region bound = .ok found ∧
      found.map Fin.val = (lowerRates region bound).head? := by
  induction bound with
  | zero => exact ⟨none, rfl, rfl⟩
  | succ candidate ih =>
      obtain ⟨found, looked, known⟩ := getDatarate_defines region inside
      rw [lowerDatarate, looked, Checked.ok_bind, lowerRates_succ, ← known]
      split
      · refine ⟨_, rfl, ?_⟩
        rw [Option.map_some, List.head?_cons, DR.ofByte_val candidate (by omega)]
      · exact ih (by omega)

theorem nextLowerDatarate_eq (region : Region.Configuration) (current : DR) :
    ∃ found, nextLowerDatarate region current = .ok found ∧
      found.map Fin.val = (lowerRates region current.val).head? :=
  lowerDatarate_eq region (by omega)

/-! ## Cycles without a downlink -/

namespace Session

/-- The session and the settings after `n` calls of `rx2_complete`. -/
def completions (region : Region.Configuration) (session : Session)
    (configuration : Configuration) : Nat → Checked (Session × Configuration)
  | 0 => .ok (session, configuration)
  | n + 1 => do
      let (session, configuration) ← completions region session configuration n
      let (_, session, configuration) ← session.rx2Complete configuration region
      return (session, configuration)

/-- The state `n` cycles after the count was 0. -/
structure Silent (region : Region.Configuration) (start : DR) (first : UInt32) (n : Nat)
    (session : Session) (configuration : Configuration) : Prop where
  adrEnabled : configuration.adrEnabled = true
  fcntUp : session.fcntUp.toNat = first.toNat + n
  adrAckCnt : session.adrAckCnt.toNat = n
  dataRate : configuration.dataRate.val =
    lowered region start.val ((n - adrAckLimit) / adrAckDelay)

variable {region : Region.Configuration} {start : DR} {first : UInt32} {n : Nat}
  {session : Session} {configuration : Configuration}

theorem countUplink_toNat {count : UInt32} (room : count.toNat + 1 < 2 ^ 32) :
    (countUplink count).toNat = count.toNat + 1 := by
  unfold countUplink
  split
  · rename_i full
    rw [full] at room
    exact absurd room (by decide)
  · rw [UInt32.toNat_add, UInt32.toNat_one, Nat.mod_eq_of_lt room]

/-- The back-off takes one step exactly in the cycles that complete a delay. -/
theorem backOff_dataRate (session : Session) (counted : session.adrAckCnt.toNat = n + 1)
    (dataRate : configuration.dataRate.val =
      lowered region start.val ((n - adrAckLimit) / adrAckDelay)) :
    ∃ next, session.backOff configuration region = .ok next ∧
      next.adrEnabled = configuration.adrEnabled ∧
      next.dataRate.val = lowered region start.val ((n + 1 - adrAckLimit) / adrAckDelay) := by
  by_cases due : n + 1 ≥ adrAckLimit + adrAckDelay ∧ (n + 1 - adrAckLimit) % adrAckDelay = 0
  · have steps : (n + 1 - adrAckLimit) / adrAckDelay = (n - adrAckLimit) / adrAckDelay + 1 := by
      unfold adrAckLimit adrAckDelay at due ⊢
      omega
    obtain ⟨found, searched, known⟩ := nextLowerDatarate_eq region configuration.dataRate
    rw [steps, lowered_succ, ← dataRate, List.headD_eq_head?_getD, ← known]
    simp only [backOff, counted, if_pos due.1, if_pos due.2, searched, Checked.ok_bind]
    cases found with
    | none => exact ⟨configuration, rfl, rfl, rfl⟩
    | some dr => exact ⟨{ configuration with dataRate := dr }, rfl, rfl, rfl⟩
  · have steps : (n + 1 - adrAckLimit) / adrAckDelay = (n - adrAckLimit) / adrAckDelay := by
      unfold adrAckLimit adrAckDelay at due ⊢
      omega
    refine ⟨configuration, ?_, rfl, dataRate.trans (by rw [steps])⟩
    unfold backOff
    rw [counted]
    split
    · rename_i late
      exact if_neg fun complete => due ⟨late, complete⟩
    · rfl

theorem Silent.step (silent : Silent region start first n session configuration)
    (room : first.toNat + (n + 1) ≤ lastFcntUp.toNat) :
    ∃ response next after, session.rx2Complete configuration region =
        .ok (response, next, after) ∧ Silent region start first (n + 1) next after := by
  have largest : lastFcntUp.toNat = 2 ^ 32 - 1 := rfl
  have going : session.fcntUp ≠ lastFcntUp := by
    intro last
    have counter := silent.fcntUp
    rw [last] at counter
    omega
  have counter : (session.fcntUp + 1).toNat = first.toNat + (n + 1) := by
    rw [UInt32.toNat_add, silent.fcntUp, UInt32.toNat_one, Nat.mod_eq_of_lt (by omega)]
    rfl
  have count : (countUplink session.adrAckCnt).toNat = n + 1 := by
    have small : session.adrAckCnt.toNat + 1 < 2 ^ 32 := by
      have bound := silent.adrAckCnt
      omega
    rw [countUplink_toNat small, silent.adrAckCnt]
  obtain ⟨after, backed, adrEnabled, dataRate⟩ := backOff_dataRate
    { session with fcntUp := session.fcntUp + 1, adrAckCnt := countUplink session.adrAckCnt }
    count silent.dataRate
  refine ⟨if session.confirmed then .noAck else .rxComplete, { session with
    fcntUp := session.fcntUp + 1, adrAckCnt := countUplink session.adrAckCnt }, after, ?_,
    adrEnabled.trans silent.adrEnabled, counter, count, dataRate⟩
  unfold rx2Complete
  rw [if_neg going]
  simp only [silent.adrEnabled, if_true, backed, Checked.ok_bind]
  rfl

theorem completions_silent (configured : configuration.adrEnabled = true)
    (fresh : session.adrAckCnt = 0) (n : Nat)
    (room : session.fcntUp.toNat + n ≤ lastFcntUp.toNat) :
    ∃ next after, completions region session configuration n = .ok (next, after) ∧
      Silent region configuration.dataRate session.fcntUp n next after := by
  induction n with
  | zero => exact ⟨session, configuration, rfl, configured, rfl, by rw [fresh]; rfl, rfl⟩
  | succ n ih =>
      obtain ⟨next, after, ran, silent⟩ := ih (by omega)
      obtain ⟨response, stepped, lower, completed, holds⟩ := silent.step room
      refine ⟨stepped, lower, ?_, holds⟩
      rw [completions, ran]
      simp only [Checked.ok_bind, completed]
      rfl

end Session

/-! ## The uplinks -/

/-- Whether the ADRACKReq bit of a frame is set. -/
def requestsAdrAck (packet : List Byte) : Bool :=
  match EncryptedDataPayload.parse packet with
  | .ok payload => payload.fhdr.fctrl.adrAckReq
  | .error _ => false

namespace Session

variable {newCrypto : NewCrypto} {N : Nat} {region : Region.Configuration} {session : Session}
  {data : SendData} {configuration : Configuration} {request : Bool} {fOpts : List Byte}
  {payload : Payload} {packet : List Byte}

theorem Prepared.requestsAdrAck_eq (prepared : Prepared newCrypto N session data configuration
    region request fOpts payload packet) : requestsAdrAck packet = request := by
  obtain ⟨view, parsed, shows, _⟩ := (built_reads_back prepared.built).parsed
  have bit := shows.adrAckReq
  rw [requestsAdrAck, parsed]
  simp only
  rw [bit]
  unfold uplinkFrame
  simp only
  split <;> rfl

theorem adrAckReq_eq (enabled : configuration.adrEnabled = true) :
    session.adrAckReq configuration region = .ok
      (decide (session.adrAckCnt.toNat ≥ adrAckLimit ∧
        lowerRates region configuration.dataRate.val ≠ [])) := by
  obtain ⟨found, searched, known⟩ := nextLowerDatarate_eq region configuration.dataRate
  unfold adrAckReq
  by_cases late : session.adrAckCnt.toNat ≥ adrAckLimit
  · rw [if_pos ⟨enabled, late⟩, searched, Checked.ok_bind]
    cases below : lowerRates region configuration.dataRate.val with
    | nil =>
        rw [below, List.head?_nil, Option.map_eq_none_iff] at known
        rw [known]
        exact congrArg Except.ok (decide_eq_false fun both => both.2 rfl).symm
    | cons rate rest =>
        rw [below, List.head?_cons] at known
        obtain ⟨dr, same, _⟩ := Option.map_eq_some_iff.mp known
        rw [same]
        exact congrArg Except.ok (decide_eq_true ⟨late, List.cons_ne_nil _ _⟩).symm
  · rw [if_neg fun both => late both.2, decide_eq_false fun both => late both.1]

/-- An uplink asks for a downlink once the limit is reached, unless the rate is the lowest
one. -/
theorem requestsAdrAck_iff {fcnt : UInt32} {next : Session}
    (enabled : configuration.adrEnabled = true)
    (built : session.prepareBuffer newCrypto N data configuration region =
      .ok (fcnt, packet, next)) :
    requestsAdrAck packet = true ↔ session.adrAckCnt.toNat ≥ adrAckLimit ∧
      ∃ rate < configuration.dataRate.val, defines region rate = true := by
  obtain ⟨_, _, request, fOpts, payload, prepared⟩ :=
    (prepareBuffer_eq_ok_iff _ _ _ _ _ _ _ _ _).mp built
  have asked := prepared.request
  rw [adrAckReq_eq enabled] at asked
  cases asked
  rw [prepared.requestsAdrAck_eq, decide_eq_true_iff]
  refine and_congr_right fun _ => ⟨fun left => ?_, fun ⟨rate, below, defined⟩ => ?_⟩
  · obtain ⟨rate, member⟩ := List.exists_mem_of_ne_nil _ left
    exact ⟨rate, mem_lowerRates.mp member⟩
  · exact List.ne_nil_of_mem (mem_lowerRates.mpr ⟨below, defined⟩)

/-! ## Downlinks -/

/-- A frame that is accepted goes to `acceptDownlink`. -/
theorem handleRx_accepts {env : RxEnv} {bytes : List Byte} {maxPayloadLen : Nat} {snr : Int8}
    {ignoreMac : Bool} {rx next : RxState} {response : Response} {fcnt : UInt32}
    (accepted : acceptedCounter env bytes maxPayloadLen rx = some fcnt)
    (ran : handleRx env bytes maxPayloadLen snr ignoreMac rx = .ok (response, next)) :
    ∃ data counted, acceptDownlink env data fcnt snr ignoreMac counted = .ok (response, next) := by
  obtain ⟨data, parsed, fits, unicast, fresh, valid⟩ := acceptedCounter_eq_some accepted
  have read := (EncryptedDataPayload.parse_eq_ok_iff bytes data).mpr parsed
  unfold handleRx at ran
  simp only [read, fits, Bool.false_eq_true, if_false] at ran
  obtain ⟨counted, counting, ran⟩ := Checked.bind_eq_ok_iff.mp ran
  have kept := counted_same counting
  have group : isMulticastFrame env data.toDataView counted = false := by
    rw [isMulticastFrame, kept.multicast]
    exact unicast
  have good : micValid env counted.session data fcnt = true := by
    rw [micValid, kept.nwkskey]
    exact valid
  simp only [group, Bool.false_eq_true, if_false, handleUnicast, kept.fcntDown, fresh, good,
    if_true] at ran
  exact ⟨data, counted, ran⟩

theorem accepted_restarts {env : RxEnv} {bytes : List Byte} {maxPayloadLen : Nat} {snr : Int8}
    {ignoreMac : Bool} {rx next : RxState} {response : Response}
    (accepted : (acceptedCounter env bytes maxPayloadLen rx).isSome = true)
    (ran : handleRx env bytes maxPayloadLen snr ignoreMac rx = .ok (response, next)) :
    next.session.adrAckCnt = 0 := by
  obtain ⟨fcnt, counter⟩ := Option.isSome_iff_exists.mp accepted
  obtain ⟨data, counted, handled⟩ := handleRx_accepts counter ran
  exact (acceptDownlink_ok handled).adrAckCnt

/-! ## The closed form -/

/-- With ADR on and the count at 0, `n` silent cycles lower the data rate once for each
full delay past the limit, as far as the region defines lower rates; an uplink built then
asks for a downlink if the limit is reached and a lower rate is left; and an accepted
downlink starts over. -/
theorem backs_off (region : Region.Configuration) (session : Session)
    (configuration : Configuration) (n : Nat) (enabled : configuration.adrEnabled = true)
    (fresh : session.adrAckCnt = 0) (room : session.fcntUp.toNat + n ≤ lastFcntUp.toNat) :
    ∃ next after, completions region session configuration n = .ok (next, after) ∧
      after.dataRate.val = lowered region configuration.dataRate.val ((n - 64) / 32) ∧
      (∀ newCrypto N data fcnt packet sent,
        next.prepareBuffer newCrypto N data after region = .ok (fcnt, packet, sent) →
        (requestsAdrAck packet = true ↔
          64 ≤ n ∧ ∃ rate < after.dataRate.val, defines region rate = true)) ∧
      ∀ env bytes maxPayloadLen snr ignoreMac (rx left : RxState) response,
        (acceptedCounter env bytes maxPayloadLen rx).isSome = true →
        handleRx env bytes maxPayloadLen snr ignoreMac rx = .ok (response, left) →
        left.session.adrAckCnt = 0 := by
  obtain ⟨next, after, ran, silent⟩ := completions_silent enabled fresh n room
  refine ⟨next, after, ran, silent.dataRate, ?_, ?_⟩
  · intro newCrypto N data fcnt packet sent built
    rw [requestsAdrAck_iff silent.adrEnabled built, silent.adrAckCnt]
  · intro env bytes maxPayloadLen snr ignoreMac rx left response accepted handled
    exact accepted_restarts accepted handled

/-- The rates of EU868 go down from 5: after 130 cycles it is 3. -/
theorem backs_off_sample :
    ∃ next after, completions Sample.rx.region Sample.session
        { Sample.configuration with dataRate := 5 } 130 = .ok (next, after) ∧
      after.dataRate.val = 3 := by
  obtain ⟨next, after, ran, dataRate, _⟩ := backs_off Sample.rx.region Sample.session
    { Sample.configuration with dataRate := 5 } 130 rfl rfl (by decide)
  exact ⟨next, after, ran, dataRate.trans (by decide +kernel)⟩

end Session

end LoraRs.Mac
