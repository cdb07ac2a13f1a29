import LoraRs.Encoding.CipherLimits
import LoraRs.Mac.FixedChannels
import LoraRs.Mac.JoinAccept
import LoraRs.Mac.Power
import LoraRs.Mac.UplinkFrames

/-!
# When a send returns

`send` and the two automatic replies build a frame, choose a channel and set the power and
the windows.  For each part the inputs are given on which it returns; on the others the
device panics, or goes on looking for a channel.
-/

set_option autoImplicit false
set_option linter.dupNamespace false

namespace LoraRs.Mac

open LoraRs.Encoding LoraRs.Lib

/-! ## The frame -/

namespace Session

/-- Header, answers, port, data and MIC; under port 0 the answers are the payload. -/
def uplinkLength (session : Session) (data : SendData) : Nat :=
  13 + session.uplink.pending.length + if data.fport ≠ 0 then data.data.length else 0

/-- Port 0 takes no data, the frame fits the array it is built in and leaves an octet of the
radio buffer free. -/
structure Fits (N : Nat) (session : Session) (data : SendData) : Prop where
  port : data.fport ≠ 0 ∨ data.data = []
  array : session.uplinkLength data ≤ 256
  room : session.uplinkLength data < N

theorem adrAckReq_returns (session : Session) (configuration : Configuration)
    (region : Region.Configuration) : Checked.Returns (session.adrAckReq configuration region) := by
  unfold adrAckReq
  split
  · have inside := configuration.dataRate.isLt
    obtain ⟨lower, found⟩ := lowerDatarate_returns region
      (show configuration.dataRate.val ≤ Region.numDatarates by
        simp only [Region.numDatarates]
        omega)
    rw [nextLowerDatarate, found]
    exact Checked.returns_ok _
  · exact Checked.returns_ok _

theorem fieldsFor_returns_iff (uplink : Uplink) (data : SendData) :
    Checked.Returns (fieldsFor uplink data) ↔ data.fport ≠ 0 ∨ data.data = [] := by
  unfold fieldsFor
  by_cases nonzero : data.fport ≠ 0
  · rw [dif_pos nonzero]
    exact iff_of_true (Checked.returns_ok _) (.inl nonzero)
  · rw [dif_neg nonzero]
    cases given : data.data with
    | nil => exact iff_of_true (Checked.returns_ok _) (.inr rfl)
    | cons first rest => simpa using nonzero

variable {newCrypto : NewCrypto} {N : Nat} {session : Session} {data : SendData}
  {configuration : Configuration} {region : Region.Configuration} {adrAckReq : Bool}
  {fOpts : List Byte} {payload : Payload} {packet : List Byte}

/-- The parts of the frame have the octets of the answers and of the data. -/
theorem uplinkFrame_parts (fields : fieldsFor session.uplink data = .ok (fOpts, payload))
    (adrAckReq : Bool) (configuration : Configuration) (nwkCrypto appCrypto : Crypto) :
    ∃ fPort frm encCrypto,
      (session.uplinkFrame data configuration adrAckReq fOpts payload).frmParts nwkCrypto
        (some appCrypto) = .ok (some fPort, frm, encCrypto) ∧
      fOpts.length ≤ 15 ∧ 13 + fOpts.length + frm.length = session.uplinkLength data := by
  have fits := session.uplink.fits
  unfold fieldsFor at fields
  unfold uplinkLength
  by_cases nonzero : data.fport ≠ 0
  · rw [dif_pos nonzero] at fields
    cases fields
    exact ⟨data.fport, data.data, appCrypto, rfl, fits, by rw [if_pos nonzero]; rfl⟩
  · rw [dif_neg nonzero] at fields
    split at fields
    · cases fields
    · cases fields
      exact ⟨0, session.uplink.pending, nwkCrypto, rfl, Nat.zero_le _,
        by rw [if_neg nonzero]; rfl⟩

theorem Prepared.length_eq (prepared : Prepared newCrypto N session data configuration region
    adrAckReq fOpts payload packet) : packet.length = session.uplinkLength data := by
  obtain ⟨fPort, frm, encCrypto, parts, _, length⟩ := uplinkFrame_parts prepared.fields adrAckReq
    configuration (newCrypto session.nwkskey.inner) (newCrypto session.appskey.inner)
  obtain ⟨_, _, _, accepts, size⟩ := DataFrame.buildInto_accepted prepared.built
  cases parts.symm.trans accepts.parts
  rw [size, DataFrame.header_length, ← length]
  simp only [uplinkFrame, Option.toList_some, List.length_singleton, micLen]
  omega

theorem Prepared.fits (prepared : Prepared newCrypto N session data configuration region
    adrAckReq fOpts payload packet) : session.Fits N data := by
  obtain ⟨_, _, _, accepts, size⟩ := DataFrame.buildInto_accepted prepared.built
  have length := prepared.length_eq
  have room := prepared.room
  have array := accepts.room
  exact ⟨(fieldsFor_returns_iff _ _).mp ⟨_, prepared.fields⟩, by omega, by omega⟩

/-- `prepare_buffer` returns exactly on the frames that fit. -/
theorem prepareBuffer_returns_iff (newCrypto : NewCrypto) (N : Nat) (session : Session)
    (data : SendData) (configuration : Configuration) (region : Region.Configuration) :
    Checked.Returns (session.prepareBuffer newCrypto N data configuration region) ↔
      session.Fits N data := by
  constructor
  · rintro ⟨⟨fcnt, packet, next⟩, ran⟩
    obtain ⟨_, _, adrAckReq, fOpts, payload, prepared⟩ :=
      (prepareBuffer_eq_ok_iff _ _ _ _ _ _ _ _ _).mp ran
    exact prepared.fits
  · intro fits
    obtain ⟨adrAckReq, request⟩ := session.adrAckReq_returns configuration region
    obtain ⟨⟨fOpts, payload⟩, fields⟩ := (fieldsFor_returns_iff session.uplink data).mpr fits.port
    obtain ⟨fPort, frm, encCrypto, parts, short, length⟩ := uplinkFrame_parts fields adrAckReq
      configuration (newCrypto session.nwkskey.inner) (newCrypto session.appskey.inner)
    have array := fits.array
    have accepts : (session.uplinkFrame data configuration adrAckReq fOpts payload).Accepts 256
        (newCrypto session.nwkskey.inner) (some (newCrypto session.appskey.inner)) (some fPort) frm
        encCrypto := by
      refine ⟨short, parts, ?_⟩
      rw [DataFrame.header_length]
      simp only [uplinkFrame, Option.toList_some, List.length_singleton, micLen]
      omega
    obtain ⟨packet, built⟩ := accepts.builds (by omega)
    obtain ⟨_, _, _, again, size⟩ := DataFrame.buildInto_accepted built
    cases accepts.parts.symm.trans again.parts
    rw [DataFrame.header_length] at size
    simp only [uplinkFrame, Option.toList_some, List.length_singleton, micLen] at size
    have room := fits.room
    exact ⟨_, (prepareBuffer_eq_ok_iff _ _ _ _ _ _ _ _ _).mpr ⟨rfl, rfl, adrAckReq, fOpts, payload,
      request, fields, built, by omega⟩⟩

end Session

/-! ## Channel, power and windows -/

/-- A data frame at this rate gets a channel. -/
def HasChoice (region : Region.Configuration) (dataRate : DR) : Prop :=
  match region with
  | .dynamic region plan => DynamicChannels.HasChoice region.params plan dataRate
  | .fixed region plan => Region.FixedChannelPlan.HasChoice region plan dataRate

/-- The region's maximum less the antenna gain is an `i8`. -/
def GainFits (mac : Mac) : Prop :=
  (regionMaximum mac : Int) - mac.boardEirp.antennaGain.toInt ≤ 127

section DataFrames

variable {region : Region.Configuration} {dataRate : DR}

theorem selectTxChannel_ends (ready : HasChoice region dataRate) :
    ∃ word : UInt32, ∀ (rng : Rng) (n : Nat), rng n = word →
      Checked.Returns (region.selectTxChannel (n + 1) rng dataRate .data) := by
  cases region with
  | dynamic region plan =>
      obtain ⟨word, ends⟩ := DynamicChannels.selectTxChannel_ends ready
      refine ⟨word, fun rng n drawn => ?_⟩
      obtain ⟨result, selected⟩ := ends rng n drawn
      rw [Region.Configuration.selectTxChannel, selected]
      exact Checked.returns_ok _
  | fixed region plan =>
      obtain ⟨word, ends⟩ := Region.FixedChannelPlan.selectTxChannel_ends ready
      refine ⟨word, fun rng n drawn => ?_⟩
      obtain ⟨result, selected⟩ := ends rng n drawn
      rw [Region.Configuration.selectTxChannel, selected]
      exact Checked.returns_ok _

theorem selectTxChannel_stops (ready : HasChoice region dataRate) (fuel : Nat) (rng : Rng) :
    Checked.StopsOnlyWith .outOfFuel (region.selectTxChannel fuel rng dataRate .data) := by
  cases region with
  | dynamic region plan =>
      exact (DynamicChannels.selectTxChannel_stops ready fuel rng).bind fun _ => .ok _
  | fixed region plan =>
      exact (Region.FixedChannelPlan.selectTxChannel_stops ready fuel rng).bind fun _ => .ok _

theorem hasChoice_of_returns {fuel : Nat} {rng : Rng}
    (returned : Checked.Returns (region.selectTxChannel fuel rng dataRate .data)) :
    HasChoice region dataRate := by
  obtain ⟨result, selected⟩ := returned
  cases region with
  | dynamic region plan =>
      obtain ⟨inner, selected, _⟩ := Checked.bind_eq_ok_iff.mp selected
      exact DynamicChannels.hasChoice_of_returns ⟨inner, selected⟩
  | fixed region plan =>
      obtain ⟨inner, selected, _⟩ := Checked.bind_eq_ok_iff.mp selected
      exact Region.FixedChannelPlan.hasChoice_of_returns ⟨inner, selected⟩

/-- Every region defines power 0, so the configuration of a chosen channel is built. -/
theorem createTxConfig_of_selected {fuel : Nat} {rng rest : Rng} {channel : Region.TxChannel}
    {next : Region.Configuration}
    (selected : region.selectTxChannel fuel rng dataRate .data = .ok (channel, rest, next)) :
    ∃ tx, region.createTxConfig fuel rng dataRate .data = .ok (tx, channel, rest, next) := by
  obtain ⟨most, maximum, _⟩ := txPower_maximum region
  have params := sameButWalk_params (selectTxChannel_ok selected)
  have found : next.checkTxPower 0 = some (some most) := by
    rw [Region.Configuration.checkTxPower, params, maximum]
    rfl
  exact ⟨_, by
    simp only [Region.Configuration.createTxConfig, selected, Checked.ok_bind, found,
      Checked.unwrap_some]
    rfl⟩

end DataFrames

theorem subI8_returns_iff (a b : Int8) :
    Checked.Returns (Checked.subI8 a b) ↔
      -128 ≤ a.toInt - b.toInt ∧ a.toInt - b.toInt ≤ 127 := by
  unfold Checked.subI8
  split
  · rename_i inside
    exact iff_of_true (Checked.returns_ok _) inside
  · rename_i outside
    exact iff_of_false (Checked.not_returns_error _) outside

/-- Once the channel is chosen only the gain decides. -/
theorem dataTxConfig_of_selected {env : MacEnv} {rng rest : Rng} {mac : Mac}
    {channel : Region.TxChannel} {next : Region.Configuration} (maxPower : UInt8)
    (selected : mac.region.selectTxChannel env.fuel rng mac.configuration.dataRate .data =
      .ok (channel, rest, next)) :
    Checked.Returns (mac.dataTxConfig env rng maxPower) ↔ GainFits mac := by
  obtain ⟨tx, created⟩ := createTxConfig_of_selected selected
  obtain ⟨most, maximum, pw⟩ := createTxConfig_pw created
  have gain := Int8.toInt_lt mac.boardEirp.antennaGain
  have same : regionMaximum mac = most := by
    rw [regionMaximum, maximum]
    rfl
  have subtracts : Checked.Returns (Checked.subI8 tx.pw mac.boardEirp.antennaGain) ↔
      GainFits mac := by
    rw [subI8_returns_iff, GainFits, pw, same]
    omega
  rw [← subtracts, Mac.dataTxConfig, created]
  simp only [Checked.ok_bind, Region.TxConfig.adjustPower]
  cases Checked.subI8 tx.pw mac.boardEirp.antennaGain <;> simp

section Configured

variable {mac : Mac}

theorem dataTxConfig_ends (ready : HasChoice mac.region mac.configuration.dataRate)
    (gain : GainFits mac) :
    ∃ word : UInt32, ∀ (env : MacEnv) (rng : Rng) (n : Nat) (maxPower : UInt8),
      env.fuel = n + 1 → rng n = word → Checked.Returns (mac.dataTxConfig env rng maxPower) := by
  obtain ⟨word, ends⟩ := selectTxChannel_ends ready
  refine ⟨word, ?_⟩
  intro env rng n maxPower fuel drawn
  obtain ⟨⟨channel, rest, next⟩, selected⟩ := ends rng n drawn
  rw [← fuel] at selected
  exact (dataTxConfig_of_selected maxPower selected).mpr gain

theorem dataTxConfig_stops (ready : HasChoice mac.region mac.configuration.dataRate)
    (gain : GainFits mac) (env : MacEnv) (rng : Rng) (maxPower : UInt8) :
    Checked.StopsOnlyWith .outOfFuel (mac.dataTxConfig env rng maxPower) := by
  cases selected : mac.region.selectTxChannel env.fuel rng mac.configuration.dataRate .data with
  | ok result =>
      obtain ⟨channel, rest, next⟩ := result
      exact .of_returns ((dataTxConfig_of_selected maxPower selected).mpr gain)
  | error fault =>
      rw [Mac.dataTxConfig, Region.Configuration.createTxConfig, selected,
        selectTxChannel_stops ready env.fuel rng fault selected]
      exact .error

theorem ready_of_dataTxConfig {env : MacEnv} {rng : Rng} {maxPower : UInt8}
    (returned : Checked.Returns (mac.dataTxConfig env rng maxPower)) :
    HasChoice mac.region mac.configuration.dataRate ∧ GainFits mac := by
  obtain ⟨_, created, _⟩ := Checked.returns_bind_iff.mp returned
  obtain ⟨⟨channel, rest, next⟩, selected, _⟩ := Checked.bind_eq_ok_iff.mp created
  exact ⟨hasChoice_of_returns ⟨_, selected⟩, (dataTxConfig_of_selected maxPower selected).mp returned⟩

/-- Nothing that the windows depend on changes with the channel. -/
theorem dataTxConfig_inRange {env : MacEnv} {rng rest : Rng} {maxPower : UInt8} {next : Mac}
    {tx : Region.TxConfig} {channel : Region.TxChannel} (range : mac.settings.InRange)
    (configured : mac.dataTxConfig env rng maxPower = .ok (tx, channel, rest, next)) :
    next.settings.InRange := by
  obtain ⟨⟨created, found, left, region⟩, creating, ran⟩ := Checked.bind_eq_ok_iff.mp configured
  obtain ⟨_, _, ran⟩ := Checked.bind_eq_ok_iff.mp ran
  cases ran
  obtain ⟨⟨chosen, after, walked⟩, selected, creating⟩ := Checked.bind_eq_ok_iff.mp creating
  obtain ⟨_, _, creating⟩ := Checked.bind_eq_ok_iff.mp creating
  obtain ⟨_, _, creating⟩ := Checked.bind_eq_ok_iff.mp creating
  cases creating
  exact Settings.InRange.congr (sameButWalk_params (selectTxChannel_ok selected)) range

end Configured

/-! ## The three uplinks -/

/-- What is sent: application data, or one of the replies the device prepared itself. -/
inductive Sending where
  | application (data : SendData)
  | multicastSetup
  | certificationSetup

namespace Sending

def content (mac : Mac) : Sending → Option SendData
  | .application data => some data
  | .multicastSetup => some ⟨mac.multicast.pendingUplinks, mac.multicast.remoteSetupPort, false⟩
  | .certificationSetup => mac.certification.pendingUplink.map (⟨·, certificationPort, false⟩)

/-- The frame or the error, and the MAC after the call. -/
def run (env : MacEnv) (rng : Rng) (mac : Mac) : Sending → Checked (Except Error (List Byte) × Mac)
  | .application data => do
      let sent ← mac.send env rng data
      return (sent.map (·.1.2.1), afterCall mac (·.2.2) sent)
  | .multicastSetup => do
      let sent ← mac.multicastSetupSend env rng
      return (sent.map (·.1.2.1), afterCall mac (·.2.2) sent)
  | .certificationSetup => do
      let sent ← mac.certificationSetupSend env rng
      return (sent.map (·.1.2.1), afterCall mac (·.2.2) sent)

/-- What follows the building of the frame. -/
def finish (env : MacEnv) (rng : Rng) (mac : Mac) : Sending → Checked Mac
  | .application _ => do
      let configured ← mac.dataTxConfig env rng mac.txPower
      let _ ← configured.2.2.2.rxWindows configured.2.1
      return configured.2.2.2
  | .multicastSetup => do
      let configured ← mac.dataTxConfig env rng mac.txPower
      return { configured.2.2.2 with multicast := { mac.multicast with pendingUplinks := [] } }
  | .certificationSetup => do
      let configured ← mac.dataTxConfig env rng mac.boardEirp.maxPower
      return configured.2.2.2

section Runs

variable {env : MacEnv} {rng : Rng} {mac : Mac} {sending : Sending} {data : SendData}

theorem run_joined {session : Session} (joined : mac.state = .joined session)
    (content : sending.content mac = some data) :
    sending.run env rng mac = do
      let built ← session.prepareBuffer env.newCrypto env.bufferSize data mac.configuration
        mac.region
      let next ← sending.finish env rng { mac with state := .joined built.2.2 }
      return (.ok built.2.1, next) := by
  have prepared : mac.prepareData env data = (do
      let built ← session.prepareBuffer env.newCrypto env.bufferSize data mac.configuration
        mac.region
      return .ok (built.1, built.2.1, { mac with state := .joined built.2.2 })) := by
    rw [Mac.prepareData, joined]
  cases sending with
  | application given =>
      cases content
      rw [run, Mac.send, prepared]
      simp only [finish, bind_assoc, pure_bind]
      rfl
  | multicastSetup =>
      cases content
      rw [run, Mac.multicastSetupSend, prepared]
      simp only [finish, Mac.dataTxConfig, bind_assoc, pure_bind]
      rfl
  | certificationSetup =>
      obtain ⟨pending, pendingEq, rfl⟩ := Option.map_eq_some_iff.mp content
      rw [run, Mac.certificationSetupSend, pendingEq, Checked.unwrap_some, Checked.ok_bind]
      simp only [prepared, finish, bind_assoc, pure_bind]
      rfl

theorem run_unjoined (unjoined : ∀ session, mac.state ≠ .joined session)
    (content : sending.content mac = some data) :
    sending.run env rng mac = .ok (.error .notJoined, mac) := by
  have refused : mac.prepareData env data = .ok (.error .notJoined) := by
    rw [Mac.prepareData]
    cases state : mac.state with
    | joined session => exact absurd state (unjoined session)
    | otaa otaa => rfl
    | unjoined => rfl
  cases sending with
  | application given =>
      cases content
      rw [run, Mac.send, refused]
      rfl
  | multicastSetup =>
      cases content
      rw [run, Mac.multicastSetupSend, refused]
      rfl
  | certificationSetup =>
      obtain ⟨pending, pendingEq, rfl⟩ := Option.map_eq_some_iff.mp content
      rw [run, Mac.certificationSetupSend, pendingEq, Checked.unwrap_some, Checked.ok_bind]
      simp only [refused]
      rfl

theorem run_nothing (content : sending.content mac = none) :
    ¬ Checked.Returns (sending.run env rng mac) := by
  cases sending with
  | application data => cases content
  | multicastSetup => cases content
  | certificationSetup =>
      have nothing : mac.certification.pendingUplink = none := Option.map_eq_none_iff.mp content
      rw [run, Mac.certificationSetupSend, nothing]
      exact Checked.not_returns_error _

end Runs

/-! ## After the frame -/

section Finishes

variable (mac : Mac)

/-- The windows of a chosen channel resolve. -/
theorem finish_returns {env : MacEnv} {rng : Rng} (range : mac.settings.InRange)
    (configures : ∀ maxPower, Checked.Returns (mac.dataTxConfig env rng maxPower))
    (sending : Sending) : Checked.Returns (sending.finish env rng mac) := by
  cases sending with
  | application data =>
      obtain ⟨⟨tx, channel, rest, next⟩, configured⟩ := configures mac.txPower
      obtain ⟨windows, resolved, _⟩ := rxWindows_resolves (dataTxConfig_inRange range configured)
        channel
      rw [finish, configured]
      simp only [Checked.ok_bind, resolved]
      exact Checked.returns_ok _
  | multicastSetup =>
      obtain ⟨result, configured⟩ := configures mac.txPower
      rw [finish, configured]
      exact Checked.returns_ok _
  | certificationSetup =>
      obtain ⟨result, configured⟩ := configures mac.boardEirp.maxPower
      rw [finish, configured]
      exact Checked.returns_ok _

theorem finish_stops (range : mac.settings.InRange)
    (ready : HasChoice mac.region mac.configuration.dataRate) (gain : GainFits mac) (env : MacEnv)
    (rng : Rng) (sending : Sending) :
    Checked.StopsOnlyWith .outOfFuel (sending.finish env rng mac) := by
  cases sending with
  | application data =>
      refine (dataTxConfig_stops ready gain env rng mac.txPower).bind_of_ok ?_
      rintro ⟨tx, channel, rest, next⟩ configured
      obtain ⟨windows, resolved, _⟩ := rxWindows_resolves (dataTxConfig_inRange range configured)
        channel
      simp only [resolved]
      exact .ok _
  | multicastSetup => exact (dataTxConfig_stops ready gain env rng mac.txPower).bind fun _ => .ok _
  | certificationSetup =>
      exact (dataTxConfig_stops ready gain env rng mac.boardEirp.maxPower).bind fun _ => .ok _

theorem ready_of_finish {env : MacEnv} {rng : Rng} {sending : Sending}
    (returned : Checked.Returns (sending.finish env rng mac)) :
    HasChoice mac.region mac.configuration.dataRate ∧ GainFits mac := by
  cases sending with
  | application | multicastSetup | certificationSetup =>
      obtain ⟨result, configured, _⟩ := Checked.returns_bind_iff.mp returned
      exact ready_of_dataTxConfig ⟨result, configured⟩

end Finishes

end Sending

/-! ## Safe sends -/

/-- The environment with another bound for the search for a channel. -/
def MacEnv.withFuel (env : MacEnv) (fuel : Nat) : MacEnv := { env with fuel }

/-- However long the search for a channel may go on, the call does not panic; some random word
ends it.  It yields a frame that fits the radio buffer or leaves the MAC as it was, and it
refuses no frame of at most the sizes of the two buffers. -/
structure SendsSafely (env : MacEnv) (mac : Mac) (sending : Sending) : Prop where
  neverPanics : ∀ fuel rng, Checked.StopsOnlyWith .outOfFuel
    (sending.run (env.withFuel fuel) rng mac)
  ends : ∃ word : UInt32, ∀ (rng : Rng) (n : Nat), rng n = word →
    Checked.Returns (sending.run (env.withFuel (n + 1)) rng mac)
  yields : ∀ fuel rng packet next,
    sending.run (env.withFuel fuel) rng mac = .ok (.ok packet, next) →
    packet.length ≤ env.bufferSize
  refuses : ∀ fuel rng e next,
    sending.run (env.withFuel fuel) rng mac = .ok (.error e, next) → next = mac
  accepts : ∀ session data, mac.state = .joined session → sending.content mac = some data →
    session.uplinkLength data ≤ min env.bufferSize 256 → ∀ fuel rng result next,
    sending.run (env.withFuel fuel) rng mac = .ok (result, next) → ∃ packet, result = .ok packet

/-- There is something to send and, with a session, it fits, a channel can be found for it and
the power can be computed. -/
def Sendable (env : MacEnv) (mac : Mac) (sending : Sending) : Prop :=
  ∃ data, sending.content mac = some data ∧ ∀ session, mac.state = .joined session →
    session.Fits env.bufferSize data ∧ HasChoice mac.region mac.configuration.dataRate ∧
      GainFits mac

/-! ## Runs with set_datarate -/

inductive TunedEvent where
  | call (event : MacEvent)
  | setDatarate (dataRate : DR)

def tunedStep (env : MacEnv) (event : TunedEvent) (mac : Mac) : Checked Mac :=
  match event with
  | .call event => macStep env event mac
  | .setDatarate dataRate =>
      .ok { mac with configuration := { mac.configuration with dataRate } }

theorem tuned_inRange {env : MacEnv} (mac : Mac)
    (reached : Transition.Reachable (tunedStep env) Mac.Initial mac) : mac.settings.InRange := by
  revert mac
  apply Transition.reachable_induction
  · rintro mac ⟨region, maxPower, antennaGain, built, rfl⟩
    exact initial_inRange _ ⟨region, maxPower, antennaGain, built, rfl⟩
  · intro event mac next range stepped
    cases event with
    | call event => exact keptBySteps_inRange.run range (macStep_settings stepped)
    | setDatarate dataRate =>
        cases stepped
        exact ⟨range.rx1DrOffset, range.rx2DataRate, range.txPower⟩

theorem sendable_of_returns {env : MacEnv} {rng : Rng} {mac : Mac} {sending : Sending}
    (returned : Checked.Returns (sending.run env rng mac)) : Sendable env mac sending := by
  cases content : sending.content mac with
  | none => exact absurd returned (Sending.run_nothing content)
  | some data =>
      refine ⟨data, content, ?_⟩
      intro session joined
      rw [Sending.run_joined joined content] at returned
      obtain ⟨⟨fcnt, packet, after⟩, built, returned⟩ := Checked.returns_bind_iff.mp returned
      obtain ⟨next, finished, _⟩ := Checked.returns_bind_iff.mp returned
      exact ⟨(Session.prepareBuffer_returns_iff _ _ _ _ _ _).mp ⟨_, built⟩,
        Sending.ready_of_finish { mac with state := .joined after } ⟨next, finished⟩⟩

theorem sendsSafely_unjoined {env : MacEnv} {mac : Mac} {sending : Sending} {data : SendData}
    (unjoined : ∀ session, mac.state ≠ .joined session)
    (content : sending.content mac = some data) : SendsSafely env mac sending := by
  have refused : ∀ fuel rng, sending.run (env.withFuel fuel) rng mac =
      .ok (.error .notJoined, mac) := fun fuel rng => Sending.run_unjoined unjoined content
  refine ⟨?_, ⟨0, ?_⟩, ?_, ?_, ?_⟩
  · intro fuel rng
    rw [refused]
    exact .ok _
  · intro rng n _
    rw [refused]
    exact Checked.returns_ok _
  · intro fuel rng packet next returned
    rw [refused] at returned
    cases returned
  · intro fuel rng e next returned
    rw [refused] at returned
    cases returned
    rfl
  · intro session _ joined
    exact absurd joined (unjoined session)

theorem sendsSafely_joined {env : MacEnv} {mac : Mac} {sending : Sending} {session : Session}
    {data : SendData} (range : mac.settings.InRange) (joined : mac.state = .joined session)
    (content : sending.content mac = some data) (fits : session.Fits env.bufferSize data)
    (ready : HasChoice mac.region mac.configuration.dataRate) (gain : GainFits mac) :
    SendsSafely env mac sending := by
  obtain ⟨⟨fcnt, packet, after⟩, built⟩ := (Session.prepareBuffer_returns_iff env.newCrypto
    env.bufferSize session data mac.configuration mac.region).mpr fits
  have ran : ∀ fuel rng, sending.run (env.withFuel fuel) rng mac = do
      let next ← sending.finish (env.withFuel fuel) rng { mac with state := .joined after }
      return (.ok packet, next) := by
    intro fuel rng
    have same : session.prepareBuffer (env.withFuel fuel).newCrypto (env.withFuel fuel).bufferSize
        data mac.configuration mac.region = .ok (fcnt, packet, after) := built
    rw [Sending.run_joined joined content, same]
    rfl
  have yields : ∀ fuel rng result next,
      sending.run (env.withFuel fuel) rng mac = .ok (result, next) → result = .ok packet := by
    intro fuel rng result next returned
    rw [ran] at returned
    obtain ⟨_, _, returned⟩ := Checked.bind_eq_ok_iff.mp returned
    cases returned
    rfl
  refine ⟨?_, ?_, ?_, ?_, ?_⟩
  · intro fuel rng
    rw [ran]
    exact (Sending.finish_stops { mac with state := .joined after } range ready gain _ rng
      sending).bind fun _ => .ok _
  · have readyAfter : HasChoice { mac with state := .joined after }.region
        { mac with state := .joined after }.configuration.dataRate := ready
    obtain ⟨word, ends⟩ := dataTxConfig_ends readyAfter gain
    refine ⟨word, ?_⟩
    intro rng n drawn
    obtain ⟨next, finished⟩ := Sending.finish_returns { mac with state := .joined after } range
      (fun maxPower => ends (env.withFuel (n + 1)) rng n maxPower rfl drawn) sending
    rw [ran, finished]
    exact Checked.returns_ok _
  · intro fuel rng other next returned
    cases yields _ _ _ _ returned
    obtain ⟨_, _, _, _, _, prepared⟩ :=
      (Session.prepareBuffer_eq_ok_iff _ _ _ _ _ _ _ _ _).mp built
    exact Nat.le_of_lt prepared.room
  · intro fuel rng e next returned
    cases yields _ _ _ _ returned
  · intro _ _ _ _ _ fuel rng result next returned
    exact ⟨packet, yields _ _ _ _ returned⟩

/-- A send, or an automatic reply, of a device in any reached state is safe exactly if it has
something to send that fits and can be transmitted. -/
theorem sends_safely_iff (env : MacEnv) (mac : Mac)
    (reached : Transition.Reachable (tunedStep env) Mac.Initial mac) (sending : Sending) :
    SendsSafely env mac sending ↔ Sendable env mac sending := by
  constructor
  · intro safe
    obtain ⟨word, ends⟩ := safe.ends
    have sendable : Sendable (env.withFuel 1) mac sending :=
      sendable_of_returns (ends (fun _ => word) 0 rfl)
    exact sendable
  · rintro ⟨data, content, sendable⟩
    by_cases joins : ∃ session, mac.state = .joined session
    · obtain ⟨session, joined⟩ := joins
      obtain ⟨fits, ready, gain⟩ := sendable session joined
      exact sendsSafely_joined (tuned_inRange mac reached) joined content fits ready gain
    · exact sendsSafely_unjoined (fun session joined => joins ⟨session, joined⟩) content

namespace Sample

/-- The joined device with an answer to LinkADRReq and a prepared multicast answer, and the
data rate set by the application. -/
def tunedMac (dataRate : DR) : Mac :=
  { joinedMac with
    configuration := { joinedMac.configuration with dataRate }
    state := .joined { session with uplink := session.uplink.addMacCommand ⟨0x03, [0b111]⟩ }
    multicast := { Multicast.new with pendingUplinks := [0x00, 0x02, 0x01] } }

theorem tunedMac_reachable (dataRate : DR) :
    Transition.Reachable (tunedStep macEnv) Mac.Initial (tunedMac dataRate) :=
  ⟨newMac, [.call (.setSession session), .call (.addUplink ⟨0x03, [0b111]⟩),
    .call (.setMulticast { Multicast.new with pendingUplinks := [0x00, 0x02, 0x01] }),
    .setDatarate dataRate], ⟨_, 14, 0, .plain (.dynamic .eu868), rfl⟩, rfl⟩

theorem tunedMac_hasChoice : HasChoice (tunedMac 5).region (tunedMac 5).configuration.dataRate :=
  ⟨⟨_, rfl⟩, 0, by decide, by decide +kernel⟩

end Sample

/-- EU868 with a radio buffer of 256 octets: a frame of 256 octets, data on port 0 and a data
rate that the region does not define stop the device. -/
theorem sends_stop :
    Transition.Reachable (tunedStep Sample.macEnv) Mac.Initial (Sample.tunedMac 5) ∧
    ¬ SendsSafely Sample.macEnv (Sample.tunedMac 5)
      (.application ⟨List.replicate 241 0, 1, false⟩) ∧
    ¬ SendsSafely Sample.macEnv (Sample.tunedMac 5) (.application ⟨[0], 0, false⟩) ∧
    Transition.Reachable (tunedStep Sample.macEnv) Mac.Initial (Sample.tunedMac 15) ∧
    ¬ SendsSafely Sample.macEnv (Sample.tunedMac 15) (.application ⟨[0], 1, false⟩) := by
  have sendable : ∀ {dataRate : DR} {data : SendData},
      SendsSafely Sample.macEnv (Sample.tunedMac dataRate) (.application data) →
      ∀ session, (Sample.tunedMac dataRate).state = .joined session →
        session.Fits 256 data ∧ HasChoice (Sample.tunedMac dataRate).region dataRate := by
    intro dataRate data safe session joined
    obtain ⟨word, ends⟩ := safe.ends
    obtain ⟨given, same, sendable⟩ : Sendable (Sample.macEnv.withFuel 1)
        (Sample.tunedMac dataRate) (.application data) :=
      sendable_of_returns (ends (fun _ => word) 0 rfl)
    cases same
    obtain ⟨fits, ready, _⟩ := sendable session joined
    exact ⟨fits, ready⟩
  refine ⟨Sample.tunedMac_reachable 5, ?_, ?_, Sample.tunedMac_reachable 15, ?_⟩
  · intro safe
    have room := (sendable safe _ rfl).1.room
    revert room
    decide +kernel
  · intro safe
    have port := (sendable safe _ rfl).1.port
    revert port
    decide +kernel
  · intro safe
    obtain ⟨⟨rate, found⟩, _⟩ := (sendable safe _ rfl).2
    cases found

/-- At DR5 a confirmed frame and the multicast answer are sent safely, a frame of 256 octets is
not. -/
theorem sends_safely_iff_sample :
    SendsSafely Sample.macEnv (Sample.tunedMac 5) (.application ⟨[1, 2, 3], 7, true⟩) ∧
    SendsSafely Sample.macEnv (Sample.tunedMac 5) .multicastSetup ∧
    ¬ SendsSafely Sample.macEnv (Sample.tunedMac 5)
      (.application ⟨List.replicate 241 0, 1, false⟩) := by
  have gain : GainFits (Sample.tunedMac 5) := by
    unfold GainFits
    decide +kernel
  refine ⟨?_, ?_, ?_⟩
  · refine (sends_safely_iff _ _ (Sample.tunedMac_reachable 5) _).mpr ⟨_, rfl, ?_⟩
    intro session joined
    cases joined
    exact ⟨⟨.inl (by decide), by decide +kernel, by decide +kernel⟩, Sample.tunedMac_hasChoice,
      gain⟩
  · refine (sends_safely_iff _ _ (Sample.tunedMac_reachable 5) _).mpr ⟨_, rfl, ?_⟩
    intro session joined
    cases joined
    exact ⟨⟨.inl (by decide), by decide +kernel, by decide +kernel⟩, Sample.tunedMac_hasChoice,
      gain⟩
  · intro safe
    obtain ⟨data, same, sendable⟩ :=
      (sends_safely_iff _ _ (Sample.tunedMac_reachable 5) _).mp safe
    cases same
    have room := (sendable _ rfl).1.room
    revert room
    decide +kernel

end LoraRs.Mac
