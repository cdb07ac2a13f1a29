import LoraRs.AsyncDevice.Modes
import LoraRs.LoraModulation.TimeOnAir
import LoraRs.LoraPhy.LoRa

/-!
# The LoRaWAN radio

The receive windows of the async device on the LoRa driver, from
`lora-phy/src/lorawan_radio.rs`.  Its window buffer is set but never read: windows have the
length of the lead time, in symbols that are counted on `u16`.
-/

set_option autoImplicit false

namespace LoraRs.LoraPhy

open LoraRs.Lib LoraRs.LoraModulation
open LoraRs.AsyncDevice (DeviceEnv World UplinkAnswers startDelay)

/-- The timings of `LorawanRadio`. -/
structure LorawanRadio where
  rxWindowLeadTime : UInt32
  rxWindowBuffer : UInt32

namespace LorawanRadio

def defaultRxWindowLeadTime : UInt32 := 50

/-- `LorawanRadio::from`. -/
def new : LorawanRadio :=
  { rxWindowLeadTime := defaultRxWindowLeadTime, rxWindowBuffer := defaultRxWindowLeadTime }

def setRxWindowLeadTime (radio : LorawanRadio) (lt : UInt32) : LorawanRadio :=
  { radio with rxWindowLeadTime := lt }

def setRxWindowBuffer (radio : LorawanRadio) (buffer : UInt32) : LorawanRadio :=
  { radio with rxWindowBuffer := buffer }

/-- Returns the lead time. -/
def getRxWindowBuffer (radio : LorawanRadio) : UInt32 := radio.rxWindowLeadTime

def getRxWindowLeadTimeMs (radio : LorawanRadio) : UInt32 := radio.rxWindowLeadTime

def deviceEnv (radio : LorawanRadio) (env : Mac.MacEnv) : DeviceEnv :=
  { env with leadTimeMs := radio.getRxWindowLeadTimeMs, bufferMs := radio.getRxWindowBuffer }

end LorawanRadio

def preambleSymbols : Nat := 13

def RxMode.from (mode : Region.RxMode) (bb : BaseBandModulationParams) : Checked RxMode :=
  match mode with
  | .continuous => .ok .continuous
  | .single ms => do
      let numSymbols ← Checked.u16 (preambleSymbols + (← bb.delayInSymbols ms))
      return .single numSymbols.toUInt16

/-- A computation of the adapter that may panic. -/
def computed {α : Type} : Checked α → RadioM α
  | .ok value => return value
  | .error _ => Procedure.fail .panicked

def setupRx (config : Region.RxConfig) (bb : BaseBandModulationParams) : RadioM Unit := do
  let mdltnParams ← createModulationParams config.rf.frequency.toUInt32
  createPacketParams
  let mode ← computed (RxMode.from config.mode bb)
  prepareForRx mode mdltnParams

/-! ## The mode that is set up -/

theorem command_radioMode {effect : Chip → Chip} {drive left : Drive}
    (ran : command effect drive = (.ok (), left)) :
    left.lora.radioMode = drive.lora.radioMode := by
  obtain ⟨answer, middle, operated, ends⟩ := Procedure.bind_eq_ok_iff.mp ran
  cases ends
  unfold operation at operated
  split at operated
  · cases operated
  · split at operated
    · cases operated
      rfl
    · cases operated

/-- After a set-up the driver is in the receive mode that was computed. -/
theorem setupRx_mode {config : Region.RxConfig} {bb : BaseBandModulationParams}
    {drive left : Drive} (ran : setupRx config bb drive = (.ok (), left)) :
    ∃ mode, RxMode.from config.mode bb = .ok mode ∧ left.lora.radioMode = .receive mode := by
  obtain ⟨mdltnParams, _, _, ran⟩ := Procedure.bind_eq_ok_iff.mp ran
  obtain ⟨_, _, _, ran⟩ := Procedure.bind_eq_ok_iff.mp ran
  obtain ⟨mode, _, found, ran⟩ := Procedure.bind_eq_ok_iff.mp ran
  obtain ⟨_, _, _, ran⟩ := Procedure.bind_eq_ok_iff.mp ran
  obtain ⟨_, _, _, ran⟩ := Procedure.bind_eq_ok_iff.mp ran
  obtain ⟨_, _, _, ran⟩ := Procedure.bind_eq_ok_iff.mp ran
  obtain ⟨_, _, _, ran⟩ := Procedure.bind_eq_ok_iff.mp ran
  obtain ⟨_, prepared, moded, ran⟩ := Procedure.bind_eq_ok_iff.mp ran
  cases computedMode : RxMode.from config.mode bb with
  | error fault =>
      rw [computedMode] at found
      cases found
  | ok value =>
      rw [computedMode] at found
      cases found
      cases moded
      exact ⟨_, rfl, command_radioMode ran⟩

theorem single_eq_ok_iff {bb : BaseBandModulationParams} (pos : 0 < bb.tSymUs) (ms : Nat)
    (mode : RxMode) : RxMode.from (.single ms) bb = .ok mode ↔
      ms * 1000 < 2 ^ 32 ∧ asU16 (ms * 1000 / bb.tSymUs) ≤ 65522 ∧
        mode = .single (13 + asU16 (ms * 1000 / bb.tSymUs)).toUInt16 := by
  constructor
  · intro made
    obtain ⟨symbols, delayed, made⟩ := Checked.bind_eq_ok_iff.mp made
    obtain ⟨us, product, delayed⟩ := Checked.bind_eq_ok_iff.mp delayed
    obtain ⟨num, summed, made⟩ := Checked.bind_eq_ok_iff.mp made
    obtain ⟨small, rfl⟩ := Checked.unsigned_eq_ok_iff.mp product
    rw [Checked.divUnsigned_ok pos] at delayed
    cases delayed
    obtain ⟨short, rfl⟩ := Checked.unsigned_eq_ok_iff.mp summed
    cases made
    refine ⟨small, ?_, rfl⟩
    unfold preambleSymbols at short
    omega
  · rintro ⟨small, short, rfl⟩
    have total : preambleSymbols + asU16 (ms * 1000 / bb.tSymUs) < 2 ^ 16 := by
      unfold preambleSymbols
      omega
    rw [RxMode.from, BaseBandModulationParams.delayInSymbols, Checked.u32_ok small,
      Checked.ok_bind, Checked.divUnsigned_ok pos]
    change (Checked.u16 (preambleSymbols + asU16 (ms * 1000 / bb.tSymUs)) >>= _) = _
    rw [Checked.u16, Checked.unsigned_ok total]
    rfl

/-! ## The window that was asked for -/

/-- The mode of a window with the buffer that was set: the preamble and the symbols of the
buffer, as many as `u16` can count. -/
def singleWindow (buffer : UInt32) (bb : BaseBandModulationParams) : RxMode :=
  .single (min (13 + buffer.toNat * 1000 / bb.tSymUs) 65535).toUInt16

namespace LorawanRadio

/-- The windows of the device are set up with the mode for the buffer. -/
def ConfiguresWindows (radio : LorawanRadio) (bb : BaseBandModulationParams) : Prop :=
  RxMode.from (.single radio.getRxWindowBuffer.toNat) bb = .ok (singleWindow radio.rxWindowBuffer bb)

theorem configuresWindows_iff (radio : LorawanRadio) {bb : BaseBandModulationParams}
    (pos : 0 < bb.tSymUs) : radio.ConfiguresWindows bb ↔
      radio.rxWindowLeadTime.toNat * 1000 < 2 ^ 32 ∧
        radio.rxWindowLeadTime.toNat * 1000 / bb.tSymUs % 2 ^ 16 =
          min (radio.rxWindowBuffer.toNat * 1000 / bb.tSymUs) 65522 := by
  unfold ConfiguresWindows
  rw [single_eq_ok_iff pos, getRxWindowBuffer, singleWindow]
  change _ ∧ _ % 2 ^ 16 ≤ 65522 ∧ RxMode.single _ = RxMode.single (13 + _ % 2 ^ 16).toUInt16 ↔ _
  generalize radio.rxWindowLeadTime.toNat * 1000 / bb.tSymUs % 2 ^ 16 = symbols
  generalize radio.rxWindowBuffer.toNat * 1000 / bb.tSymUs = asked
  have exact : ∀ n m, n < 2 ^ 16 → m < 2 ^ 16 → (n.toUInt16 = m.toUInt16 ↔ n = m) := by
    intro n m small less
    rw [← UInt16.toNat_inj]
    change n % 2 ^ 16 = m % 2 ^ 16 ↔ _
    rw [Nat.mod_eq_of_lt small, Nat.mod_eq_of_lt less]
  constructor
  · rintro ⟨small, short, same⟩
    have same := (exact _ _ (by omega) (by omega)).mp (RxMode.single.inj same)
    exact ⟨small, by omega⟩
  · rintro ⟨small, same⟩
    refine ⟨small, by omega, congrArg RxMode.single ?_⟩
    exact (exact _ _ (by omega) (by omega)).mpr (by omega)

end LorawanRadio

/-- A device with this radio sets up its windows for `get_rx_window_buffer`, in every run of
an uplink, and waits for them with the lead time that was set. -/
structure DeviceTimed (radio : LorawanRadio) : Prop where
  joins : ∀ env credentials answers device world,
    (AsyncDevice.joinResponse (radio.deviceEnv env) credentials answers ⟨device, []⟩).2 = world →
    AsyncDevice.ReceivesFor radio.getRxWindowBuffer.toNat world
  sends : ∀ env payload answers device world,
    (AsyncDevice.sendResponse (radio.deviceEnv env) payload answers ⟨device, []⟩).2 = world →
    AsyncDevice.ReceivesFor radio.getRxWindowBuffer.toNat world
  scheduled : ∀ env delay windowDelay start,
    startDelay (radio.deviceEnv env) delay windowDelay = .ok start →
    start + radio.rxWindowLeadTime.toNat = delay + windowDelay.toNat

theorem deviceTimed (radio : LorawanRadio) : DeviceTimed radio := by
  have fresh : ∀ device, AsyncDevice.ReceivesFor radio.getRxWindowBuffer.toNat ⟨device, []⟩ := by
    intro device window config inside
    cases inside
  refine ⟨?_, ?_, ?_⟩
  · rintro env credentials answers device world rfl
    exact (AsyncDevice.joinResponse_modes credentials answers).left (fresh device)
  · rintro env payload answers device world rfl
    exact (AsyncDevice.sendResponse_modes payload answers).left (fresh device)
  · intro env delay windowDelay start found
    unfold startDelay at found
    split at found
    · rename_i bounds
      cases found
      exact Nat.sub_add_cancel bounds.2
    · cases found

/-- The lead time is the one that was set.  The windows are as long as the buffer that was
set, at every modulation, exactly if the symbols of the lead time, counted on `u16`, are
those of the buffer and the lead time fits `u32` in microseconds. -/
theorem windows_configured_iff (radio : LorawanRadio) :
    DeviceTimed radio ∧ ∀ sf bw cr, ∃ bb, BaseBandModulationParams.new sf bw cr = .ok bb ∧
      (radio.ConfiguresWindows bb ↔ radio.rxWindowLeadTime.toNat * 1000 < 2 ^ 32 ∧
        radio.rxWindowLeadTime.toNat * 1000 / bb.tSymUs % 2 ^ 16 =
          min (radio.rxWindowBuffer.toNat * 1000 / bb.tSymUs) 65522) := by
  refine ⟨deviceTimed radio, ?_⟩
  intro sf bw cr
  have slow := (tSym_bounds sf bw).1
  refine ⟨_, BaseBandModulationParams.new_eq sf bw cr, radio.configuresWindows_iff ?_⟩
  change 0 < tSym sf bw
  omega

/-- A buffer of 100 ms that is set in front of the default lead time of 50 ms. -/
theorem set_buffer_unread : ¬ ∀ (buffer : UInt32) sf bw cr bb,
    BaseBandModulationParams.new sf bw cr = .ok bb →
    (LorawanRadio.new.setRxWindowBuffer buffer).ConfiguresWindows bb := by
  intro configures
  have said := configures 100 .sf7 .khz125 .cr45 _
    (BaseBandModulationParams.new_eq .sf7 .khz125 .cr45)
  have condition := ((LorawanRadio.new.setRxWindowBuffer 100).configuresWindows_iff
    (by decide)).mp said
  revert condition
  decide +kernel

end LoraRs.LoraPhy
