import LoraRs.Encoding.DataFrames
import LoraRs.Encoding.Streams
import LoraRs.Mac.Sending

/-!
# The frames of uplinks

What `prepare_buffer` builds, field by field, and what of it the network reads: the ACK
bit and the MAC commands, in FOpts or as the payload of port 0.
-/

set_option autoImplicit false

namespace LoraRs.Mac

open LoraRs.Encoding LoraRs.Lib

namespace Uplink

/-- The queue as a built uplink leaves it. -/
def sent (uplink : Uplink) : Uplink := uplink.clearDownlinkConfirmation.clearMacCommands true

theorem sent_eq (uplink : Uplink) :
    (if uplink.confirmsDownlink then uplink.clearDownlinkConfirmation
      else uplink).clearMacCommands true = uplink.sent := by
  obtain ⟨pending, confirmed, fits⟩ := uplink
  cases confirmed <;> rfl

end Uplink

namespace Session

/-- The frame that `prepare_buffer` builds from these fields. -/
def uplinkFrame (session : Session) (data : SendData) (configuration : Configuration)
    (adrAckReq : Bool) (fOpts : List Byte) (payload : Payload) : DataFrame where
  frameType :=
    if session.overrideConfirmed.getD data.confirmed then .confirmedUp else .unconfirmedUp
  devAddr := session.devaddr
  adr := configuration.adrEnabled
  adrAckReq
  ack := session.uplink.confirmed
  fPending := false
  fcnt := session.fcntUp
  fOpts
  payload

def afterUplink (session : Session) (data : SendData) : Session :=
  { session with
    confirmed := session.overrideConfirmed.getD data.confirmed
    uplink := session.uplink.sent }

/-- The frame of a packet that `prepare_buffer` filled a radio buffer of `N` bytes with. -/
structure Prepared (newCrypto : NewCrypto) (N : Nat) (session : Session) (data : SendData)
    (configuration : Configuration) (region : Region.Configuration) (adrAckReq : Bool)
    (fOpts : List Byte) (payload : Payload) (packet : List Byte) : Prop where
  request : session.adrAckReq configuration region = .ok adrAckReq
  fields : fieldsFor session.uplink data = .ok (fOpts, payload)
  built : (session.uplinkFrame data configuration adrAckReq fOpts payload).buildInto 256
    (newCrypto session.nwkskey.inner) (some (newCrypto session.appskey.inner)) =
    .ok (.ok packet)
  room : packet.length < N

theorem fieldsFor_confirmation (uplink : Uplink) (data : SendData) :
    fieldsFor (if uplink.confirmsDownlink then uplink.clearDownlinkConfirmation else uplink) data =
      fieldsFor uplink data := by
  split <;> rfl

theorem prepareBuffer_eq_ok_iff (newCrypto : NewCrypto) (N : Nat) (session : Session)
    (data : SendData) (configuration : Configuration) (region : Region.Configuration)
    (fcnt : UInt32) (packet : List Byte) (next : Session) :
    session.prepareBuffer newCrypto N data configuration region = .ok (fcnt, packet, next) ↔
      fcnt = session.fcntUp ∧ next = session.afterUplink data ∧
        ∃ adrAckReq fOpts payload, Prepared newCrypto N session data configuration region
          adrAckReq fOpts payload packet := by
  unfold prepareBuffer
  simp only [fieldsFor_confirmation, Uplink.sent_eq]
  constructor
  · intro ran
    obtain ⟨adrAckReq, request, ran⟩ := Checked.bind_eq_ok_iff.mp ran
    obtain ⟨⟨fOpts, payload⟩, fields, ran⟩ := Checked.bind_eq_ok_iff.mp ran
    obtain ⟨built, buildEq, ran⟩ := Checked.bind_eq_ok_iff.mp ran
    cases built with
    | error e => cases ran
    | ok bytes =>
        obtain ⟨filled, fill, ran⟩ := Checked.bind_eq_ok_iff.mp ran
        cases ran
        unfold fillRadioBuffer at fill
        split at fill
        · rename_i room
          cases fill
          exact ⟨rfl, rfl, adrAckReq, fOpts, payload, request, fields, buildEq, room⟩
        · cases fill
  · rintro ⟨rfl, rfl, adrAckReq, fOpts, payload, prepared⟩
    have built := prepared.built
    unfold uplinkFrame at built
    simp only [prepared.request, Checked.ok_bind, prepared.fields, Uplink.confirmsDownlink, built,
      fillRadioBuffer, if_pos prepared.room]
    rfl

end Session

def PreparedIn (env : MacEnv) (mac : Mac) (data : SendData) (packet : List Byte) : Prop :=
  ∃ session adrAckReq fOpts payload, mac.state = .joined session ∧
    Session.Prepared env.newCrypto env.bufferSize session data mac.configuration mac.region
      adrAckReq fOpts payload packet

theorem prepareData_prepared {env : MacEnv} {data : SendData} {mac next : Mac} {fcnt : UInt32}
    {packet : List Byte} (ran : mac.prepareData env data = .ok (.ok (fcnt, packet, next))) :
    PreparedIn env mac data packet := by
  cases state : mac.state with
  | joined session =>
      simp only [Mac.prepareData, state] at ran
      obtain ⟨⟨counter, bytes, after⟩, prepared, ran⟩ := Checked.bind_eq_ok_iff.mp ran
      cases ran
      obtain ⟨_, _, adrAckReq, fOpts, payload, prepared⟩ :=
        (Session.prepareBuffer_eq_ok_iff _ _ _ _ _ _ _ _ _).mp prepared
      exact ⟨session, adrAckReq, fOpts, payload, state, prepared⟩
  | otaa otaa =>
      simp only [Mac.prepareData, state] at ran
      cases ran
  | unjoined =>
      simp only [Mac.prepareData, state] at ran
      cases ran

/-! ## What the network reads -/

/-- The MAC commands of a deciphered frame, in FOpts or under port 0. -/
def macBytes (decrypted : DecryptedDataPayload) : List Byte :=
  decrypted.fhdr.fOpts ++
    match decrypted.frmPayload with
    | .macCommands cmds => cmds
    | _ => []

/-- Whether the ACK bit of a frame is set. -/
def acknowledges (packet : List Byte) : Bool :=
  match EncryptedDataPayload.parse packet with
  | .ok payload => payload.fhdr.fctrl.ack
  | .error _ => false

/-- With the session's keys the packet deciphers to a frame with exactly these commands. -/
def Carries (newCrypto : NewCrypto) (session : Session) (packet : List Byte)
    (answers : List UplinkMacCommand) : Prop :=
  ∃ decrypted : DecryptedDataPayload,
    DecryptedDataPayload.checkMicAndDecryptInPlace packet (newCrypto session.nwkskey.inner)
      (some (newCrypto session.appskey.inner)) session.fcntUp = .ok (.ok decrypted) ∧
    macBytes decrypted = MacCommands.bytesOf answers ∧
    parseUplinkMacCommands (macBytes decrypted) = answers

namespace Session

variable {newCrypto : NewCrypto} {N : Nat} {session : Session} {data : SendData}
  {configuration : Configuration} {region : Region.Configuration} {adrAckReq : Bool}
  {fOpts : List Byte} {payload : Payload} {packet : List Byte}

theorem Prepared.acknowledges_eq (prepared : Prepared newCrypto N session data configuration region
    adrAckReq fOpts payload packet) : acknowledges packet = session.uplink.confirmed := by
  obtain ⟨view, parsed, shows, _⟩ := (built_reads_back prepared.built).parsed
  rw [acknowledges, parsed]
  exact shows.ack

theorem Prepared.macBytes_eq (prepared : Prepared newCrypto N session data configuration region
    adrAckReq fOpts payload packet) : ∃ decrypted : DecryptedDataPayload,
    DecryptedDataPayload.checkMicAndDecryptInPlace packet (newCrypto session.nwkskey.inner)
      (some (newCrypto session.appskey.inner)) session.fcntUp = .ok (.ok decrypted) ∧
    macBytes decrypted = session.uplink.pending := by
  obtain ⟨decrypted, ran, shows, frmPayload⟩ := (built_reads_back prepared.built).decrypted
  refine ⟨decrypted, ran, ?_⟩
  have fields := prepared.fields
  rw [macBytes, shows.fOpts, frmPayload]
  simp only [uplinkFrame]
  unfold fieldsFor at fields
  by_cases nonzero : data.fport ≠ 0
  · rw [dif_pos nonzero] at fields
    cases fields
    exact List.append_nil _
  · rw [dif_neg nonzero] at fields
    split at fields
    · cases fields
    · cases fields
      rfl

end Session

end LoraRs.Mac
