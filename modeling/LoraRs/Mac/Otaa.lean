import LoraRs.Mac.Session

/-!
# Over-the-air activation

The join request and what a join accept sets, from
`lorawan-device/src/mac/otaa.rs`.
-/

set_option autoImplicit false

namespace LoraRs.Mac

open LoraRs.Encoding LoraRs.Lib

structure NetworkCredentials where
  deveui : DevEui
  appeui : JoinEui
  appkey : AppKey
  deriving DecidableEq

structure Otaa where
  devNonce : DevNonce
  networkCredentials : NetworkCredentials
  deriving DecidableEq

namespace Otaa

def new (networkCredentials : NetworkCredentials) : Otaa where
  devNonce := DevNonce.fromValue 0
  networkCredentials := networkCredentials

/-- The join request with a random nonce, in a radio buffer of `N` bytes. -/
def prepareBuffer (newCrypto : NewCrypto) (N : Nat) (otaa : Otaa) (rng : Rng) :
    Checked (List Byte × Rng × Otaa) := do
  let devNonce := DevNonce.fromValue rng.nextU32.1.toUInt16
  let request : JoinRequest :=
    { joinEui := otaa.networkCredentials.appeui
      devEui := otaa.networkCredentials.deveui
      devNonce }
  let built ← Checked.unwrapResult
    (request.buildInto N (newCrypto otaa.networkCredentials.appkey.inner))
  return (built, rng.nextU32.2, { otaa with devNonce })

def deriveSession (newCrypto : NewCrypto) (otaa : Otaa) (decrypt : DecryptedJoinAcceptPayload) :
    Session :=
  let crypto := newCrypto otaa.networkCredentials.appkey.inner
  Session.new (decrypt.deriveNwkskey otaa.devNonce crypto)
    (decrypt.deriveAppskey otaa.devNonce crypto) decrypt.devAddr

def applyRx1DrOffset (settings : DLSettings) (region : Region.Configuration)
    (configuration : Configuration) : Configuration :=
  match region.rx1DrOffsetValidate settings.rx1DrOffset with
  | some rx1DrOffset => { configuration with rx1DrOffset }
  | none => configuration

def applyRx2DataRate (settings : DLSettings) (region : Region.Configuration)
    (configuration : Configuration) : Checked Configuration := do
  if (← region.getDatarate settings.rx2DataRate.val).isSome then
    return { configuration with rx2DataRate := some settings.rx2DataRate }
  else return configuration

def acceptJoin (newCrypto : NewCrypto) (otaa : Otaa) (decrypt : DecryptedJoinAcceptPayload)
    (region : Region.Configuration) (configuration : Configuration) :
    Checked (Session × Region.Configuration × Configuration) := do
  let region := region.processJoinAccept decrypt.cFList
  let configuration := { configuration with rx1Delay := delToDelayMs decrypt.rxDelay }
  let configuration ← applyRx2DataRate decrypt.dlSettings region
    (applyRx1DrOffset decrypt.dlSettings region configuration)
  return (deriveSession newCrypto otaa decrypt, region, configuration)

def handleRx (newCrypto : NewCrypto) (otaa : Otaa) (bytes : List Byte)
    (region : Region.Configuration) (configuration : Configuration) :
    Checked (Option (Session × Region.Configuration × Configuration)) :=
  match DecryptedJoinAcceptPayload.checkMicAndDecryptInPlace bytes
      (newCrypto otaa.networkCredentials.appkey.inner) with
  | .error _ => .ok none
  | .ok decrypt => do return some (← acceptJoin newCrypto otaa decrypt region configuration)

end Otaa

end LoraRs.Mac
