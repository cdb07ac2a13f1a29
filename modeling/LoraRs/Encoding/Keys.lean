import LoraRs.Encoding.Types

/-!
# Keys and the cryptography they bind

Key types, the fixed-size wire fields that keys and frames are built from, and
the device-side AES primitives, from `lorawan-encoding/src/keys.rs`.  The cipher
and the CMAC are third-party code: `Crypto` is what one key gives access to, and
a device is parametrised by the function that binds a key.
-/

set_option autoImplicit false

namespace LoraRs.Encoding

abbrev AES128 := Vector Byte 16

abbrev Block := Vector Byte 16

structure MIC where
  bytes : Vector Byte 4
  deriving DecidableEq

/-- `Crypto`: AES-128 encryption of one block and the truncated CMAC over a block
followed by the data, both bound to one key. -/
structure Crypto where
  encryptBlock : Block → Block
  calculateMic : List Byte → List Byte → MIC

/-- Binds a key to an implementation (`DefaultCrypto::new`). -/
abbrev NewCrypto := AES128 → Crypto

/-! ## Wire fields, in transmission order -/

structure DevAddr where
  bytes : Vector Byte 4
  deriving DecidableEq

structure McAddr where
  bytes : Vector Byte 4
  deriving DecidableEq

structure DevNonce where
  bytes : Vector Byte 2
  deriving DecidableEq

namespace DevNonce

def fromValue (value : UInt16) : DevNonce := ⟨#v[value.toUInt8, (value >>> 8).toUInt8]⟩

end DevNonce

structure JoinNonce where
  bytes : Vector Byte 3
  deriving DecidableEq

structure NetId where
  bytes : Vector Byte 3
  deriving DecidableEq

structure DevEui where
  bytes : Vector Byte 8
  deriving DecidableEq

structure JoinEui where
  bytes : Vector Byte 8
  deriving DecidableEq

/-! ## Keys -/

structure AppKey where
  inner : AES128
  deriving DecidableEq

structure AppSKey where
  inner : AES128
  deriving DecidableEq

structure NwkSKey where
  inner : AES128
  deriving DecidableEq

structure McNetSKey where
  inner : AES128
  deriving DecidableEq

structure McAppSKey where
  inner : AES128
  deriving DecidableEq

structure McKEKey where
  inner : AES128
  deriving DecidableEq

structure McKey where
  inner : AES128
  deriving DecidableEq

namespace McKey

def addrBlock (first : Byte) (mcAddr : McAddr) : Block :=
  #v[first, mcAddr.bytes[0], mcAddr.bytes[1], mcAddr.bytes[2], mcAddr.bytes[3],
    0, 0, 0, 0, 0, 0, 0, 0, 0, 0, 0]

def deriveMcAppSKey (crypto : Crypto) (mcAddr : McAddr) : McAppSKey :=
  ⟨crypto.encryptBlock (addrBlock 0x01 mcAddr)⟩

def deriveMcNetSKey (crypto : Crypto) (mcAddr : McAddr) : McNetSKey :=
  ⟨crypto.encryptBlock (addrBlock 0x02 mcAddr)⟩

end McKey

end LoraRs.Encoding
