import LoraRs.Region.Configuration

/-!
# MAC configuration

The configuration of a MAC, the data that goes through it and its constants, from
`lorawan-device/src/mac/mod.rs`, `radio.rs` and `region/constants.rs`.  The cargo
features that change the MAC are a record of flags.
-/

set_option autoImplicit false

namespace LoraRs.Mac

open LoraRs.Encoding LoraRs.Lib

/-- The optional parts the crate is built with. -/
structure Features where
  certification : Bool
  multicast : Bool
  classC : Bool
  deriving DecidableEq, Repr

abbrev receiveDelay1 : Nat := 1000
abbrev joinAcceptDelay1 : Nat := 5000
abbrev joinAcceptDelay2 : Nat := 6000
abbrev maxFcntGap : Nat := 16384
abbrev adrAckLimit : Nat := 64
abbrev adrAckDelay : Nat := 32

/-- `mac::Configuration`. -/
structure Configuration where
  dataRate : DR
  rx1Delay : Nat
  joinAcceptDelay1 : Nat
  joinAcceptDelay2 : Nat
  txPower : Option Nat
  rx1DrOffset : Nat
  rx2DataRate : Option DR
  rx2Frequency : Option Nat
  adrEnabled : Bool
  deriving DecidableEq, Repr

def delToDelayMs (del : Byte) : Nat :=
  if 2 ≤ del.toNat ∧ del.toNat ≤ 15 then del.toNat * 1000 else receiveDelay1

/-- A downlink for the application. -/
structure Downlink where
  data : List Byte
  fport : Byte
  deriving DecidableEq, Repr

/-- Pushes to a queue with room for `capacity`; a full queue drops it. -/
def pushDownlink (capacity : Nat) (dl : List Downlink) (downlink : Downlink) : List Downlink :=
  if dl.length < capacity then dl ++ [downlink] else dl

structure SendData where
  data : List Byte
  fport : Byte
  confirmed : Bool
  deriving DecidableEq, Repr

/-- `heapless::Vec::from_slice(..).unwrap()` and
`heapless::Vec::extend_from_slice(..).unwrap()`, into a vector of the capacity. -/
def extendFromSlice (capacity : Nat) (buf data : List Byte) : Checked (List Byte) :=
  if buf.length + data.length ≤ capacity then .ok (buf ++ data) else .error .unwrap

/-- `RadioBuffer::extend_from_slice(..).unwrap()` on an empty buffer of `N` bytes:
one byte of it stays unused. -/
def fillRadioBuffer (N : Nat) (packet : List Byte) : Checked (List Byte) :=
  if packet.length < N then .ok packet else .error .unwrap

end LoraRs.Mac
