import LoraRs.Mac.Configuration
import LoraRs.Encoding.MacCommands

/-!
# Queued uplink answers

The answers waiting for the next uplink and the flag that acknowledges a confirmed
downlink, from `lorawan-device/src/mac/uplink/mod.rs`.  The queue never holds more
than the fifteen bytes that FOpts carries; the bound is part of the type.
-/

set_option autoImplicit false

namespace LoraRs.Mac

open LoraRs.Encoding LoraRs.Lib

abbrev fOptsMaxLen : Nat := 15

/-- The bytes of a list of commands. -/
def serializeAll (cmds : List SerializableMacCommand) : List Byte :=
  cmds.flatMap fun cmd => cmd.cid :: cmd.payloadBytes

/-- Commands that are kept until the network has acknowledged them. -/
def isSticky : UplinkMacCommand → Bool
  | .dlChannelAns _ | .rxParamSetupAns _ | .rxTimingSetupAns => true
  | _ => false

def stickyBytes (pending : List Byte) : List Byte :=
  serializeAll (((parseUplinkMacCommands pending).filter isSticky).map
    UplinkMacCommand.serialize)

/-- Dropping commands of a parsed stream gives no more bytes than it had. -/
theorem stickyBytes_length_le (pending : List Byte) :
    (stickyBytes pending).length ≤ pending.length := by
  have general : ∀ (n : Nat) (pending : List Byte), pending.length ≤ n →
      (stickyBytes pending).length ≤ pending.length := by
    intro n
    induction n with
    | zero =>
        intro pending short
        have empty : pending = [] := List.eq_nil_of_length_eq_zero (by omega)
        subst empty
        exact Nat.le_refl 0
    | succ n ih =>
        intro pending short
        cases pending with
        | nil => exact Nat.le_refl 0
        | cons cid rest =>
            cases parsed : (MacCommandSet.parseOne cid rest :
                Except ParseError (UplinkMacCommand × Nat)) with
            | error e =>
                simp only [stickyBytes, parseUplinkMacCommands, MacCommands.oks_error parsed]
                exact Nat.zero_le _
            | ok found =>
                obtain ⟨cmd, taken⟩ := found
                have bounds := MacCommandSet.consumed parsed
                have size := UplinkMacCommand.parseOne_consumed parsed
                simp only [SerializableMacCommand.payloadLen] at size
                simp only [List.length_cons] at short
                have rest_le := ih ((cid :: rest).drop taken) (by
                  rw [List.length_drop, List.length_cons]
                  omega)
                simp only [List.length_drop, List.length_cons] at rest_le
                simp only [stickyBytes, parseUplinkMacCommands, List.length_cons] at rest_le ⊢
                rw [MacCommands.oks_ok parsed]
                cases sticky : isSticky cmd with
                | true =>
                    rw [List.filter_cons_of_pos sticky, List.map_cons, serializeAll,
                      List.flatMap_cons, List.length_append, List.length_cons]
                    rw [serializeAll] at rest_le
                    omega
                | false =>
                    rw [List.filter_cons_of_neg (by simp [sticky])]
                    omega
  exact general pending.length pending (Nat.le_refl _)

structure Uplink where
  pending : List Byte
  confirmed : Bool
  fits : pending.length ≤ fOptsMaxLen
  deriving DecidableEq

namespace Uplink

def default : Uplink := ⟨[], false, Nat.zero_le _⟩

def setDownlinkConfirmation (uplink : Uplink) : Uplink := { uplink with confirmed := true }

def clearDownlinkConfirmation (uplink : Uplink) : Uplink := { uplink with confirmed := false }

def confirmsDownlink (uplink : Uplink) : Bool := uplink.confirmed

/-- An answer that does not fit is dropped. -/
def addMacCommand (uplink : Uplink) (cmd : SerializableMacCommand) : Uplink :=
  if room : uplink.pending.length + cmd.payloadLen < fOptsMaxLen then
    { uplink with
      pending := uplink.pending ++ cmd.cid :: cmd.payloadBytes
      fits := by
        simp only [SerializableMacCommand.payloadLen] at room
        rw [List.length_append, List.length_cons]
        omega }
  else uplink

def addMacCommands (uplink : Uplink) (cmds : List SerializableMacCommand) : Uplink :=
  cmds.foldl addMacCommand uplink

def clearMacCommands (uplink : Uplink) (retainAcks : Bool) : Uplink :=
  if retainAcks then
    { uplink with
      pending := stickyBytes uplink.pending
      fits := Nat.le_trans (stickyBytes_length_le uplink.pending) uplink.fits }
  else { uplink with pending := [], fits := Nat.zero_le _ }

def macCommands (uplink : Uplink) : List Byte := uplink.pending

theorem addMacCommand_pending {uplink : Uplink} {cmd : SerializableMacCommand}
    (room : uplink.pending.length + cmd.payloadLen < fOptsMaxLen) :
    (uplink.addMacCommand cmd).pending = uplink.pending ++ cmd.cid :: cmd.payloadBytes := by
  rw [addMacCommand, dif_pos room]

theorem addMacCommand_full {uplink : Uplink} {cmd : SerializableMacCommand}
    (full : ¬ uplink.pending.length + cmd.payloadLen < fOptsMaxLen) :
    uplink.addMacCommand cmd = uplink := dif_neg full

/-- A command that has room changes the queue. -/
theorem addMacCommand_ne {uplink : Uplink} {cmd : SerializableMacCommand}
    (room : uplink.pending.length + cmd.payloadLen < fOptsMaxLen) :
    uplink.addMacCommand cmd ≠ uplink := by
  intro same
  have lengths := congrArg (·.pending.length) same
  simp only [addMacCommand_pending room, List.length_append, List.length_cons] at lengths
  omega

@[simp] theorem addMacCommand_confirmed (uplink : Uplink) (cmd : SerializableMacCommand) :
    (uplink.addMacCommand cmd).confirmed = uplink.confirmed := by
  unfold addMacCommand
  split <;> rfl

@[simp] theorem clearMacCommands_confirmed (uplink : Uplink) (retainAcks : Bool) :
    (uplink.clearMacCommands retainAcks).confirmed = uplink.confirmed := by
  unfold clearMacCommands
  split <;> rfl

end Uplink

end LoraRs.Mac
