import LoraRs.Mac.Settings
import LoraRs.Mac.Responses

/-!
# The delay of the receive windows

The delay of RX1 is set by RXTimingSetupReq alone; a received frame changes it to that
of its last such command.
-/

set_option autoImplicit false

namespace LoraRs.Mac

open LoraRs.Encoding LoraRs.Lib

/-- The delay after a command. -/
def rxTiming (delay : Nat) : DownlinkMacCommand → Nat
  | .rxTimingSetupReq payload => delToDelayMs payload.delay
  | _ => delay

def streamTiming (delay : Nat) (cmds : List Byte) : Nat :=
  (parseDownlinkMacCommands cmds).foldl rxTiming delay

/-- The delay after the commands of a frame, in FOpts and in the payload. -/
def frameTiming (delay : Nat) (decrypted : DecryptedDataPayload) : Nat :=
  match decrypted.frmPayload with
  | .macCommands cmds => streamTiming (streamTiming delay decrypted.fhdr.fOpts) cmds
  | _ => streamTiming delay decrypted.fhdr.fOpts

theorem block_keeps_rxTiming (earlier : List LinkADRReqPayload) (last : LinkADRReqPayload)
    (delay : Nat) : (Item.block earlier last).commands.foldl rxTiming delay = delay := by
  have linked : ∀ payloads : List LinkADRReqPayload,
      (payloads.map DownlinkMacCommand.linkADRReq).foldl rxTiming delay = delay := by
    intro payloads
    induction payloads with
    | nil => rfl
    | cons payload rest ih => exact ih
  exact linked (earlier ++ [last])

theorem itemStep_rx1Delay {snr : Int8} {item : Item} {st next : CmdState}
    (stepped : itemStep snr item st = .ok next) :
    next.configuration.rx1Delay = item.commands.foldl rxTiming st.configuration.rx1Delay := by
  cases itemStep_configuration stepped with
  | kept configuration =>
      rw [configuration]
      cases item with
      | block earlier last => exact (block_keeps_rxTiming earlier last _).symm
      | other cmd unlinked =>
          cases cmd with
          | rxTimingSetupReq payload =>
              obtain ⟨result, ran, same⟩ := Checked.bind_eq_ok_iff.mp stepped
              cases ran
              cases same
              exact (congrArg Configuration.rx1Delay configuration).symm
          | linkADRReq payload => cases unlinked
          | linkCheckAns | dutyCycleReq | rxParamSetupReq | devStatusReq | newChannelReq
            | txParamSetupReq | dlChannelReq | deviceTimeAns => rfl
  | block earlier last itemEq dr pw rate power configuration =>
      subst itemEq
      rw [configuration]
      exact (block_keeps_rxTiming earlier last _).symm
  | rxParam payload itemEq freqValid offsetValid rx2DataRate rate configuration =>
      subst itemEq
      rw [configuration]
      rfl
  | rxTiming payload itemEq configuration =>
      subst itemEq
      rw [configuration]
      rfl

theorem runItems_rx1Delay {snr : Int8} (items : List Item) {st final : CmdState}
    (ran : Transition.run (itemStep snr) items st = .ok final) :
    final.configuration.rx1Delay =
      (items.flatMap Item.commands).foldl rxTiming st.configuration.rx1Delay := by
  induction items generalizing st with
  | nil =>
      cases ran
      rfl
  | cons item rest ih =>
      obtain ⟨next, stepped, ran⟩ := Checked.bind_eq_ok_iff.mp ran
      rw [List.flatMap_cons, List.foldl_append, ← itemStep_rx1Delay stepped]
      exact ih ran

theorem handleDownlinkMacs_rx1Delay {snr : Int8} {cmds : List Byte}
    {configuration next : Configuration} {region after : Region.Configuration}
    {uplink queue : Uplink}
    (ran : handleDownlinkMacs snr cmds configuration region uplink = .ok (next, after, queue)) :
    next.rx1Delay = streamTiming configuration.rx1Delay cmds := by
  obtain ⟨final, itemsRan, rfl, rfl⟩ := handleDownlinkMacs_ok ran
  rw [runItems_rx1Delay _ itemsRan, items_commands]
  rfl

namespace Session

theorem runMacs_rx1Delay {snr : Int8} {cmds : List Byte} {rx next : RxState}
    (ran : runMacs snr cmds rx = .ok next) :
    next.configuration.rx1Delay = streamTiming rx.configuration.rx1Delay cmds := by
  obtain ⟨⟨configuration, region, uplink⟩, handled, ran⟩ := Checked.bind_eq_ok_iff.mp ran
  cases ran
  exact handleDownlinkMacs_rx1Delay handled

theorem runFrameMacs_rx1Delay {decrypted : DecryptedDataPayload} {snr : Int8} {rx next : RxState}
    (ran : runFrameMacs decrypted snr false rx = .ok next) :
    next.configuration.rx1Delay = frameTiming rx.configuration.rx1Delay decrypted := by
  obtain ⟨middle, first, ran⟩ := Checked.bind_eq_ok_iff.mp ran
  cases payload : decrypted.frmPayload with
  | macCommands cmds =>
      rw [payload] at ran
      simp only [frameTiming, payload]
      rw [runMacs_rx1Delay ran, runMacs_rx1Delay first]
  | data bytes | none =>
      rw [payload] at ran
      cases ran
      simp only [frameTiming, payload]
      rw [runMacs_rx1Delay first]

theorem closeDownlink_rx1Delay {env : RxEnv} {decrypted : DecryptedDataPayload} {fcnt : UInt32}
    {rx next : RxState} {response : Response}
    (ran : closeDownlink env decrypted fcnt rx = .ok (response, next)) :
    next.configuration.rx1Delay = rx.configuration.rx1Delay := by
  unfold closeDownlink at ran
  split at ran
  · cases ran
    rfl
  · rw [(deliver_ok ran).configuration]

/-- A received frame leaves the delay, or the session accepts it in a window and its
commands set the delay. -/
theorem handleRx_rx1Delay {env : RxEnv} {bytes : List Byte} {maxPayloadLen : Nat} {snr : Int8}
    {ignoreMac : Bool} {rx next : RxState} {response : Response}
    (ran : handleRx env bytes maxPayloadLen snr ignoreMac rx = .ok (response, next)) :
    next.configuration.rx1Delay = rx.configuration.rx1Delay ∨
      ignoreMac = false ∧ ∃ data fcnt decrypted,
        Accepts env bytes maxPayloadLen rx data fcnt decrypted ∧
        next.configuration.rx1Delay = frameTiming rx.configuration.rx1Delay decrypted := by
  cases handleRx_outcome ran with
  | malformed e unparsed => exact .inl rfl
  | oversized data parsed large response session configuration completed =>
      exact .inl (by rw [(rx2Complete_session completed).2.1])
  | multicast data parsed fits counted counting group response next handled =>
      obtain ⟨⟨answer, multicast, dl⟩, _, ends⟩ := Checked.bind_eq_ok_iff.mp handled
      cases ends
      exact .inl (by rw [(counted_same counting).configuration])
  | stale data parsed fits counted counting unicast old =>
      exact .inl (by rw [(counted_same counting).configuration])
  | forged data parsed fits counted counting unicast fcnt fresh invalid =>
      exact .inl (by rw [(counted_same counting).configuration])
  | accepted data parsed fits counted counting unicast fcnt fresh valid response next handled =>
      have same := counted_same counting
      obtain ⟨deciphered, found, closed⟩ := Checked.bind_eq_ok_iff.mp handled
      cases deciphered with
      | error e => cases closed
      | ok decrypted =>
          rw [Checked.unwrapResult_ok, Checked.ok_bind] at closed
          obtain ⟨middle, commands, closed⟩ := Checked.bind_eq_ok_iff.mp closed
          have noted : (noteConfirmed data.isConfirmed middle).configuration =
              middle.configuration := by
            unfold noteConfirmed
            split <;> rfl
          have delay := closeDownlink_rx1Delay closed
          rw [noted] at delay
          cases ignoreMac with
          | true =>
              cases commands
              exact .inl (delay.trans (congrArg Configuration.rx1Delay same.configuration))
          | false =>
              have keys : counted.session.nwkskey = rx.session.nwkskey ∧
                  counted.session.appskey = rx.session.appskey := by
                rw [same.session]
                exact ⟨rfl, rfl⟩
              rw [keys.1, keys.2, parsed] at found
              refine .inr ⟨rfl, data, fcnt, decrypted,
                ⟨parsed, fits, unicast, fresh, valid, found⟩, ?_⟩
              rw [delay, runFrameMacs_rx1Delay commands, ← same.configuration]
              rfl

end Session

end LoraRs.Mac
