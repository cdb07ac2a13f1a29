import LoraRs.AsyncDevice.Windows
import LoraRs.Mac.Authentication

/-!
# Stray frames before the windows

Two runs of a join or a send: one with all frames that a Class C device hears before RX1
and RX2, and one without those that nobody authenticated.  `Shadow` follows both runs
step by step.
-/

set_option autoImplicit false

namespace LoraRs.AsyncDevice

open LoraRs.Encoding LoraRs.Lib LoraRs.Mac
open LoraRs.Region (Frame Window RfConfig RxConfig TxConfig)

/-! ## Stray frames -/

/-- A frame heard before a window that fails to parse or to authenticate, or arrives
while the device is not joined. -/
def isStray (env : DeviceEnv) (reception : Reception) : Bool :=
  match reception.listening with
  | .interval _ _ =>
      match reception.mac.state with
      | .joined session =>
          !Session.isAuthentic env.toRxEnv reception.frame.bytes (reception.mac.lend session [])
      | _ => true
  | _ => false

/-- What the handling of a stray frame leaves as it was: the device is joined, the frame
is not counted for the certification and, over the size limit, finds the uplink counter
at its end and no new multicast session announced. -/
def Harmless (env : DeviceEnv) (reception : Reception) : Prop :=
  ∃ session, reception.mac.state = .joined session ∧
    if Session.endsWindows reception.frame.bytes reception.rf.maxPayloadLen = true then
      session.fcntUp = lastFcntUp ∧
        ∀ window pending, reception.listening = .interval window pending → ¬ IsNewSession pending
    else Session.isCounted env.toRxEnv reception.frame.bytes = false

/-- Whether a frame is harmless within the size limit. -/
def spares (env : DeviceEnv) (reception : Reception) : Bool :=
  match reception.mac.state with
  | .joined _ =>
      !Session.endsWindows reception.frame.bytes reception.rf.maxPayloadLen &&
        !Session.isCounted env.toRxEnv reception.frame.bytes
  | _ => false

theorem spares_harmless {env : DeviceEnv} {reception : Reception}
    (spared : spares env reception = true) : Harmless env reception := by
  unfold spares at spared
  split at spared
  · rename_i session joined
    simp only [Bool.and_eq_true, Bool.not_eq_true'] at spared
    refine ⟨session, joined, ?_⟩
    rw [if_neg (by rw [spared.1]; exact Bool.false_ne_true)]
    exact spared.2
  · cases spared

def Unharmed (env : DeviceEnv) (trace : List Action) : Prop :=
  ∀ reception ∈ receptions trace, isStray env reception = true → Harmless env reception

theorem unharmed_append {env : DeviceEnv} {first rest : List Action} :
    Unharmed env (first ++ rest) ↔ Unharmed env first ∧ Unharmed env rest := by
  simp only [Unharmed, receptions, List.filterMap_append, List.mem_append]
  constructor
  · intro all
    exact ⟨fun reception inside => all reception (.inl inside),
      fun reception inside => all reception (.inr inside)⟩
  · rintro ⟨before, after⟩ reception (inside | inside)
    · exact before reception inside
    · exact after reception inside

/-- The frames heard before a window that are not stray. -/
def remaining (env : DeviceEnv) (window : Window) (trace : List Action) : List RxcFrame :=
  (receptions trace).filterMap fun reception =>
    match reception.listening with
    | .interval other _ =>
        if other = window ∧ isStray env reception = false then some reception.frame else none
    | _ => none

theorem remaining_append (env : DeviceEnv) (window : Window) (first rest : List Action) :
    remaining env window (first ++ rest) =
      remaining env window first ++ remaining env window rest := by
  simp only [remaining, receptions, List.filterMap_append]

/-! ## What is seen of a run without its stray frames -/

def Listening.visible : Listening → Listening
  | .interval next _ => .interval next none
  | listening => listening

/-- A step as it shows: not with what has been answered before in the interval, and not
at all if it is a stray frame. -/
def Action.visible (env : DeviceEnv) : Action → Option Action
  | .received reception =>
      if isStray env reception = true then none
      else some (.received { reception with listening := reception.listening.visible })
  | .setupRx listening config => some (.setupRx listening.visible config)
  | action => some action

def visible (env : DeviceEnv) (trace : List Action) : List Action :=
  trace.filterMap (Action.visible env)

/-- The same device has done the same, stray frames apart. -/
structure Alike (env : DeviceEnv) (world other : World) : Prop where
  device : world.device = other.device
  seen : visible env world.trace = visible env other.trace

theorem Alike.refl {env : DeviceEnv} (world : World) : Alike env world world := ⟨rfl, rfl⟩

/-! ## Two runs -/

/-- Two outcomes that fail alike or return related values, in alike worlds. -/
def Paired {α β : Type} (env : DeviceEnv) (value : α → β → Prop) :
    Except Stop α × World → Except Stop β × World → Prop
  | (.ok result, world), (.ok found, other) => value result found ∧ Alike env world other
  | (.error stop, world), (.error fault, other) => stop = fault ∧ Alike env world other
  | _, _ => False

/-- The second procedure, with the frames that remain of the first one's intervals, does
the same in an alike world, as long as no stray frame did harm.  `scope` are the windows
before which the first one listens. -/
def Shadow {α β : Type} (env : DeviceEnv) (scope : Window → Prop) (run : Task α)
    (other : (Window → List RxcFrame) → Task β) (value : α → β → Prop) : Prop :=
  ∀ world copy, Alike env world copy → ∃ added,
    (run world).2.trace = world.trace ++ added ∧
    (∀ window, ¬ scope window → remaining env window added = []) ∧
    (Unharmed env added → ∀ frames, (∀ window, scope window →
      frames window = remaining env window added) →
      Paired env value (run world) (other frames copy))

abbrev Nowhere : Window → Prop := fun _ => False

namespace Shadow

variable {α β α' β' : Type} {env : DeviceEnv} {scope : Window → Prop}

theorem pure {result : α} {found : β} {value : α → β → Prop} (same : value result found) :
    Shadow env Nowhere (Pure.pure result) (fun _ => Pure.pure found) value := by
  intro world copy alike
  exact ⟨[], (List.append_nil _).symm, fun _ _ => rfl, fun _ _ _ => ⟨same, alike⟩⟩

theorem fail {stop : Stop} {value : α → β → Prop} :
    Shadow env Nowhere (Procedure.fail stop) (fun _ => Procedure.fail stop) value := by
  intro world copy alike
  exact ⟨[], (List.append_nil _).symm, fun _ _ => rfl, fun _ _ _ => ⟨rfl, alike⟩⟩

/-- One after the other, listening before different windows. -/
theorem bind {first second : Window → Prop} {run : Task α}
    {other : (Window → List RxcFrame) → Task β} {middle : α → β → Prop} {next : α → Task α'}
    {following : β → (Window → List RxcFrame) → Task β'} {value : α' → β' → Prop}
    (begins : Shadow env first run other middle)
    (rest : ∀ result found, middle result found →
      Shadow env second (next result) (following found) value)
    (total : ∀ result, ∃ found, middle result found)
    (covers : ∀ window, scope window ↔ first window ∨ second window)
    (apart : ∀ window, first window → ¬ second window) :
    Shadow env scope (run >>= next)
      (fun frames => other frames >>= fun found => following found frames) value := by
  intro world copy alike
  obtain ⟨added, trace, quiet, paired⟩ := begins world copy alike
  cases ran : run world with
  | mk outcome left =>
      rw [ran] at trace paired
      cases outcome with
      | error stop =>
          rw [Procedure.bind_error ran]
          refine ⟨added, trace, fun window outside => quiet window fun inside =>
            outside ((covers window).mpr (.inl inside)), ?_⟩
          intro unharmed frames heard
          have ends := paired unharmed frames fun window inside =>
            heard window ((covers window).mpr (.inl inside))
          cases followed : other frames copy with
          | mk answer after =>
              rw [followed] at ends
              cases answer with
              | error fault =>
                  change Paired env value _ ((other frames >>= _) copy)
                  rw [Procedure.bind_error followed]
                  exact ends
              | ok found => exact ends.elim
      | ok result =>
          rw [Procedure.bind_ok ran]
          -- The rest may only be copied if the first parts agree, but it grows anyway.
          obtain ⟨partner, related⟩ := total result
          obtain ⟨grown, later, silent, _⟩ := rest result partner related left left (Alike.refl left)
          refine ⟨added ++ grown, ?_, ?_, ?_⟩
          · rw [later, trace, List.append_assoc]
          · intro window outside
            rw [remaining_append, quiet window fun inside => outside
                ((covers window).mpr (.inl inside)), silent window fun inside => outside
                ((covers window).mpr (.inr inside)), List.append_nil]
          intro unharmed frames heard
          obtain ⟨before, after⟩ := unharmed_append.mp unharmed
          have ends := paired before frames fun window inside => by
            rw [heard window ((covers window).mpr (.inl inside)), remaining_append,
              silent window (apart window inside), List.append_nil]
          change Paired env value _ ((other frames >>= _) copy)
          cases followed : other frames copy with
          | mk answer reached =>
              rw [followed] at ends
              cases answer with
              | error fault => exact ends.elim
              | ok found =>
                  rw [Procedure.bind_ok followed]
                  obtain ⟨again, same, _, agrees⟩ := rest result found ends.1 left reached ends.2
                  have same : grown = again := List.append_cancel_left (later.symm.trans same)
                  subst same
                  refine agrees after frames fun window inside => ?_
                  rw [heard window ((covers window).mpr (.inr inside)), remaining_append,
                    quiet window fun earlier => apart window earlier inside, List.nil_append]

theorem andThen {run other : Task α} {next : α → Task α'}
    {following : α → (Window → List RxcFrame) → Task β'} {value : α' → β' → Prop}
    (begins : Shadow env Nowhere run (fun _ => other) Eq)
    (rest : ∀ result, Shadow env scope (next result) (following result) value) :
    Shadow env scope (run >>= next)
      (fun frames => other >>= fun found => following found frames) value := by
  have following : ∀ result found, result = found →
      Shadow env scope (next result) (following found) value := by
    rintro result _ rfl
    exact rest result
  exact bind begins following (fun result => ⟨result, rfl⟩) (fun _ => (false_or _).symm.to_iff)
    (fun _ nowhere => nowhere.elim)

end Shadow

/-! ## Steps that hear nothing -/

section Quiet

variable {env : DeviceEnv} {α β : Type}

/-- Both runs do the same here and hear nothing. -/
abbrev Copies (env : DeviceEnv) (run other : Task α) : Prop :=
  Shadow env Nowhere run (fun _ => other) Eq

theorem note_copies {action other : Action}
    (unheard : ∀ window, remaining env window [action] = [])
    (same : action.visible env = other.visible env) : Copies env (note action) (note other) := by
  intro world copy alike
  refine ⟨[action], rfl, fun window _ => unheard window, fun _ _ _ => ⟨rfl, alike.device, ?_⟩⟩
  simp only [visible, World.note_trace, List.filterMap_append, List.filterMap_cons,
    List.filterMap_nil, same] at alike ⊢
  have seen := alike.seen
  simp only [visible] at seen
  rw [seen]

theorem setDevice_copies (given : Device) : Copies env (setDevice given) (setDevice given) :=
  fun _ _ alike => ⟨[], (List.append_nil _).symm, fun _ _ => rfl, fun _ _ _ =>
    ⟨rfl, rfl, alike.seen⟩⟩

theorem device_shadow {scope : Window → Prop} {next : Device → Task α}
    {following : Device → (Window → List RxcFrame) → Task β} {value : α → β → Prop}
    (rest : ∀ given, Shadow env scope (next given) (following given) value) :
    Shadow env scope (device >>= next)
      (fun frames => device >>= fun given => following given frames) value := by
  intro world copy alike
  have shadow := rest world.device world copy alike
  rw [device_bind]
  simp only [device_bind, ← alike.device]
  exact shadow

theorem checked_copies (run : Checked α) : Copies env (checked run) (checked run) := by
  cases run with
  | ok result => exact Shadow.pure rfl
  | error fault => exact Shadow.fail

theorem radio_copies (answer : RadioResult α) : Copies env (radio answer) (radio answer) := by
  cases answer with
  | ok result => exact Shadow.pure rfl
  | error e => exact Shadow.fail

theorem accepted_copies (result : Except Mac.Error α) :
    Copies env (accepted result) (accepted result) := by
  cases result with
  | ok value => exact Shadow.pure rfl
  | error e => exact Shadow.fail

theorem tx_copies (answer : RadioResult UInt32) (fcnt : Option UInt32) (packet : List Byte)
    (config : TxConfig) : Copies env (tx answer fcnt packet config)
      (tx answer fcnt packet config) :=
  (note_copies (fun _ => rfl) rfl).andThen fun _ => radio_copies answer

theorem setupRx_copies (answer : RadioResult Unit) {listening other : Listening}
    (config : RxConfig) (same : listening.visible = other.visible) :
    Copies env (setupRx answer listening config) (setupRx answer other config) := by
  refine (note_copies (fun _ => rfl) ?_).andThen fun _ => radio_copies answer
  simp only [Action.visible, same]

theorem lowPower_copies (answer : RadioResult Unit) :
    Copies env (lowPower answer) (lowPower answer) :=
  (note_copies (fun _ => rfl) rfl).andThen fun _ => radio_copies answer

theorem macCall_copies (call : Device → Checked (Except Mac.Error (α × Device))) :
    Copies env (macCall call) (macCall call) := by
  refine device_shadow fun given => ?_
  refine (checked_copies (call given)).andThen fun result => ?_
  refine (accepted_copies result).andThen fun found => ?_
  exact (setDevice_copies found.2).andThen fun _ => Shadow.pure rfl

theorem macHandleRx_copies (window : Window) (frame : RxcFrame) (rf : RfConfig) :
    Copies env (macHandleRx env window frame rf) (macHandleRx env window frame rf) := by
  refine device_shadow fun given => ?_
  exact (note_copies (fun _ => rfl) rfl).andThen fun _ => macCall_copies _

theorem macRx2Complete_copies : Copies env macRx2Complete macRx2Complete :=
  (note_copies (fun _ => rfl) rfl).andThen fun _ => macCall_copies _

theorem certificationReply_copies (reply : ReplyAnswers) :
    Copies env (certificationReply env reply) (certificationReply env reply) := by
  refine (macCall_copies _).andThen fun built => ?_
  exact (tx_copies _ _ _ _).andThen fun _ => Shadow.pure rfl

def SameSetUp : Option (Listening × RxConfig) → Option (Listening × RxConfig) → Prop
  | some (listening, config), some (other, copied) =>
      listening.visible = other.visible ∧ config = copied
  | none, none => True
  | _, _ => False

theorem multicastReply_copies (reply : ReplyAnswers)
    {rxConfig other : Option (Listening × RxConfig)} (same : SameSetUp rxConfig other) :
    Copies env (multicastReply env reply rxConfig) (multicastReply env reply other) := by
  refine (macCall_copies _).andThen fun built => ?_
  refine (tx_copies _ _ _ _).andThen fun _ => ?_
  match rxConfig, other, same with
  | some (listening, config), some (_, _), ⟨seen, rfl⟩ => exact setupRx_copies _ config seen
  | none, none, _ => exact Shadow.pure rfl

theorem handleMacResponse_copies (reply : ReplyAnswers) (response : Response)
    {rxConfig other : Option (Listening × RxConfig)} (same : SameSetUp rxConfig other) :
    Copies env (handleMacResponse env reply response rxConfig)
      (handleMacResponse env reply response other) := by
  cases response with
  | linkCheckReq =>
      simp only [handleMacResponse]
      split
      · refine device_shadow fun given => ?_
        refine (setDevice_copies _).andThen fun _ => ?_
        exact macRx2Complete_copies.andThen fun _ => Shadow.pure rfl
      · exact Shadow.pure rfl
  | uplinkPrepared =>
      refine (certificationReply_copies reply).andThen fun _ => ?_
      exact macRx2Complete_copies.andThen fun _ => Shadow.pure rfl
  | multicast mc =>
      have told : ∀ given : Multicast.Response, Copies env
          (if given.isForAsyncMcResponse then (return some (.multicast given) : Task (Option Response))
            else return none)
          (if given.isForAsyncMcResponse then (return some (.multicast given) : Task (Option Response))
            else return none) := by
        intro given
        split <;> exact Shadow.pure rfl
      simp only [handleMacResponse]
      split
      · exact (multicastReply_copies reply same).andThen fun _ => told _
      · exact told _
  | noUpdate => exact Shadow.pure rfl
  | noAck => exact Shadow.pure rfl
  | sessionExpired => exact Shadow.pure rfl
  | downlinkReceived fcnt => exact Shadow.pure rfl
  | noJoinAccept => exact Shadow.pure rfl
  | joinSuccess => exact Shadow.pure rfl
  | rxComplete => exact Shadow.pure rfl
  | deviceHandler event => exact Shadow.pure rfl

theorem windowComplete_copies (answer : RadioResult Unit) :
    Copies env (windowComplete env answer) (windowComplete env answer) := by
  refine device_shadow fun given => ?_
  split
  · exact (checked_copies _).andThen fun config => setupRx_copies answer config rfl
  · exact lowPower_copies answer

theorem rxListen_copies (window : Window) (answers : ListenAnswers) (rf : RfConfig) :
    Copies env (rxListen env window answers rf) (rxListen env window answers rf) := by
  refine (radio_copies _).andThen fun status => ?_
  refine Shadow.andThen ?_ fun response =>
    (windowComplete_copies _).andThen fun _ => Shadow.pure rfl
  cases status with
  | rxTimeout => exact Shadow.pure rfl
  | rx frame =>
      exact (macHandleRx_copies window _ rf).andThen fun response =>
        handleMacResponse_copies _ response trivial

end Quiet

/-! ## Frames in an interval -/

section Heard

variable {env : DeviceEnv} {window : Window} {pending : Option Response} {frame : RxcFrame}
  {rf : RfConfig} {mac : Mac.Mac} {trace followed : List Action}

theorem remaining_other {other : Window} (apart : ¬ other = window) :
    remaining env other [.received ⟨.interval window pending, frame, rf, mac⟩] = [] := by
  have unlike : ¬ window = other := fun same => apart same.symm
  simp only [remaining, receptions, List.filterMap_cons, List.filterMap_nil, unlike, false_and,
    if_false]

theorem remaining_kept (known : isStray env ⟨.interval window pending, frame, rf, mac⟩ = false) :
    remaining env window [.received ⟨.interval window pending, frame, rf, mac⟩] = [frame] := by
  simp only [remaining, receptions, List.filterMap_cons, List.filterMap_nil, known, and_self,
    if_true]

theorem remaining_stray (stray : isStray env ⟨.interval window pending, frame, rf, mac⟩ = true) :
    remaining env window [.received ⟨.interval window pending, frame, rf, mac⟩] = [] := by
  simp only [remaining, receptions, List.filterMap_cons, List.filterMap_nil, stray,
    Bool.true_eq_false, and_false, if_false]

theorem alike_stray {given : Device}
    (stray : isStray env ⟨.interval window pending, frame, rf, mac⟩ = true)
    (seen : visible env trace = visible env followed) :
    Alike env ⟨given, trace ++ [.received ⟨.interval window pending, frame, rf, mac⟩]⟩
      ⟨given, followed⟩ := by
  refine ⟨rfl, ?_⟩
  simp only [visible, List.filterMap_append, List.filterMap_cons, List.filterMap_nil,
    Action.visible, stray, if_true, List.append_nil] at seen ⊢
  exact seen

/-- Another frame shows, whatever has been answered before it. -/
theorem alike_received (copied : Option Response) (next : Device)
    (known : isStray env ⟨.interval window pending, frame, rf, mac⟩ = false)
    (seen : visible env trace = visible env followed) :
    Alike env ⟨next, trace ++ [.received ⟨.interval window pending, frame, rf, mac⟩]⟩
      ⟨next, followed ++ [.received ⟨.interval window copied, frame, rf, mac⟩]⟩ := by
  have same : isStray env ⟨.interval window copied, frame, rf, mac⟩ = false := known
  refine ⟨rfl, ?_⟩
  simp only [visible, List.filterMap_append, List.filterMap_cons, List.filterMap_nil,
    Action.visible, known, same, Bool.false_eq_true, if_false, Listening.visible] at seen ⊢
  rw [seen]

end Heard

section Interval

variable {env : DeviceEnv} {window : Window} {pending copied : Option Response} {frame : RxcFrame}
  {rf : RfConfig} {given : Device}

theorem Device.putBack_lend {session : Session} (joined : given.mac.state = .joined session) :
    given.putBack (given.lend session) = given := by
  cases given with
  | mk mac rng downlink classC =>
      cases mac with
      | mk configuration region boardEirp state certification multicast =>
          cases joined
          rfl

/-- A frame that the MAC takes without a change. -/
theorem Device.handleRxc_same {session : Session} {response : Response}
    (joined : given.mac.state = .joined session)
    (handled : Session.handleRx env.toRxEnv frame.bytes rf.maxPayloadLen frame.snr true
      (given.lend session) = .ok (response, given.lend session)) :
    given.handleRxc env frame.toRxFrame rf = .ok (.ok (response, given)) := by
  have lent : given.mac.sessionHandleRx env.toMacEnv frame.bytes rf.maxPayloadLen frame.snr true
      session given.downlink = .ok (response, given.downlink,
        given.mac.putBack (given.lend session)) := by
    unfold Mac.Mac.sessionHandleRx
    rw [handled]
    rfl
  have back : ({ given with mac := given.mac.putBack (given.lend session) } : Device) = given :=
    Device.putBack_lend joined
  simp only [Device.handleRxc, Mac.Mac.handleRxc, joined, lent, Checked.ok_bind]
  exact congrArg (fun device => Except.ok (Except.ok (response, device))) back

/-- What a harmless stray frame does: nothing, and after a new multicast session it is not
answered. -/
theorem harmless_unchanged
    (stray : isStray env ⟨.interval window pending, frame, rf, given.mac⟩ = true)
    (harmless : Harmless env ⟨.interval window pending, frame, rf, given.mac⟩) :
    ∃ response, given.handleRxc env frame.toRxFrame rf = .ok (.ok (response, given)) ∧
      (response = .noUpdate ∨ response = .multicast .noUpdate ∨
        response = .sessionExpired ∧ ¬ IsNewSession pending) := by
  obtain ⟨session, joined, spares⟩ := harmless
  dsimp only at joined spares
  simp only [isStray, joined, Bool.not_eq_true'] at stray
  have forged : Session.isAuthentic env.toRxEnv frame.bytes (given.lend session) = false := stray
  cases large : Session.endsWindows frame.bytes rf.maxPayloadLen with
  | true =>
      rw [if_pos large] at spares
      refine ⟨.sessionExpired, Device.handleRxc_same joined
        (Session.handleRx_stray_expired large spares.1), .inr (.inr ⟨rfl, ?_⟩)⟩
      exact spares.2 window pending rfl
  | false =>
      rw [if_neg (by rw [large]; exact Bool.false_ne_true)] at spares
      have kept : Session.clearAnswers true (given.lend session) = given.lend session := rfl
      rcases Session.handleRx_stray frame.snr forged large spares kept with handled | handled
      · exact ⟨_, Device.handleRxc_same joined handled, .inl rfl⟩
      · exact ⟨_, Device.handleRxc_same joined handled, .inr (.inl rfl)⟩

/-- What a frame does to a device does not depend on what the device has done. -/
theorem macHandleRxc_cases (env : DeviceEnv) (frame : RxcFrame) (rf : RfConfig) (given : Device) :
    (∃ stop, (∀ response next, given.handleRxc env frame.toRxFrame rf ≠ .ok (.ok (response, next))) ∧
      ∀ listening trace, macHandleRxc env listening frame rf ⟨given, trace⟩ =
        (.error stop, ⟨given, trace ++ [.received ⟨listening, frame, rf, given.mac⟩]⟩)) ∨
    ∃ response next, given.handleRxc env frame.toRxFrame rf = .ok (.ok (response, next)) ∧
      ∀ listening trace, macHandleRxc env listening frame rf ⟨given, trace⟩ =
        (.ok response, ⟨next, trace ++ [.received ⟨listening, frame, rf, given.mac⟩]⟩) := by
  have unfolded : ∀ listening trace, macHandleRxc env listening frame rf ⟨given, trace⟩ =
      macCall (Device.handleRxc env frame.toRxFrame rf)
        ⟨given, trace ++ [.received ⟨listening, frame, rf, given.mac⟩]⟩ := fun _ _ => rfl
  cases called : given.handleRxc env frame.toRxFrame rf with
  | error fault =>
      refine .inl ⟨.panicked fault, fun _ _ same => (by cases same), fun listening trace => ?_⟩
      rw [unfolded, macCall, device_bind, called]
      rfl
  | ok outcome =>
      cases outcome with
      | error e =>
          refine .inl ⟨.failed (.mac e), fun _ _ same => (by cases same), fun listening trace => ?_⟩
          rw [unfolded, macCall, device_bind, called]
          rfl
      | ok result =>
          refine .inr ⟨result.1, result.2, rfl, fun listening trace => ?_⟩
          rw [unfolded, macCall_run called]

def afterFrame (env : DeviceEnv) (window : Window) (duration : Nat) (rxConfig : RxConfig)
    (pending : Option Response) (reply : ReplyAnswers) (rest : List RxcFrame)
    (response : Response) : Task (Option Response) := do
  match ← handleMacResponse env reply response (some (.interval window pending, rxConfig)) with
  | none => listenUntilTimeout env window duration rxConfig pending rest
  | some found =>
      match pending with
      | some (.multicast (.newSession _)) => return pending
      | _ => listenUntilTimeout env window duration rxConfig (some found) rest

theorem listenUntilTimeout_cons (duration : Nat) (rxConfig : RxConfig)
    (rest : List RxcFrame) :
    listenUntilTimeout env window duration rxConfig pending (frame :: rest) =
      macHandleRxc env (.interval window pending) frame rxConfig.rf >>=
        afterFrame env window duration rxConfig pending frame.reply rest := rfl

theorem Shadow.widen {α β : Type} {small scope : Window → Prop} {run : Task α}
    {other : (Window → List RxcFrame) → Task β} {value : α → β → Prop}
    (shadow : Shadow env small run other value) (nested : ∀ window, small window → scope window) :
    Shadow env scope run other value := by
  intro world copy alike
  obtain ⟨added, trace, quiet, paired⟩ := shadow world copy alike
  refine ⟨added, trace, fun window outside => quiet window fun inside =>
    outside (nested window inside), ?_⟩
  exact fun unharmed frames heard => paired unharmed frames fun window inside =>
    heard window (nested window inside)

/-- Unless a new multicast session was announced, the loop goes on after an answer. -/
theorem goesOn (answer : Option Response) (stops next : Task (Option Response)) :
    ¬ IsNewSession answer →
    (match answer with
      | some (.multicast (.newSession _)) => stops
      | _ => next) = next := by
  intro unannounced
  split
  · exact absurd ⟨_, rfl⟩ unannounced
  · rfl

/-- The loop copied: stray frames do not matter but for an earlier announcement. -/
abbrev LoopCopies (env : DeviceEnv) (window : Window) (duration : Nat) (rxConfig : RxConfig)
    (frames : List RxcFrame) : Prop :=
  ∀ pending copied, (IsNewSession pending ↔ IsNewSession copied) →
    Shadow env (fun other => other = window)
      (listenUntilTimeout env window duration rxConfig pending frames)
      (fun kept => listenUntilTimeout env window duration rxConfig copied (kept window))
      (fun _ _ => True)

theorem afterFrame_shadow {duration : Nat} {rxConfig : RxConfig} {rest : List RxcFrame}
    (loop : LoopCopies env window duration rxConfig rest)
    (same : IsNewSession pending ↔ IsNewSession copied) (reply : ReplyAnswers)
    (response : Response) :
    Shadow env (fun other => other = window)
      (afterFrame env window duration rxConfig pending reply rest response)
      (fun kept => afterFrame env window duration rxConfig copied reply (kept window) response)
      (fun _ _ => True) := by
  refine Shadow.andThen (handleMacResponse_copies reply response ⟨rfl, rfl⟩) fun result => ?_
  cases result with
  | none => exact loop pending copied same
  | some found =>
      by_cases announced : IsNewSession pending
      · obtain ⟨groupId, rfl⟩ := announced
        obtain ⟨other, rfl⟩ := same.mp ⟨groupId, rfl⟩
        exact (Shadow.pure trivial).widen fun _ nowhere => nowhere.elim
      · simp only [goesOn _ _ _ announced, goesOn _ _ _ fun copy => announced (same.mpr copy)]
        exact loop (some found) (some found) Iff.rfl

/-- After a frame that was not answered the loop goes on as before; after an answered one
it does unless a new multicast session was announced. -/
theorem afterFrame_harmless (env : DeviceEnv) (window : Window) (duration : Nat)
    (rxConfig : RxConfig) (rest : List RxcFrame) (reply : ReplyAnswers) {response : Response}
    (kinds : response = .noUpdate ∨ response = .multicast .noUpdate ∨
      response = .sessionExpired ∧ ¬ IsNewSession pending) :
    ∃ later, (IsNewSession later ↔ IsNewSession pending) ∧
      afterFrame env window duration rxConfig pending reply rest response =
        listenUntilTimeout env window duration rxConfig later rest := by
  rcases kinds with rfl | rfl | ⟨rfl, unannounced⟩
  · exact ⟨pending, Iff.rfl, rfl⟩
  · exact ⟨pending, Iff.rfl, rfl⟩
  · refine ⟨some .sessionExpired, iff_of_false nofun unannounced, ?_⟩
    change (match pending with
      | some (.multicast (.newSession _)) => (return pending : Task (Option Response))
      | _ => listenUntilTimeout env window duration rxConfig (some .sessionExpired) rest) = _
    exact goesOn _ _ _ unannounced

theorem listenUntilTimeout_shadow (duration : Nat) (rxConfig : RxConfig)
    (frames : List RxcFrame) : LoopCopies env window duration rxConfig frames := by
  induction frames with
  | nil =>
      intro pending copied same world copy alike
      have ends : Shadow env Nowhere
          (listenUntilTimeout env window duration rxConfig pending [])
          (fun _ => listenUntilTimeout env window duration rxConfig copied []) (fun _ _ => True) :=
        (note_copies (fun _ => rfl) rfl).andThen fun _ => Shadow.pure trivial
      obtain ⟨added, trace, quiet, paired⟩ := ends world copy alike
      refine ⟨added, trace, fun window _ => quiet window id, fun unharmed frames heard => ?_⟩
      change Paired env _ _ (listenUntilTimeout env window duration rxConfig copied (frames window)
        copy)
      rw [heard window rfl, quiet window id]
      exact paired unharmed frames fun _ nowhere => nowhere.elim
  | cons frame rest ih =>
      intro pending copied same world copy alike
      obtain ⟨given, trace⟩ := world
      obtain ⟨_, followed⟩ := copy
      obtain ⟨rfl, seen⟩ := alike
      rw [listenUntilTimeout_cons]
      have heardElse : ∀ other, ¬ other = window →
          remaining env other [.received ⟨.interval window pending, frame, rxConfig.rf, given.mac⟩] =
            [] :=
        fun other apart => remaining_other apart
      rcases macHandleRxc_cases env frame rxConfig.rf given with
        ⟨stop, refused, runs⟩ | ⟨response, next, called, runs⟩
      · rw [Procedure.bind_error (runs _ trace)]
        refine ⟨[_], rfl, heardElse, fun unharmed frames heard => ?_⟩
        cases stray : isStray env ⟨.interval window pending, frame, rxConfig.rf, given.mac⟩ with
        | true =>
            obtain ⟨answer, handled, _⟩ := harmless_unchanged stray
              (unharmed _ (List.mem_singleton.mpr rfl) stray)
            exact absurd handled (refused _ _)
        | false =>
            change Paired env _ _ (listenUntilTimeout env window duration rxConfig copied
              (frames window) ⟨given, followed⟩)
            rw [heard window rfl, remaining_kept stray, listenUntilTimeout_cons,
              Procedure.bind_error (runs _ followed)]
            exact ⟨rfl, alike_received copied given stray seen⟩
      · rw [Procedure.bind_ok (runs _ trace)]
        have shadow := afterFrame_shadow ih same frame.reply response
        obtain ⟨added, later, silent, _⟩ := shadow ⟨next, _⟩ ⟨next, _⟩ (Alike.refl _)
        refine ⟨_ :: added, by rw [later, List.append_assoc]; rfl, ?_, ?_⟩
        · intro other apart
          rw [← List.singleton_append, remaining_append, heardElse other apart, silent other apart]
          rfl
        intro unharmed frames heard
        rw [← List.singleton_append, unharmed_append] at unharmed
        have heardHere := heard window rfl
        rw [← List.singleton_append, remaining_append] at heardHere
        cases stray : isStray env ⟨.interval window pending, frame, rxConfig.rf, given.mac⟩ with
        | true =>
            obtain ⟨answer, handled, kinds⟩ := harmless_unchanged stray
              (unharmed.1 _ (List.mem_singleton.mpr rfl) stray)
            cases called.symm.trans handled
            obtain ⟨pending', announced, goes⟩ := afterFrame_harmless env window duration
              rxConfig rest frame.reply kinds
            rw [goes] at later ⊢
            obtain ⟨again, grown, _, paired⟩ := ih pending' copied (announced.trans same)
              ⟨given, _⟩ ⟨given, followed⟩ (alike_stray stray seen)
            cases List.append_cancel_left (later.symm.trans grown)
            refine paired unharmed.2 frames ?_
            rintro _ rfl
            rw [heardHere, remaining_stray stray, List.nil_append]
        | false =>
            obtain ⟨again, grown, _, paired⟩ := shadow ⟨next, _⟩ ⟨next, _⟩
              (alike_received copied next stray seen)
            cases List.append_cancel_left (later.symm.trans grown)
            change Paired env _ _ (listenUntilTimeout env window duration rxConfig copied
              (frames window) ⟨given, followed⟩)
            rw [heardHere, remaining_kept stray, List.singleton_append, listenUntilTimeout_cons,
              Procedure.bind_ok (runs _ followed)]
            refine paired unharmed.2 (fun _ => remaining env window added) ?_
            rintro _ rfl
            rfl

/-- The wait for a window; what it returns is not used. -/
theorem betweenWindows_shadow (answers : IntervalAnswers) (duration : Nat) :
    Shadow env (fun other => other = window) (betweenWindows env window answers duration)
      (fun kept => betweenWindows env window { answers with frames := kept window } duration)
      (fun _ _ => True) := by
  refine device_shadow fun given => ?_
  split
  · refine Shadow.andThen (checked_copies _) fun rxConfig => ?_
    refine Shadow.andThen (setupRx_copies _ rxConfig rfl) fun _ => ?_
    exact listenUntilTimeout_shadow duration rxConfig answers.frames none none Iff.rfl
  · refine Shadow.andThen (lowPower_copies _) fun _ => ?_
    refine Shadow.andThen (note_copies (fun _ => rfl) rfl) fun _ => ?_
    exact (Shadow.pure trivial).widen fun _ nowhere => nowhere.elim

end Interval

/-! ## Uplinks -/

theorem Shadow.thenQuiet {α β α' β' : Type} {env : DeviceEnv} {scope : Window → Prop} {run : Task α}
    {other : (Window → List RxcFrame) → Task β} {middle : α → β → Prop} {next : α → Task α'}
    {following : β → Task β'} {value : α' → β' → Prop}
    (begins : Shadow env scope run other middle)
    (rest : ∀ result found, middle result found →
      Shadow env Nowhere (next result) (fun _ => following found) value)
    (total : ∀ result, ∃ found, middle result found) :
    Shadow env scope (run >>= next) (fun frames => other frames >>= following) value :=
  begins.bind rest total (fun _ => (or_false _).symm.to_iff) fun _ _ nowhere => nowhere

/-- A last part in which nothing is heard, on the same value. -/
theorem Shadow.thenSame {α β : Type} {env : DeviceEnv} {scope : Window → Prop} {run : Task α}
    {other : (Window → List RxcFrame) → Task α} {next following : α → Task β}
    (begins : Shadow env scope run other Eq)
    (rest : ∀ result, Copies env (next result) (following result)) :
    Shadow env scope (run >>= next) (fun frames => other frames >>= following) Eq := by
  have same : ∀ result found, result = found → Copies env (next result) (following found) := by
    rintro result _ rfl
    exact rest result
  exact begins.thenQuiet same fun result => ⟨result, rfl⟩

section Uplinks

variable {env : DeviceEnv}

def WindowAnswers.hearing (frames : List RxcFrame) (answers : WindowAnswers) : WindowAnswers :=
  { answers with interval := { answers.interval with frames } }

def UplinkAnswers.hearing (frames : Window → List RxcFrame) (answers : UplinkAnswers) :
    UplinkAnswers :=
  { answers with rx1 := answers.rx1.hearing (frames .rx1), rx2 := answers.rx2.hearing (frames .rx2) }

theorem rxWindow_shadow (window : Window) (answers : WindowAnswers) (frame : Frame)
    (windowDelay : UInt32) (rxWindows : RxWindows) :
    Shadow env (fun other => other = window)
      (rxWindow env window answers frame windowDelay rxWindows)
      (fun kept => rxWindow env window (answers.hearing (kept window)) frame windowDelay rxWindows)
      Eq := by
  refine device_shadow fun given => ?_
  refine Shadow.andThen (checked_copies _) fun start => ?_
  have opens : ∀ _ _ : Option Response, True → Copies env
      (do
        setupRx answers.setupRx (.window window) (rxWindows.rxConfig env.bufferMs.toNat window)
        rxListen env window answers.listen (rxWindows.rxConfig env.bufferMs.toNat window).rf)
      (do
        setupRx answers.setupRx (.window window) (rxWindows.rxConfig env.bufferMs.toNat window)
        rxListen env window answers.listen (rxWindows.rxConfig env.bufferMs.toNat window).rf) :=
    fun _ _ _ => (setupRx_copies _ _ rfl).andThen fun _ => rxListen_copies window answers.listen _
  exact Shadow.thenQuiet (betweenWindows_shadow answers.interval start) opens
    (fun _ => ⟨none, trivial⟩)

theorem afterFirst_shadow (answers : UplinkAnswers) (frame : Frame) (windowDelay : UInt32)
    (rxWindows : RxWindows) : ∀ first found : Option Response, first = found →
    Shadow env (fun other => other = .rx2)
      (match first with
        | some response => (return response : Task Response)
        | none => do
            match ← rxWindow env .rx2 answers.rx2 frame windowDelay rxWindows with
            | some response => return response
            | none => macRx2Complete)
      (fun kept => match found with
        | some response => (return response : Task Response)
        | none => do
            match ← rxWindow env .rx2 (answers.rx2.hearing (kept .rx2)) frame windowDelay
                rxWindows with
            | some response => return response
            | none => macRx2Complete) Eq := by
  rintro first _ rfl
  cases first with
  | some response => exact (Shadow.pure rfl).widen fun _ nowhere => nowhere.elim
  | none =>
      refine Shadow.thenSame (rxWindow_shadow .rx2 answers.rx2 frame windowDelay rxWindows) ?_
      intro result
      cases result with
      | some response => exact Shadow.pure rfl
      | none => exact macRx2Complete_copies

theorem rxDownlink_shadow (answers : UplinkAnswers) (frame : Frame) (windowDelay : UInt32)
    (rxWindows : RxWindows) :
    Shadow env (fun _ => True) (rxDownlink env answers frame windowDelay rxWindows)
      (fun kept => rxDownlink env (answers.hearing kept) frame windowDelay rxWindows) Eq := by
  refine (rxWindow_shadow .rx1 answers.rx1 frame windowDelay rxWindows).bind
    (afterFirst_shadow answers frame windowDelay rxWindows) (fun result => ⟨result, rfl⟩) ?_ ?_
  · intro window
    cases window with
    | rx1 => exact iff_of_true trivial (.inl rfl)
    | rx2 => exact iff_of_true trivial (.inr rfl)
  · rintro _ rfl nowhere
    cases nowhere

theorem perform_shadow (env : DeviceEnv) (transmission : Transmission) (answers : UplinkAnswers) :
    Shadow env (fun _ => True) (perform env (transmission.call answers))
      (fun kept => perform env (transmission.call (answers.hearing kept))) Eq := by
  cases transmission with
  | join credentials =>
      refine Shadow.thenSame ?_ fun _ => Shadow.pure rfl
      refine Shadow.thenSame ?_ fun _ => checked_copies _
      refine (macCall_copies _).andThen fun built => ?_
      refine (tx_copies _ _ _ _).andThen fun ms => ?_
      exact rxDownlink_shadow answers .join ms built.2.2
  | data payload =>
      refine Shadow.thenSame ?_ fun _ => Shadow.pure rfl
      refine Shadow.thenSame ?_ fun _ => checked_copies _
      refine (macCall_copies _).andThen fun built => ?_
      refine (tx_copies _ _ _ _).andThen fun ms => ?_
      exact rxDownlink_shadow answers .data ms built.2.2.2

end Uplinks

/-- The run of a join or a send without the stray frames that were heard before its
windows. -/
def quietRun (env : DeviceEnv) (transmission : Transmission) (answers : UplinkAnswers)
    (given : Device) : Except Stop Returned × World :=
  perform env (transmission.call (answers.hearing fun window => remaining env window
    (perform env (transmission.call answers) ⟨given, []⟩).2.trace)) ⟨given, []⟩

/-- Where the stray frames are harmless, the join or the send returns the same, leaves the
same device and does the same as without them: it opens the same windows at the same
times. -/
theorem stray_frames_leave_the_outcome (env : DeviceEnv) (transmission : Transmission)
    (answers : UplinkAnswers) (given : Device)
    (unharmed : Unharmed env (perform env (transmission.call answers) ⟨given, []⟩).2.trace) :
    (perform env (transmission.call answers) ⟨given, []⟩).1 =
        (quietRun env transmission answers given).1 ∧
      (perform env (transmission.call answers) ⟨given, []⟩).2.device =
        (quietRun env transmission answers given).2.device ∧
      visible env (perform env (transmission.call answers) ⟨given, []⟩).2.trace =
        visible env (quietRun env transmission answers given).2.trace := by
  obtain ⟨added, trace, _, paired⟩ := perform_shadow env transmission answers ⟨given, []⟩
    ⟨given, []⟩ (Alike.refl _)
  rw [List.nil_append] at trace
  rw [← trace] at paired
  have agrees : Paired env Eq (perform env (transmission.call answers) ⟨given, []⟩)
      (quietRun env transmission answers given) := paired unharmed _ fun _ _ => rfl
  revert agrees
  generalize perform env (transmission.call answers) ⟨given, []⟩ = run
  generalize quietRun env transmission answers given = quiet
  obtain ⟨outcome, world⟩ := run
  obtain ⟨answer, other⟩ := quiet
  intro agrees
  cases outcome with
  | ok result =>
      cases answer with
      | ok found => exact ⟨congrArg Except.ok agrees.1, agrees.2.device, agrees.2.seen⟩
      | error stop => exact agrees.elim
  | error stop =>
      cases answer with
      | ok found => exact agrees.elim
      | error fault => exact ⟨congrArg Except.error agrees.1, agrees.2.device, agrees.2.seen⟩

namespace Sample

/-- The device of the samples in Class C. -/
def listener : World := { world with device := { world.device with classC := true } }

theorem listener_reachable (env : DeviceEnv) :
    Transition.Reachable (callStep env) World.Initial listener :=
  Transition.reachable_step (world_reachable env) (show callStep env (.setClassC true) world = _ from rfl)

def credentials : NetworkCredentials :=
  ⟨⟨Vector.replicate 8 1⟩, ⟨Vector.replicate 8 2⟩, ⟨Vector.replicate 16 3⟩⟩

/-- A short data frame of nobody. -/
def forged : RxFrame := ⟨0x60 :: List.replicate 19 0, 0⟩

/-- An uplink without downlinks, before whose RX1 window this is heard. -/
def overhearing (frame : RxFrame) : UplinkAnswers :=
  (uplink .rxTimeout .rxTimeout).hearing fun window =>
    if window = .rx1 then [⟨frame, reply⟩] else []

end Sample

/-- A forged frame within the size limit and without an application port is harmless. -/
theorem stray_frames_leave_the_outcome_forged :
    (perform Sample.env (Transmission.call (Sample.overhearing Sample.forged) (.data Sample.data))
        ⟨Sample.listener.device, []⟩).2.device =
      (quietRun Sample.env (.data Sample.data) (Sample.overhearing Sample.forged)
        Sample.listener.device).2.device := by
  have spared : (receptions (perform Sample.env (Transmission.call
      (Sample.overhearing Sample.forged) (.data Sample.data))
      ⟨Sample.listener.device, []⟩).2.trace).all (spares Sample.env) = true := by
    decide +kernel
  have outcome := stray_frames_leave_the_outcome Sample.env (.data Sample.data)
    (Sample.overhearing Sample.forged) Sample.listener.device
    fun reception inside _ => spares_harmless (List.all_eq_true.mp spared reception inside)
  exact outcome.2.1

/-- A stray byte before RX1 ends a join, and a long forged frame makes a send count
twice. -/
theorem stray_frames_change_the_outcome :
    (¬ ∀ (env : DeviceEnv) (world : World) (credentials : NetworkCredentials)
        (answers : UplinkAnswers),
      Transition.Reachable (callStep env) World.Initial world →
      world.device.listens env = true →
      (perform env (.joinOtaa credentials answers) ⟨world.device, []⟩).1 =
        (quietRun env (.join credentials) answers world.device).1) ∧
    ¬ ∀ (env : DeviceEnv) (world : World) (data : SendData) (answers : UplinkAnswers),
      Transition.Reachable (callStep env) World.Initial world →
      world.device.listens env = true →
      (perform env (.send data answers) ⟨world.device, []⟩).2.device.mac =
        (quietRun env (.data data) answers world.device).2.device.mac := by
  constructor
  · intro unaffected
    have same := unaffected Sample.env Sample.listener Sample.credentials
      (Sample.overhearing ⟨[0xE0], 0⟩) (Sample.listener_reachable _) rfl
    have apart : (perform Sample.env (.joinOtaa Sample.credentials (Sample.overhearing ⟨[0xE0], 0⟩))
          ⟨Sample.listener.device, []⟩).1.isOk ≠
        (quietRun Sample.env (.join Sample.credentials) (Sample.overhearing ⟨[0xE0], 0⟩)
          Sample.listener.device).1.isOk := by
      decide +kernel
    exact apart (congrArg Except.isOk same)
  · intro unaffected
    have same := unaffected Sample.env Sample.listener Sample.data
      (Sample.overhearing ⟨0x60 :: List.replicate 79 0, 0⟩) (Sample.listener_reachable _) rfl
    revert same
    decide +kernel

end LoraRs.AsyncDevice
