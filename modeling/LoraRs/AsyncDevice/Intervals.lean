import LoraRs.AsyncDevice.Stray

/-!
# The ends of the Class C intervals

When a Class C device stops listening before a window: at the expiry of the timer, unless
a frame is answered after the announcement of a new multicast session.
-/

set_option autoImplicit false

namespace LoraRs.AsyncDevice

open LoraRs.Encoding LoraRs.Lib LoraRs.Mac
open LoraRs.Region (Window RfConfig RxConfig TxConfig)
open Procedure (Ends)

/-! ## The frames of an interval -/

def handleFrame (env : DeviceEnv) (window : Window) (rxConfig : RxConfig)
    (held : Option Response) (frame : RxcFrame) : Task (Option Response) := do
  let listening := Listening.interval window held
  let macResponse ← macHandleRxc env listening frame rxConfig.rf
  handleMacResponse env frame.reply macResponse (some (listening, rxConfig))

/-- What the frames are answered with when they are handled one after another, up to a
failure. -/
def answersTo (env : DeviceEnv) (window : Window) (rxConfig : RxConfig) :
    Option Response → List RxcFrame → World → List Response
  | _, [], _ => []
  | held, frame :: rest, world =>
      match handleFrame env window rxConfig held frame world with
      | (.ok none, next) => answersTo env window rxConfig held rest next
      | (.ok (some found), next) => found :: answersTo env window rxConfig (some found) rest next
      | (.error _, _) => []

def intervalAnswers (env : DeviceEnv) (window : Window) (answers : IntervalAnswers)
    (world : World) : List Response :=
  match world.device.mac.getRxcConfig with
  | .ok rxConfig => answersTo env window rxConfig none answers.frames
      (world.note (.setupRx (.interval window none) rxConfig))
  | .error _ => []

/-- The announcement of a new multicast session with an answer after it. -/
def Superseded (answers : List Response) : Prop :=
  ∃ groupId answer, List.IsInfix [.multicast (.newSession groupId), answer] answers

theorem not_superseded_held (held : Option Response) : ¬ Superseded held.toList := by
  rintro ⟨groupId, answer, inside⟩
  have long := inside.length_le
  cases held with
  | none => cases long
  | some response => exact absurd long (Nat.not_succ_le_self 1)

theorem superseded_cons (first second : Response) (rest : List Response) :
    Superseded (first :: second :: rest) ↔
      IsNewSession (some first) ∨ Superseded (second :: rest) := by
  constructor
  · rintro ⟨groupId, answer, inside⟩
    rcases List.infix_cons_iff.mp inside with here | later
    · obtain ⟨same, _⟩ := List.cons_prefix_cons.mp here
      exact .inl ⟨groupId, congrArg some same.symm⟩
    · exact .inr ⟨groupId, answer, later⟩
  · rintro (⟨groupId, same⟩ | ⟨groupId, answer, inside⟩)
    · cases same
      exact ⟨groupId, second, List.infix_cons_iff.mpr (.inl ⟨rest, rfl⟩)⟩
    · exact ⟨groupId, answer, List.infix_cons_iff.mpr (.inr inside)⟩

/-! ## The timer -/

/-- What was done from `earlier` on, in which the timer has not expired. -/
def Unexpired (earlier : List Action) (world : World) : Prop :=
  ∃ added, world.trace = earlier ++ added ∧ ∀ ms, .timerFired ms ∉ added

theorem Unexpired.note {earlier : List Action} {world : World} (unexpired : Unexpired earlier world)
    {action : Action} (other : ∀ ms, action ≠ .timerFired ms) :
    Unexpired earlier (world.note action) := by
  obtain ⟨added, same, silent⟩ := unexpired
  refine ⟨added ++ [action], by rw [World.note_trace, same, List.append_assoc], ?_⟩
  intro ms inside
  rcases List.mem_append.mp inside with before | here
  · exact silent ms before
  · exact other ms (List.mem_singleton.mp here).symm

theorem unexpired_keptByReplies (earlier : List Action)
    (rxConfig : Option (Listening × RxConfig)) : KeptByReplies rxConfig (Unexpired earlier) where
  sent world next _ _ _ unexpired _ := by
    have moved : Unexpired earlier { world with device := next } := unexpired
    exact moved.note nofun
  setUp _ _ _ _ unexpired := unexpired.note nofun
  queued _ _ unexpired := unexpired
  closing _ unexpired := unexpired.note nofun
  closed _ _ _ unexpired _ := unexpired

section Loop

variable {env : DeviceEnv} {window : Window} {rxConfig : RxConfig} {duration : Nat}

theorem handleFrame_unexpired (earlier : List Action) (held : Option Response)
    (frame : RxcFrame) :
    Ends (Unexpired earlier) (handleFrame env window rxConfig held frame)
      (fun _ => Unexpired earlier) (fun _ _ => True) := by
  refine Ends.through (fun _ => Unexpired earlier) (macHandleRxc_ends ?_ ?_) ?_
  · intro world session response rx unexpired joined handled
    have moved : Unexpired earlier { world with device := world.device.putBack rx } := unexpired
    exact moved.note nofun
  · intros
    trivial
  · intro response
    exact ((unexpired_keptByReplies earlier _).handleMacResponse frame.reply response).weaken
      (fun _ holds => holds) (fun _ _ holds => holds.1) (fun _ _ _ => trivial)

def Expired (earlier : List Action) (ms : Nat) (world : World) : Prop :=
  ∃ added, world.trace = earlier ++ added ∧ .timerFired ms ∈ added

theorem Unexpired.not_expired {earlier : List Action} {world : World}
    (unexpired : Unexpired earlier world) (ms : Nat) : ¬ Expired earlier ms world := by
  obtain ⟨added, same, silent⟩ := unexpired
  rintro ⟨other, again, inside⟩
  rw [List.append_cancel_left (same.symm.trans again)] at silent
  exact silent ms inside

def afterAnswer (env : DeviceEnv) (window : Window) (duration : Nat) (rxConfig : RxConfig)
    (held : Option Response) (rest : List RxcFrame) : Option Response → Task (Option Response)
  | none => listenUntilTimeout env window duration rxConfig held rest
  | some found =>
      match held with
      | some (.multicast (.newSession _)) => return held
      | _ => listenUntilTimeout env window duration rxConfig (some found) rest

theorem listenUntilTimeout_frame (held : Option Response) (frame : RxcFrame)
    (rest : List RxcFrame) :
    listenUntilTimeout env window duration rxConfig held (frame :: rest) =
      handleFrame env window rxConfig held frame >>=
        afterAnswer env window duration rxConfig held rest := by
  rw [handleFrame, Procedure.bind_assoc]
  refine congrArg (macHandleRxc env (.interval window held) frame rxConfig.rf >>= ·) ?_
  funext response
  refine congrArg (handleMacResponse env frame.reply response _ >>= ·) ?_
  funext answer
  cases answer <;> rfl

/-- The loop ends at the expiry of the timer unless an announcement is superseded. -/
theorem listenUntilTimeout_expired_iff (earlier : List Action) (frames : List RxcFrame)
    (held : Option Response) (world next : World) (result : Option Response)
    (unexpired : Unexpired earlier world)
    (ran : listenUntilTimeout env window duration rxConfig held frames world = (.ok result, next)) :
    Expired earlier duration next ↔
      ¬ Superseded (held.toList ++ answersTo env window rxConfig held frames world) := by
  induction frames generalizing held world with
  | nil =>
      cases ran
      obtain ⟨added, same, _⟩ := unexpired
      rw [answersTo, List.append_nil]
      refine iff_of_true ⟨added ++ [.timerFired duration], ?_, ?_⟩ (not_superseded_held _)
      · rw [World.note_trace, same, List.append_assoc]
      · exact List.mem_append_right _ (List.mem_singleton_self _)
  | cons frame rest ih =>
      rw [listenUntilTimeout_frame] at ran
      obtain ⟨answer, middle, handled, ran⟩ := Procedure.bind_eq_ok_iff.mp ran
      have kept := (handleFrame_unexpired earlier held frame).of_ok unexpired handled
      rw [answersTo, handled]
      cases answer with
      | none => exact ih held middle kept ran
      | some found =>
          cases held with
          | none => exact ih (some found) middle kept ran
          | some first =>
              simp only [Option.toList_some, List.singleton_append, superseded_cons, not_or]
              by_cases announced : IsNewSession (some first)
              · obtain ⟨groupId, same⟩ := announced
                cases same
                cases ran
                exact iff_of_false (kept.not_expired duration) fun both => both.1 ⟨groupId, rfl⟩
              · have goes : afterAnswer env window duration rxConfig (some first) rest (some found) =
                    listenUntilTimeout env window duration rxConfig (some found) rest :=
                  goesOn _ _ _ announced
                rw [goes] at ran
                rw [and_iff_right announced]
                exact ih (some found) middle kept ran

end Loop

/-- The interval of a Class C device that ends without a failure ends at the expiry of the
timer if and only if no frame in it is answered after the announcement of a new multicast
session. -/
theorem betweenWindows_expired_iff (env : DeviceEnv) (window : Window)
    (answers : IntervalAnswers) (duration : Nat) (world next : World)
    (result : Option Response) (listens : world.device.listens env = true)
    (ran : betweenWindows env window answers duration world = (.ok result, next)) :
    Expired world.trace duration next ↔
      ¬ Superseded (intervalAnswers env window answers world) := by
  rw [betweenWindows, device_bind, if_pos listens] at ran
  obtain ⟨rxConfig, started, found, ran⟩ := Procedure.bind_eq_ok_iff.mp ran
  obtain ⟨_, entered, entering, ran⟩ := Procedure.bind_eq_ok_iff.mp ran
  cases config : world.device.mac.getRxcConfig with
  | error fault =>
      rw [config] at found
      cases found
  | ok given =>
      rw [config] at found
      cases found
      cases enter : answers.enter with
      | error e =>
          rw [enter] at entering
          cases entering
      | ok _ =>
          rw [enter] at entering
          cases entering
          rw [intervalAnswers, config]
          exact listenUntilTimeout_expired_iff world.trace answers.frames none _ next result
            ⟨[.setupRx (.interval window none) rxConfig], rfl,
              fun _ inside => by cases List.mem_singleton.mp inside⟩ ran

namespace Sample

/-- The key of the multicast setup package is set. -/
def groupListener : World :=
  { listener with device := { listener.device with
      mac := { listener.device.mac with
        multicast := { Multicast.new with mcKEKey := some ⟨Vector.replicate 16 7⟩ } } } }

theorem groupListener_reachable (env : DeviceEnv) :
    Transition.Reachable (callStep env) World.Initial groupListener :=
  Transition.reachable_step (listener_reachable env)
    (show callStep env (.setMulticast _) listener = _ from rfl)

def heard (frames : List RxFrame) : IntervalAnswers :=
  ⟨.ok (), frames.map fun frame => ⟨frame, reply⟩⟩

def anyExpired (trace : List Action) : Bool :=
  trace.any fun action =>
    match action with
    | .timerFired _ => true
    | _ => false

theorem anyExpired_of_expired {earlier : List Action} {ms : Nat} {world : World}
    (expired : Expired earlier ms world) : anyExpired world.trace = true := by
  obtain ⟨added, same, inside⟩ := expired
  rw [same]
  exact List.any_eq_true.mpr ⟨_, List.mem_append_right _ inside, rfl⟩

/-- The interval before RX1 in which these frames are heard. -/
def interval (frames : List RxFrame) : Except Stop (Option Response) × World :=
  betweenWindows env .rx1 (heard frames) 1000 groupListener

theorem interval_ok (frames : List RxFrame) (ends : (interval frames).1.isOk = true) :
    ∃ result, betweenWindows env .rx1 (heard frames) 1000 groupListener =
      (.ok result, (interval frames).2) := by
  unfold interval at ends ⊢
  cases ran : betweenWindows env .rx1 (heard frames) 1000 groupListener with
  | mk outcome left =>
      cases outcome with
      | ok result => exact ⟨result, rfl⟩
      | error e =>
          rw [ran] at ends
          cases ends

end Sample

/-- An interval with one group request ends on time. -/
theorem betweenWindows_expired_iff_sample :
    Expired [] 1000 (Sample.interval [Sample.groupSetup 0]).2 := by
  obtain ⟨result, ran⟩ := Sample.interval_ok [Sample.groupSetup 0] (by decide +kernel)
  have answered : intervalAnswers Sample.env .rx1 (Sample.heard [Sample.groupSetup 0])
      Sample.groupListener = [.multicast (.newSession 0)] := by
    decide +kernel
  refine (betweenWindows_expired_iff Sample.env .rx1 _ 1000 Sample.groupListener _ result rfl
    ran).mpr ?_
  rw [answered]
  exact not_superseded_held (some (.multicast (.newSession 0)))

/-- Two group requests before RX1: the second ends the interval at once. -/
theorem second_answer_ends_interval : ¬ ∀ (env : DeviceEnv) (window : Window)
    (answers : IntervalAnswers) (duration : Nat) (world next : World)
    (result : Option Response), Transition.Reachable (callStep env) World.Initial world →
    world.device.listens env = true →
    betweenWindows env window answers duration world = (.ok result, next) →
    Expired world.trace duration next := by
  intro expires
  obtain ⟨result, ran⟩ := Sample.interval_ok [Sample.groupSetup 0, Sample.groupSetup 1]
    (by decide +kernel)
  have expired := Sample.anyExpired_of_expired (expires Sample.env .rx1 _ 1000
    Sample.groupListener _ result (Sample.groupListener_reachable _) rfl ran)
  have unexpired : Sample.anyExpired
      (Sample.interval [Sample.groupSetup 0, Sample.groupSetup 1]).2.trace = false := by
    decide +kernel
  rw [unexpired] at expired
  cases expired

end LoraRs.AsyncDevice
