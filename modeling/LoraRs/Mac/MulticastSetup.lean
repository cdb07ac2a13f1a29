import LoraRs.Encoding.GroupStatus
import LoraRs.Mac.Multicast

/-!
# Multicast setup messages

What a setup message is for: the group table it leaves and the answers it adds to the
pending ones.  The handler does this exactly when all the answers fit.
-/

set_option autoImplicit false

namespace LoraRs.Mac.Multicast

open LoraRs.Encoding LoraRs.Encoding.Multicast LoraRs.Lib

/-! ## The group table -/

/-- The group table after a setup command: setup and delete change their group. -/
def tableAfter (newCrypto : NewCrypto) (key : McKEKey) (sessions : McSessions) :
    DownlinkRemoteSetup → McSessions
  | .mcGroupSetupReq payload =>
      let derived := payload.deriveSession newCrypto (newCrypto key.inner)
      sessions.set derived.1 (some derived.2) derived.1.isLt
  | .mcGroupDeleteReq payload =>
      sessions.set payload.mcGroupIdHeader none payload.mcGroupIdHeader.isLt
  | .packageVersionReq => sessions
  | .mcGroupStatusReq _ => sessions
  | .mcClassCSessionReq _ => sessions
  | .mcClassBSessionReq _ => sessions

def reportedItem (sessions : McSessions) (mask : Byte) (id : Fin maxGroups) :
    Option (Byte × McAddr) :=
  (sessions.get id).bind fun session =>
    if bit mask id.val then some (id.val.toUInt8, session.multicastAddr) else none

def reported (sessions : McSessions) (mask : Byte) (groups : List (Fin maxGroups)) :
    List (Byte × McAddr) := groups.filterMap (reportedItem sessions mask)

def activeGroups (sessions : McSessions) (groups : List (Fin maxGroups)) : Nat :=
  groups.countP fun id => (sessions.get id).isSome

theorem id_toNat (id : Fin maxGroups) : id.val.toUInt8.toNat = id.val := by
  have small : id.val < 2 ^ 8 := Nat.lt_trans id.isLt (by decide)
  exact UInt8.toNat_ofNat_of_lt' small

theorem reportedItem_id {sessions : McSessions} {mask : Byte} {id : Fin maxGroups}
    {item : Byte × McAddr} (found : reportedItem sessions mask id = some item) :
    item.1.toNat = id.val := by
  obtain ⟨session, _, found⟩ := Option.bind_eq_some_iff.mp found
  split at found
  · cases found
    exact id_toNat id
  · cases found

theorem ids_reported (sessions : McSessions) (mask : Byte) (groups : List (Fin maxGroups)) :
    (ids (reported sessions mask groups)).Sublist (groups.map Fin.val) := by
  induction groups with
  | nil => exact List.Sublist.slnil
  | cons id rest ih =>
      rw [reported, List.filterMap_cons, List.map_cons]
      cases item : reportedItem sessions mask id with
      | none => exact ih.cons _
      | some found =>
          simp only [ids, List.map_cons, reportedItem_id item]
          exact ih.cons_cons _

theorem distinct_reported (sessions : McSessions) (mask : Byte) :
    Distinct (reported sessions mask (List.finRange maxGroups)) where
  once := (ids_reported sessions mask _).nodup (by decide)
  known := by
    intro id inside
    obtain ⟨group, _, rfl⟩ := List.mem_map.mp ((ids_reported sessions mask _).subset inside)
    exact group.isLt

/-! ## Answers -/

def answerTo (sessions : McSessions) : DownlinkRemoteSetup → Option UplinkRemoteSetup
  | .packageVersionReq => some (.packageVersionAns #v[2, 2])
  | .mcGroupStatusReq payload =>
      some (.mcGroupStatusAns (statusPayload _ (distinct_reported sessions payload.reqGroupMask)
        (activeGroups sessions (List.finRange maxGroups)).toUInt8))
  | .mcGroupSetupReq payload => some (.mcGroupSetupAns #v[setGroupId payload.mcGroupIdHeader])
  | .mcGroupDeleteReq payload =>
      if (sessions.get payload.mcGroupIdHeader).isSome then
        some (.mcGroupDeleteAns #v[setGroupId payload.mcGroupIdHeader])
      else some (.mcGroupDeleteAns #v[0b100])
  | .mcClassCSessionReq _ => none
  | .mcClassBSessionReq _ => none

def answersTo (newCrypto : NewCrypto) (key : McKEKey) :
    List DownlinkRemoteSetup → McSessions → List UplinkRemoteSetup
  | [], _ => []
  | command :: rest, sessions =>
      (answerTo sessions command).toList ++
        answersTo newCrypto key rest (tableAfter newCrypto key sessions command)

def answerBytes (answer : UplinkRemoteSetup) : List Byte := (CommandHandler.serialize answer).bytes

def addFitting (pending : List Byte) (answer : UplinkRemoteSetup) : List Byte :=
  if pending.length + (answerBytes answer).length ≤ 256 then pending ++ answerBytes answer
  else pending

def Fits (pending : List Byte) (answers : List UplinkRemoteSetup) : Prop :=
  answers = [] ∨ pending.length + (answers.flatMap answerBytes).length ≤ 256

/-- The answers added one after the other, as the handler does it. -/
def addAll (pending : List Byte) (answers : List UplinkRemoteSetup) : Checked (List Byte) :=
  answers.foldlM (fun pending answer => extendFromSlice 256 pending (answerBytes answer)) pending

theorem fits_cons {pending : List Byte} {answer : UplinkRemoteSetup}
    {rest : List UplinkRemoteSetup} :
    Fits pending (answer :: rest) ↔ pending.length + (answerBytes answer).length ≤ 256 ∧
      Fits (pending ++ answerBytes answer) rest := by
  have first : Fits pending (answer :: rest) ↔
      pending.length + ((answer :: rest).flatMap answerBytes).length ≤ 256 :=
    or_iff_right (List.cons_ne_nil _ _)
  rw [first, List.flatMap_cons, List.length_append, Fits, List.length_append, Nat.add_assoc]
  constructor
  · intro room
    exact ⟨by omega, .inr room⟩
  · rintro ⟨room, rfl | more⟩
    · exact room
    · exact more

theorem addAll_append (pending : List Byte) (front rest : List UplinkRemoteSetup) :
    addAll pending (front ++ rest) = (do
      let middle ← addAll pending front
      addAll middle rest) := List.foldlM_append

theorem addAll_fits {pending : List Byte} {answers : List UplinkRemoteSetup}
    (fits : Fits pending answers) :
    addAll pending answers = .ok (answers.foldl addFitting pending) := by
  induction answers generalizing pending with
  | nil => rfl
  | cons answer rest ih =>
      obtain ⟨room, more⟩ := fits_cons.mp fits
      have added : addFitting pending answer = pending ++ answerBytes answer := if_pos room
      rw [addAll, List.foldlM_cons, extendFromSlice, if_pos room, Checked.ok_bind,
        List.foldl_cons, added]
      exact ih more

theorem addAll_full {pending : List Byte} {answers : List UplinkRemoteSetup}
    (full : ¬ Fits pending answers) : addAll pending answers = .error .unwrap := by
  induction answers generalizing pending with
  | nil => exact absurd (.inl rfl) full
  | cons answer rest ih =>
      rw [addAll, List.foldlM_cons, extendFromSlice]
      by_cases room : pending.length + (answerBytes answer).length ≤ 256
      · rw [if_pos room, Checked.ok_bind]
        exact ih fun more => full (fits_cons.mpr ⟨room, more⟩)
      · rw [if_neg room]
        rfl

/-! ## The handler -/

theorem statusAnswer_eq (sessions : McSessions) (mask : Byte) (groups : List (Fin maxGroups))
    (total : Nat) (items : List (Byte × McAddr))
    (room : items.length + groups.length ≤ maxGroups) :
    statusAnswer sessions mask groups total.toUInt8 (.withItems items) =
      .ok ((McGroupStatusAnsCreator.withItems (items ++ reported sessions mask groups)).nbTotalGroups
        (total + activeGroups sessions groups).toUInt8).build := by
  induction groups generalizing total items with
  | nil => rw [statusAnswer, reported, List.filterMap_nil, List.append_nil]; rfl
  | cons id rest ih =>
      rw [List.length_cons] at room
      have asked : (mask &&& (1 <<< id.val.toUInt8) ≠ 0) ↔ bit mask id.val = true := by
        rw [← and_one_shl_ne_zero mask id.val (Nat.lt_trans id.isLt (by decide)), bne_iff_ne]
      rw [statusAnswer, reported, List.filterMap_cons, activeGroups, List.countP_cons]
      cases held : sessions.get id with
      | none =>
          have silent : reportedItem sessions mask id = none := by rw [reportedItem, held]; rfl
          rw [silent]
          exact ih total items (by omega)
      | some session =>
          have counted : total.toUInt8 + 1 = (total + 1).toUInt8 := (UInt8.ofNat_add total 1).symm
          have more : total + ((rest.countP fun id => (sessions.get id).isSome) + 1) =
              total + 1 + activeGroups sessions rest := by
            rw [activeGroups]
            omega
          simp only [Option.isSome_some, if_true, more, counted]
          split
          · rename_i requested
            have item : reportedItem sessions mask id =
                some (id.val.toUInt8, session.multicastAddr) := by
              rw [reportedItem, held, Option.bind_some, if_pos (asked.mp requested)]
            have push : (McGroupStatusAnsCreator.withItems items).push id.val.toUInt8
                session.multicastAddr =
                  .ok (.withItems (items ++ [(id.val.toUInt8, session.multicastAddr)])) := by
              have space : items.length < maxGroups := by omega
              have small : id.val.toUInt8.toNat < 8 := by
                rw [id_toNat]
                exact Nat.lt_trans id.isLt (by decide)
              rw [McGroupStatusAnsCreator.withItems_append]
              exact McGroupStatusAnsCreator.push_ok small space _
            rw [item, push, Checked.ok_bind,
              ih (total + 1) _ (by rw [List.length_append, List.length_singleton]; omega),
              List.append_assoc]
            rfl
          · rename_i ignored
            have silent : reportedItem sessions mask id = none := by
              rw [reportedItem, held, Option.bind_some, if_neg (mt asked.mpr ignored)]
            rw [silent]
            exact ih (total + 1) items (by omega)

theorem statusAnswer_bytes (sessions : McSessions) (payload : McGroupStatusReqPayload) :
    ∃ answer, answerTo sessions (.mcGroupStatusReq payload) = some answer ∧
      statusAnswer sessions payload.reqGroupMask (List.finRange maxGroups) 0 .new =
        .ok (answerBytes answer) := by
  refine ⟨_, rfl, ?_⟩
  have built := statusAnswer_eq sessions payload.reqGroupMask (List.finRange maxGroups) 0 []
    (by decide)
  rw [Nat.zero_add] at built
  exact built

theorem addAnswer_then (multicast : Multicast) {octets : List Byte} {answer : UplinkRemoteSetup}
    (same : answerBytes answer = octets) (noted : Option Response) :
    (do
      let next ← multicast.addAnswer octets
      return (next, noted)) = (do
      let pending ← addAll multicast.pendingUplinks [answer]
      return ({ multicast with pendingUplinks := pending }, noted)) := by
  rw [addAnswer, addAll, List.foldlM_cons, same]
  cases extendFromSlice 256 multicast.pendingUplinks octets <;> rfl

theorem set_none {sessions : McSessions} {id : Fin maxGroups}
    (absent : (sessions.get id).isSome = false) : sessions.set id none id.isLt = sessions := by
  have held : sessions[id.val] = none := Option.isSome_eq_false_iff.mp absent |> Option.isNone_iff_eq_none.mp
  rw [← held]
  exact Vector.set_getElem_self _

/-- One command: the table changes, and the answer is added if there is room. -/
theorem handleSetupCommand_adds (newCrypto : NewCrypto) (key : McKEKey) (multicast : Multicast)
    (newSession : Option Response) (command : DownlinkRemoteSetup) :
    ∃ noted, handleSetupCommand newCrypto key multicast newSession command = (do
      let pending ← addAll multicast.pendingUplinks
        (answerTo multicast.sessions command).toList
      return ({ multicast with
        sessions := tableAfter newCrypto key multicast.sessions command
        pendingUplinks := pending }, noted)) := by
  cases command with
  | packageVersionReq =>
      have same : answerBytes (.packageVersionAns #v[2, 2]) = packageVersionAns 2 2 := rfl
      exact ⟨newSession, addAnswer_then multicast same newSession⟩
  | mcGroupStatusReq payload =>
      obtain ⟨answer, same, built⟩ := statusAnswer_bytes multicast.sessions payload
      refine ⟨newSession, ?_⟩
      rw [handleSetupCommand, built, Checked.ok_bind, same]
      exact addAnswer_then multicast rfl newSession
  | mcGroupSetupReq payload =>
      have same : answerBytes (.mcGroupSetupAns #v[setGroupId payload.mcGroupIdHeader]) =
          mcGroupSetupAns payload.mcGroupIdHeader := rfl
      refine ⟨some (.groupSetupTransmitRequest payload.mcGroupIdHeader), ?_⟩
      exact addAnswer_then { multicast with
        sessions := tableAfter newCrypto key multicast.sessions (.mcGroupSetupReq payload) } same _
  | mcGroupDeleteReq payload =>
      refine ⟨newSession, ?_⟩
      cases held : (multicast.sessions.get payload.mcGroupIdHeader).isSome with
      | true =>
          have same : answerBytes (.mcGroupDeleteAns #v[setGroupId payload.mcGroupIdHeader]) =
              mcGroupDeleteAns payload.mcGroupIdHeader := rfl
          simp only [handleSetupCommand, answerTo, held, if_true]
          exact addAnswer_then { multicast with
            sessions := tableAfter newCrypto key multicast.sessions (.mcGroupDeleteReq payload) }
            same newSession
      | false =>
          have same : answerBytes (.mcGroupDeleteAns #v[0b100]) = mcGroupDeleteAnsUndefined := rfl
          simp only [handleSetupCommand, answerTo, tableAfter, held, Bool.false_eq_true, if_false,
            set_none held]
          exact addAnswer_then multicast same newSession
  | mcClassCSessionReq payload => exact ⟨newSession, rfl⟩
  | mcClassBSessionReq payload => exact ⟨newSession, rfl⟩

theorem handleSetupCommands_adds (newCrypto : NewCrypto) (key : McKEKey)
    (commands : List DownlinkRemoteSetup) (failure : Option ParseError) (multicast : Multicast)
    (newSession : Option Response) :
    ∃ noted, handleSetupCommands newCrypto key
      (commands.map .ok ++ failure.toList.map .error) multicast newSession = (do
        let pending ← addAll multicast.pendingUplinks
          (answersTo newCrypto key commands multicast.sessions)
        return ({ multicast with
          sessions := commands.foldl (tableAfter newCrypto key) multicast.sessions
          pendingUplinks := pending }, noted)) := by
  induction commands generalizing multicast newSession with
  | nil =>
      refine ⟨newSession, ?_⟩
      cases failure <;> rfl
  | cons command rest ih =>
      obtain ⟨first, handled⟩ :=
        handleSetupCommand_adds newCrypto key multicast newSession command
      rw [List.map_cons, List.cons_append, handleSetupCommands, handled, answersTo, addAll_append]
      cases added : addAll multicast.pendingUplinks (answerTo multicast.sessions command).toList with
      | error fault => exact ⟨newSession, rfl⟩
      | ok pending =>
          obtain ⟨noted, others⟩ := ih { multicast with
            sessions := tableAfter newCrypto key multicast.sessions command
            pendingUplinks := pending } first
          exact ⟨noted, others⟩

/-- The well-formed commands of a message, up to the first malformed one. -/
def commandsOf (data : List Byte) : List DownlinkRemoteSetup :=
  (MacCommands.results data).filterMap Except.toOption

theorem results_commandsOf (data : List Byte) :
    ∃ failure : Option ParseError, MacCommands.results data =
      (commandsOf data).map .ok ++ failure.toList.map .error := by
  have taken : ∃ (commands : List DownlinkRemoteSetup) (failure : Option ParseError)
      (last : MacCommands DownlinkRemoteSetup),
      MacCommands.TakenApart data commands failure last := MacCommands.takenApart data
  obtain ⟨commands, failure, last, apart⟩ := taken
  have wellFormed : commandsOf data = commands := by
    rw [commandsOf, apart.listed, List.filterMap_append, List.filterMap_map, List.filterMap_map]
    have none : failure.toList.filterMap
        (Except.toOption ∘ (.error : ParseError → Except ParseError DownlinkRemoteSetup)) = [] := by
      cases failure <;> rfl
    have all : commands.filterMap
        (Except.toOption ∘ (.ok : DownlinkRemoteSetup → Except ParseError DownlinkRemoteSetup)) =
          commands := List.filterMap_some
    rw [none, all, List.append_nil]
  exact ⟨failure, by rw [wellFormed, apart.listed]⟩

theorem commandsOf_bytesOf (commands : List DownlinkRemoteSetup) :
    commandsOf (MacCommands.bytesOf commands) = commands := by
  have apart := MacCommands.takenApart_bytesOf commands fun _ _ => rfl
  rw [commandsOf, apart.listed, List.filterMap_append, List.filterMap_map]
  exact (List.append_nil _).trans List.filterMap_some

/-- The message is handled: the commands are folded over the table in their order, and the
answers that fit are added whole. -/
def Handles (newCrypto : NewCrypto) (key : McKEKey) (multicast : Multicast) (data : List Byte) :
    Prop :=
  ∃ response, multicast.handleSetupMessage newCrypto data = .ok (response,
    { multicast with
      sessions := (commandsOf data).foldl (tableAfter newCrypto key) multicast.sessions
      pendingUplinks := (answersTo newCrypto key (commandsOf data) multicast.sessions).foldl
        addFitting multicast.pendingUplinks })

theorem handleSetupMessage_keyed (newCrypto : NewCrypto) {multicast : Multicast}
    (data : List Byte) {key : McKEKey} (keyed : multicast.mcKEKey = some key) :
    multicast.handleSetupMessage newCrypto data = (do
      let (next, noted) ←
        handleSetupCommands newCrypto key (MacCommands.results data) multicast none
      if !next.pendingUplinks.isEmpty then return (noted.getD .transmitRequest, next)
      else return (.noUpdate, next)) := by
  rw [handleSetupMessage, keyed]

/-- Under a key a message is handled exactly if its answers fit; without one it is ignored. -/
theorem setup_messages_handled (newCrypto : NewCrypto) (multicast : Multicast) (data : List Byte) :
    (multicast.mcKEKey = none →
      multicast.handleSetupMessage newCrypto data = .ok (.noUpdate, multicast)) ∧
    ∀ key, multicast.mcKEKey = some key →
      (Handles newCrypto key multicast data ↔
        Fits multicast.pendingUplinks
          (answersTo newCrypto key (commandsOf data) multicast.sessions)) := by
  constructor
  · intro keyless
    rw [handleSetupMessage, keyless]
  · intro key keyed
    obtain ⟨failure, listed⟩ := results_commandsOf data
    obtain ⟨noted, handled⟩ :=
      handleSetupCommands_adds newCrypto key (commandsOf data) failure multicast none
    rw [← listed] at handled
    constructor
    · rintro ⟨response, ran⟩
      by_contra full
      rw [handleSetupMessage_keyed newCrypto data keyed, handled, addAll_full full] at ran
      cases ran
    · intro fits
      rw [addAll_fits fits, Checked.ok_bind] at handled
      unfold Handles
      rw [handleSetupMessage_keyed newCrypto data keyed, handled]
      simp only [Checked.pure_eq_ok, Checked.ok_bind]
      split
      · exact ⟨_, rfl⟩
      · exact ⟨_, rfl⟩

namespace SetupSample

def newCrypto : NewCrypto := fun _ => ⟨id, fun _ _ => ⟨Vector.replicate 4 0⟩⟩

def key : McKEKey := ⟨Vector.replicate 16 0⟩

def multicast : Multicast := { new with mcKEKey := some key }

def requests (n : Nat) : List Byte :=
  MacCommands.bytesOf (List.replicate n DownlinkRemoteSetup.packageVersionReq)

theorem versions_length (newCrypto : NewCrypto) (key : McKEKey) (n : Nat) (sessions : McSessions) :
    ((answersTo newCrypto key (List.replicate n .packageVersionReq) sessions).flatMap
      answerBytes).length = 3 * n := by
  induction n with
  | zero => rfl
  | succ n ih =>
      have one : answersTo newCrypto key (List.replicate (n + 1) .packageVersionReq) sessions =
          .packageVersionAns #v[2, 2] ::
            answersTo newCrypto key (List.replicate n .packageVersionReq) sessions := rfl
      rw [one, List.flatMap_cons, List.length_append, ih]
      change 3 + 3 * n = 3 * (n + 1)
      omega

/-- A group set up with the range from 2 to 99. -/
def setup (id : Byte) : DownlinkRemoteSetup :=
  .mcGroupSetupReq ⟨#v[id, 52, 110, 29, 60, 4, 4, 4, 4, 4, 4, 4, 4, 4, 4, 4, 4, 4, 4, 4, 4,
    2, 0, 0, 0, 100, 0, 0, 0]⟩

/-- Groups 1 and 3 are set up, the status of groups 0 and 1 is asked, and groups 1 and 2 are
deleted, of which only one is there. -/
def orders : List DownlinkRemoteSetup :=
  [setup 1, .packageVersionReq, setup 3, .mcGroupStatusReq ⟨#v[3]⟩, .mcGroupDeleteReq ⟨#v[1]⟩,
    .mcGroupDeleteReq ⟨#v[2]⟩]

/-- One answer for each command; group 3 is left. -/
theorem setup_messages_handled_sample :
    Handles newCrypto key multicast (MacCommands.bytesOf orders) ∧
    (answersTo newCrypto key orders multicast.sessions).map answerBytes =
      [[2, 1], [0, 2, 2], [2, 3], [1, 0x22, 1, 52, 110, 29, 60], [3, 1], [3, 4]] := by
  have fits := (setup_messages_handled newCrypto multicast (MacCommands.bytesOf orders)).2 key rfl
  refine ⟨?_, by decide +kernel⟩
  apply fits.mpr
  rw [commandsOf_bytesOf]
  exact .inr (by decide +kernel)

end SetupSample

/-- 86 version requests fit into a frame, but not their answers. -/
theorem too_many_answers :
    ¬ ∀ (newCrypto : NewCrypto) (key : McKEKey) (multicast : Multicast) (data : List Byte),
      multicast.mcKEKey = some key → multicast.pendingUplinks.length ≤ 256 → data.length ≤ 242 →
      Handles newCrypto key multicast data := by
  intro handles
  have short : (SetupSample.requests 86).length ≤ 242 := by decide +kernel
  obtain ⟨response, ran⟩ := handles SetupSample.newCrypto SetupSample.key SetupSample.multicast
    (SetupSample.requests 86) rfl (by decide) short
  obtain ⟨failure, listed⟩ := results_commandsOf (SetupSample.requests 86)
  obtain ⟨noted, handled⟩ := handleSetupCommands_adds SetupSample.newCrypto SetupSample.key
    (commandsOf (SetupSample.requests 86)) failure SetupSample.multicast none
  have full : ¬ Fits SetupSample.multicast.pendingUplinks
      (answersTo SetupSample.newCrypto SetupSample.key
        (commandsOf (SetupSample.requests 86)) SetupSample.multicast.sessions) := by
    rw [SetupSample.requests, commandsOf_bytesOf]
    have length := SetupSample.versions_length SetupSample.newCrypto SetupSample.key 86
      SetupSample.multicast.sessions
    rintro (absent | fits)
    · rw [absent] at length
      cases length
    · rw [length] at fits
      omega
  rw [← listed, addAll_full full] at handled
  rw [handleSetupMessage_keyed _ _ rfl, handled] at ran
  cases ran

end LoraRs.Mac.Multicast
