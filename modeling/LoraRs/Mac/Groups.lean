import LoraRs.Encoding.CreatorAnswers
import LoraRs.Mac.Delivery
import LoraRs.Mac.MulticastSetup

/-!
# The groups of a multicast server

A server sets groups up on a member, deletes them, and sends to their addresses, as the
server in the tests of `lorawan-device/src/async_device/test/multicast.rs` does.  What it
has ordered is a book of groups; the group table of the member mirrors the book, and a
frame that the server builds for a group of the book is read by the member.
-/

set_option autoImplicit false
set_option linter.dupNamespace false

namespace LoraRs.Mac

open LoraRs.Encoding LoraRs.Encoding.Multicast LoraRs.Lib

/-! ## The server -/

/-- A group as the server keeps it. -/
structure Group where
  mcAddr : McAddr
  mcKey : McKey
  minMcFcount : UInt32
  maxMcFcount : UInt32
  deriving DecidableEq

namespace Group

def sessionAt (newCrypto : NewCrypto) (group : Group) (fcntDown : UInt32) :
    Encoding.Multicast.Session where
  multicastAddr := group.mcAddr
  mcNetSKey := McKey.deriveMcNetSKey (newCrypto group.mcKey.inner) group.mcAddr
  mcAppSKey := McKey.deriveMcAppSKey (newCrypto group.mcKey.inner) group.mcAddr
  fcntDown
  maxFcntDown := group.maxMcFcount

/-- The setup request of the group; `crypto` is bound to the McKEKey of the member. -/
def setupReq (crypto : NetworkCrypto) (id : Fin maxGroups) (group : Group) : Octets 29 :=
  let req := McGroupSetupReqCreator.mcGroupIdHeader (.new 29) id.val.toUInt8
  let req := McGroupSetupReqCreator.mcAddr req group.mcAddr
  let req := McGroupSetupReqCreator.mcKey req crypto group.mcKey
  let req := McGroupSetupReqCreator.minMcFcount req group.minMcFcount
  McGroupSetupReqCreator.maxMcFcount req group.maxMcFcount

/-- A frame of application data to the group. -/
def downlink (group : Group) (fcnt : UInt32) (fPort : Byte) (nonzero : fPort ≠ 0)
    (data : List Byte) : DataFrame where
  frameType := .unconfirmedDown
  devAddr := ⟨group.mcAddr.bytes⟩
  adr := false
  adrAckReq := false
  ack := false
  fPending := false
  fcnt
  fOpts := []
  payload := .data fPort nonzero data

def build (newCrypto : NewCrypto) (group : Group) (bufLen : Nat) (fcnt : UInt32) (fPort : Byte)
    (nonzero : fPort ≠ 0) (data : List Byte) : Checked (Except Encoding.Error (List Byte)) :=
  let mcNetSKey := McKey.deriveMcNetSKey (newCrypto group.mcKey.inner) group.mcAddr
  let mcAppSKey := McKey.deriveMcAppSKey (newCrypto group.mcKey.inner) group.mcAddr
  (group.downlink fcnt fPort nonzero data).buildInto bufLen (newCrypto mcNetSKey.inner)
    (some (newCrypto mcAppSKey.inner))

end Group

/-- What the server orders of a member. -/
inductive GroupOrder where
  | setup (id : Fin maxGroups) (group : Group)
  | delete (id : Fin maxGroups)
  | status (mask : Byte)
  | packageVersion

/-- The groups the server has set up on the member. -/
abbrev Book : Type := Fin maxGroups → Option Group

namespace GroupOrder

def deleteReq (id : Fin maxGroups) : Octets 1 :=
  McGroupDeleteReqCreator.mcGroupIdHeader (.new 1) id.val.toUInt8

def statusReq (mask : Byte) : Octets 1 := McGroupStatusReqCreator.reqGroupMask (.new 1) mask

/-- The octets of the order. -/
def build (crypto : NetworkCrypto) : GroupOrder → List Byte
  | .setup id group => 0x02 :: (group.setupReq crypto id).data.toList
  | .delete id => 0x03 :: (deleteReq id).data.toList
  | .status mask => 0x01 :: (statusReq mask).data.toList
  | .packageVersion => [0x00]

def command (crypto : NetworkCrypto) : GroupOrder → DownlinkRemoteSetup
  | .setup id group => .mcGroupSetupReq ⟨(group.setupReq crypto id).data⟩
  | .delete id => .mcGroupDeleteReq ⟨(deleteReq id).data⟩
  | .status mask => .mcGroupStatusReq ⟨(statusReq mask).data⟩
  | .packageVersion => .packageVersionReq

/-- The book after the order. -/
def enter (book : Book) : GroupOrder → Book
  | .setup id group => Function.update book id (some group)
  | .delete id => Function.update book id none
  | .status _ | .packageVersion => book

theorem build_eq (crypto : NetworkCrypto) (orders : List GroupOrder) :
    orders.flatMap (build crypto) = MacCommands.bytesOf (orders.map (command crypto)) := by
  rw [MacCommands.bytesOf, List.flatMap_map]
  congr 1
  funext order
  cases order with
  | setup id group => exact (McGroupSetupReq.creator crypto).built (group.setupReq crypto id)
  | delete id => exact McGroupDeleteReq.creator.built (deleteReq id)
  | status mask => exact McGroupStatusReq.creator.built (statusReq mask)
  | packageVersion => rfl

end GroupOrder

/-! ## What the member reads of an order -/

theorem groupId_val : ∀ id : Fin maxGroups, groupId id.val.toUInt8 = id := by decide +kernel

theorem deleteReq_id : ∀ id : Fin maxGroups,
    McGroupDeleteReqPayload.mcGroupIdHeader ⟨(GroupOrder.deleteReq id).data⟩ = id := by
  decide +kernel

/-- The member reads the group that the server set up. -/
theorem setupReq_reads {crypto : NetworkCrypto}
    (inverse : ∀ block, crypto.encryptBlock (crypto.decryptBlock block) = block)
    (id : Fin maxGroups) (group : Group) :
    McGroupSetupReq.read crypto ⟨(group.setupReq crypto id).data⟩ =
      ⟨id, group.mcAddr, group.mcKey, group.minMcFcount, group.maxMcFcount⟩ := by
  have recorded := (McGroupSetupReq.faithful inverse).read_run
    [.mcGroupIdHeader id.val.toUInt8, .mcAddr group.mcAddr, .mcKey group.mcKey,
      .minMcFcount group.minMcFcount, .maxMcFcount group.maxMcFcount]
  have fields : (McGroupSetupReq.creator crypto).recorded
      [.mcGroupIdHeader id.val.toUInt8, .mcAddr group.mcAddr, .mcKey group.mcKey,
        .minMcFcount group.minMcFcount, .maxMcFcount group.maxMcFcount] =
      ⟨groupId id.val.toUInt8, group.mcAddr, group.mcKey, group.minMcFcount,
        group.maxMcFcount⟩ := rfl
  rw [fields, groupId_val] at recorded
  exact recorded

theorem deriveSession_group {newCrypto : NewCrypto} {crypto : NetworkCrypto} {key : McKEKey}
    (bound : newCrypto key.inner = crypto.toCrypto)
    (inverse : ∀ block, crypto.encryptBlock (crypto.decryptBlock block) = block)
    (id : Fin maxGroups) (group : Group) :
    McGroupSetupReqPayload.deriveSession ⟨(group.setupReq crypto id).data⟩ newCrypto
        (newCrypto key.inner) =
      (id, group.sessionAt newCrypto group.minMcFcount) := by
  have reads := setupReq_reads inverse id group
  have readId := congrArg McGroupSetupReq.Fields.mcGroupIdHeader reads
  have readAddr := congrArg McGroupSetupReq.Fields.mcAddr reads
  have readKey := congrArg McGroupSetupReq.Fields.mcKey reads
  have readMin := congrArg McGroupSetupReq.Fields.minMcFcount reads
  have readMax := congrArg McGroupSetupReq.Fields.maxMcFcount reads
  simp only [McGroupSetupReq.read] at readId readAddr readKey readMin readMax
  simp only [McGroupSetupReqPayload.deriveSession, bound, readId, readAddr, readKey, readMin,
    readMax, Group.sessionAt]

/-! ## The member -/

/-- A member, with the book of the orders that have reached it. -/
structure Membership where
  multicast : Multicast
  dl : List Downlink
  book : Book

/-- A message of orders arrives, a frame is heard on the ports of the groups, the answers
are sent, or the application takes a downlink. -/
inductive GroupEvent where
  | ordered (orders : List GroupOrder)
  | heard (bytes : List Byte)
  | answersSent
  | takeDownlink

def groupStep (newCrypto : NewCrypto) (crypto : NetworkCrypto) (capacity : Nat)
    (event : GroupEvent) (st : Membership) : Checked Membership :=
  match event with
  | .ordered orders => do
      let (_, multicast) ← st.multicast.handleSetupMessage newCrypto
        (orders.flatMap (GroupOrder.build crypto))
      return { st with multicast, book := orders.foldl GroupOrder.enter st.book }
  | .heard bytes => do
      let (_, multicast, dl) ← st.multicast.handleRx newCrypto capacity st.dl bytes
      return { st with multicast, dl }
  | .answersSent => .ok { st with multicast := { st.multicast with pendingUplinks := [] } }
  | .takeDownlink => .ok { st with dl := st.dl.dropLast }

/-- The table has the groups of the book and no others, with the sessions of the server but
for the counters. -/
def Mirrors (newCrypto : NewCrypto) (sessions : McSessions) (book : Book) : Prop :=
  ∀ id, (sessions.get id).map (fun session => { session with fcntDown := 0 }) =
    (book id).map fun group => group.sessionAt newCrypto 0

section Members

variable {newCrypto : NewCrypto} {crypto : NetworkCrypto} {key : McKEKey}
  {sessions : McSessions} {book : Book}

theorem Mirrors.set (mirrors : Mirrors newCrypto sessions book) {id : Fin maxGroups}
    {entry : Option Encoding.Multicast.Session} {group : Option Group}
    (same : entry.map (fun session => { session with fcntDown := 0 }) =
      group.map fun group => group.sessionAt newCrypto 0) :
    Mirrors newCrypto (sessions.set id entry id.isLt) (Function.update book id group) := by
  intro other
  by_cases here : other = id
  · subst here
    have entered : (sessions.set other entry other.isLt).get other = entry :=
      Vector.getElem_set_self _
    rw [entered, Function.update_self]
    exact same
  · have apart : id.val ≠ other.val := fun equal => here (Fin.ext equal.symm)
    have kept : (sessions.set id entry id.isLt).get other = sessions.get other :=
      Vector.getElem_set_ne _ _ apart
    rw [kept, Function.update_of_ne here]
    exact mirrors other

theorem Mirrors.moved (mirrors : Mirrors newCrypto sessions book) {id : Fin maxGroups}
    {session : Encoding.Multicast.Session} (held : sessions.get id = some session)
    (fcnt : UInt32) :
    Mirrors newCrypto (sessions.set id (some { session with fcntDown := fcnt }) id.isLt) book := by
  have entry := mirrors id
  rw [held] at entry
  have updated : Mirrors newCrypto
      (sessions.set id (some { session with fcntDown := fcnt }) id.isLt)
      (Function.update book id (book id)) := mirrors.set entry
  rw [Function.update_eq_self] at updated
  exact updated

/-- An order changes the table as it changes the book. -/
theorem Mirrors.after (mirrors : Mirrors newCrypto sessions book)
    (bound : newCrypto key.inner = crypto.toCrypto)
    (inverse : ∀ block, crypto.encryptBlock (crypto.decryptBlock block) = block)
    (order : GroupOrder) :
    Mirrors newCrypto (Multicast.tableAfter newCrypto key sessions (order.command crypto))
      (order.enter book) := by
  cases order with
  | setup id group =>
      simp only [GroupOrder.command, Multicast.tableAfter, deriveSession_group bound inverse]
      exact mirrors.set rfl
  | delete id =>
      simp only [GroupOrder.command, Multicast.tableAfter, deleteReq_id]
      exact mirrors.set rfl
  | status mask => exact mirrors
  | packageVersion => exact mirrors

theorem Mirrors.after_all (mirrors : Mirrors newCrypto sessions book)
    (bound : newCrypto key.inner = crypto.toCrypto)
    (inverse : ∀ block, crypto.encryptBlock (crypto.decryptBlock block) = block)
    (orders : List GroupOrder) :
    Mirrors newCrypto
      ((orders.map (GroupOrder.command crypto)).foldl (Multicast.tableAfter newCrypto key) sessions)
      (orders.foldl GroupOrder.enter book) := by
  induction orders generalizing sessions book with
  | nil => exact mirrors
  | cons order rest ih => exact ih (mirrors.after bound inverse order)

end Members

/-- A message that is handled changes the table by its commands, and beside it only the
pending answers. -/
theorem Multicast.handleSetupMessage_table {newCrypto : NewCrypto} {multicast next : Multicast}
    {data : List Byte} {key : McKEKey} {response : Multicast.Response}
    (keyed : multicast.mcKEKey = some key)
    (ran : multicast.handleSetupMessage newCrypto data = .ok (response, next)) :
    next = { multicast with
      sessions := (commandsOf data).foldl (tableAfter newCrypto key) multicast.sessions
      pendingUplinks := next.pendingUplinks } := by
  obtain ⟨failure, listed⟩ := results_commandsOf data
  obtain ⟨noted, handled⟩ :=
    handleSetupCommands_adds newCrypto key (commandsOf data) failure multicast none
  rw [handleSetupMessage_keyed newCrypto data keyed, listed, handled] at ran
  obtain ⟨⟨after, told⟩, added, ran⟩ := Checked.bind_eq_ok_iff.mp ran
  obtain ⟨pending, _, added⟩ := Checked.bind_eq_ok_iff.mp added
  cases added
  dsimp only at ran
  split at ran
  · cases ran
    rfl
  · cases ran
    rfl

/-- A member under this key whose table mirrors its book. -/
structure Membership.Faithful (newCrypto : NewCrypto) (key : McKEKey) (st : Membership) :
    Prop where
  keyed : st.multicast.mcKEKey = some key
  mirrors : Mirrors newCrypto st.multicast.sessions st.book

theorem Membership.Faithful.step {newCrypto : NewCrypto} {crypto : NetworkCrypto}
    {capacity : Nat} {key : McKEKey} {event : GroupEvent} {st next : Membership}
    (faithful : st.Faithful newCrypto key) (bound : newCrypto key.inner = crypto.toCrypto)
    (inverse : ∀ block, crypto.encryptBlock (crypto.decryptBlock block) = block)
    (stepped : groupStep newCrypto crypto capacity event st = .ok next) :
    next.Faithful newCrypto key := by
  cases event with
  | ordered orders =>
      obtain ⟨⟨response, multicast⟩, ran, stepped⟩ := Checked.bind_eq_ok_iff.mp stepped
      cases stepped
      have table := Multicast.handleSetupMessage_table faithful.keyed ran
      rw [GroupOrder.build_eq, Multicast.commandsOf_bytesOf] at table
      rw [table]
      exact ⟨faithful.keyed, faithful.mirrors.after_all bound inverse orders⟩
  | heard bytes =>
      obtain ⟨⟨response, multicast, dl⟩, ran, stepped⟩ := Checked.bind_eq_ok_iff.mp stepped
      cases stepped
      cases Multicast.handleRx_outcome ran with
      | unparsed | unknown | refused => exact ⟨faithful.keyed, faithful.mirrors⟩
      | expired data parsed id session found | delivered data parsed id session found =>
          exact ⟨faithful.keyed,
            faithful.mirrors.moved (Multicast.matchingSession_eq_some found).1 _⟩
  | answersSent =>
      cases stepped
      exact ⟨faithful.keyed, faithful.mirrors⟩
  | takeDownlink =>
      cases stepped
      exact ⟨faithful.keyed, faithful.mirrors⟩

/-! ## Frames of the server -/

namespace Multicast

theorem matchingSession_first {multicast : Multicast} {id : Fin maxGroups}
    {session : GroupSession} (held : multicast.sessions.get id = some session)
    (first : ∀ other < id, (multicast.sessions.get other).map (·.multicastAddr) ≠
      some session.multicastAddr) :
    multicast.matchingSession session.multicastAddr = some (id, session) := by
  rw [matchingSession, ← Fin.findSome?_eq_findSome?_finRange]
  refine Fin.findSome?_eq_some_iff.mpr ⟨id, ?_, ?_⟩
  · rw [held]
    exact if_pos rfl
  · intro other below
    cases entry : multicast.sessions.get other with
    | none => rfl
    | some found =>
        have apart := first other below
        rw [entry] at apart
        exact if_neg fun same => apart (congrArg some same)

theorem built_data_length {frame : DataFrame} {bufLen : Nat} {nwkCrypto : Crypto}
    {appCrypto : Option Crypto} {bytes : List Byte} {fPort : Byte} {nonzero : fPort ≠ 0}
    {data : List Byte} (payload : frame.payload = .data fPort nonzero data)
    (built : frame.buildInto bufLen nwkCrypto appCrypto = .ok (.ok bytes)) :
    data.length ≤ bufLen := by
  obtain ⟨_, port, frm, encCrypto, cipher, mic, found, room, _⟩ :=
    (frame.buildInto_eq_ok_iff bufLen nwkCrypto appCrypto bytes).mp built
  rw [DataFrame.frmParts, payload] at found
  cases appCrypto with
  | none => cases found
  | some crypto =>
      cases found
      omega

/-- What the member does with a frame of the group, from the counter it holds: it takes a
counter that is ahead, or 0, and delivers the data unless the counter is the last one. -/
def answerToFrame (capacity : Nat) (multicast : Multicast) (dl : List Downlink)
    (id : Fin maxGroups) (session : GroupSession) (fcnt : UInt32) (downlink : Downlink) :
    Response × Multicast × List Downlink :=
  if session.fcntDown < fcnt ∨ fcnt = 0 then
    let moved := { multicast with
      sessions := multicast.sessions.set id (some { session with fcntDown := fcnt }) id.isLt }
    if fcnt = session.maxFcntDown then (.sessionExpired id, moved, dl)
    else (.downlinkReceived id fcnt, moved, pushDownlink capacity dl downlink)
  else (.noUpdate, multicast, dl)

/-- A frame that is built under the keys of the session is answered by its counter, as long
as that fits the 16 bits of the frame. -/
theorem handleRx_built {newCrypto : NewCrypto} {capacity : Nat} {multicast : Multicast}
    {dl : List Downlink} {id : Fin maxGroups} {session : GroupSession} (frame : DataFrame)
    {bufLen : Nat} {bytes : List Byte} {fPort : Byte} {nonzero : fPort ≠ 0} {data : List Byte}
    (found : multicast.matchingSession session.multicastAddr = some (id, session))
    (addressed : frame.devAddr.bytes = session.multicastAddr.bytes)
    (payload : frame.payload = .data fPort nonzero data) (narrow : frame.fcnt.toNat < 65536)
    (room : bufLen ≤ 256)
    (built : frame.buildInto bufLen (newCrypto session.mcNetSKey.inner)
      (some (newCrypto session.mcAppSKey.inner)) = .ok (.ok bytes)) :
    multicast.handleRx newCrypto capacity dl bytes =
      .ok (answerToFrame capacity multicast dl id session frame.fcnt ⟨data, fPort⟩) := by
  have short := built_data_length payload built
  obtain ⟨⟨read, parsed, shows, valid⟩, decrypted, opens, showsContent, content⟩ :=
    built_reads_back built
  have address : read.fhdr.mcAddr = session.multicastAddr := by
    have bytes := congrArg DevAddr.bytes shows.devAddr
    rw [addressed] at bytes
    exact congrArg McAddr.mk bytes
  have counter : read.fhdr.fcnt.toUInt32 = frame.fcnt := by
    rw [shows.fcnt]
    exact (wire_eq_iff frame.fcnt).mpr narrow
  have port := showsContent.fPort
  rw [payload] at port content
  simp only [DecryptedDataPayload.checkMicAndDecryptInPlace, parsed, valid, if_true] at opens
  have same := (EncryptedDataPayload.parse_eq_ok_iff bytes read).mp parsed
  have fits : extendFromSlice 256 [] data = .ok data := by
    rw [extendFromSlice, if_pos (by rw [List.length_nil]; omega)]
    rfl
  unfold handleRx answerToFrame
  simp only [parsed, address, found, counter, valid, Bool.true_and]
  by_cases ahead : session.fcntDown < frame.fcnt ∨ frame.fcnt = 0
  · have taken : (decide (frame.fcnt > session.fcntDown) || decide (frame.fcnt = 0)) = true := by
      simpa using ahead
    rw [if_pos taken, if_pos ahead, acceptDownlink, same]
    simp only [opens, Checked.ok_bind, Checked.unwrapResult_ok]
    by_cases last : frame.fcnt = session.maxFcntDown
    · rw [if_pos last, if_pos last]
      rfl
    · rw [if_neg last, if_neg last]
      simp only [deliver, port, content, Payload.fPort, Payload.frmPayload, fits, Checked.ok_bind]
      rfl
  · have refused : ¬ (decide (frame.fcnt > session.fcntDown) || decide (frame.fcnt = 0)) =
        true := by
      simpa using ahead
    rw [if_neg refused, if_neg ahead]

end Multicast

/-! ## Runs -/

theorem Mirrors.held {newCrypto : NewCrypto} {sessions : McSessions} {book : Book}
    (mirrors : Mirrors newCrypto sessions book) {id : Fin maxGroups} {group : Group}
    (entered : book id = some group) :
    ∃ fcntDown, sessions.get id = some (group.sessionAt newCrypto fcntDown) := by
  have entry := mirrors id
  rw [entered, Option.map_some, Option.map_eq_some_iff] at entry
  obtain ⟨session, held, same⟩ := entry
  refine ⟨session.fcntDown, ?_⟩
  rw [held]
  have restored := congrArg
    (fun other : Encoding.Multicast.Session => { other with fcntDown := session.fcntDown }) same
  exact congrArg some restored

theorem Mirrors.address {newCrypto : NewCrypto} {sessions : McSessions} {book : Book}
    (mirrors : Mirrors newCrypto sessions book) (id : Fin maxGroups) :
    (sessions.get id).map (·.multicastAddr) = (book id).map Group.mcAddr := by
  have entry := congrArg (Option.map Encoding.Multicast.Session.multicastAddr) (mirrors id)
  rw [Option.map_map, Option.map_map] at entry
  exact entry

/-- In every run of a member, whatever it hears, its group table mirrors the book of the
server; and a frame that the server builds for a group of the book is answered by its counter:
taken and its data delivered if the counter is ahead, or 0, and not the last of the group. -/
theorem members_are_served (newCrypto : NewCrypto) (crypto : NetworkCrypto) (key : McKEKey)
    (capacity : Nat) (member final : Membership) (events : List GroupEvent)
    (bound : newCrypto key.inner = crypto.toCrypto)
    (inverse : ∀ block, crypto.encryptBlock (crypto.decryptBlock block) = block)
    (keyed : member.multicast.mcKEKey = some key)
    (mirrors : Mirrors newCrypto member.multicast.sessions member.book)
    (ran : Transition.run (groupStep newCrypto crypto capacity) events member = .ok final) :
    Mirrors newCrypto final.multicast.sessions final.book ∧
      ∀ id group, final.book id = some group →
        (∀ other < id, (final.book other).map Group.mcAddr ≠ some group.mcAddr) →
        ∃ fcntDown, final.multicast.sessions.get id = some (group.sessionAt newCrypto fcntDown) ∧
          ∀ (bufLen : Nat) (fcnt : UInt32) (fPort : Byte) (nonzero : fPort ≠ 0)
            (data bytes : List Byte), bufLen ≤ 256 → fcnt.toNat < 65536 →
            group.build newCrypto bufLen fcnt fPort nonzero data = .ok (.ok bytes) →
            final.multicast.handleRx newCrypto capacity final.dl bytes =
              .ok (Multicast.answerToFrame capacity final.multicast final.dl id
                (group.sessionAt newCrypto fcntDown) fcnt ⟨data, fPort⟩) := by
  have faithful : final.Faithful newCrypto key :=
    Transition.run_preserves _ (fun _ _ _ faithful stepped => faithful.step bound inverse stepped)
      events member final ⟨keyed, mirrors⟩ ran
  refine ⟨faithful.mirrors, ?_⟩
  intro id group entered first
  obtain ⟨fcntDown, held⟩ := faithful.mirrors.held entered
  refine ⟨fcntDown, held, ?_⟩
  intro bufLen fcnt fPort nonzero data bytes room narrow built
  have found := Multicast.matchingSession_first held (by
    intro other below
    rw [faithful.mirrors.address other]
    exact first other below)
  exact Multicast.handleRx_built (group.downlink fcnt fPort nonzero data) found rfl rfl narrow
    room built

namespace Sample

def groupCrypto : NewCrypto := fun _ => Encoding.Sample.networkCrypto.toCrypto

def mcKEKey : McKEKey := ⟨Vector.replicate 16 0x66⟩

def group : Group where
  mcAddr := ⟨#v[52, 110, 29, 60]⟩
  mcKey := ⟨Vector.replicate 16 0x44⟩
  minMcFcount := 2
  maxMcFcount := 100

def member : Membership where
  multicast := { Multicast.new with mcKEKey := some mcKEKey }
  dl := []
  book := fun _ => none

theorem member_mirrors : Mirrors groupCrypto member.multicast.sessions member.book := by
  have empty : ∀ id : Fin maxGroups, Multicast.new.sessions.get id = none := by decide
  intro id
  exact congrArg _ (empty id)

/-- A group is set up, beside another one that is deleted again. -/
def setUp : List GroupEvent :=
  [.ordered [.setup 0 group, .packageVersion], .answersSent,
    .ordered [.setup 1 group, .delete 0]]

theorem port_201 : (201 : Byte) ≠ 0 := by decide

end Sample

/-- The frame of counter 3 is delivered to the group that has been set up. -/
theorem members_are_served_sample : ∃ final bytes next,
    Transition.run (groupStep Sample.groupCrypto Encoding.Sample.networkCrypto 4) Sample.setUp
      Sample.member = .ok final ∧
    Sample.group.build Sample.groupCrypto 256 3 201 Sample.port_201 [7, 8] = .ok (.ok bytes) ∧
    final.multicast.handleRx Sample.groupCrypto 4 final.dl bytes =
      .ok (.downlinkReceived 1 3, next, [⟨[7, 8], 201⟩]) := by
  have reached : (fun final : Membership => (final.book 0, final.book 1, final.dl,
      (final.multicast.sessions.get 1).map (·.fcntDown))) <$>
      Transition.run (groupStep Sample.groupCrypto Encoding.Sample.networkCrypto 4) Sample.setUp
        Sample.member = .ok (none, some Sample.group, [], some 2) := by
    decide +kernel
  obtain ⟨final, ran, state⟩ := Checked.map_eq_ok_iff.mp reached
  simp only [Prod.mk.injEq] at state
  obtain ⟨none, entered, queue, counter⟩ := state
  obtain ⟨_, serves⟩ := members_are_served Sample.groupCrypto Encoding.Sample.networkCrypto
    Sample.mcKEKey 4 Sample.member final Sample.setUp rfl Encoding.Sample.networkCrypto_inverse rfl
    Sample.member_mirrors ran
  obtain ⟨fcntDown, held, answered⟩ := serves 1 Sample.group entered (by
    intro other below
    have zero : other = 0 := by
      apply Fin.ext
      have small : other.val < 1 := below
      change other.val = 0
      omega
    rw [zero, none]
    exact Option.some_ne_none _ |>.symm)
  rw [held] at counter
  cases counter
  have builds : (Sample.group.build Sample.groupCrypto 256 3 201 Sample.port_201 [7, 8]).toOption.any
      Except.isOk = true := by
    decide +kernel
  cases built : Sample.group.build Sample.groupCrypto 256 3 201 Sample.port_201 [7, 8] with
  | error fault =>
      rw [built] at builds
      cases builds
  | ok outcome =>
      cases outcome with
      | error e =>
          rw [built] at builds
          cases builds
      | ok bytes =>
          have handled := answered 256 3 201 Sample.port_201 [7, 8] bytes (by decide) (by decide)
            built
          refine ⟨final, bytes, (Multicast.answerToFrame 4 final.multicast final.dl 1
            (Sample.group.sessionAt Sample.groupCrypto 2) 3 ⟨[7, 8], 201⟩).2.1, ran, rfl, ?_⟩
          rw [handled, queue]
          rfl

end LoraRs.Mac
