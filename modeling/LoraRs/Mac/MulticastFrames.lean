import LoraRs.Mac.Safety

/-!
# Frames of a multicast session

What the multicast handler delivers over a run of received frames, compared with the range
of counters the session was set up with.  A frame carries its 32-bit counter, at which
alone its MIC is good; only the low half of the counter is in the frame.
-/

set_option autoImplicit false
set_option linter.dupNamespace false

namespace LoraRs.Mac

open LoraRs.Encoding LoraRs.Lib
open LoraRs.Encoding.Multicast (maxGroups McGroupSetupReqPayload)

namespace Multicast

/-- A group session; the handler's response type shares its namespace. -/
abbrev GroupSession := Encoding.Multicast.Session

/-! ## Lookup of a session -/

theorem matchingSession_eq_some {multicast : Multicast} {addr : McAddr} {id : Fin maxGroups}
    {session : GroupSession} (found : multicast.matchingSession addr = some (id, session)) :
    multicast.sessions.get id = some session ∧ session.multicastAddr = addr := by
  obtain ⟨other, _, matched⟩ := List.exists_of_findSome?_eq_some found
  split at matched
  · rename_i held heldEq
    split at matched
    · rename_i same
      cases matched
      exact ⟨heldEq, same⟩
    · cases matched
  · cases matched

/-- Moving the counter of one group's session moves it in every lookup. -/
theorem matchingSession_set {multicast : Multicast} {id : Fin maxGroups} {session : GroupSession}
    (held : multicast.sessions.get id = some session) (fcnt : UInt32) (addr : McAddr) :
    { multicast with
        sessions := multicast.sessions.set id (some { session with fcntDown := fcnt }) id.isLt
      }.matchingSession addr =
      (multicast.matchingSession addr).map fun found =>
        if found.1 = id then (id, { found.2 with fcntDown := fcnt }) else found := by
  simp only [matchingSession, List.map_findSome?]
  congr 1
  funext other
  by_cases same : other = id
  · subst same
    have entry : (multicast.sessions.set other
        (some { session with fcntDown := fcnt }) other.isLt).get other =
        some { session with fcntDown := fcnt } := Vector.getElem_set_self _
    simp only [Function.comp_apply, entry, held]
    split
    · simp
    · rfl
  · have apart : id.val ≠ other.val := fun equal => same (Fin.ext equal.symm)
    have entry : (multicast.sessions.set id
        (some { session with fcntDown := fcnt }) id.isLt).get other =
          multicast.sessions.get other :=
      Vector.getElem_set_ne _ _ apart
    simp only [Function.comp_apply, entry]
    cases multicast.sessions.get other with
    | none => rfl
    | some held =>
        simp only
        split
        · simp [same]
        · rfl

/-! ## What one frame does -/

/-- The frame is taken by the session of its address. -/
def Takes (newCrypto : NewCrypto) (session : GroupSession) (data : EncryptedDataPayload) : Prop :=
  data.validateMic (newCrypto session.mcNetSKey.inner) data.fhdr.fcnt.toUInt32 = true ∧
    (session.fcntDown < data.fhdr.fcnt.toUInt32 ∨ data.fhdr.fcnt.toUInt32 = 0)

def appData (decrypted : DecryptedDataPayload) : Option Downlink :=
  match decrypted.fPort, decrypted.frmPayload with
  | some fport, .data data => some { data, fport }
  | _, _ => none

/-- The application data of a frame, read with the keys of the session at the counter. -/
def carried (newCrypto : NewCrypto) (session : GroupSession) (bytes : List Byte)
    (fcnt : UInt32) : Option Downlink :=
  match DecryptedDataPayload.decryptInPlace bytes (some (newCrypto session.mcNetSKey.inner))
      (some (newCrypto session.mcAppSKey.inner)) fcnt with
  | .ok (.ok decrypted) => appData decrypted
  | _ => none

/-- The queue after the data; a full queue loses it. -/
def queued (capacity : Nat) (dl : List Downlink) (data : Option Downlink) : List Downlink :=
  data.elim dl (pushDownlink capacity dl)

theorem queued_eq_append_iff {capacity : Nat} {dl : List Downlink} {data : Option Downlink} :
    queued capacity dl data = dl ++ data.toList ↔
      ∀ downlink, data = some downlink → dl.length < capacity := by
  cases data with
  | none =>
      refine iff_of_true (List.append_nil dl).symm ?_
      intro downlink same
      cases same
  | some downlink =>
      have pushed : queued capacity dl (some downlink) =
          if dl.length < capacity then dl ++ [downlink] else dl := rfl
      rw [pushed]
      constructor
      · intro kept _ _
        by_contra full
        rw [if_neg full] at kept
        have lengths := congrArg List.length kept
        rw [List.length_append, Option.toList_some, List.length_singleton] at lengths
        omega
      · intro room
        rw [if_pos (room downlink rfl)]
        rfl

theorem deliver_queue {capacity : Nat} {decrypted : DecryptedDataPayload}
    {dl queue : List Downlink} (ran : deliver capacity decrypted dl = .ok queue) :
    queue = queued capacity dl (appData decrypted) := by
  unfold deliver at ran
  cases port : decrypted.fPort with
  | none =>
      simp only [port] at ran
      cases ran
      simp only [appData, port]
      rfl
  | some fport =>
      cases payload : decrypted.frmPayload with
      | data data =>
          simp only [port, payload] at ran
          obtain ⟨copied, filled, ran⟩ := Checked.bind_eq_ok_iff.mp ran
          rw [extendFromSlice] at filled
          split at filled
          · cases filled
            cases ran
            simp only [appData, port, payload]
            rfl
          · cases filled
      | macCommands | none =>
          simp only [port, payload] at ran
          cases ran
          simp only [appData, port, payload]
          rfl

/-- The ways the handler ends on a frame of at most 255 bytes. -/
inductive Outcome (newCrypto : NewCrypto) (capacity : Nat) (multicast : Multicast)
    (dl : List Downlink) (bytes : List Byte) :
    Response → Multicast → List Downlink → Prop where
  | unparsed (e : Encoding.Error) (malformed : EncryptedDataPayload.parse bytes = .error e) :
      Outcome newCrypto capacity multicast dl bytes .noUpdate multicast dl
  | unknown (data : EncryptedDataPayload) (parsed : data.bytes = bytes)
      (missing : multicast.matchingSession data.fhdr.mcAddr = none) :
      Outcome newCrypto capacity multicast dl bytes .noUpdate multicast dl
  | refused (data : EncryptedDataPayload) (parsed : data.bytes = bytes) (id : Fin maxGroups)
      (session : GroupSession)
      (found : multicast.matchingSession data.fhdr.mcAddr = some (id, session))
      (bad : ¬ Takes newCrypto session data) :
      Outcome newCrypto capacity multicast dl bytes .noUpdate multicast dl
  | expired (data : EncryptedDataPayload) (parsed : data.bytes = bytes) (id : Fin maxGroups)
      (session : GroupSession)
      (found : multicast.matchingSession data.fhdr.mcAddr = some (id, session))
      (good : Takes newCrypto session data)
      (last : data.fhdr.fcnt.toUInt32 = session.maxFcntDown) :
      Outcome newCrypto capacity multicast dl bytes (.sessionExpired id)
        { multicast with
            sessions := multicast.sessions.set id
              (some { session with fcntDown := data.fhdr.fcnt.toUInt32 }) id.isLt } dl
  | delivered (data : EncryptedDataPayload) (parsed : data.bytes = bytes) (id : Fin maxGroups)
      (session : GroupSession)
      (found : multicast.matchingSession data.fhdr.mcAddr = some (id, session))
      (good : Takes newCrypto session data)
      (going : data.fhdr.fcnt.toUInt32 ≠ session.maxFcntDown) :
      Outcome newCrypto capacity multicast dl bytes
        (.downlinkReceived id data.fhdr.fcnt.toUInt32)
        { multicast with
            sessions := multicast.sessions.set id
              (some { session with fcntDown := data.fhdr.fcnt.toUInt32 }) id.isLt }
        (queued capacity dl (carried newCrypto session bytes data.fhdr.fcnt.toUInt32))

theorem handleRx_outcome {newCrypto : NewCrypto} {capacity : Nat} {multicast next : Multicast}
    {dl left : List Downlink} {bytes : List Byte} {response : Response}
    (ran : multicast.handleRx newCrypto capacity dl bytes = .ok (response, next, left)) :
    Outcome newCrypto capacity multicast dl bytes response next left := by
  unfold handleRx at ran
  cases parsed : EncryptedDataPayload.parse bytes with
  | error e =>
      rw [parsed] at ran
      cases ran
      exact .unparsed e parsed
  | ok data =>
      rw [parsed] at ran
      have same := (EncryptedDataPayload.parse_eq_ok_iff bytes data).mp parsed
      simp only at ran
      cases found : multicast.matchingSession data.fhdr.mcAddr with
      | none =>
          rw [found] at ran
          cases ran
          exact .unknown data same found
      | some entry =>
          obtain ⟨id, session⟩ := entry
          rw [found] at ran
          simp only at ran
          split at ran
          · rename_i taken
            have good : Takes newCrypto session data := by
              simpa [Takes] using taken
            obtain ⟨deciphered, opened, ran⟩ := Checked.bind_eq_ok_iff.mp ran
            obtain ⟨decrypted, unwrapped, ran⟩ := Checked.bind_eq_ok_iff.mp ran
            split at ran
            · rename_i last
              cases ran
              exact .expired data same id session found good last
            · rename_i going
              obtain ⟨queue, filled, ran⟩ := Checked.bind_eq_ok_iff.mp ran
              cases ran
              have content : carried newCrypto session bytes data.fhdr.fcnt.toUInt32 =
                  appData decrypted := by
                rw [Checked.unwrapResult_eq_ok_iff.mp unwrapped, same] at opened
                rw [carried, opened]
              rw [deliver_queue filled, ← content]
              exact .delivered data same id session found good going
          · rename_i refused
            cases ran
            refine .refused data same id session found ?_
            simpa [Takes] using refused

/-! ## Runs of frames -/

/-- The handler, the downlink queue and the counters delivered in one group. -/
structure Reception where
  multicast : Multicast
  dl : List Downlink
  delivered : List UInt32
  deriving DecidableEq

/-- A frame received by a group with this address and these keys: its MIC is good at its own
32-bit counter alone, of which the frame carries the low half.  A forged frame has no
counter. -/
structure GroupFrame (crypto : Crypto) (addr : McAddr) where
  bytes : List Byte
  counter : Option UInt32
  short : bytes.length ≤ 255
  ideal : ∀ data : EncryptedDataPayload, data.bytes = bytes → data.fhdr.mcAddr = addr →
    ∀ fcnt, data.validateMic crypto fcnt = true ↔ counter = some fcnt
  sent : ∀ c, counter = some c → ∃ data : EncryptedDataPayload, data.bytes = bytes ∧
    data.fhdr.mcAddr = addr ∧ data.fhdr.fcnt = c.toUInt16

/-- A frame is received, or the application takes a downlink. -/
inductive ReceiveEvent (crypto : Crypto) (addr : McAddr) where
  | frame (frame : GroupFrame crypto addr)
  | take

abbrev FrameOf (newCrypto : NewCrypto) (session : GroupSession) :=
  GroupFrame (newCrypto session.mcNetSKey.inner) session.multicastAddr

abbrev EventOf (newCrypto : NewCrypto) (session : GroupSession) :=
  ReceiveEvent (newCrypto session.mcNetSKey.inner) session.multicastAddr

/-- The counter is in the range of the session and above all delivered ones. -/
def Due (low high c : UInt32) (delivered : List UInt32) : Prop :=
  low ≤ c ∧ c < high ∧ ∀ earlier ∈ delivered, earlier < c

instance (low high c : UInt32) (delivered : List UInt32) :
    Decidable (Due low high c delivered) :=
  decidable_of_iff (low ≤ c ∧ c < high ∧ delivered.all (· < c) = true)
    (by simp only [Due, List.all_eq_true, decide_eq_true_eq])

section Runs

variable (newCrypto : NewCrypto) (capacity : Nat) (id : Fin maxGroups) {session : GroupSession}

def receiveStep (event : EventOf newCrypto session) (st : Reception) : Checked Reception :=
  match event with
  | .frame frame => do
      let (response, multicast, dl) ← st.multicast.handleRx newCrypto capacity st.dl frame.bytes
      let delivered := match response with
        | .downlinkReceived group fcnt =>
            if group = id then st.delivered ++ [fcnt] else st.delivered
        | _ => st.delivered
      return { multicast, dl, delivered }
  | .take => .ok { st with dl := st.dl.dropLast }

/-- The handler answers that it received the downlink of this counter, and its data are in
the queue. -/
def Delivers (frame : FrameOf newCrypto session) (c : UInt32) (st : Reception) : Prop :=
  ∃ multicast, st.multicast.handleRx newCrypto capacity st.dl frame.bytes =
    .ok (.downlinkReceived id c, multicast,
      st.dl ++ (carried newCrypto session frame.bytes c).toList)

/-- The handler answers no downlink of the group, and puts nothing in the queue unless it
answers one of another group. -/
def Withholds (frame : FrameOf newCrypto session) (st : Reception) : Prop :=
  ∃ response multicast dl, st.multicast.handleRx newCrypto capacity st.dl frame.bytes =
      .ok (response, multicast, dl) ∧
    (∀ fcnt, response ≠ .downlinkReceived id fcnt) ∧
    ((∀ group fcnt, response ≠ .downlinkReceived group fcnt) → dl = st.dl)

/-- The frame is delivered if its counter is due, and is withheld otherwise. -/
def Lawful (low high : UInt32) (event : EventOf newCrypto session) (st : Reception) : Prop :=
  match event with
  | .frame frame =>
      (∀ c, frame.counter = some c → Due low high c st.delivered →
        Delivers newCrypto capacity id frame c st) ∧
      ((∀ c, frame.counter = some c → ¬ Due low high c st.delivered) →
        Withholds newCrypto capacity id frame st)
  | .take => True

end Runs

def heldCounter (addr : McAddr) (st : Reception) : Option UInt32 :=
  (st.multicast.matchingSession addr).map fun found => found.2.fcntDown

/-- When the handler treats a counter by the range: a due one fits the 16 bits of the frame
and is not a nonzero first of the range; 0 comes only first; none is beyond the range; and
none but 0 is due once the end of the range was received. -/
structure CounterInTurn (low high : UInt32) (addr : McAddr) (st : Reception) (c : UInt32) :
    Prop where
  narrow : Due low high c st.delivered → c.toNat < 65536
  first : st.delivered = [] → c = low → c < high → c = 0
  zero : c = 0 → high ≠ 0 → low = 0 ∧ st.delivered = []
  below : ∀ held, heldCounter addr st = some held → held < c → c.toNat < 65536 → c ≤ high
  alive : heldCounter addr st = some high → c ≠ 0 → ¬ Due low high c st.delivered

instance (low high : UInt32) (addr : McAddr) (st : Reception) (c : UInt32) :
    Decidable (CounterInTurn low high addr st c) :=
  decidable_of_iff
    ((Due low high c st.delivered → c.toNat < 65536) ∧
      (st.delivered = [] → c = low → c < high → c = 0) ∧
      (c = 0 → high ≠ 0 → low = 0 ∧ st.delivered = []) ∧
      (heldCounter addr st).all (fun held => held < c → c.toNat < 65536 → c ≤ high) = true ∧
      (heldCounter addr st = some high → c ≠ 0 → ¬ Due low high c st.delivered))
    (by
      simp only [Option.all_eq_true, decide_eq_true_eq]
      exact ⟨fun ⟨narrow, first, zero, below, alive⟩ => ⟨narrow, first, zero, below, alive⟩,
        fun turn => ⟨turn.narrow, turn.first, turn.zero, turn.below, turn.alive⟩⟩)

/-- Every counter that is received is in turn, and a due one finds room in the queue for its
data. -/
def InTurn (newCrypto : NewCrypto) (capacity : Nat) {session : GroupSession} (low high : UInt32)
    (event : EventOf newCrypto session) (st : Reception) : Prop :=
  match event with
  | .frame frame => ∀ c, frame.counter = some c →
      CounterInTurn low high session.multicastAddr st c ∧
      (Due low high c st.delivered → ∀ downlink,
        carried newCrypto session frame.bytes c = some downlink → st.dl.length < capacity)
  | .take => True

/-- The condition by evaluation, with room for any data. -/
def inTurnBy (capacity : Nat) {newCrypto : NewCrypto} {session : GroupSession} (low high : UInt32)
    (event : EventOf newCrypto session) (st : Reception) : Bool :=
  match event with
  | .frame frame => frame.counter.all fun c =>
      decide (CounterInTurn low high session.multicastAddr st c) &&
        decide (Due low high c st.delivered → st.dl.length < capacity)
  | .take => true

theorem inTurn_of_inTurnBy {newCrypto : NewCrypto} {capacity : Nat} {session : GroupSession}
    {low high : UInt32} (event : EventOf newCrypto session) (st : Reception)
    (passed : inTurnBy capacity low high event st = true) :
    InTurn newCrypto capacity low high event st := by
  cases event with
  | take => trivial
  | frame frame =>
      intro c counter
      simp only [inTurnBy, counter, Option.all_some, Bool.and_eq_true, decide_eq_true_eq] at passed
      exact ⟨passed.1, fun due _ _ => passed.2 due⟩

/-! ## The state of the session over a run -/

/-- Where the held counter stands: at the start of the range, at a delivered counter, or at
the end of the range. -/
inductive Standing (low high held : UInt32) (delivered : List UInt32) : Prop where
  | fresh (none : delivered = []) (start : held = low)
  | going (inside : held ∈ delivered) (last : ∀ earlier ∈ delivered, earlier ≤ held)
  | expired (last : held = high)

/-- The group's session is the one set up, but for its counter. -/
structure Tracks (id : Fin maxGroups) (session : GroupSession) (low high : UInt32)
    (st : Reception) : Prop where
  found : ∃ held, st.multicast.matchingSession session.multicastAddr =
    some (id, { session with fcntDown := held }) ∧ Standing low high held st.delivered
  increasing : st.delivered.Pairwise fun earlier later => earlier < later
  inRange : ∀ c ∈ st.delivered, low ≤ c ∧ c < high

section Steps

variable {newCrypto : NewCrypto} {capacity : Nat} {id : Fin maxGroups} {session : GroupSession}
variable {low high : UInt32}

/-- The handler takes the frame at its counter. -/
def Accepts (held : UInt32) (frame : FrameOf newCrypto session) (c : UInt32) : Prop :=
  frame.counter = some c ∧ c.toNat < 65536 ∧ (held < c ∨ c = 0)

theorem wire_eq_iff (c : UInt32) : c.toUInt16.toUInt32 = c ↔ c.toNat < 65536 := by
  rw [← UInt32.toNat_inj]
  simp only [UInt16.toNat_toUInt32, UInt32.toNat_toUInt16]
  omega

/-- Taken frames are those whose counter the handler accepts. -/
theorem takes_iff {held : UInt32} {data : EncryptedDataPayload}
    (frame : FrameOf newCrypto session) (parsed : data.bytes = frame.bytes)
    (addressed : data.fhdr.mcAddr = session.multicastAddr) :
    Takes newCrypto { session with fcntDown := held } data ↔
      Accepts held frame data.fhdr.fcnt.toUInt32 := by
  have small := data.fhdr.fcnt.toNat_lt
  rw [Takes, Accepts, frame.ideal data parsed addressed]
  simp only [UInt16.toNat_toUInt32]
  constructor
  · rintro ⟨counter, fresh⟩
    exact ⟨counter, by omega, fresh⟩
  · rintro ⟨counter, _, fresh⟩
    exact ⟨counter, fresh⟩

theorem accepts_wire {held c : UInt32} {frame : FrameOf newCrypto session}
    (accepts : Accepts held frame c) :
    ∃ data : EncryptedDataPayload, data.bytes = frame.bytes ∧
      data.fhdr.mcAddr = session.multicastAddr ∧ data.fhdr.fcnt.toUInt32 = c := by
  obtain ⟨counter, small, _⟩ := accepts
  obtain ⟨data, parsed, addressed, wire⟩ := frame.sent c counter
  refine ⟨data, parsed, addressed, ?_⟩
  rw [wire]
  exact (wire_eq_iff c).mpr small

theorem not_accepts_of_other {held : UInt32} {data : EncryptedDataPayload}
    {frame : FrameOf newCrypto session} (parsed : data.bytes = frame.bytes)
    (other : data.fhdr.mcAddr ≠ session.multicastAddr) (c : UInt32) : ¬ Accepts held frame c := by
  intro accepts
  obtain ⟨found, same, addressed, _⟩ := accepts_wire accepts
  have views : found.toDataView = data.toDataView :=
    DataView.ext_bytes (same.trans parsed.symm)
  have addresses : found.fhdr.mcAddr = data.fhdr.mcAddr := by rw [views]
  exact other (addresses.symm.trans addressed)

theorem accepts_unique {held c : UInt32} {data : EncryptedDataPayload}
    {frame : FrameOf newCrypto session} (parsed : data.bytes = frame.bytes)
    (accepts : Accepts held frame c) : c = data.fhdr.fcnt.toUInt32 := by
  obtain ⟨found, same, _, wire⟩ := accepts_wire accepts
  have views : found.toDataView = data.toDataView :=
    DataView.ext_bytes (same.trans parsed.symm)
  rw [← wire, views]

/-- The answer to a frame, the lookup of the session after it and the queue. -/
inductive Handled (capacity : Nat) (id : Fin maxGroups) (session : GroupSession) (held : UInt32)
    (frame : FrameOf newCrypto session) (dl : List Downlink) (next : Multicast) :
    Response → List Downlink → Prop where
  | ignored (response : Response) (left : List Downlink)
      (silent : ∀ fcnt, response ≠ .downlinkReceived id fcnt)
      (refused : ∀ c, ¬ Accepts held frame c)
      (kept : (∀ group fcnt, response ≠ .downlinkReceived group fcnt) → left = dl)
      (found : next.matchingSession session.multicastAddr =
        some (id, { session with fcntDown := held })) :
      Handled capacity id session held frame dl next response left
  | expired (accepts : Accepts held frame session.maxFcntDown)
      (found : next.matchingSession session.multicastAddr =
        some (id, { session with fcntDown := session.maxFcntDown })) :
      Handled capacity id session held frame dl next (.sessionExpired id) dl
  | delivered (c : UInt32) (accepts : Accepts held frame c) (going : c ≠ session.maxFcntDown)
      (found : next.matchingSession session.multicastAddr =
        some (id, { session with fcntDown := c })) :
      Handled capacity id session held frame dl next (.downlinkReceived id c)
        (queued capacity dl (carried newCrypto session frame.bytes c))

/-- The session of another address is another group's, and moving its counter leaves the
lookup of this one. -/
theorem matchingSession_other {multicast : Multicast} {held : UInt32} {addr : McAddr}
    {group : Fin maxGroups} {other : GroupSession}
    (found : multicast.matchingSession session.multicastAddr =
      some (id, { session with fcntDown := held }))
    (foundOther : multicast.matchingSession addr = some (group, other))
    (apart : addr ≠ session.multicastAddr) (fcnt : UInt32) :
    group ≠ id ∧
      { multicast with
          sessions := multicast.sessions.set group (some { other with fcntDown := fcnt }) group.isLt
        }.matchingSession session.multicastAddr =
        some (id, { session with fcntDown := held }) := by
  obtain ⟨heldEq, _⟩ := matchingSession_eq_some found
  obtain ⟨otherEq, address⟩ := matchingSession_eq_some foundOther
  have different : group ≠ id := by
    intro same
    subst same
    cases heldEq.symm.trans otherEq
    exact apart address.symm
  refine ⟨different, ?_⟩
  rw [matchingSession_set otherEq, found, Option.map_some, if_neg (Ne.symm different)]

theorem handleRx_handled {multicast next : Multicast} {dl left : List Downlink}
    {held : UInt32} {frame : FrameOf newCrypto session} {response : Response}
    (found : multicast.matchingSession session.multicastAddr =
      some (id, { session with fcntDown := held }))
    (ran : multicast.handleRx newCrypto capacity dl frame.bytes = .ok (response, next, left)) :
    Handled capacity id session held frame dl next response left := by
  have silent : ∀ fcnt, Response.noUpdate ≠ .downlinkReceived id fcnt := by
    intro fcnt same
    cases same
  cases handleRx_outcome ran with
  | unparsed e malformed =>
      refine .ignored _ _ silent ?_ (fun _ => rfl) found
      intro c accepts
      obtain ⟨data, parsed, _⟩ := accepts_wire accepts
      rw [(EncryptedDataPayload.parse_eq_ok_iff _ data).mpr parsed] at malformed
      cases malformed
  | unknown data parsed missing =>
      refine .ignored _ _ silent (not_accepts_of_other parsed ?_) (fun _ => rfl) found
      intro same
      rw [same, found] at missing
      cases missing
  | refused data parsed group other foundOther bad =>
      by_cases same : data.fhdr.mcAddr = session.multicastAddr
      · rw [same, found] at foundOther
        cases foundOther
        rw [takes_iff frame parsed same] at bad
        refine .ignored _ _ silent ?_ (fun _ => rfl) found
        intro c accepts
        rw [accepts_unique parsed accepts] at accepts
        exact bad accepts
      · exact .ignored _ _ silent (not_accepts_of_other parsed same) (fun _ => rfl) found
  | expired data parsed group other foundOther good last =>
      by_cases same : data.fhdr.mcAddr = session.multicastAddr
      · rw [same, found] at foundOther
        cases foundOther
        rw [takes_iff frame parsed same] at good
        simp only at last
        refine .expired (last ▸ good) ?_
        rw [last, matchingSession_set (matchingSession_eq_some found).1, found, Option.map_some,
          if_pos rfl]
      · have moved := matchingSession_other found foundOther same data.fhdr.fcnt.toUInt32
        refine .ignored _ _ ?_ (not_accepts_of_other parsed same) (fun _ => rfl) moved.2
        intro fcnt equal
        cases equal
  | delivered data parsed group other foundOther good going =>
      by_cases same : data.fhdr.mcAddr = session.multicastAddr
      · rw [same, found] at foundOther
        cases foundOther
        rw [takes_iff frame parsed same] at good
        refine .delivered _ good going ?_
        rw [matchingSession_set (matchingSession_eq_some found).1, found, Option.map_some,
          if_pos rfl]
      · have moved := matchingSession_other found foundOther same data.fhdr.fcnt.toUInt32
        refine .ignored _ _ ?_ (not_accepts_of_other parsed same) ?_ moved.2
        · intro fcnt equal
          cases equal
          exact moved.1 rfl
        · intro unanswered
          exact absurd rfl (unanswered group _)

/-- A frame is delivered if it is accepted at a counter that is not the end of the range, and
the queue has room for its data. -/
theorem delivers_iff {st : Reception} {held c : UInt32} {frame : FrameOf newCrypto session}
    (found : st.multicast.matchingSession session.multicastAddr =
      some (id, { session with fcntDown := held })) :
    Delivers newCrypto capacity id frame c st ↔
      (Accepts held frame c ∧ c ≠ session.maxFcntDown) ∧
        ∀ downlink, carried newCrypto session frame.bytes c = some downlink →
          st.dl.length < capacity := by
  obtain ⟨⟨response, next, left⟩, ran⟩ :=
    Session.multicastHandleRx_returns newCrypto capacity st.multicast st.dl frame.short
  have answered : Delivers newCrypto capacity id frame c st ↔
      response = .downlinkReceived id c ∧
        left = st.dl ++ (carried newCrypto session frame.bytes c).toList := by
    constructor
    · rintro ⟨multicast, other⟩
      cases ran.symm.trans other
      exact ⟨rfl, rfl⟩
    · rintro ⟨rfl, rfl⟩
      exact ⟨next, ran⟩
  rw [answered]
  cases handleRx_handled found ran with
  | ignored _ _ silent refused kept moved =>
      constructor
      · rintro ⟨same, _⟩
        exact absurd same (silent c)
      · rintro ⟨⟨accepts, _⟩, _⟩
        exact absurd accepts (refused c)
  | expired accepts moved =>
      constructor
      · rintro ⟨same, _⟩
        cases same
      · rintro ⟨⟨other, going⟩, _⟩
        exact absurd (Option.some.inj (other.1.symm.trans accepts.1)) going
  | delivered d accepts going moved =>
      rw [← queued_eq_append_iff]
      constructor
      · rintro ⟨same, kept⟩
        cases same
        exact ⟨⟨accepts, going⟩, kept⟩
      · rintro ⟨⟨other, _⟩, kept⟩
        cases other.1.symm.trans accepts.1
        exact ⟨rfl, kept⟩

/-- A frame is withheld if it is accepted at no other counter than the end of the range. -/
theorem withholds_iff {st : Reception} {held : UInt32} {frame : FrameOf newCrypto session}
    (found : st.multicast.matchingSession session.multicastAddr =
      some (id, { session with fcntDown := held })) :
    Withholds newCrypto capacity id frame st ↔
      ∀ c, Accepts held frame c → c = session.maxFcntDown := by
  obtain ⟨⟨response, next, left⟩, ran⟩ :=
    Session.multicastHandleRx_returns newCrypto capacity st.multicast st.dl frame.short
  have answered : Withholds newCrypto capacity id frame st ↔
      (∀ fcnt, response ≠ .downlinkReceived id fcnt) ∧
        ((∀ group fcnt, response ≠ .downlinkReceived group fcnt) → left = st.dl) := by
    constructor
    · rintro ⟨other, multicast, dl, same, silent, kept⟩
      cases ran.symm.trans same
      exact ⟨silent, kept⟩
    · rintro ⟨silent, kept⟩
      exact ⟨response, next, left, ran, silent, kept⟩
  rw [answered]
  cases handleRx_handled found ran with
  | ignored _ _ silent refused kept moved =>
      exact iff_of_true ⟨silent, kept⟩ fun c accepts => absurd accepts (refused c)
  | expired accepts moved =>
      refine iff_of_true ⟨?_, fun _ => rfl⟩ ?_
      · intro fcnt same
        cases same
      · intro c other
        exact Option.some.inj (other.1.symm.trans accepts.1)
  | delivered c accepts going moved =>
      constructor
      · rintro ⟨silent, _⟩
        exact absurd rfl (silent c)
      · intro only
        exact absurd (only c accepts) going

/-! ## The law of delivery -/

/-- The counter is taken by a session that holds `held`, short of the end of the range. -/
def Taken (held high c : UInt32) : Prop :=
  c.toNat < 65536 ∧ (held < c ∨ c = 0) ∧ c ≠ high

theorem standing_below {held : UInt32} {delivered : List UInt32}
    (standing : Standing low high held delivered) (alive : held ≠ high)
    (inRange : ∀ c ∈ delivered, low ≤ c ∧ c < high) :
    low ≤ held ∧ ∀ earlier ∈ delivered, earlier ≤ held := by
  cases standing with
  | fresh none start =>
      subst none start
      exact ⟨UInt32.le_refl _, fun earlier inside => by cases inside⟩
  | going inside last => exact ⟨(inRange held inside).1, last⟩
  | expired last => exact absurd last alive

/-- Of the counters due in a fresh session only 0 is at the start of the range and taken. -/
theorem zero_of_first_taken {held c : UInt32} (standing : Standing low high held [])
    (taken : Taken held high c) (start : c = low) (inside : c < high) : c = 0 := by
  rcases taken.2.1 with above | zero
  · exfalso
    cases standing with
    | fresh _ fresh =>
        rw [start, fresh] at above
        exact UInt32.lt_irrefl _ above
    | going listed _ => cases listed
    | expired last =>
        rw [last] at above
        exact UInt32.lt_irrefl _ (UInt32.lt_trans above inside)
  · exact zero

/-- The counter 0 is due only at the start of the range and before all others. -/
theorem first_of_zero_due {delivered : List UInt32} (due : Due low high 0 delivered) :
    low = 0 ∧ delivered = [] := by
  obtain ⟨start, _, above⟩ := due
  constructor
  · rw [UInt32.le_iff_toNat_le] at start
    rw [← UInt32.toNat_inj]
    exact Nat.le_zero.mp start
  · apply List.eq_nil_iff_forall_not_mem.mpr
    intro earlier listed
    have below := above earlier listed
    rw [UInt32.lt_iff_toNat_lt] at below
    exact Nat.not_lt_zero _ below

section Counters

variable {addr : McAddr} {st : Reception} {held c : UInt32}

theorem counterInTurn_of_iff (holds : heldCounter addr st = some held)
    (standing : Standing low high held st.delivered)
    (law : Taken held high c ↔ Due low high c st.delivered) :
    CounterInTurn low high addr st c := by
  refine ⟨?_, ?_, ?_, ?_, ?_⟩
  · intro due
    exact (law.mpr due).1
  · intro none start inside
    rw [none] at standing law
    have due : Due low high c [] :=
      ⟨by rw [start]; exact UInt32.le_refl _, inside, fun earlier listed => by cases listed⟩
    exact zero_of_first_taken standing (law.mpr due) start inside
  · intro zero nonempty
    subst zero
    exact first_of_zero_due (law.mp ⟨by decide, .inr rfl, Ne.symm nonempty⟩)
  · intro other same above small
    cases holds.symm.trans same
    by_cases last : c = high
    · rw [last]
      exact UInt32.le_refl _
    · exact UInt32.le_of_lt (law.mp ⟨small, .inl above, last⟩).2.1
  · intro last nonzero due
    cases holds.symm.trans last
    rcases (law.mpr due).2.1 with above | zero
    · exact UInt32.lt_irrefl _ (UInt32.lt_trans above due.2.1)
    · exact nonzero zero

theorem due_of_taken (holds : heldCounter addr st = some held)
    (standing : Standing low high held st.delivered)
    (inRange : ∀ c ∈ st.delivered, low ≤ c ∧ c < high) (turn : CounterInTurn low high addr st c)
    (taken : Taken held high c) : Due low high c st.delivered := by
  obtain ⟨small, above | zero, going⟩ := taken
  · have inside := turn.below held holds above small
    have alive : held ≠ high := by
      intro last
      rw [last, UInt32.lt_iff_toNat_lt] at above
      rw [UInt32.le_iff_toNat_le] at inside
      omega
    obtain ⟨atLeast, most⟩ := standing_below standing alive inRange
    refine ⟨UInt32.le_of_lt (UInt32.lt_of_le_of_lt atLeast above),
      UInt32.lt_of_le_of_ne inside going, ?_⟩
    intro earlier listed
    exact UInt32.lt_of_le_of_lt (most earlier listed) above
  · subst zero
    obtain ⟨start, none⟩ := turn.zero rfl (Ne.symm going)
    rw [start, none]
    exact ⟨UInt32.le_refl _, UInt32.lt_of_le_of_ne UInt32.zero_le going,
      fun earlier listed => by cases listed⟩

theorem taken_of_due (holds : heldCounter addr st = some held)
    (standing : Standing low high held st.delivered) (turn : CounterInTurn low high addr st c)
    (due : Due low high c st.delivered) : Taken held high c := by
  refine ⟨turn.narrow due, ?_, UInt32.ne_of_lt due.2.1⟩
  by_cases zero : c = 0
  · exact .inr zero
  · left
    cases standing with
    | fresh none start =>
        apply UInt32.lt_of_le_of_ne (start ▸ due.1)
        intro same
        exact zero (turn.first none (same.symm.trans start) due.2.1)
    | going listed last => exact due.2.2 held listed
    | expired last => exact absurd due (turn.alive (last ▸ holds) zero)

end Counters

theorem lawful_iff_inTurn {st : Reception} (event : EventOf newCrypto session)
    (tracks : Tracks id session low session.maxFcntDown st) :
    Lawful newCrypto capacity id low session.maxFcntDown event st ↔
      InTurn newCrypto capacity low session.maxFcntDown event st := by
  cases event with
  | take => exact Iff.rfl
  | frame frame =>
      obtain ⟨held, found, standing⟩ := tracks.found
      have holds : heldCounter session.multicastAddr st = some held := by
        rw [heldCounter, found]
        rfl
      simp only [Lawful, InTurn, delivers_iff found, withholds_iff found]
      cases counter : frame.counter with
      | none =>
          -- A forged frame is accepted at no counter.
          refine iff_of_true ⟨?_, ?_⟩ ?_
          · intro c given
            cases given
          · intro _ c accepts
            cases counter.symm.trans accepts.1
          · intro c given
            cases given
      | some c =>
          have accepted : ∀ other, (Accepts held frame other ∧ other ≠ session.maxFcntDown) ↔
              other = c ∧ Taken held session.maxFcntDown c := by
            intro other
            constructor
            · rintro ⟨⟨given, small, taken⟩, going⟩
              cases counter.symm.trans given
              exact ⟨rfl, small, taken, going⟩
            · rintro ⟨rfl, small, taken, going⟩
              exact ⟨⟨counter, small, taken⟩, going⟩
          have withheld : (∀ other, Accepts held frame other → other = session.maxFcntDown) ↔
              ¬ Taken held session.maxFcntDown c := by
            constructor
            · intro only taken
              obtain ⟨accepts, going⟩ := (accepted c).mpr ⟨rfl, taken⟩
              exact going (only c accepts)
            · intro refused other accepts
              by_contra going
              exact refused ((accepted other).mp ⟨accepts, going⟩).2
          simp only [accepted, withheld, Option.some.injEq, forall_eq', true_and]
          constructor
          · rintro ⟨due, spare⟩
            refine ⟨counterInTurn_of_iff holds standing ⟨?_, fun held => (due held).1⟩,
              fun held => (due held).2⟩
            intro taken
            by_contra early
            exact spare early taken
          · rintro ⟨turn, room⟩
            refine ⟨fun due => ⟨taken_of_due holds standing turn due, room due⟩, ?_⟩
            intro early taken
            exact early (due_of_taken holds standing tracks.inRange turn taken)

theorem Tracks.deliver {st : Reception} {next : Multicast} {dl : List Downlink} {c : UInt32}
    (tracks : Tracks id session low session.maxFcntDown st)
    (due : Due low session.maxFcntDown c st.delivered)
    (kept : next.matchingSession session.multicastAddr =
      some (id, { session with fcntDown := c })) :
    Tracks id session low session.maxFcntDown ⟨next, dl, st.delivered ++ [c]⟩ := by
  refine ⟨⟨c, kept, .going ?_ ?_⟩, ?_, ?_⟩
  · exact List.mem_append_right _ (List.mem_singleton_self c)
  · intro earlier listed
    rcases List.mem_append.mp listed with old | new
    · exact UInt32.le_of_lt (due.2.2 earlier old)
    · rw [List.mem_singleton.mp new]
      exact UInt32.le_refl _
  · rw [List.pairwise_append]
    refine ⟨tracks.increasing, List.pairwise_singleton _ _, ?_⟩
    intro earlier old later new
    rw [List.mem_singleton.mp new]
    exact due.2.2 earlier old
  · intro earlier listed
    rcases List.mem_append.mp listed with old | new
    · exact tracks.inRange earlier old
    · rw [List.mem_singleton.mp new]
      exact ⟨due.1, due.2.1⟩

theorem receiveStep_keeps_tracks {event : EventOf newCrypto session} {st next : Reception}
    (turn : InTurn newCrypto capacity low session.maxFcntDown event st)
    (tracks : Tracks id session low session.maxFcntDown st)
    (stepped : receiveStep newCrypto capacity id event st = .ok next) :
    Tracks id session low session.maxFcntDown next := by
  obtain ⟨held, found, standing⟩ := tracks.found
  cases event with
  | take =>
      cases stepped
      exact ⟨⟨held, found, standing⟩, tracks.increasing, tracks.inRange⟩
  | frame frame =>
      obtain ⟨⟨response, multicast, dl⟩, ran, stepped⟩ := Checked.bind_eq_ok_iff.mp stepped
      cases stepped
      have same : ∀ delivered, delivered = st.delivered → ∀ moved,
          multicast.matchingSession session.multicastAddr =
            some (id, { session with fcntDown := moved }) →
          Standing low session.maxFcntDown moved st.delivered →
          Tracks id session low session.maxFcntDown ⟨multicast, dl, delivered⟩ := by
        rintro delivered rfl moved kept stands
        exact ⟨⟨moved, kept, stands⟩, tracks.increasing, tracks.inRange⟩
      cases handleRx_handled found ran with
      | ignored _ _ silent refused queue kept =>
          refine same _ ?_ held kept standing
          split
          · rename_i group fcnt
            split
            · rename_i equal
              subst equal
              exact absurd rfl (silent fcnt)
            · rfl
          · rfl
      | expired accepts kept => exact same _ rfl session.maxFcntDown kept (.expired rfl)
      | delivered c accepts going kept =>
          have holds : heldCounter session.multicastAddr st = some held := by
            rw [heldCounter, found]
            rfl
          have due := due_of_taken holds standing tracks.inRange (turn c accepts.1).1
            ⟨accepts.2.1, accepts.2.2, going⟩
          simp only [if_true]
          exact tracks.deliver due kept

end Steps

/-- A session set up with a range treats every frame of a run by that range exactly if every
frame is in turn; then the delivered counters increase within the range. -/
theorem multicast_delivery_lawful_iff (newCrypto : NewCrypto) (capacity : Nat) (key : McKEKey)
    (payload : McGroupSetupReqPayload) (multicast : Multicast) (dl : List Downlink)
    (setUp : multicast.matchingSession payload.mcAddr =
      some (payload.deriveSession newCrypto (newCrypto key.inner)))
    (events : List (EventOf newCrypto
      (payload.deriveSession newCrypto (newCrypto key.inner)).2)) :
    (Transition.Guarded (receiveStep newCrypto capacity payload.mcGroupIdHeader)
        (Lawful newCrypto capacity payload.mcGroupIdHeader payload.minMcFcount
          payload.maxMcFcount) events ⟨multicast, dl, []⟩ ↔
      Transition.Guarded (receiveStep newCrypto capacity payload.mcGroupIdHeader)
        (InTurn newCrypto capacity payload.minMcFcount payload.maxMcFcount) events
        ⟨multicast, dl, []⟩) ∧
    (Transition.Guarded (receiveStep newCrypto capacity payload.mcGroupIdHeader)
        (InTurn newCrypto capacity payload.minMcFcount payload.maxMcFcount) events
        ⟨multicast, dl, []⟩ →
      ∀ final, Transition.run (receiveStep newCrypto capacity payload.mcGroupIdHeader) events
          ⟨multicast, dl, []⟩ = .ok final →
        (final.delivered.Pairwise fun earlier later => earlier < later) ∧
        ∀ c ∈ final.delivered, payload.minMcFcount ≤ c ∧ c < payload.maxMcFcount) := by
  have begins : Tracks payload.mcGroupIdHeader
      (payload.deriveSession newCrypto (newCrypto key.inner)).2 payload.minMcFcount
      payload.maxMcFcount ⟨multicast, dl, []⟩ :=
    ⟨⟨payload.minMcFcount, setUp, .fresh rfl rfl⟩, List.Pairwise.nil,
      fun c listed => by cases listed⟩
  refine ⟨?_, ?_⟩
  · refine Transition.guarded_congr_of_invariant
      (Tracks payload.mcGroupIdHeader (payload.deriveSession newCrypto (newCrypto key.inner)).2
        payload.minMcFcount payload.maxMcFcount) ?_ ?_ events _ begins
    · intro event st tracks
      exact lawful_iff_inTurn event tracks
    · intro event st next turn tracks stepped
      exact receiveStep_keeps_tracks turn tracks stepped
  · intro guarded final ran
    have tracks := Transition.guarded_run_preserves
      (Tracks payload.mcGroupIdHeader (payload.deriveSession newCrypto (newCrypto key.inner)).2
        payload.minMcFcount payload.maxMcFcount)
      (fun event st next turn before stepped => receiveStep_keeps_tracks turn before stepped)
      events _ final guarded begins ran
    exact ⟨tracks.increasing, tracks.inRange⟩

/-! ## A concrete group -/

namespace Sample

/-- A cipher whose MIC is the counter: as ideal as a MIC can be. -/
def counterCrypto : NewCrypto := fun _ =>
  { encryptBlock := fun block => block
    calculateMic := fun b0 _ => ⟨#v[b0.getD 10 0, b0.getD 11 0, b0.getD 12 0, b0.getD 13 0]⟩ }

/-- The group is set up for the counters from 0 to 99. -/
def setupRequest : McGroupSetupReqPayload :=
  ⟨#v[0, 9, 9, 9, 9, 0, 0, 0, 0, 0, 0, 0, 0, 0, 0, 0, 0, 0, 0, 0, 0, 0, 0, 0, 0, 100, 0, 0, 0]⟩

def mcKEKey : McKEKey := ⟨Vector.replicate 16 0⟩

def groupSession : GroupSession :=
  (setupRequest.deriveSession counterCrypto (counterCrypto mcKEKey.inner)).2

def multicast : Multicast :=
  { Multicast.new with
    sessions := Multicast.new.sessions.set 0 (some groupSession) }

theorem multicast_setUp : multicast.matchingSession setupRequest.mcAddr =
    some (setupRequest.deriveSession counterCrypto (counterCrypto mcKEKey.inner)) := by
  decide +kernel

def groupBytes (c : UInt32) : List Byte :=
  [0x60, 9, 9, 9, 9, 0, SecurityHelpers.fcntByte c 0, SecurityHelpers.fcntByte c 1, 201, 7,
    SecurityHelpers.fcntByte c 0, SecurityHelpers.fcntByte c 1, SecurityHelpers.fcntByte c 2,
    SecurityHelpers.fcntByte c 3]

theorem groupBytes_validateMic {c : UInt32} {data : EncryptedDataPayload}
    (parsed : data.bytes = groupBytes c) (key : AES128) (fcnt : UInt32) :
    data.validateMic (counterCrypto key) fcnt = true ↔ some c = some fcnt := by
  obtain ⟨⟨bytes, layout, valid⟩⟩ := data
  simp only at parsed
  subst parsed
  have macs : EncryptedDataPayload.validateMic ⟨⟨groupBytes c, layout, valid⟩⟩
      (counterCrypto key) fcnt = decide ((⟨#v[SecurityHelpers.fcntByte c 0,
        SecurityHelpers.fcntByte c 1, SecurityHelpers.fcntByte c 2,
        SecurityHelpers.fcntByte c 3]⟩ : MIC) = ⟨#v[SecurityHelpers.fcntByte fcnt 0,
        SecurityHelpers.fcntByte fcnt 1, SecurityHelpers.fcntByte fcnt 2,
        SecurityHelpers.fcntByte fcnt 3]⟩) := rfl
  rw [macs, decide_eq_true_iff]
  constructor
  · intro equal
    have lists := congrArg (fun mic : MIC => mic.bytes.toList) equal
    simp only [Vector.toList_mk, List.cons.injEq, and_true] at lists
    obtain ⟨zero, one, two, three⟩ := lists
    congr 1
    apply SecurityHelpers.fcntByte_injective
    intro k small
    interval_cases k <;> assumption
  · intro equal
    cases equal
    rfl

def groupFrame (c : UInt32)
    (valid : Layout.Validated (groupBytes c) (Layout.place .unconfirmedDown 7 14))
    (wire : (⟨⟨groupBytes c, _, valid⟩⟩ : EncryptedDataPayload).fhdr.fcnt = c.toUInt16) :
    FrameOf counterCrypto groupSession where
  bytes := groupBytes c
  counter := some c
  short := by
    change 14 ≤ 255
    omega
  ideal := fun _ parsed _ fcnt => groupBytes_validateMic parsed _ fcnt
  sent := by
    intro other same
    cases same
    exact ⟨_, rfl, rfl, wire⟩

def firstFrame : FrameOf counterCrypto groupSession :=
  groupFrame 0 ((Layout.validate_eq_ok_iff _ _).mp (by decide)) (by decide +kernel)

def secondFrame : FrameOf counterCrypto groupSession :=
  groupFrame 2 ((Layout.validate_eq_ok_iff _ _).mp (by decide)) (by decide +kernel)

def fifthFrame : FrameOf counterCrypto groupSession :=
  groupFrame 5 ((Layout.validate_eq_ok_iff _ _).mp (by decide)) (by decide +kernel)

/-- Its 16 bits are those of the frame of counter 5. -/
def wideFrame : FrameOf counterCrypto groupSession :=
  groupFrame 65541 ((Layout.validate_eq_ok_iff _ _).mp (by decide)) (by decide +kernel)

theorem noise_malformed : (EncryptedDataPayload.parse [0xE0]).isOk = false := by
  decide +kernel

/-- Not a frame at all. -/
def noise : FrameOf counterCrypto groupSession where
  bytes := [0xE0]
  counter := none
  short := by decide
  ideal := by
    intro data parsed
    have malformed := noise_malformed
    rw [(EncryptedDataPayload.parse_eq_ok_iff _ data).mpr parsed] at malformed
    cases malformed
  sent := by
    intro c same
    cases same

/-- Frames in order, one late, one replayed, one of a counter beyond the range, and noise. -/
def received : List (EventOf counterCrypto groupSession) :=
  [.frame firstFrame, .take, .frame fifthFrame, .frame secondFrame, .frame fifthFrame,
    .frame wideFrame, .frame noise, .take]

end Sample

/-- Range from 0 to 99: the frame of counter 0 is delivered each time it is received. -/
theorem counter_zero_is_replayed :
    ¬ ∀ (newCrypto : NewCrypto) (capacity : Nat) (key : McKEKey)
      (payload : McGroupSetupReqPayload) (multicast : Multicast) (dl : List Downlink),
      multicast.matchingSession payload.mcAddr =
        some (payload.deriveSession newCrypto (newCrypto key.inner)) →
      ∀ events : List (EventOf newCrypto
        (payload.deriveSession newCrypto (newCrypto key.inner)).2),
        Transition.Guarded (receiveStep newCrypto capacity payload.mcGroupIdHeader)
          (Lawful newCrypto capacity payload.mcGroupIdHeader payload.minMcFcount
            payload.maxMcFcount) events ⟨multicast, dl, []⟩ := by
  intro lawful
  have run := lawful Sample.counterCrypto 4 Sample.mcKEKey Sample.setupRequest Sample.multicast []
    Sample.multicast_setUp [.frame Sample.firstFrame, .frame Sample.firstFrame]
  have first : receiveStep Sample.counterCrypto 4 0 (.frame Sample.firstFrame)
      ⟨Sample.multicast, [], []⟩ = .ok ⟨Sample.multicast, [⟨[6], 201⟩], [0]⟩ := by
    decide +kernel
  have second : Sample.multicast.handleRx Sample.counterCrypto 4 [⟨[6], 201⟩]
      Sample.firstFrame.bytes =
      .ok (.downlinkReceived 0 0, Sample.multicast, [⟨[6], 201⟩, ⟨[6], 201⟩]) := by
    decide +kernel
  obtain ⟨_, _, _, ran, silent, _⟩ := (run.2 _ first).1.2 (by
    intro c counter due
    cases counter
    exact absurd (due.2.2 0 (List.mem_singleton_self _)) (UInt32.lt_irrefl 0))
  cases second.symm.trans ran
  exact silent 0 rfl

/-- Two of the frames are delivered through a queue with room for one downlink. -/
theorem multicast_delivery_lawful_iff_sample : ∃ final,
    Transition.run (receiveStep Sample.counterCrypto 1 0) Sample.received
      ⟨Sample.multicast, [], []⟩ = .ok final ∧ final.delivered = [0, 5] ∧
    Transition.Guarded (receiveStep Sample.counterCrypto 1 0)
      (Lawful Sample.counterCrypto 1 0 0 100) Sample.received ⟨Sample.multicast, [], []⟩ ∧
    (final.delivered.Pairwise fun earlier later => earlier < later) ∧
    ∀ c ∈ final.delivered, 0 ≤ c ∧ c < 100 := by
  have ran : (Reception.delivered <$> Transition.run (receiveStep Sample.counterCrypto 1 0)
      Sample.received ⟨Sample.multicast, [], []⟩) = .ok [0, 5] := by
    decide +kernel
  obtain ⟨final, ran, delivered⟩ := Checked.map_eq_ok_iff.mp ran
  have turns : Transition.Guarded (receiveStep Sample.counterCrypto 1 0)
      (InTurn Sample.counterCrypto 1 0 100) Sample.received ⟨Sample.multicast, [], []⟩ :=
    Transition.guarded_of_passes inTurn_of_inTurnBy _ _ (by decide +kernel)
  obtain ⟨exact, ordered⟩ := multicast_delivery_lawful_iff Sample.counterCrypto 1 Sample.mcKEKey
    Sample.setupRequest Sample.multicast [] Sample.multicast_setUp Sample.received
  exact ⟨final, ran, delivered, exact.mpr turns, ordered turns final ran⟩

end Multicast

end LoraRs.Mac
