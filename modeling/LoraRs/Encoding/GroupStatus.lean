import LoraRs.Encoding.Streams
import LoraRs.Lib.Buffers
import LoraRs.Lib.Fields

/-!
# Group status answers

The answer that lists multicast groups under a mask in its own first octet, from
`lorawan-encoding/src/multicast/group_status.rs`: what is pushed comes back from the
stream, and what the constructor of the payload keeps of a byte string.
-/

set_option autoImplicit false

namespace LoraRs.Encoding.Multicast

open LoraRs.Lib LoraRs.Lib.Bytes

/-! ## The payload, read -/

/-- The bytes that a `McGroupStatusAnsPayload` holds. -/
structure McGroupStatusAnsBytes where
  data : List Byte
  deriving DecidableEq

/-- `McGroupStatusItem`. -/
structure McGroupStatusItem where
  data : List Byte
  deriving DecidableEq

namespace McGroupStatusItem

def len : Nat := 5

def mcGroupId (item : McGroupStatusItem) : Checked Byte := byteAt item.data 0

def mcAddr (item : McGroupStatusItem) : Checked McAddr := do
  let octets ← cut item.data 1 5
  let wireBytes ← array 4 octets
  return ⟨wireBytes⟩

end McGroupStatusItem

structure McGroupStatusItemIterator where
  data : List Byte
  pos : Nat
  deriving DecidableEq

namespace McGroupStatusItemIterator

def next (iter : McGroupStatusItemIterator) :
    Checked (Option McGroupStatusItem × McGroupStatusItemIterator) :=
  if iter.pos + McGroupStatusItem.len > iter.data.length then .ok (none, iter)
  else do
    let octets ← cut iter.data iter.pos (iter.pos + McGroupStatusItem.len)
    return (some ⟨octets⟩, { iter with pos := iter.pos + McGroupStatusItem.len })

/-- Iterating to the first `None`, both fields of every item read on the way. -/
inductive Yields : McGroupStatusItemIterator → List (Byte × McAddr) → Prop where
  | ended {iter last : McGroupStatusItemIterator} (stopped : iter.next = .ok (none, last)) :
      Yields iter []
  | item {iter later : McGroupStatusItemIterator} {first : McGroupStatusItem} {id : Byte}
      {addr : McAddr} {rest : List (Byte × McAddr)} (yielded : iter.next = .ok (some first, later))
      (group : first.mcGroupId = .ok id) (address : first.mcAddr = .ok addr)
      (others : Yields later rest) : Yields iter ((id, addr) :: rest)

end McGroupStatusItemIterator

namespace McGroupStatusAnsBytes

inductive Error where
  | bufferTooShort
  deriving DecidableEq, Repr

def new (data : List Byte) : Checked (Except Error McGroupStatusAnsBytes) :=
  if data = [] then .ok (.error .bufferTooShort)
  else do
    let status ← byteAt data 0
    if data.length < requiredLen status then return .error .bufferTooShort
    else
      let kept ← cut data 0 (requiredLen status)
      return .ok ⟨kept⟩

def ansGroupMask (payload : McGroupStatusAnsBytes) : Checked Byte := do
  let status ← byteAt payload.data 0
  return status &&& 0b1111

def nbTotalGroups (payload : McGroupStatusAnsBytes) : Checked Byte := do
  let status ← byteAt payload.data 0
  return (status >>> 4) &&& 0b111

def len (payload : McGroupStatusAnsBytes) : Checked Nat := do
  let status ← byteAt payload.data 0
  return 1 + requiredLen status

def itemIterator (payload : McGroupStatusAnsBytes) : Checked McGroupStatusItemIterator := do
  let items ← cut payload.data 1 payload.data.length
  return ⟨items, 0⟩

/-- What a reader of the payload finds: the groups of the mask, the total and the items. -/
structure Reads (payload : McGroupStatusAnsBytes) (groups : Nat → Prop) (total : Byte)
    (items : List (Byte × McAddr)) : Prop where
  mask : ∃ mask, payload.ansGroupMask = .ok mask ∧ ∀ i, mask.toNat.testBit i = true ↔ groups i
  total : payload.nbTotalGroups = .ok total
  items : ∃ iter, payload.itemIterator = .ok iter ∧ iter.Yields items

end McGroupStatusAnsBytes

/-! ## Items -/

def itemBytes (item : Byte × McAddr) : List Byte := item.1 :: item.2.bytes.toList

@[simp] theorem itemBytes_length (item : Byte × McAddr) : (itemBytes item).length = 5 := by
  rw [itemBytes, List.length_cons, Vector.length_toList]

theorem itemBytes_of_five {octets : List Byte} (five : octets.length = 5) :
    ∃ item, octets = itemBytes item := by
  cases octets with
  | nil => cases five
  | cons id address =>
      have four : address.length = 4 := Nat.succ.inj five
      exact ⟨(id, ⟨arr 4 address four⟩), rfl⟩

theorem flatMap_itemBytes_length (items : List (Byte × McAddr)) :
    (items.flatMap itemBytes).length = 5 * items.length := by
  induction items with
  | nil => rfl
  | cons item rest ih =>
      rw [List.flatMap_cons, List.length_append, itemBytes_length, ih, List.length_cons]
      omega

namespace McGroupStatusItem

theorem mcGroupId_bytes (item : Byte × McAddr) :
    mcGroupId ⟨itemBytes item⟩ = .ok item.1 := byteAt_eq (Nat.succ_pos _)

theorem mcAddr_bytes (item : Byte × McAddr) : mcAddr ⟨itemBytes item⟩ = .ok item.2 := by
  have inside : 1 ≤ 5 ∧ 5 ≤ (itemBytes item).length := by
    rw [itemBytes_length]
    decide
  have parts : itemBytes item = [item.1] ++ item.2.bytes.toList ++ [] := (List.append_nil _).symm
  have last : 5 = ([item.1] ++ item.2.bytes.toList).length := by
    rw [List.length_append, Vector.length_toList]
    rfl
  have octets : slice (itemBytes item) 1 5 inside = item.2.bytes.toList :=
    slice_eq parts rfl last inside
  rw [mcAddr, cut_eq inside, Checked.ok_bind, octets, array_eq item.2.bytes.length_toList,
    Checked.ok_bind, arr_of_toList]
  rfl

end McGroupStatusItem

namespace McGroupStatusItemIterator

theorem next_item {front : List Byte} {pos : Nat} (place : pos = front.length)
    (item : Byte × McAddr) (after : List Byte) :
    next ⟨front ++ itemBytes item ++ after, pos⟩ =
      .ok (some ⟨itemBytes item⟩, ⟨front ++ itemBytes item ++ after, pos + 5⟩) := by
  subst place
  have size : (front ++ itemBytes item ++ after).length = front.length + 5 + after.length := by
    rw [List.length_append, List.length_append, itemBytes_length]
  have inside : front.length ≤ front.length + 5 ∧
      front.length + 5 ≤ (front ++ itemBytes item ++ after).length := by
    rw [size]
    omega
  have octets : slice (front ++ itemBytes item ++ after) front.length (front.length + 5) inside =
      itemBytes item := by
    apply slice_eq rfl rfl
    rw [List.length_append, itemBytes_length]
  refine (if_neg (Nat.not_lt.mpr inside.2)).trans ?_
  change (cut _ front.length (front.length + 5) >>= _) = _
  rw [cut_eq inside, Checked.ok_bind, octets]
  rfl

theorem next_end {data : List Byte} {pos : Nat} (short : data.length < pos + 5) :
    next ⟨data, pos⟩ = .ok (none, ⟨data, pos⟩) := if_pos short

/-- An item is yielded where there is room for it, and the iterator moves past it. -/
theorem next_cases {iter later : McGroupStatusItemIterator} {found : Option McGroupStatusItem}
    (success : iter.next = .ok (found, later)) :
    (found = none ∧ iter.data.length < iter.pos + 5) ∨
      (found.isSome ∧ iter.pos + 5 ≤ iter.data.length ∧
        later = { iter with pos := iter.pos + 5 }) := by
  by_cases short : iter.data.length < iter.pos + 5
  · have ended : iter.pos + McGroupStatusItem.len > iter.data.length := short
    rw [next, if_pos ended] at success
    cases success
    exact .inl ⟨rfl, short⟩
  · have stays : ¬ iter.pos + McGroupStatusItem.len > iter.data.length := short
    rw [next, if_neg stays] at success
    obtain ⟨octets, _, success⟩ := Checked.bind_eq_ok_iff.mp success
    cases success
    exact .inr ⟨rfl, Nat.le_of_not_lt short, rfl⟩

theorem Yields.length_eq {iter : McGroupStatusItemIterator} {items : List (Byte × McAddr)}
    (yields : iter.Yields items) : items.length = (iter.data.length - iter.pos) / 5 := by
  induction yields with
  | ended stopped =>
      rcases next_cases stopped with ⟨_, short⟩ | ⟨found, _, _⟩
      · rw [List.length_nil, Nat.div_eq_of_lt (by omega)]
      · cases found
  | item yielded group address others ih =>
      rcases next_cases yielded with ⟨absent, _⟩ | ⟨_, room, rfl⟩
      · cases absent
      · rw [List.length_cons, ih]
        simp only
        omega

/-- From any place on the iteration ends, and panics nowhere. -/
theorem yields_some (iter : McGroupStatusItemIterator) : ∃ items, iter.Yields items := by
  obtain ⟨data, pos⟩ := iter
  induction size : data.length - pos using Nat.strong_induction_on generalizing pos with
  | _ left ih =>
      by_cases ended : data.length < pos + 5
      · exact ⟨[], .ended (next_end ended)⟩
      · have five : ((data.drop pos).take 5).length = 5 := by
          rw [List.length_take, List.length_drop]
          omega
        have shorter : data.length - (pos + 5) < left := by omega
        obtain ⟨item, octets⟩ := itemBytes_of_five five
        have parts : data = data.take pos ++ itemBytes item ++ (data.drop pos).drop 5 := by
          rw [← octets, List.append_assoc, List.take_append_drop, List.take_append_drop]
        have place : pos = (data.take pos).length := by
          rw [List.length_take]
          omega
        have yielded := next_item place item ((data.drop pos).drop 5)
        rw [← parts] at yielded
        obtain ⟨rest, others⟩ := ih _ shorter (pos + 5) rfl
        exact ⟨item :: rest, .item yielded (McGroupStatusItem.mcGroupId_bytes item)
          (McGroupStatusItem.mcAddr_bytes item) others⟩

/-- Items written one after the other come back in their order. -/
theorem yields_items (items : List (Byte × McAddr)) (front : List Byte) :
    Yields ⟨front ++ items.flatMap itemBytes, front.length⟩ items := by
  induction items generalizing front with
  | nil =>
      have short : (front ++ [].flatMap itemBytes).length < front.length + 5 := by
        rw [List.flatMap_nil, List.append_nil]
        omega
      exact .ended (next_end short)
  | cons item rest ih =>
      have others := ih (front ++ itemBytes item)
      rw [List.length_append, itemBytes_length] at others
      rw [List.flatMap_cons, ← List.append_assoc]
      exact .item (next_item rfl item _) (McGroupStatusItem.mcGroupId_bytes item)
        (McGroupStatusItem.mcAddr_bytes item) others

end McGroupStatusItemIterator

/-! ## The status octet -/

theorem bit_eq_getLsbD (b : Byte) (i : Nat) : bit b i = b.toBitVec.getLsbD i := rfl

theorem bit_mask (status : Byte) (i : Nat) :
    bit (status &&& 0b1111) i = (decide (i < 4) && bit status i) := by
  have low : Nat.testBit 15 i = decide (i < 4) := Nat.testBit_two_pow_sub_one 4 i
  rw [bit, UInt8.toNat_and, Nat.testBit_and, Bool.and_comm]
  exact congrArg (· && bit status i) low

/-! ## The answer, built -/

/-- A call of a `McGroupStatusAnsCreator`. -/
inductive StatusCall where
  | nbTotalGroups (n : Byte)
  | push (groupId : Byte) (mcAddr : McAddr)
  deriving DecidableEq

namespace StatusCall

def on (creator : McGroupStatusAnsCreator) : StatusCall → Checked McGroupStatusAnsCreator
  | nbTotalGroups n => .ok (creator.nbTotalGroups n)
  | push groupId mcAddr => creator.push groupId mcAddr

def item : StatusCall → Option (Byte × McAddr)
  | nbTotalGroups _ => none
  | push groupId mcAddr => some (groupId, mcAddr)

/-- The total after a call; three bits carry it. -/
def total (before : Byte) : StatusCall → Byte
  | nbTotalGroups n => n &&& 0b111
  | push _ _ => before

end StatusCall

def pushes (calls : List StatusCall) : List (Byte × McAddr) := calls.filterMap StatusCall.item

def ids (items : List (Byte × McAddr)) : List Nat := items.map fun item => item.1.toNat

/-- Every group is pushed once at most, and is one of the four there can be. -/
structure Distinct (items : List (Byte × McAddr)) : Prop where
  once : (ids items).Nodup
  known : ∀ id ∈ ids items, id < maxGroups

namespace McGroupStatusAnsCreator

/-- What a creator holds after some pushes: the items, their mask and the total. -/
structure Holds (creator : McGroupStatusAnsCreator) (pushed : List (Byte × McAddr))
    (total : Byte) : Prop where
  items : creator.items = pushed
  mask : ∀ i, i < 4 → (bit creator.status i = true ↔ i ∈ ids pushed)
  total : (creator.status >>> 4) &&& 0b111 = total

theorem holds_new : Holds new [] 0 := by
  refine ⟨rfl, ?_, rfl⟩
  intro i _
  simp [new, ids]

theorem holds_nbTotalGroups {creator : McGroupStatusAnsCreator} {pushed : List (Byte × McAddr)}
    {total : Byte} (held : creator.Holds pushed total) (n : Byte) :
    (creator.nbTotalGroups n).Holds pushed (n &&& 0b111) := by
  refine ⟨held.items, ?_, ?_⟩
  · intro i small
    have kept : bit (creator.nbTotalGroups n).status i = bit creator.status i := by
      simp only [bit_eq_getLsbD, nbTotalGroups]
      interval_cases i <;> simp
    rw [kept]
    exact held.mask i small
  · apply Fields.eq_of_bits
    intro i small
    simp only [nbTotalGroups]
    interval_cases i <;> simp

theorem holds_push {creator : McGroupStatusAnsCreator} {pushed : List (Byte × McAddr)}
    {total : Byte} (held : creator.Holds pushed total) (groupId : Byte) (mcAddr : McAddr)
    (known : groupId.toNat < 4) :
    Holds
      { status := creator.status ||| (1 <<< groupId)
        items := creator.items ++ [(groupId, mcAddr)] }
      (pushed ++ [(groupId, mcAddr)]) total := by
  have named : (1 <<< groupId : Byte) = 1 <<< groupId.toNat.toUInt8 := by
    rw [Nat.toUInt8, UInt8.ofNat_toNat]
  refine ⟨congrArg (· ++ [(groupId, mcAddr)]) held.items, ?_, ?_⟩
  · intro i small
    have set := bit_or_one_shl creator.status i groupId.toNat (by omega)
    simp only [named, set, Bool.or_eq_true, decide_eq_true_eq, held.mask i small, ids,
      List.map_append, List.mem_append, List.map_cons, List.map_nil, List.mem_singleton]
  · rw [← held.total]
    apply Fields.eq_of_bits
    intro i small
    simp only [named]
    generalize groupId.toNat = k at known
    interval_cases k <;> interval_cases i <;> simp

theorem requiredLen_eq {creator : McGroupStatusAnsCreator} {pushed : List (Byte × McAddr)}
    {total : Byte} (held : creator.Holds pushed total) (distinct : Distinct pushed) :
    requiredLen creator.status = 5 * pushed.length := by
  have members : ∀ i, i ∈ (List.range 8).filter (bit (creator.status &&& 0b1111)) ↔
      i ∈ ids pushed := by
    intro i
    rw [List.mem_filter, List.mem_range, bit_mask, Bool.and_eq_true, decide_eq_true_eq]
    constructor
    · rintro ⟨_, small, set⟩
      exact (held.mask i small).mp set
    · intro inside
      have small : i < 4 := distinct.known i inside
      exact ⟨by omega, small, (held.mask i small).mpr inside⟩
  have same : ((List.range 8).filter (bit (creator.status &&& 0b1111))).Perm (ids pushed) :=
    (List.perm_ext_iff_of_nodup (List.nodup_range.filter _) distinct.once).mpr members
  have ones : countOnes (creator.status &&& 0b1111) = pushed.length := by
    have size := same.length_eq
    rw [ids, List.length_map, ← List.countP_eq_length_filter] at size
    exact size
  rw [requiredLen, ones, Nat.mul_comm]

end McGroupStatusAnsCreator

theorem Distinct.length_le {items : List (Byte × McAddr)} (distinct : Distinct items) :
    items.length ≤ maxGroups := by
  have inside : ids items ⊆ List.range maxGroups := by
    intro id member
    exact List.mem_range.mpr (distinct.known id member)
  have most := (distinct.once.subperm inside).length_le
  rw [ids, List.length_map, List.length_range] at most
  exact most

theorem Distinct.front {front rest : List (Byte × McAddr)} (distinct : Distinct (front ++ rest)) :
    Distinct front := by
  obtain ⟨once, known⟩ := distinct
  rw [ids, List.map_append] at once known
  exact ⟨once.of_append_left, fun id member => known id (List.mem_append_left _ member)⟩

/-- The creator after some calls. -/
def made (calls : List StatusCall) : Checked McGroupStatusAnsCreator :=
  calls.foldlM StatusCall.on .new

def totalOf (calls : List StatusCall) : Byte := calls.foldl StatusCall.total 0

theorem calls_hold (calls : List StatusCall) {creator : McGroupStatusAnsCreator}
    {pushed : List (Byte × McAddr)} {total : Byte} (held : creator.Holds pushed total)
    (distinct : Distinct (pushed ++ pushes calls)) :
    ∃ later, calls.foldlM StatusCall.on creator = .ok later ∧
      later.Holds (pushed ++ pushes calls) (calls.foldl StatusCall.total total) := by
  induction calls generalizing creator pushed total with
  | nil => exact ⟨creator, rfl, by rwa [pushes, List.filterMap_nil, List.append_nil]⟩
  | cons call rest ih =>
      rw [List.foldlM_cons, List.foldl_cons]
      cases call with
      | nbTotalGroups n => exact ih (McGroupStatusAnsCreator.holds_nbTotalGroups held n) distinct
      | push groupId mcAddr =>
          have parts : pushed ++ pushes (.push groupId mcAddr :: rest) =
              pushed ++ [(groupId, mcAddr)] ++ pushes rest := by
            rw [List.append_assoc]
            rfl
          rw [parts] at distinct ⊢
          have known : groupId.toNat < 4 := distinct.front.known _ (by simp [ids])
          have room := distinct.front.length_le
          rw [List.length_append, List.length_singleton, ← held.items] at room
          have first := McGroupStatusAnsCreator.push_ok (Nat.lt_of_lt_of_le known (by decide))
            room mcAddr
          rw [StatusCall.on, first, Checked.ok_bind]
          exact ih (McGroupStatusAnsCreator.holds_push held groupId mcAddr known) distinct

/-! ## The answer, parsed -/

theorem results_answer (status : Byte) {groups : List Byte}
    (complete : groups.length = requiredLen status) (rest : List Byte) :
    MacCommands.results (0x01 :: status :: (groups ++ rest)) =
      .ok (UplinkRemoteSetup.mcGroupStatusAns ⟨status, groups, complete⟩) ::
        MacCommands.results rest := by
  have long : ¬ (status :: (groups ++ rest)).length < 1 + requiredLen status := by
    rw [List.length_cons, List.length_append]
    omega
  have taken : (groups ++ rest).take (requiredLen status) = groups := List.take_left' complete
  have parsed : (MacCommandSet.parseOne 0x01 (status :: (groups ++ rest)) :
      Except ParseError (UplinkRemoteSetup × Nat)) =
      .ok (.mcGroupStatusAns ⟨status, groups, complete⟩, 1 + (1 + requiredLen status)) := by
    change UplinkRemoteSetup.parseGroupStatus 0x01 (status :: (groups ++ rest)) = _
    rw [UplinkRemoteSetup.parseGroupStatus, dif_neg long]
    simp only [taken]
  have dropped : (0x01 :: status :: (groups ++ rest)).drop (1 + (1 + requiredLen status)) =
      rest := by
    rw [← complete, Nat.add_comm, List.drop_succ_cons, Nat.add_comm, List.drop_succ_cons,
      List.drop_left]
  rw [MacCommands.results_ok parsed, dropped]

theorem reads_held {creator : McGroupStatusAnsCreator} {items : List (Byte × McAddr)}
    {total : Byte} (held : creator.Holds items total) (distinct : Distinct items) :
    McGroupStatusAnsBytes.Reads ⟨creator.status :: items.flatMap itemBytes⟩ (· ∈ ids items)
      total items where
  mask := by
    refine ⟨creator.status &&& 0b1111, rfl, ?_⟩
    intro i
    have set := bit_mask creator.status i
    rw [bit] at set
    rw [set, Bool.and_eq_true, decide_eq_true_eq]
    constructor
    · rintro ⟨small, listed⟩
      exact (held.mask i small).mp listed
    · intro inside
      exact ⟨distinct.known i inside, (held.mask i (distinct.known i inside)).mpr inside⟩
  total := congrArg Except.ok held.total
  items := by
    have inside : 1 ≤ (creator.status :: items.flatMap itemBytes).length ∧
        (creator.status :: items.flatMap itemBytes).length ≤
          (creator.status :: items.flatMap itemBytes).length :=
      ⟨Nat.succ_pos _, Nat.le_refl _⟩
    have octets : slice (creator.status :: items.flatMap itemBytes) 1
        (creator.status :: items.flatMap itemBytes).length inside = items.flatMap itemBytes := by
      rw [slice, List.take_length, List.drop_succ_cons, List.drop_zero]
    refine ⟨⟨items.flatMap itemBytes, 0⟩, ?_, McGroupStatusItemIterator.yields_items items []⟩
    rw [McGroupStatusAnsBytes.itemIterator, cut_eq inside, Checked.ok_bind, octets]
    rfl

/-- What the calls of a creator say comes back at the start of a stream. -/
def ComesBack (calls : List StatusCall) (rest : List Byte) : Prop :=
  ∃ creator payload, made calls = .ok creator ∧
    MacCommands.results (creator.build ++ rest) =
      .ok (UplinkRemoteSetup.mcGroupStatusAns payload) :: MacCommands.results rest ∧
    McGroupStatusAnsBytes.Reads ⟨payload.bytes⟩ (· ∈ ids (pushes calls)) (totalOf calls)
      (pushes calls)

theorem comesBack (calls : List StatusCall) (distinct : Distinct (pushes calls))
    (rest : List Byte) : ComesBack calls rest := by
  obtain ⟨creator, success, held⟩ :=
    calls_hold calls McGroupStatusAnsCreator.holds_new distinct
  rw [List.nil_append] at held
  have complete : ((pushes calls).flatMap itemBytes).length = requiredLen creator.status := by
    rw [McGroupStatusAnsCreator.requiredLen_eq held distinct, flatMap_itemBytes_length]
  have built : creator.build ++ rest =
      0x01 :: creator.status :: ((pushes calls).flatMap itemBytes ++ rest) := by
    rw [McGroupStatusAnsCreator.build, held.items]
    rfl
  refine ⟨creator, ⟨creator.status, (pushes calls).flatMap itemBytes, complete⟩, success, ?_,
    reads_held held distinct⟩
  rw [built, results_answer creator.status complete rest]

/-! ## The answer as a value -/

def maskOf (items : List (Byte × McAddr)) : Byte :=
  items.foldl (fun mask item => mask ||| ((1 : Byte) <<< item.1)) 0

namespace McGroupStatusAnsCreator

/-- A creator after some pushes. -/
def withItems (items : List (Byte × McAddr)) : McGroupStatusAnsCreator := ⟨maskOf items, items⟩

theorem withItems_append (items : List (Byte × McAddr)) (item : Byte × McAddr) :
    withItems (items ++ [item]) =
      { status := (withItems items).status ||| (1 <<< item.1)
        items := (withItems items).items ++ [item] } := by
  rw [withItems, maskOf, List.foldl_append]
  rfl

theorem holds_withItems (items : List (Byte × McAddr)) (distinct : Distinct items) :
    (withItems items).Holds items 0 := by
  induction items using List.reverseRecOn with
  | nil => exact holds_new
  | append_singleton front item ih =>
      have known : item.1.toNat < 4 := distinct.known _ (by simp [ids])
      rw [withItems_append]
      exact holds_push (ih distinct.front) item.1 item.2 known

end McGroupStatusAnsCreator

def statusPayload (items : List (Byte × McAddr)) (distinct : Distinct items) (total : Byte) :
    McGroupStatusAnsPayload where
  status := ((McGroupStatusAnsCreator.withItems items).nbTotalGroups total).status
  groups := items.flatMap itemBytes
  complete := by
    have held := McGroupStatusAnsCreator.holds_nbTotalGroups
      (McGroupStatusAnsCreator.holds_withItems items distinct) total
    rw [McGroupStatusAnsCreator.requiredLen_eq held distinct, flatMap_itemBytes_length]

theorem reads_statusPayload (items : List (Byte × McAddr)) (distinct : Distinct items)
    (total : Byte) :
    McGroupStatusAnsBytes.Reads ⟨(statusPayload items distinct total).bytes⟩ (· ∈ ids items)
      (total &&& 0b111) items :=
  reads_held (McGroupStatusAnsCreator.holds_nbTotalGroups
    (McGroupStatusAnsCreator.holds_withItems items distinct) total) distinct

/-! ## The standalone constructor -/

namespace McGroupStatusAnsBytes

def HoldsAnswer (data : List Byte) : Prop :=
  ∃ (answer : McGroupStatusAnsPayload) (after : List Byte), data = answer.bytes ++ after

/-- The payload is as long as it says, and reading it panics nowhere. -/
structure Sound (payload : McGroupStatusAnsBytes) : Prop where
  len : payload.len = .ok payload.data.length
  mask : Checked.Returns payload.ansGroupMask
  total : Checked.Returns payload.nbTotalGroups
  items : ∃ iter items, payload.itemIterator = .ok iter ∧ iter.Yields items

/-- `new` accepts the slices that hold an answer, and only sound payloads come of it. -/
def NewMeets (data : List Byte) : Prop :=
  ∃ outcome, new data = .ok outcome ∧ ((∃ payload, outcome = .ok payload) ↔ HoldsAnswer data) ∧
    ∀ payload, outcome = .ok payload → payload.Sound

/-- The slice is too short even for the groups its first octet lists. -/
def ShorterThanGroups (data : List Byte) : Prop :=
  ∀ status ∈ data.head?, data.length < requiredLen status

theorem new_short {data : List Byte} (short : ShorterThanGroups data) :
    new data = .ok (.error .bufferTooShort) := by
  cases data with
  | nil => rfl
  | cons status rest =>
      have less := short status rfl
      rw [new, if_neg (List.cons_ne_nil _ _), byteAt_eq (Nat.succ_pos _), Checked.ok_bind]
      exact if_pos less

/-- What `new` keeps leaves the status octet out of its count. -/
theorem new_keeps {status : Byte} {rest : List Byte}
    (long : requiredLen status ≤ (status :: rest).length) :
    new (status :: rest) = .ok (.ok ⟨(status :: rest).take (requiredLen status)⟩) := by
  have inside : 0 ≤ requiredLen status ∧ requiredLen status ≤ (status :: rest).length :=
    ⟨Nat.zero_le _, long⟩
  rw [new, if_neg (List.cons_ne_nil _ _), byteAt_eq (Nat.succ_pos _), Checked.ok_bind]
  change (if (status :: rest).length < requiredLen status then _ else _) = _
  rw [if_neg (Nat.not_lt.mpr long)]
  change (cut (status :: rest) 0 (requiredLen status) >>= _) = _
  rw [cut_eq inside, Checked.ok_bind]
  rfl

theorem kept_not_sound (status : Byte) (rest : List Byte)
    (long : requiredLen status ≤ (status :: rest).length) :
    ¬ Sound ⟨(status :: rest).take (requiredLen status)⟩ := by
  intro sound
  have said := sound.len
  have size : ((status :: rest).take (requiredLen status)).length = requiredLen status := by
    rw [List.length_take, Nat.min_eq_left long]
  rw [size] at said
  cases groups : requiredLen status with
  | zero =>
      -- Without groups the payload is empty: there is no octet to read.
      rw [groups] at said
      cases said
  | succ n =>
      rw [groups, List.take_succ_cons, len, byteAt_eq (Nat.succ_pos _), Checked.ok_bind] at said
      have counted : 1 + requiredLen status = n + 1 := Except.ok.inj said
      omega

theorem not_holdsAnswer {data : List Byte} (short : ShorterThanGroups data) :
    ¬ HoldsAnswer data := by
  rintro ⟨answer, after, rfl⟩
  have less := short answer.status rfl
  rw [McGroupStatusAnsPayload.bytes, List.cons_append, List.length_cons, List.length_append,
    answer.complete] at less
  omega

theorem newMeets_iff (data : List Byte) : NewMeets data ↔ ShorterThanGroups data := by
  constructor
  · rintro ⟨outcome, success, _, sound⟩ status first
    by_contra less
    cases data with
    | nil => cases first
    | cons head rest =>
        cases first
        have long := Nat.not_lt.mp less
        rw [new_keeps long] at success
        cases success
        exact kept_not_sound _ _ long (sound _ rfl)
  · intro short
    refine ⟨_, new_short short, ?_, ?_⟩
    · apply iff_of_false
      · rintro ⟨payload, same⟩
        cases same
      · exact not_holdsAnswer short
    · intro payload same
      cases same

end McGroupStatusAnsBytes

/-- A status answer comes back as it was built, in front of any further bytes, and the
standalone constructor is right on the slices it refuses and no others. -/
theorem group_status_answers (calls : List StatusCall) (rest data : List Byte) :
    (Distinct (pushes calls) → ComesBack calls rest) ∧
      (McGroupStatusAnsBytes.NewMeets data ↔ McGroupStatusAnsBytes.ShorterThanGroups data) :=
  ⟨fun distinct => comesBack calls distinct rest, McGroupStatusAnsBytes.newMeets_iff data⟩

namespace GroupStatusSample

def address : McAddr := ⟨.replicate 4 7⟩

def calls : List StatusCall := [.nbTotalGroups 2, .push 3 address, .push 0 address]

/-- One group and its five octets, complete. -/
def answer : List Byte := [0x01, 0x00, 0x01, 0x02, 0x03, 0x04]

theorem group_status_answers_two_groups :
    ComesBack calls [0x02, 0x01] ∧
      (McGroupStatusAnsBytes.NewMeets [0x03, 0x00] ↔
        McGroupStatusAnsBytes.ShorterThanGroups [0x03, 0x00]) :=
  ⟨(group_status_answers calls [0x02, 0x01] [0x03, 0x00]).1 ⟨by decide, by decide⟩,
    (group_status_answers calls [0x02, 0x01] [0x03, 0x00]).2⟩

end GroupStatusSample

/-- Of a complete answer the constructor drops the last octet. -/
theorem complete_answer_cut : ¬ ∀ data, McGroupStatusAnsBytes.NewMeets data := by
  intro meets
  obtain ⟨outcome, success, _, sound⟩ := meets GroupStatusSample.answer
  have kept : McGroupStatusAnsBytes.new GroupStatusSample.answer =
      .ok (.ok ⟨GroupStatusSample.answer.take 5⟩) := by decide +kernel
  rw [kept] at success
  cases success
  have said := (sound _ rfl).len
  revert said
  decide +kernel

end LoraRs.Encoding.Multicast
