import LoraRs.Lib.Checked
import LoraRs.Lib.Format
import LoraRs.Mac.Uplink

/-!
# Saved uplink answers

`Serialize` and `Deserialize` of the queued answers, from
`lorawan-device/src/mac/uplink/serde.rs`.  The visitor takes maps only.
-/

set_option autoImplicit false

namespace LoraRs.Mac

open LoraRs.Encoding LoraRs.Lib

namespace Uplink

/-! ## Writing -/

/-- `full_array`: the queued octets, then zeros. -/
def fullArray (uplink : Uplink) : Vector Byte fOptsMaxLen :=
  Bytes.arr fOptsMaxLen
    (uplink.pending ++ List.replicate (fOptsMaxLen - uplink.pending.length) 0) (by
      have fits := uplink.fits
      rw [List.length_append, List.length_replicate]
      omega)

def fields (format : Format) (uplink : Uplink) : List (String × format.Value) :=
  [("confirmed", format.bool uplink.confirmed),
    ("pending_len", format.u8 uplink.pending.length.toUInt8),
    ("pending_data", format.octets uplink.fullArray)]

def serialize (format : Format) (encoding : StructEncoding) (uplink : Uplink) :
    Document format.Value :=
  format.encodeStruct encoding (uplink.fields format)

/-! ## Reading -/

inductive Field where
  | confirmed
  | pendingLen
  | pendingData
  deriving DecidableEq

def Field.ofIdentifier {E : Type} : Identifier → Except (DeError E) Field
  | .name s =>
      if s = "confirmed" then .ok .confirmed
      else if s = "pending_len" then .ok .pendingLen
      else if s = "pending_data" then .ok .pendingData
      else .error .unknownField
  | .index n =>
      if n = 0 then .ok .confirmed
      else if n = 1 then .ok .pendingLen
      else if n = 2 then .ok .pendingData
      else .error .invalidValue

variable {format : Format}

def nextKey (format : Format) (key : format.Value) : Except (DeError format.Error) Field := do
  Field.ofIdentifier (← DeError.lift (format.readKey key))

/-- The fields found so far. -/
structure Found where
  confirmed : Option Bool
  pendingLen : Option Byte
  pendingData : Option (Vector Byte fOptsMaxLen)

def Found.none : Found := ⟨.none, .none, .none⟩

/-- The loop of `visit_map` over the entries to come. -/
def visitEntries (format : Format) : List (format.Value × format.Value) → Found →
    Except (DeError format.Error) Found
  | [], found => .ok found
  | (key, value) :: rest, found => do
      match ← nextKey format key with
      | .confirmed =>
          if found.confirmed.isSome then .error (.duplicateField "confirmed")
          else do
            let confirmed ← DeError.lift (format.readBool value)
            visitEntries format rest { found with confirmed := some confirmed }
      | .pendingLen =>
          if found.pendingLen.isSome then .error (.duplicateField "pending_len")
          else do
            let pendingLen ← DeError.lift (format.readU8 value)
            visitEntries format rest { found with pendingLen := some pendingLen }
      | .pendingData =>
          if found.pendingData.isSome then .error (.duplicateField "pending_data")
          else do
            let pendingData ← DeError.lift (format.readOctets fOptsMaxLen value)
            visitEntries format rest { found with pendingData := some pendingData }

/-- `&data[..n]`. -/
def sliceTo (data : List Byte) (n : Nat) : Checked (List Byte) :=
  if n ≤ data.length then .ok (data.take n) else .error .outOfBounds

/-- The end of `visit_map`. -/
def finish {E : Type} (found : Found) : Checked (Except (DeError E) Uplink) :=
  match found.confirmed with
  | .none => .ok (.error (.missingField "confirmed"))
  | .some confirmed =>
    match found.pendingLen with
    | .none => .ok (.error (.missingField "pending_len"))
    | .some pendingLen =>
      match found.pendingData with
      | .none => .ok (.error (.missingField "pending_data"))
      | .some pendingData =>
        if pendingLen.toNat > fOptsMaxLen then
          .ok (.error (.custom "pending_len exceeds maximum size"))
        else do
          let pending ← sliceTo pendingData.toList pendingLen.toNat
          if fits : pending.length ≤ fOptsMaxLen then return .ok ⟨pending, confirmed, fits⟩
          else return .error (.custom "failed to create heapless::Vec")

/-- `deserialize`; the visitor keeps the default `visit_seq`. -/
def deserialize (format : Format) :
    Document format.Value → Checked (Except (DeError format.Error) Uplink)
  | .map entries =>
      match visitEntries format entries Found.none with
      | .error e => .ok (.error e)
      | .ok found => finish found
  | .seq _ => .ok (.error .invalidType)

/-! ## What is read -/

inductive FieldValue where
  | confirmed (value : Bool)
  | pendingLen (value : Byte)
  | pendingData (value : Vector Byte fOptsMaxLen)

def readEntry (format : Format) (entry : format.Value × format.Value) :
    Except (DeError format.Error) FieldValue := do
  match ← nextKey format entry.1 with
  | .confirmed => return .confirmed (← DeError.lift (format.readBool entry.2))
  | .pendingLen => return .pendingLen (← DeError.lift (format.readU8 entry.2))
  | .pendingData => return .pendingData (← DeError.lift (format.readOctets fOptsMaxLen entry.2))

namespace Found

/-- A value is taken once for each field. -/
def add (found : Found) : FieldValue → Option Found
  | .confirmed value =>
      if found.confirmed.isSome then .none else some { found with confirmed := some value }
  | .pendingLen value =>
      if found.pendingLen.isSome then .none else some { found with pendingLen := some value }
  | .pendingData value =>
      if found.pendingData.isSome then .none else some { found with pendingData := some value }

def values (found : Found) : List FieldValue :=
  (found.confirmed.map FieldValue.confirmed).toList ++
    (found.pendingLen.map FieldValue.pendingLen).toList ++
    (found.pendingData.map FieldValue.pendingData).toList

theorem values_add {found next : Found} {value : FieldValue} (added : found.add value = some next) :
    next.values.Perm (value :: found.values) := by
  obtain ⟨confirmed, pendingLen, pendingData⟩ := found
  cases value with
  | confirmed value =>
      cases confirmed with
      | some earlier => cases added
      | none =>
          cases added
          exact List.Perm.refl _
  | pendingLen value =>
      cases pendingLen with
      | some earlier => cases added
      | none =>
          cases added
          simp only [values, Option.map_some, Option.toList_some, Option.map_none,
            Option.toList_none, List.append_nil, List.append_assoc]
          exact List.perm_middle
  | pendingData value =>
      cases pendingData with
      | some earlier => cases added
      | none =>
          cases added
          simp only [values, Option.map_some, Option.toList_some, Option.map_none,
            Option.toList_none, List.append_nil]
          exact List.perm_append_singleton _ _

theorem values_foldlM {values : List FieldValue} {found final : Found}
    (added : values.foldlM add found = some final) :
    final.values.Perm (values ++ found.values) := by
  induction values generalizing found with
  | nil =>
      cases added
      exact List.Perm.refl _
  | cons value rest ih =>
      rw [List.foldlM_cons] at added
      obtain ⟨next, first, others⟩ := Option.bind_eq_some_iff.mp added
      have later := ih others
      have one := values_add first
      refine later.trans ((one.append_left rest).trans ?_)
      exact List.perm_middle

/-- Two values may be taken in either order. -/
theorem add_comm (found : Found) (first second : FieldValue) :
    (found.add first >>= fun next => next.add second) =
      (found.add second >>= fun next => next.add first) := by
  obtain ⟨confirmed, pendingLen, pendingData⟩ := found
  cases first <;> cases second <;> cases confirmed <;> cases pendingLen <;> cases pendingData <;> rfl

theorem foldlM_perm {values others : List FieldValue} (order : values.Perm others)
    (found : Found) : values.foldlM add found = others.foldlM add found := by
  induction order generalizing found with
  | nil => rfl
  | cons value _ ih =>
      rw [List.foldlM_cons, List.foldlM_cons]
      exact congrArg (found.add value >>= ·) (funext ih)
  | swap first second rest =>
      rw [List.foldlM_cons, List.foldlM_cons]
      simp only [List.foldlM_cons]
      rw [← bind_assoc, ← bind_assoc, add_comm]
  | trans _ _ ih others => exact (ih found).trans (others found)

end Found

theorem visitEntries_cons {entry : format.Value × format.Value}
    {rest : List (format.Value × format.Value)} {found final : Found} :
    visitEntries format (entry :: rest) found = .ok final ↔
      ∃ first next, readEntry format entry = .ok first ∧ found.add first = some next ∧
        visitEntries format rest next = .ok final := by
  obtain ⟨key, value⟩ := entry
  rw [visitEntries, readEntry]
  cases nextKey format key with
  | error e =>
      constructor
      · intro visited
        cases visited
      · rintro ⟨first, next, read, _⟩
        cases read
  | ok field =>
      cases field with
      | confirmed =>
          cases format.readBool value <;> cases taken : found.confirmed <;>
            simp [taken, DeError.lift, Found.add]
      | pendingLen =>
          cases format.readU8 value <;> cases taken : found.pendingLen <;>
            simp [taken, DeError.lift, Found.add]
      | pendingData =>
          cases format.readOctets fOptsMaxLen value <;> cases taken : found.pendingData <;>
            simp [taken, DeError.lift, Found.add]

/-- The loop reads the entries by themselves and takes their values one after the other. -/
theorem visitEntries_ok_iff {entries : List (format.Value × format.Value)} {found final : Found} :
    visitEntries format entries found = .ok final ↔
      ∃ values : List FieldValue, entries.map (readEntry format) = values.map .ok ∧
        values.foldlM Found.add found = some final := by
  induction entries generalizing found with
  | nil =>
      constructor
      · intro visited
        cases visited
        exact ⟨[], rfl, rfl⟩
      · rintro ⟨values, read, added⟩
        have empty : values = [] := List.map_eq_nil_iff.mp read.symm
        subst empty
        cases added
        rfl
  | cons entry rest ih =>
      obtain ⟨key, value⟩ := entry
      rw [visitEntries_cons]
      constructor
      · rintro ⟨first, next, read, added, visited⟩
        obtain ⟨values, others, folded⟩ := ih.mp visited
        refine ⟨first :: values, ?_, ?_⟩
        · rw [List.map_cons, List.map_cons, read, others]
        · rw [List.foldlM_cons, added]
          exact folded
      · rintro ⟨values, read, folded⟩
        cases values with
        | nil => cases read
        | cons first values =>
            obtain ⟨head, others⟩ := List.cons.inj read
            rw [List.foldlM_cons] at folded
            obtain ⟨next, added, folded⟩ := Option.bind_eq_some_iff.mp folded
            exact ⟨first, next, head, added, ih.mpr ⟨values, others, folded⟩⟩

/-! ## What is accepted -/

theorem take_fits {pendingData : Vector Byte fOptsMaxLen} {n : Nat} (fits : n ≤ fOptsMaxLen) :
    (pendingData.toList.take n).length ≤ fOptsMaxLen := by
  rw [List.length_take]
  exact le_trans (Nat.min_le_left _ _) fits

/-- A full record with a length that fits gives its octets. -/
theorem finish_full {E : Type} (confirmed : Bool) {pendingLen : Byte}
    (pendingData : Vector Byte fOptsMaxLen) (fits : pendingLen.toNat ≤ fOptsMaxLen) :
    finish ⟨some confirmed, some pendingLen, some pendingData⟩ =
      .ok (.ok ⟨pendingData.toList.take pendingLen.toNat, confirmed, take_fits fits⟩ :
        Except (DeError E) Uplink) := by
  have inside : pendingLen.toNat ≤ pendingData.toList.length := by
    rw [Vector.length_toList]
    exact fits
  simp only [finish, sliceTo, if_neg (Nat.not_lt.mpr fits), if_pos inside, Checked.ok_bind,
    dif_pos (take_fits fits)]
  rfl

/-- The end of the loop accepts the full record with a length that fits. -/
theorem finish_eq_ok_iff {E : Type} {found : Found} {uplink : Uplink} :
    finish found = .ok (.ok uplink : Except (DeError E) Uplink) ↔
      ∃ confirmed pendingLen pendingData,
        found = ⟨some confirmed, some pendingLen, some pendingData⟩ ∧
        pendingLen.toNat ≤ fOptsMaxLen ∧ uplink.confirmed = confirmed ∧
        uplink.pending = pendingData.toList.take pendingLen.toNat := by
  constructor
  · intro finished
    obtain ⟨confirmed, pendingLen, pendingData⟩ := found
    cases confirmed with
    | none => cases finished
    | some confirmed =>
        cases pendingLen with
        | none => cases finished
        | some pendingLen =>
            cases pendingData with
            | none => cases finished
            | some pendingData =>
                by_cases fits : pendingLen.toNat ≤ fOptsMaxLen
                · rw [finish_full confirmed pendingData fits] at finished
                  cases finished
                  exact ⟨_, _, _, rfl, fits, rfl, rfl⟩
                · simp only [finish, if_pos (Nat.not_le.mp fits)] at finished
                  cases finished
  · rintro ⟨confirmed, pendingLen, pendingData, rfl, fits, rfl, pending⟩
    rw [finish_full _ pendingData fits]
    obtain ⟨queued, confirmed, small⟩ := uplink
    subst pending
    rfl

theorem finish_returns {E : Type} (found : Found) :
    Checked.Returns (finish found : Checked (Except (DeError E) Uplink)) := by
  obtain ⟨confirmed, pendingLen, pendingData⟩ := found
  cases confirmed with
  | none => exact Checked.returns_ok _
  | some confirmed =>
      cases pendingLen with
      | none => exact Checked.returns_ok _
      | some pendingLen =>
          cases pendingData with
          | none => exact Checked.returns_ok _
          | some pendingData =>
              by_cases fits : pendingLen.toNat ≤ fOptsMaxLen
              · rw [finish_full confirmed pendingData fits]
                exact Checked.returns_ok _
              · simp only [finish, if_pos (Nat.not_le.mp fits)]
                exact Checked.returns_ok _

theorem deserialize_returns (format : Format) (doc : Document format.Value) :
    Checked.Returns (deserialize format doc) := by
  unfold deserialize
  split
  · split
    · exact Checked.returns_ok _
    · exact finish_returns _
  · exact Checked.returns_ok _

/-- Just the maps with one readable entry for each field, in any order, and a length that fits
are accepted. -/
theorem deserialize_map_iff {entries : List (format.Value × format.Value)} {uplink : Uplink} :
    deserialize format (.map entries) = .ok (.ok uplink) ↔
      ∃ (values : List FieldValue) (pendingLen : Byte) (pendingData : Vector Byte fOptsMaxLen),
        entries.map (readEntry format) = values.map .ok ∧
        values.Perm [.confirmed uplink.confirmed, .pendingLen pendingLen,
          .pendingData pendingData] ∧
        pendingLen.toNat ≤ fOptsMaxLen ∧
        uplink.pending = pendingData.toList.take pendingLen.toNat := by
  constructor
  · intro accepted
    rw [deserialize] at accepted
    split at accepted
    · cases accepted
    · rename_i found visited
      obtain ⟨values, read, folded⟩ := visitEntries_ok_iff.mp visited
      obtain ⟨confirmed, pendingLen, pendingData, full, fits, rfl, pending⟩ :=
        finish_eq_ok_iff.mp accepted
      have order := Found.values_foldlM folded
      rw [full] at order
      refine ⟨values, pendingLen, pendingData, read, ?_, fits, pending⟩
      have taken : values.Perm _ := (List.append_nil values ▸ order).symm
      exact taken
  · rintro ⟨values, pendingLen, pendingData, read, order, fits, pending⟩
    have folded := Found.foldlM_perm order Found.none
    have visited := visitEntries_ok_iff.mpr ⟨values, read, folded.trans rfl⟩
    rw [deserialize, visited]
    exact finish_eq_ok_iff.mpr ⟨_, _, _, rfl, fits, rfl, pending⟩

/-! ## Saving and restoring -/

/-- A map that must not be accepted: a field is missing or comes twice, an entry does not read
as a field with a value of its type, or the length is out of range. -/
inductive Bad (format : Format) (entries : List (format.Value × format.Value)) : Prop where
  | missing (field : Field) (absent : ∀ entry ∈ entries, nextKey format entry.1 ≠ .ok field)
  | duplicate (field : Field) (before middle after : List (format.Value × format.Value))
      (first second : format.Value × format.Value)
      (both : nextKey format first.1 = .ok field ∧ nextKey format second.1 = .ok field)
      (split : entries = before ++ first :: middle ++ second :: after)
  | unreadable (entry : format.Value × format.Value) (inside : entry ∈ entries)
      (e : DeError format.Error) (refused : readEntry format entry = .error e)
  | outOfRange (entry : format.Value × format.Value) (inside : entry ∈ entries)
      (pendingLen : Byte) (read : readEntry format entry = .ok (.pendingLen pendingLen))
      (large : fOptsMaxLen < pendingLen.toNat)

/-- What saving and restoring owes, in a format with this encoding of structures. -/
structure Persists (format : Format) (encoding : StructEncoding) : Prop where
  roundTrip : ∀ uplink : Uplink,
    deserialize format (uplink.serialize format encoding) = .ok (.ok uplink)
  anyOrder : ∀ (uplink : Uplink) (entries : List (format.Value × format.Value)),
    entries.Perm (format.entries (uplink.fields format)) →
      deserialize format (.map entries) = .ok (.ok uplink)
  rejects : ∀ entries, Bad format entries →
    ∃ e, deserialize format (.map entries) = .ok (.error e)
  returns : ∀ doc, Checked.Returns (deserialize format doc)
  bounded : ∀ doc uplink, deserialize format doc = .ok (.ok uplink) →
    uplink.pending.length ≤ fOptsMaxLen

/-- The entries written for an answer queue are read as its values. -/
theorem readEntry_fields (lawful : format.Lawful) (uplink : Uplink) :
    (format.entries (uplink.fields format)).map (readEntry format) =
      ([.confirmed uplink.confirmed, .pendingLen uplink.pending.length.toUInt8,
        .pendingData uplink.fullArray] : List FieldValue).map .ok := by
  simp [Format.entries, fields, readEntry, nextKey, Field.ofIdentifier, DeError.lift, lawful.bool,
    lawful.u8, lawful.octets, lawful.key]

theorem pending_fullArray (uplink : Uplink) :
    uplink.fullArray.toList.take uplink.pending.length = uplink.pending := by
  rw [fullArray, Bytes.arr_toList]
  exact List.take_left' rfl

theorem length_toUInt8 (uplink : Uplink) :
    uplink.pending.length.toUInt8.toNat = uplink.pending.length := by
  have small : uplink.pending.length < 256 := lt_of_le_of_lt uplink.fits (by decide)
  exact Nat.mod_eq_of_lt small

/-- The written fields are read back from any order. -/
theorem deserialize_perm (lawful : format.Lawful) {uplink : Uplink}
    {entries : List (format.Value × format.Value)}
    (order : entries.Perm (format.entries (uplink.fields format))) :
    deserialize format (.map entries) = .ok (.ok uplink) := by
  have written := order.map (readEntry format)
  rw [readEntry_fields lawful] at written
  have listed := congrFun (congrFun (List.eq_map_comp_perm
    (Except.ok : FieldValue → Except (DeError format.Error) FieldValue))
    (entries.map (readEntry format)))
    [.confirmed uplink.confirmed, .pendingLen uplink.pending.length.toUInt8,
      .pendingData uplink.fullArray]
  obtain ⟨values, read, taken⟩ := listed.mpr written
  refine deserialize_map_iff.mpr ⟨values, _, _, read, taken, ?_, ?_⟩
  · rw [length_toUInt8]
    exact uplink.fits
  · rw [length_toUInt8, pending_fullArray]

def FieldValue.field : FieldValue → Field
  | .confirmed _ => .confirmed
  | .pendingLen _ => .pendingLen
  | .pendingData _ => .pendingData

theorem readEntry_field {entry : format.Value × format.Value} {value : FieldValue}
    (read : readEntry format entry = .ok value) : nextKey format entry.1 = .ok value.field := by
  unfold readEntry at read
  obtain ⟨field, key, read⟩ := DeError.bind_eq_ok_iff.mp read
  rw [key]
  cases field with
  | confirmed =>
      obtain ⟨b, _, read⟩ := DeError.bind_eq_ok_iff.mp read
      cases read
      rfl
  | pendingLen =>
      obtain ⟨n, _, read⟩ := DeError.bind_eq_ok_iff.mp read
      cases read
      rfl
  | pendingData =>
      obtain ⟨d, _, read⟩ := DeError.bind_eq_ok_iff.mp read
      cases read
      rfl

theorem exists_entry {entries : List (format.Value × format.Value)} {values : List FieldValue}
    (read : entries.map (readEntry format) = values.map .ok) {value : FieldValue}
    (listed : value ∈ values) : ∃ entry ∈ entries, readEntry format entry = .ok value := by
  have found : Except.ok value ∈ entries.map (readEntry format) := by
    rw [read]
    exact List.mem_map_of_mem listed
  obtain ⟨entry, inside, same⟩ := List.mem_map.mp found
  exact ⟨entry, inside, same⟩

theorem exists_value {entries : List (format.Value × format.Value)} {values : List FieldValue}
    (read : entries.map (readEntry format) = values.map .ok)
    {entry : format.Value × format.Value} (inside : entry ∈ entries) :
    ∃ value ∈ values, readEntry format entry = .ok value := by
  have found : readEntry format entry ∈ values.map Except.ok := by
    rw [← read]
    exact List.mem_map_of_mem inside
  obtain ⟨value, listed, same⟩ := List.mem_map.mp found
  exact ⟨value, listed, same.symm⟩

theorem keys_nodup {entries : List (format.Value × format.Value)} {values : List FieldValue}
    {confirmed : Bool} {pendingLen : Byte} {pendingData : Vector Byte fOptsMaxLen}
    (read : entries.map (readEntry format) = values.map .ok)
    (order : values.Perm [.confirmed confirmed, .pendingLen pendingLen,
      .pendingData pendingData]) :
    (entries.map fun entry => (nextKey format entry.1).toOption).Nodup := by
  have fieldsOnce : (values.map FieldValue.field).Nodup := by
    rw [(order.map FieldValue.field).nodup_iff]
    change [Field.confirmed, .pendingLen, .pendingData].Nodup
    decide
  have keys : (entries.map fun entry => (nextKey format entry.1).toOption) =
      (values.map FieldValue.field).map some := by
    have each : ∀ entry ∈ entries, (nextKey format entry.1).toOption =
        (readEntry format entry).toOption.map FieldValue.field := by
      intro entry inside
      obtain ⟨value, _, found⟩ := exists_value read inside
      rw [readEntry_field found, found]
      rfl
    rw [List.map_congr_left each]
    have values_of := congrArg
      (List.map fun result : Except (DeError format.Error) FieldValue =>
        result.toOption.map FieldValue.field) read
    rw [List.map_map, List.map_map] at values_of
    rw [List.map_map]
    exact values_of
  rw [keys]
  exact fieldsOnce.map (Option.some_injective Field)

theorem deserialize_bad {entries : List (format.Value × format.Value)}
    (bad : Bad format entries) : ∃ e, deserialize format (.map entries) = .ok (.error e) := by
  obtain ⟨result, ran⟩ := deserialize_returns format (.map entries)
  cases result with
  | error e => exact ⟨e, ran⟩
  | ok uplink =>
      obtain ⟨values, pendingLen, pendingData, read, order, fits, _⟩ := deserialize_map_iff.mp ran
      exfalso
      cases bad with
      | missing field absent =>
          obtain ⟨value, listed, rfl⟩ : ∃ value ∈ values, value.field = field := by
            cases field with
            | confirmed => exact ⟨_, order.mem_iff.mpr (.head _), rfl⟩
            | pendingLen => exact ⟨_, order.mem_iff.mpr (.tail _ (.head _)), rfl⟩
            | pendingData => exact ⟨_, order.mem_iff.mpr (.tail _ (.tail _ (.head _))), rfl⟩
          obtain ⟨entry, inside, found⟩ := exists_entry read listed
          exact absent entry inside (readEntry_field found)
      | duplicate field before middle after first second both split =>
          have once := keys_nodup read order
          rw [split, List.map_append, List.map_append, List.map_cons, List.map_cons, both.1,
            both.2] at once
          exact (List.nodup_append.mp once).2.2 _
            (List.mem_append_right _ List.mem_cons_self) _ List.mem_cons_self rfl
      | unreadable entry inside e refused =>
          obtain ⟨value, _, found⟩ := exists_value read inside
          rw [refused] at found
          cases found
      | outOfRange entry inside len found large =>
          obtain ⟨value, listed, same⟩ := exists_value read inside
          rw [found] at same
          cases same
          have known := order.mem_iff.mp listed
          simp only [List.mem_cons, reduceCtorEq, FieldValue.pendingLen.injEq, List.not_mem_nil,
            or_false, false_or] at known
          rw [known] at large
          exact absurd fits (Nat.not_le.mpr large)

/-- Queued answers are saved and restored just in the formats that encode structures as maps. -/
theorem persists_iff (lawful : format.Lawful) (encoding : StructEncoding) :
    Persists format encoding ↔ encoding = .map := by
  constructor
  · intro persists
    cases encoding with
    | map => rfl
    | seq =>
        have restored := persists.roundTrip default
        cases restored
  · rintro rfl
    refine ⟨?_, ?_, ?_, deserialize_returns format, ?_⟩
    · intro uplink
      exact deserialize_perm lawful (List.Perm.refl _)
    · intro uplink entries order
      exact deserialize_perm lawful order
    · intro entries bad
      exact deserialize_bad bad
    · intro doc uplink _
      exact uplink.fits

namespace Sample

/-- The JSON values that occur. -/
inductive Json where
  | bool (value : Bool)
  | number (value : Nat)
  | string (value : String)
  | array (items : List Nat)
  deriving DecidableEq

/-- A type error, a number that is too large, or an array of another length. -/
inductive JsonError where
  | invalid
  deriving DecidableEq

def readOctet (value : Nat) : Except JsonError UInt8 :=
  if value < 256 then .ok value.toUInt8 else .error .invalid

def readArray (n : Nat) (items : List Nat) : Except JsonError (Vector UInt8 n) :=
  match items.mapM readOctet with
  | .error e => .error e
  | .ok octets => if same : octets.length = n then .ok (Bytes.arr n octets same) else .error .invalid

def json : Format where
  Value := Json
  Error := JsonError
  bool := .bool
  u8 value := .number value.toNat
  octets value := .array (value.toList.map UInt8.toNat)
  key := .string
  readBool
    | .bool value => .ok value
    | _ => .error .invalid
  readU8
    | .number value => readOctet value
    | _ => .error .invalid
  readOctets n
    | .array items => readArray n items
    | _ => .error .invalid
  readKey
    | .string name => .ok (.name name)
    | _ => .error .invalid

theorem readOctet_toNat (value : UInt8) : readOctet value.toNat = .ok value := by
  rw [readOctet, if_pos value.toNat_lt]
  exact congrArg Except.ok (UInt8.ofNat_toNat)

theorem mapM_readOctet (octets : List UInt8) :
    (octets.map UInt8.toNat).mapM readOctet = .ok octets := by
  induction octets with
  | nil => rfl
  | cons octet rest ih =>
      rw [List.map_cons, List.mapM_cons, readOctet_toNat, ih]
      rfl

theorem json_lawful : json.Lawful := by
  refine ⟨fun _ => rfl, readOctet_toNat, ?_, fun _ => rfl⟩
  intro n value
  change readArray n (value.toList.map UInt8.toNat) = .ok value
  rw [readArray, mapM_readOctet]
  simp only [Vector.length_toList, dif_pos]
  exact congrArg Except.ok (Bytes.arr_of_toList value _)

def queued : Uplink := ⟨[0x06, 0xff, 0x00], true, by decide⟩

end Sample

/-- The default answers are refused where structures are sequences. -/
theorem sequence_refused :
    deserialize Sample.json (default.serialize Sample.json .seq) = .ok (.error .invalidType) ∧
      ¬ Persists Sample.json .seq := by
  refine ⟨rfl, ?_⟩
  intro persists
  have restored := persists.roundTrip default
  cases restored

theorem persists_iff_sample : (Persists Sample.json .map ↔ StructEncoding.map = .map) ∧
    deserialize Sample.json (Sample.queued.serialize Sample.json .map) =
      .ok (.ok Sample.queued) := by
  have persists := persists_iff Sample.json_lawful .map
  exact ⟨persists, (persists.mpr rfl).roundTrip Sample.queued⟩

end Uplink

end LoraRs.Mac
