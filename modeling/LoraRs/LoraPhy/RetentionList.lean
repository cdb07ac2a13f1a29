import LoraRs.LoraPhy.Sx126x

/-!
# The retention list of the SX126x

A register is added behind the ones that are listed, unless it is listed or the list is
full.  The loop runs as far as the count that was read: a count over four takes it beyond
the buffer, unless it stops at the register before.
-/

set_option autoImplicit false

namespace LoraRs.LoraPhy.Sx126x

open LoraRs.Lib

/-! ## What a buffer lists -/

def address (register : Register) : UInt8 × UInt8 := (register.addr1, register.addr2)

theorem count_inside : 0 < 9 := by decide

def count (content : Retention) : Nat := (content.get ⟨0, count_inside⟩).toNat

/-- The address at place `i`. -/
def entry (content : Retention) (i : Fin 4) : UInt8 × UInt8 :=
  (content.get ⟨1 + 2 * i.val, by omega⟩, content.get ⟨2 + 2 * i.val, by omega⟩)

def Lists (content : Retention) (register : Register) : Prop :=
  ∃ i : Fin 4, i.val < count content ∧ entry content i = address register

instance (content : Retention) (register : Register) : Decidable (Lists content register) := by
  unfold Lists
  infer_instance

/-- `next` is `content` with the register behind its first `count` entries. -/
structure AppendedBehind (register : Register) (content next : Retention) : Prop where
  counted : count next = count content + 1
  behind : ∀ i : Fin 4, i.val = count content → entry next i = address register
  others : ∀ i : Fin 4, i.val ≠ count content → entry next i = entry content i

/-! ## The loop -/

theorem offset_ok {k i : Nat} (small : k + 2 * i < 2 ^ 8) : offset k i = .ok (k + 2 * i) := by
  have inner : 2 * i < 2 ^ 8 := by omega
  rw [offset, Checked.u8_ok inner, Checked.ok_bind, Checked.u8_ok small]

theorem octetAt_ok {buffer : Retention} {i : Nat} (inside : i < 9) :
    octetAt buffer i = .ok (buffer.get ⟨i, inside⟩) := dif_pos inside

section Loop

variable (register : Register) (buffer : Retention)

theorem listed_round (todo : Nat) (i : Fin 4) :
    listed register buffer (todo + 1) i.val =
      if entry buffer i = address register then .ok true
      else listed register buffer todo (i.val + 1) := by
  have place := i.isLt
  have first : 1 + 2 * i.val < 9 := by omega
  have second : 2 + 2 * i.val < 9 := by omega
  rw [listed, offset_ok (by omega), Checked.ok_bind, octetAt_ok first, Checked.ok_bind]
  by_cases high : register.addr1 = buffer.get ⟨1 + 2 * i.val, first⟩
  · rw [if_pos high, offset_ok (by omega), Checked.ok_bind, octetAt_ok second, Checked.ok_bind]
    by_cases low : register.addr2 = buffer.get ⟨2 + 2 * i.val, second⟩
    · have same : entry buffer i = address register := Prod.ext high.symm low.symm
      rw [if_pos low, if_pos same]
      rfl
    · have differs : entry buffer i ≠ address register := fun same =>
        low (congrArg Prod.snd same).symm
      rw [if_neg low, if_neg differs]
  · have differs : entry buffer i ≠ address register := fun same =>
      high (congrArg Prod.fst same).symm
    rw [if_neg high, if_neg differs]

theorem listed_end (todo : Nat) : listed register buffer (todo + 1) 4 = .error .outOfBounds := by
  rw [listed, offset_ok (by decide), Checked.ok_bind]
  rfl

/-- The loop stops at the first place with the register, and else at the end of the count
or of the buffer. -/
theorem listed_eq (todo i : Nat) (inside : i ≤ 4) : listed register buffer todo i =
    if ∃ k : Fin 4, i ≤ k.val ∧ k.val < i + todo ∧ entry buffer k = address register then
      .ok true
    else if i + todo ≤ 4 then .ok false
    else .error .outOfBounds := by
  induction todo generalizing i with
  | zero =>
      have none : ¬ ∃ k : Fin 4, i ≤ k.val ∧ k.val < i + 0 ∧ entry buffer k = address register := by
        rintro ⟨k, above, below, _⟩
        omega
      rw [if_neg none, Nat.add_zero, if_pos inside]
      rfl
  | succ todo ih =>
      by_cases last : i = 4
      · have none : ¬ ∃ k : Fin 4, i ≤ k.val ∧ k.val < i + (todo + 1) ∧
            entry buffer k = address register := by
          rintro ⟨k, above, _⟩
          omega
        rw [if_neg none, if_neg (by omega), last, listed_end]
      · have place : i < 4 := by omega
        rw [listed_round register buffer todo ⟨i, place⟩, ih (i + 1) place]
        by_cases here : entry buffer ⟨i, place⟩ = address register
        · have found : ∃ k : Fin 4, i ≤ k.val ∧ k.val < i + (todo + 1) ∧
              entry buffer k = address register := ⟨⟨i, place⟩, le_refl i, Nat.lt_add_of_pos_right (Nat.succ_pos _), here⟩
          rw [if_pos here, if_pos found]
        · have later : (∃ k : Fin 4, i ≤ k.val ∧ k.val < i + (todo + 1) ∧
                entry buffer k = address register) ↔
              ∃ k : Fin 4, i + 1 ≤ k.val ∧ k.val < i + 1 + todo ∧
                entry buffer k = address register := by
            constructor
            · rintro ⟨k, above, below, same⟩
              have other : k.val ≠ i := by
                rintro rfl
                exact here same
              exact ⟨k, by omega, by omega, same⟩
            · rintro ⟨k, above, below, same⟩
              exact ⟨k, by omega, by omega, same⟩
          have total : i + (todo + 1) = i + 1 + todo := by omega
          rw [if_neg here, if_congr later rfl rfl, total]

theorem listed_buffer : listed register buffer (count buffer) 0 =
    if Lists buffer register then .ok true
    else if count buffer ≤ 4 then .ok false
    else .error .outOfBounds := by
  have same : (∃ k : Fin 4, 0 ≤ k.val ∧ k.val < 0 + count buffer ∧
      entry buffer k = address register) ↔ Lists buffer register := by
    constructor
    · rintro ⟨k, _, below, same⟩
      exact ⟨k, by omega, same⟩
    · rintro ⟨k, below, same⟩
      exact ⟨k, Nat.zero_le _, by omega, same⟩
  rw [listed_eq register buffer (count buffer) 0 (by decide), if_congr same rfl rfl, Nat.zero_add]

end Loop

/-! ## The new buffer -/

theorem setOctet_ok {buffer : Retention} {i : Nat} (inside : i < 9) (v : UInt8) :
    setOctet buffer i v = .ok (buffer.set i v inside) := dif_pos inside

/-- With room, the register is written behind the others. -/
theorem appended_ok (register : Register) (content : Retention) (room : count content < 4) :
    ∃ next, appended register content (count content) = .ok next ∧
      AppendedBehind register content next := by
  have first : 1 + 2 * count content < 9 := by omega
  have second : 2 + 2 * count content < 9 := by omega
  have head : 0 < 9 := by omega
  have more : (content.get ⟨0, head⟩).toNat + 1 < 2 ^ 8 := by
    change count content + 1 < 2 ^ 8
    omega
  let counted := content.set 0 ((content.get ⟨0, head⟩).toNat + 1).toUInt8 head
  let next := (counted.set (1 + 2 * count content) register.addr1 first).set
    (2 + 2 * count content) register.addr2 second
  have at_ : ∀ (j : Nat) (inside : j < 9), next.get ⟨j, inside⟩ =
      if 2 + 2 * count content = j then register.addr2
      else if 1 + 2 * count content = j then register.addr1
      else if 0 = j then ((content.get ⟨0, head⟩).toNat + 1).toUInt8
      else content.get ⟨j, inside⟩ := by
    intro j inside
    change next[j] = _
    rw [Vector.getElem_set, Vector.getElem_set, Vector.getElem_set]
    rfl
  refine ⟨next, ?_, ?_, ?_, ?_⟩
  · rw [appended, octetAt_ok head, Checked.ok_bind, Checked.u8_ok more, Checked.ok_bind,
      setOctet_ok head, Checked.ok_bind, offset_ok (by omega), Checked.ok_bind,
      setOctet_ok first, Checked.ok_bind, offset_ok (by omega), Checked.ok_bind,
      setOctet_ok second]
  · change (next.get ⟨0, head⟩).toNat = _
    rw [at_, if_neg (by omega), if_neg (by omega), if_pos rfl]
    exact Nat.mod_eq_of_lt more
  · intro i same
    refine Prod.ext ?_ ?_
    · change next.get ⟨1 + 2 * i.val, _⟩ = _
      rw [at_, if_neg (by omega), if_pos (by omega)]
      rfl
    · change next.get ⟨2 + 2 * i.val, _⟩ = _
      rw [at_, if_pos (by omega)]
      rfl
  · intro i other
    refine Prod.ext ?_ ?_
    · change next.get ⟨1 + 2 * i.val, _⟩ = _
      rw [at_, if_neg (by omega), if_neg (by omega), if_neg (by omega)]
      rfl
    · change next.get ⟨2 + 2 * i.val, _⟩ = _
      rw [at_, if_neg (by omega), if_neg (by omega), if_neg (by omega)]
      rfl

/-! ## A call -/

/-- What a call is for: the register stays or comes behind the others, or there is no room,
and the call does not stop. -/
structure Handles (content : Retention) (register : Register) (written : Except RadioError Unit)
    (writes : List RegisterWrite) : Prop where
  safe : ∀ fault, (addRegisterToRetentionList ⟨.ok content, written⟩ register writes).1 ≠
    .error (.panicked fault)
  listed : Lists content register →
    addRegisterToRetentionList ⟨.ok content, written⟩ register writes = (.ok (), writes)
  appended : ¬ Lists content register → count content < 4 →
    ∃ next, AppendedBehind register content next ∧
      addRegisterToRetentionList ⟨.ok content, written⟩ register writes =
        (written.mapError Halt.failed, writes ++ [retentionWrite next])
  refused : ¬ Lists content register → 4 ≤ count content →
    addRegisterToRetentionList ⟨.ok content, written⟩ register writes =
      (.error (.failed .invalidConfiguration), writes)

theorem answered_apply {α : Type} (answer : Except RadioError α) (writes : List RegisterWrite) :
    answered answer writes = (answer.mapError Halt.failed, writes) := by
  cases answer <;> rfl

section Call

variable {content : Retention} {register : Register} (written : Except RadioError Unit)
  (writes : List RegisterWrite)

theorem add_of_listed (found : Lists content register) :
    addRegisterToRetentionList ⟨.ok content, written⟩ register writes = (.ok (), writes) := by
  have loop := listed_buffer register content
  rw [if_pos found] at loop
  change (checked (listed register content (count content) 0) >>= _) writes = _
  rw [loop]
  rfl

theorem add_of_room (absent : ¬ Lists content register) (room : count content < 4) :
    ∃ next, AppendedBehind register content next ∧
      addRegisterToRetentionList ⟨.ok content, written⟩ register writes =
        (written.mapError Halt.failed, writes ++ [retentionWrite next]) := by
  have loop := listed_buffer register content
  rw [if_neg absent, if_pos room.le] at loop
  obtain ⟨next, made, behind⟩ := appended_ok register content room
  refine ⟨next, behind, ?_⟩
  change (checked (listed register content (count content) 0) >>= _) writes = _
  rw [loop]
  change (if count content < maxNumberRegsInRetention then _ else _ : BusM Unit) writes = _
  rw [if_pos (show count content < maxNumberRegsInRetention from room)]
  change (checked (Sx126x.appended register content (count content)) >>= _) writes = _
  rw [made]
  exact answered_apply written _

theorem add_of_full (absent : ¬ Lists content register) (full : count content = 4) :
    addRegisterToRetentionList ⟨.ok content, written⟩ register writes =
      (.error (.failed .invalidConfiguration), writes) := by
  have loop := listed_buffer register content
  rw [if_neg absent, if_pos full.le] at loop
  change (checked (listed register content (count content) 0) >>= _) writes = _
  rw [loop]
  change (if count content < maxNumberRegsInRetention then _ else _ : BusM Unit) writes = _
  rw [if_neg (by rw [full, maxNumberRegsInRetention]; decide)]
  rfl

theorem add_of_overfull (absent : ¬ Lists content register) (overfull : 4 < count content) :
    addRegisterToRetentionList ⟨.ok content, written⟩ register writes =
      (.error (.panicked .outOfBounds), writes) := by
  have loop := listed_buffer register content
  rw [if_neg absent, if_neg (by omega)] at loop
  change (checked (listed register content (count content) 0) >>= _) writes = _
  rw [loop]
  rfl

theorem handles_iff : Handles content register written writes ↔
    count content ≤ 4 ∨ Lists content register := by
  constructor
  · intro handles
    by_contra neither
    obtain ⟨beyond, absent⟩ := not_or.mp neither
    apply handles.safe .outOfBounds
    rw [add_of_overfull written writes absent (by omega)]
  · intro condition
    have never : ∀ (e : Except RadioError Unit) fault,
        e.mapError Halt.failed ≠ .error (.panicked fault) := by
      rintro (e | _) fault same
      · cases same
      · cases same
    by_cases found : Lists content register
    · have run := add_of_listed written writes found
      refine ⟨?_, fun _ => run, fun absent => absurd found absent,
        fun absent => absurd found absent⟩
      rw [run]
      intro fault same
      cases same
    · have small : count content ≤ 4 := condition.resolve_right found
      by_cases room : count content < 4
      · obtain ⟨next, behind, run⟩ := add_of_room written writes found room
        refine ⟨?_, fun listed => absurd listed found, fun _ _ => ⟨next, behind, run⟩,
          fun _ full => absurd room (by omega)⟩
        rw [run]
        exact never written
      · have run := add_of_full written writes found (by omega)
        refine ⟨?_, fun listed => absurd listed found, fun _ less => absurd less room,
          fun _ _ => run⟩
        rw [run]
        intro fault same
        cases same

end Call

/-- A call on a list that was read does what it is for exactly if the count is at most four or
the register is found before the buffer ends; after a failed read nothing is written. -/
theorem retention_list_handled_iff (content : Retention) (register : Register)
    (written : Except RadioError Unit) (writes : List RegisterWrite) :
    (Handles content register written writes ↔ count content ≤ 4 ∨ Lists content register) ∧
    ∀ e, addRegisterToRetentionList ⟨.error e, written⟩ register writes =
      (.error (.failed e), writes) :=
  ⟨handles_iff written writes, fun _ => rfl⟩

/-- The octets of a bus that nothing drives. -/
theorem undriven_bus_panics : ¬ ∀ content register written writes,
    Handles content register written writes := by
  intro handles
  have condition := (handles_iff (.ok ()) []).mp
    (handles (Vector.replicate 9 0xFF) .rxGain (.ok ()) [])
  revert condition
  decide +kernel

/-- The two calls of an update do not stop either, on lists of at most four. -/
theorem updateRetentionList_safe {first second : Retention} (written rewritten : Except RadioError Unit)
    (writes : List RegisterWrite) (small : count first ≤ 4) (still : count second ≤ 4)
    (fault : Fault) :
    (updateRetentionList ⟨.ok first, written⟩ ⟨.ok second, rewritten⟩ writes).1 ≠
      .error (.panicked fault) := by
  have gain : Handles first .rxGain written writes := (handles_iff written writes).mpr (.inl small)
  cases ran : addRegisterToRetentionList ⟨.ok first, written⟩ .rxGain writes with
  | mk outcome left =>
      have modulation : Handles second .txModulation rewritten left :=
        (handles_iff rewritten left).mpr (.inl still)
      rw [updateRetentionList]
      cases outcome with
      | error e =>
          have safe := gain.safe fault
          rw [Procedure.bind_error ran]
          rw [ran] at safe
          exact safe
      | ok done =>
          rw [Procedure.bind_ok ran]
          exact modulation.safe fault

end LoraRs.LoraPhy.Sx126x
