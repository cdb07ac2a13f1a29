import LoraRs.Region.Walk

/-!
# The channels of the join walk

The walk goes round the nine banks and moves to another channel of its first bank after
each round.  So nine channels in a row are one of each bank, and 72 in a row are all of
them; the loop that looks for an unused channel always has one to find.
-/

set_option autoImplicit false

namespace LoraRs.Region

open LoraRs.Encoding LoraRs.Lib

/-! ## Rounds -/

/-- One channel of each bank, from `start` on. -/
def lap (start : Nat) : List Nat := (List.range 9).map fun k => (start + 8 * k) % 72

@[simp] theorem lap_length (start : Nat) : (lap start).length = 9 := by
  rw [lap, List.length_map, List.length_range]

/-- A round goes through the channels with one place in their banks. -/
theorem mem_lap_iff {start i : Nat} (inside : start < 72) :
    i ∈ lap start ↔ i < 72 ∧ i % 8 = start % 8 := by
  constructor
  · intro listed
    obtain ⟨k, _, rfl⟩ := List.mem_map.mp listed
    omega
  · rintro ⟨small, place⟩
    refine List.mem_map.mpr ⟨(i / 8 + 9 - start / 8) % 9, ?_, ?_⟩
    · exact List.mem_range.mpr (Nat.mod_lt _ (by decide))
    · omega

theorem mem_lap_take_iff {start k i : Nat} (inside : k ≤ 9) :
    i ∈ (lap start).take k ↔ ∃ j < k, i = (start + 8 * j) % 72 := by
  rw [lap, ← List.map_take, List.take_range, Nat.min_eq_left inside, List.mem_map]
  constructor
  · rintro ⟨j, below, rfl⟩
    exact ⟨j, List.mem_range.mp below, rfl⟩
  · rintro ⟨j, below, rfl⟩
    exact ⟨j, List.mem_range.mpr below, rfl⟩

theorem lap_take_succ {start k : Nat} (inside : k < 9) :
    (lap start).take (k + 1) = (lap start).take k ++ [(start + 8 * k) % 72] := by
  rw [List.take_succ_eq_append_getElem (by simpa using inside)]
  congr 2
  simp only [lap, List.getElem_map, List.getElem_range]

theorem lap_banks {start : Nat} (inside : start < 72) :
    ((lap start).map (· / 8)).Perm (List.range 9) := by
  have turned : (lap start).map (· / 8) = (List.range 9).map fun k => (start / 8 + k) % 9 := by
    rw [lap, List.map_map]
    refine List.map_congr_left fun k listed => ?_
    simp only [Function.comp_apply]
    omega
  have turns : ∀ bank : Fin 9,
      ((List.range 9).map fun k => (bank.val + k) % 9).Perm (List.range 9) := by
    decide
  rw [turned]
  exact turns ⟨start / 8, by omega⟩

/-- The rounds that start at the given channels, one after the other. -/
def laps (starts : List Nat) : List Nat := starts.flatMap lap

@[simp] theorem laps_length (starts : List Nat) : (laps starts).length = 9 * starts.length := by
  induction starts with
  | nil => rfl
  | cons start rest hypothesis =>
      rw [laps, List.flatMap_cons, List.length_append, lap_length, ← laps, hypothesis,
        List.length_cons]
      omega

theorem laps_append (starts : List Nat) (start : Nat) :
    laps (starts ++ [start]) = laps starts ++ lap start := by
  simp only [laps, List.flatMap_append, List.flatMap_cons, List.flatMap_nil, List.append_nil]

/-! ## The unused channels -/

theorem byte_eq_zero {b : Byte} (clear : ∀ k < 8, bit b k = false) : b = 0 := by
  apply UInt8.toNat_inj.mp
  apply Nat.eq_of_testBit_eq
  intro k
  rw [UInt8.toNat_zero, Nat.zero_testBit]
  by_cases small : k < 8
  · exact clear k small
  · have bound : b.toNat < 2 ^ 8 := b.toNat_lt
    have power : 2 ^ 8 ≤ 2 ^ k := Nat.pow_le_pow_right (by omega) (by omega)
    exact Nat.testBit_lt_two_pow (by omega)

namespace AvailableChannels

variable {available next : AvailableChannels}

/-- A walk is used up when no channel is enabled. -/
theorem isExhausted_iff :
    available.isExhausted = true ↔ ∀ i < 72, available.data.enabled i = false := by
  rw [isExhausted, List.all_eq_true]
  constructor
  · intro zeros i inside
    have bank : i / 8 < 9 := by omega
    have zero : available.data.bytes[i / 8] = 0 := by
      have listed := zeros available.data.bytes[i / 8] (by simp)
      exact eq_of_beq listed
    rw [ChannelMask.enabled, dif_pos bank, zero]
    exact bit_zeros _
  · intro clear b listed
    obtain ⟨bank, inside, found⟩ := List.mem_iff_getElem.mp listed
    have small : bank < 9 := by simpa using inside
    have zero : b = 0 := by
      apply byte_eq_zero
      intro k below
      have place : (8 * bank + k) / 8 = bank := by omega
      have low : (8 * bank + k) % 8 = k := by omega
      have off := clear (8 * bank + k) (by omega)
      rw [ChannelMask.enabled, place, low, dif_pos small] at off
      rw [← found]
      exact off
    rw [zero]
    rfl

theorem probe_enabled {data : ChannelMask 9} {bank fuel : Nat} {entropy : UInt32} {used : Nat}
    {rng rest : Rng} {channel : Nat} (inside : bank < 9)
    (probed : probe data bank fuel entropy used rng = .ok (channel, rest)) :
    data.enabled channel = true := by
  induction fuel generalizing entropy used rng with
  | zero => cases probed
  | succ fuel hypothesis =>
      have low := and_seven_lt entropy
      rw [probe, isEnabledUnwrap_eq _ _ (by omega), Checked.ok_bind] at probed
      by_cases enabled : data.enabled ((entropy &&& 0b111).toNat + bank * 8) = true
      · rw [if_pos enabled] at probed
        cases probed
        exact enabled
      · rw [if_neg enabled] at probed
        by_cases spent : used = 10
        · rw [if_pos spent] at probed
          exact hypothesis probed
        · rw [if_neg spent] at probed
          exact hypothesis probed

/-! ## One round after the other -/

/-- The walk after the channels `used`: whole rounds from the channels `done`, and `k`
channels of the round from `start`. -/
structure Walking (available : AvailableChannels) (used done : List Nat) (start k : Nat) :
    Prop where
  used_eq : used = laps done ++ (lap start).take k
  begun : 1 ≤ k ∧ k ≤ 9
  inside : start < 72
  bank : ∀ earlier ∈ done, earlier / 8 = start / 8
  distinct : (done ++ [start]).Nodup
  fresh : used.Nodup
  mask : ∀ i < 72, available.data.enabled i = decide (i ∉ used)
  previous : available.previous = some ((start + 8 * (k - 1)) % 72)

/-- Where the walk stands after the channels `used` of the 72. -/
def Stands (available : AvailableChannels) (used : List Nat) : Prop :=
  (used = [] ∧ available = default) ∨ ∃ done start k, available.Walking used done start k

namespace Walking

variable {used done : List Nat} {start k : Nat}

theorem length_eq (walking : available.Walking used done start k) :
    used.length = 9 * done.length + k := by
  rw [walking.used_eq, List.length_append, laps_length, List.length_take, lap_length,
    Nat.min_eq_left walking.begun.2]

theorem done_lt (walking : available.Walking used done start k) {earlier : Nat}
    (listed : earlier ∈ done) : earlier < 72 := by
  have bank := walking.bank earlier listed
  have inside := walking.inside
  omega

/-- What has been used: the places of the rounds done, and the channels of this one. -/
theorem mem_used_iff (walking : available.Walking used done start k) {i : Nat} :
    i ∈ used ↔ (i < 72 ∧ ∃ earlier ∈ done, i % 8 = earlier % 8) ∨
      ∃ j < k, i = (start + 8 * j) % 72 := by
  rw [walking.used_eq, List.mem_append, mem_lap_take_iff walking.begun.2]
  refine or_congr_left ?_
  rw [laps, List.mem_flatMap]
  constructor
  · rintro ⟨earlier, listed, found⟩
    obtain ⟨small, place⟩ := (mem_lap_iff (walking.done_lt listed)).mp found
    exact ⟨small, earlier, listed, place⟩
  · rintro ⟨small, earlier, listed, place⟩
    exact ⟨earlier, listed, (mem_lap_iff (walking.done_lt listed)).mpr ⟨small, place⟩⟩

theorem used_lt (walking : available.Walking used done start k) {i : Nat} (listed : i ∈ used) :
    i < 72 := by
  rcases walking.mem_used_iff.mp listed with ⟨small, _⟩ | ⟨j, _, rfl⟩
  · exact small
  · exact Nat.mod_lt _ (by decide)

theorem place_ne (walking : available.Walking used done start k) {earlier : Nat}
    (listed : earlier ∈ done) : start % 8 ≠ earlier % 8 := by
  intro place
  have bank := walking.bank earlier listed
  have same : earlier = start := by omega
  have apart := List.nodup_append.mp walking.distinct
  exact apart.2.2 earlier listed start (List.mem_singleton_self start) same

/-- Within a round the next channel is eight further on. -/
theorem next_unused (walking : available.Walking used done start k) (unfinished : k < 9) :
    (start + 8 * k) % 72 ∉ used := by
  intro listed
  rcases walking.mem_used_iff.mp listed with ⟨_, earlier, listed, place⟩ | ⟨j, below, same⟩
  · have other := walking.place_ne listed
    omega
  · omega

/-- Once its round is done, the bank has a channel left unless all have. -/
theorem bank_open (walking : available.Walking used done start 9) (left : used.length < 72) :
    ∃ i, i / 8 = start / 8 ∧ i ∉ used := by
  have few : (done ++ [start]).length < 8 := by
    have count := walking.length_eq
    simp only [List.length_append, List.length_singleton]
    omega
  have places : ((List.range 8).map fun place => 8 * (start / 8) + place).Nodup := by
    refine List.Nodup.map ?_ List.nodup_range
    intro first second same
    exact Nat.add_left_cancel same
  have vacant : ∃ i ∈ (List.range 8).map fun place => 8 * (start / 8) + place,
      i ∉ done ++ [start] := by
    by_contra full
    push Not at full
    have many := (places.subperm full).length_le
    rw [List.length_map, List.length_range] at many
    omega
  obtain ⟨i, listed, unused⟩ := vacant
  obtain ⟨place, small, rfl⟩ := List.mem_map.mp listed
  have below := List.mem_range.mp small
  refine ⟨8 * (start / 8) + place, by omega, ?_⟩
  intro found
  apply unused
  rcases walking.mem_used_iff.mp found with ⟨_, earlier, before, same⟩ | ⟨j, round, same⟩
  · have bank := walking.bank earlier before
    have equal : 8 * (start / 8) + place = earlier := by omega
    rw [equal]
    exact List.mem_append_left _ before
  · have inside := walking.inside
    have equal : 8 * (start / 8) + place = start := by omega
    rw [equal]
    exact List.mem_append_right _ (List.mem_singleton_self start)

end Walking

/-! ## Each call -/

theorem default_enabled (i : Nat) (inside : i < 72) : default.data.enabled i = true := by
  rw [default, ChannelMask.enabled_default]
  exact decide_eq_true inside

theorem mask_use {data after : ChannelMask 9} {used : List Nat} {channel : Nat}
    (before : ∀ i < 72, data.enabled i = decide (i ∉ used))
    (written : data.setChannel channel false = .ok after) (i : Nat) (inside : i < 72) :
    after.enabled i = decide (i ∉ used ++ [channel]) := by
  rw [ChannelMask.enabled_setChannel written]
  by_cases same : i = channel
  · rw [if_pos same]
    symm
    apply decide_eq_false
    rw [same]
    exact not_not_intro (List.mem_append_right _ (List.mem_singleton_self channel))
  · rw [if_neg same, before i inside]
    simp [same]

theorem nodup_snoc {used : List Nat} {channel : Nat} (fresh : used.Nodup)
    (unused : channel ∉ used) : (used ++ [channel]).Nodup := by
  refine List.nodup_append.mpr ⟨fresh, List.nodup_singleton channel, ?_⟩
  intro earlier listed last here same
  rw [same, List.mem_singleton.mp here] at listed
  exact unused listed

theorem walking_first {data : ChannelMask 9} {channel : Nat} (inside : channel < 72)
    (written : default.data.setChannel channel false = .ok data) :
    Walking ⟨data, some channel⟩ [channel] [] channel 1 := by
  constructor
  · rw [lap_take_succ (by decide), Nat.mul_zero, Nat.add_zero, Nat.mod_eq_of_lt inside]
    rfl
  · decide
  · exact inside
  · intro earlier listed
    cases listed
  · exact List.nodup_singleton channel
  · exact List.nodup_singleton channel
  · intro i small
    have before : ∀ i < 72, default.data.enabled i = decide (i ∉ ([] : List Nat)) := by
      intro i small
      rw [default_enabled i small]
      symm
      exact decide_eq_true List.not_mem_nil
    exact mask_use before written i small
  · rw [Nat.sub_self, Nat.mul_zero, Nat.add_zero, Nat.mod_eq_of_lt inside]

variable {used done : List Nat} {start k fuel channel : Nat} {rng rest : Rng}

/-- Eight channels further on, within a round. -/
theorem Walking.advance (walking : available.Walking used done start k) (unfinished : k < 9)
    {data : ChannelMask 9}
    (written : available.data.setChannel ((start + 8 * k) % 72) false = .ok data) :
    Walking ⟨data, some ((start + 8 * k) % 72)⟩ (used ++ [(start + 8 * k) % 72]) done start
      (k + 1) := by
  constructor
  · rw [lap_take_succ unfinished, ← List.append_assoc, ← walking.used_eq]
  · omega
  · exact walking.inside
  · exact walking.bank
  · exact walking.distinct
  · exact nodup_snoc walking.fresh (walking.next_unused unfinished)
  · exact mask_use walking.mask written
  · rfl

/-- Another round, from an unused channel of the bank. -/
theorem Walking.again (walking : available.Walking used done start 9) {data : ChannelMask 9}
    (bank : channel / 8 = start / 8) (unused : channel ∉ used)
    (written : available.data.setChannel channel false = .ok data) :
    Walking ⟨data, some channel⟩ (used ++ [channel]) (done ++ [start]) channel 1 := by
  have inside : channel < 72 := by
    have small := walking.inside
    omega
  have first : (lap channel).take 1 = [channel] := by
    rw [lap_take_succ (by decide), Nat.mul_zero, Nat.add_zero, Nat.mod_eq_of_lt inside]
    rfl
  have whole : used = laps done ++ lap start := by
    rw [walking.used_eq, List.take_of_length_le (by simp)]
  constructor
  · rw [laps_append, ← whole, first]
  · decide
  · exact inside
  · intro earlier listed
    rcases List.mem_append.mp listed with before | last
    · exact (walking.bank earlier before).trans bank.symm
    · rw [List.mem_singleton.mp last]
      exact bank.symm
  · apply nodup_snoc walking.distinct
    intro listed
    apply unused
    rw [whole]
    rcases List.mem_append.mp listed with before | last
    · refine List.mem_append_left _ (List.mem_flatMap.mpr ⟨channel, before, ?_⟩)
      exact (mem_lap_iff inside).mpr ⟨inside, rfl⟩
    · rw [← List.mem_singleton.mp last]
      exact List.mem_append_right _ ((mem_lap_iff inside).mpr ⟨inside, rfl⟩)
  · exact nodup_snoc walking.fresh unused
  · exact mask_use walking.mask written
  · rw [Nat.sub_self, Nat.mul_zero, Nat.add_zero, Nat.mod_eq_of_lt inside]

/-- A walk with fewer than 72 channels used has one left. -/
theorem Stands.not_exhausted (stands : available.Stands used) (left : used.length < 72) :
    available.isExhausted = false := by
  apply Bool.eq_false_iff.mpr
  intro exhausted
  have off := isExhausted_iff.mp exhausted
  rcases stands with ⟨_, rfl⟩ | ⟨done, start, k, walking⟩
  · have on := default_enabled 0 (by decide)
    rw [off 0 (by decide)] at on
    cases on
  · have usedUp : List.range 72 ⊆ used := by
      intro i listed
      have inside := List.mem_range.mp listed
      have here := walking.mask i inside
      rw [off i inside] at here
      exact Decidable.not_not.mp (of_decide_eq_false here.symm)
    have many := (List.nodup_range.subperm usedUp).length_le
    rw [List.length_range] at many
    omega

theorem Stands.exhausted (stands : available.Stands used) (full : used.length = 72) :
    available.isExhausted = true := by
  rcases stands with ⟨rfl, _⟩ | ⟨done, start, k, walking⟩
  · cases full
  · apply isExhausted_iff.mpr
    intro i inside
    have within : used ⊆ List.range 72 := fun i listed =>
      List.mem_range.mpr (walking.used_lt listed)
    have all := (walking.fresh.subperm within).perm_of_length_le (by simp [full])
    rw [walking.mask i inside]
    apply decide_eq_false
    exact not_not_intro (all.mem_iff.mpr (List.mem_range.mpr inside))

/-- The channel of one call while the walk goes on. -/
theorem Stands.inner (stands : available.Stands used) (left : used.length < 72)
    {data : ChannelMask 9} (walked : available.getNextChannelInner fuel rng = .ok (channel, rest))
    (written : available.data.setChannel channel false = .ok data) :
    Stands ⟨data, some channel⟩ (used ++ [channel]) := by
  rcases stands with ⟨rfl, rfl⟩ | ⟨done, start, k, walking⟩
  · have class500 := getNextChannelInner_class walked rfl
    exact .inr ⟨[], channel, 1, walking_first class500.1 written⟩
  · obtain ⟨first, last⟩ := walking.begun
    have next : ((start + 8 * (k - 1)) % 72 + 8) % 72 = (start + 8 * k) % 72 := by omega
    have inside : (start + 8 * k) % 72 < 72 := Nat.mod_lt _ (by decide)
    unfold getNextChannelInner at walked
    rw [walking.previous] at walked
    simp only [next] at walked
    rw [isEnabledUnwrap_eq _ _ inside, Checked.ok_bind, walking.mask _ inside] at walked
    by_cases unfinished : k < 9
    · rw [if_pos (decide_eq_true (walking.next_unused unfinished))] at walked
      cases walked
      exact .inr ⟨done, start, k + 1, walking.advance unfinished written⟩
    · obtain rfl : k = 9 := by omega
      have small := walking.inside
      have round : (start + 8 * 9) % 72 = start := by omega
      have used' : start ∈ used := walking.mem_used_iff.mpr (.inr ⟨0, by decide, by omega⟩)
      rw [round, if_neg (by simpa using used')] at walked
      have bank := probe_bank walked
      have enabled := probe_enabled (by omega) walked
      rw [walking.mask channel (by omega)] at enabled
      exact .inr ⟨done ++ [start], channel, 1,
        walking.again bank (of_decide_eq_true enabled) written⟩

/-- One call: the walk goes on, or starts anew once all channels are used. -/
theorem Stands.getNext (stands : available.Stands used) (inside : used.length ≤ 72)
    (walked : available.getNext fuel rng = .ok (channel, rest, next)) :
    next.Stands (if used.length = 72 then [channel] else used ++ [channel]) := by
  obtain ⟨⟨found, after⟩, inner, walked⟩ := Checked.bind_eq_ok_iff.mp walked
  obtain ⟨data, written, walked⟩ := Checked.bind_eq_ok_iff.mp walked
  cases walked
  by_cases full : used.length = 72
  · rw [stands.exhausted full] at inner written
    rw [if_pos full]
    have anew : default.Stands [] := .inl ⟨rfl, rfl⟩
    exact anew.inner (by decide) inner written
  · have left : used.length < 72 := by omega
    rw [stands.not_exhausted left] at inner written
    rw [if_neg full]
    exact stands.inner left inner written

/-- The loop is entered in `bank`: the channel eight after the last one is used. -/
def Probes (available : AvailableChannels) (bank : Nat) : Prop :=
  available.isExhausted = false ∧ ∃ previous, available.previous = some previous ∧
    available.data.enabled ((previous + 8) % 72) = false ∧ bank = (previous + 8) % 72 / 8

theorem Stands.probes (stands : available.Stands used) (inside : used.length ≤ 72) {bank : Nat}
    (probes : available.Probes bank) : ∃ i, i / 8 = bank ∧ available.data.enabled i = true := by
  obtain ⟨unexhausted, previous, last, off, rfl⟩ := probes
  have left : used.length < 72 := by
    by_contra full
    have exhausted := stands.exhausted (by omega)
    rw [unexhausted] at exhausted
    cases exhausted
  rcases stands with ⟨_, rfl⟩ | ⟨done, start, k, walking⟩
  · cases last
  · obtain ⟨begun, most⟩ := walking.begun
    have small := walking.inside
    rw [walking.previous] at last
    cases last
    have next : ((start + 8 * (k - 1)) % 72 + 8) % 72 = (start + 8 * k) % 72 := by omega
    have below : (start + 8 * k) % 72 < 72 := Nat.mod_lt _ (by decide)
    rw [next] at off ⊢
    rw [walking.mask _ below] at off
    have taken := Decidable.not_not.mp (of_decide_eq_false off)
    by_cases unfinished : k < 9
    · exact absurd taken (walking.next_unused unfinished)
    · obtain rfl : k = 9 := by omega
      obtain ⟨i, bank, unused⟩ := walking.bank_open left
      have round : (start + 8 * 9) % 72 = start := by omega
      refine ⟨i, by rw [round]; exact bank, ?_⟩
      rw [walking.mask i (by omega)]
      exact decide_eq_true unused

/-- A call that does not return is still in its loop. -/
theorem probe_stops {data : ChannelMask 9} {bank : Nat} (inside : bank < 9) (fuel : Nat)
    (entropy : UInt32) (used : Nat) (rng : Rng) :
    Checked.StopsOnlyWith .outOfFuel (probe data bank fuel entropy used rng) := by
  induction fuel generalizing entropy used rng with
  | zero => exact .error
  | succ fuel hypothesis =>
      have low := and_seven_lt entropy
      rw [probe, isEnabledUnwrap_eq _ _ (by omega), Checked.ok_bind]
      by_cases enabled : data.enabled ((entropy &&& 0b111).toNat + bank * 8) = true
      · rw [if_pos enabled]
        exact .ok _
      · rw [if_neg enabled]
        by_cases spent : used = 10
        · rw [if_pos spent]
          exact hypothesis _ _ _
        · rw [if_neg spent]
          exact hypothesis _ _ _

theorem getNextChannelInner_stops (fuel : Nat) (available : AvailableChannels) (rng : Rng) :
    Checked.StopsOnlyWith .outOfFuel (available.getNextChannelInner fuel rng) := by
  unfold getNextChannelInner
  cases available.previous with
  | none => exact .ok _
  | some previous =>
      have inside : (previous + 8) % 72 < 72 := Nat.mod_lt _ (by decide)
      simp only
      rw [isEnabledUnwrap_eq _ _ inside, Checked.ok_bind]
      by_cases enabled : available.data.enabled ((previous + 8) % 72) = true
      · rw [if_pos enabled]
        exact .ok _
      · rw [if_neg enabled]
        exact probe_stops (by omega) _ _ _ _

theorem getNext_stops (fuel : Nat) (available : AvailableChannels) (rng : Rng) :
    Checked.StopsOnlyWith .outOfFuel (available.getNext fuel rng) := by
  intro fault stopped
  rw [getNext] at stopped
  generalize current : (if available.isExhausted then default else available) = walk at stopped
  have unexhausted : walk.isExhausted = false := by
    cases exhausted : available.isExhausted with
    | false =>
        rw [exhausted] at current
        rw [← current]
        exact exhausted
    | true =>
        rw [exhausted] at current
        rw [← current]
        rfl
  cases inner : walk.getNextChannelInner fuel rng with
  | error other =>
      have only := getNextChannelInner_stops fuel walk rng other inner
      simp only [inner] at stopped
      cases stopped
      exact only
  | ok found =>
      obtain ⟨channel, rest⟩ := found
      have inside := (getNextChannelInner_class inner unexhausted).1
      obtain ⟨data, written⟩ :=
        (ChannelMask.setChannel_returns_iff walk.data channel false).mpr (by omega)
      simp only [inner] at stopped
      rw [Checked.ok_bind, written] at stopped
      cases stopped

/-- A word all of whose groups of three bits are `place`. -/
def repeated (place : Nat) : UInt32 := UInt32.ofNat place * 0x49249249

theorem repeated_place {place : Nat} (small : place < 8) :
    (repeated place &&& 0b111).toNat = place ∧
      ((repeated place >>> 3) &&& 0b111).toNat = place := by
  interval_cases place <;> exact ⟨rfl, rfl⟩

/-- Each word feeds ten tries, so the loop ends with the tenth of the draws at the latest that
come before a word that names an enabled channel. -/
theorem probe_returns {data : ChannelMask 9} {bank i : Nat} (inside : bank < 9)
    (place : i / 8 = bank) (enabled : data.enabled i = true) (fuel : Nat) {entropy : UInt32}
    {used : Nat} {rng : Rng} {n : Nat} (tries : used ≤ 10) (drawn : rng n = repeated (i % 8))
    (enough : 11 - used + 10 * n < fuel) :
    Checked.Returns (probe data bank fuel entropy used rng) := by
  induction fuel generalizing entropy used rng n with
  | zero => exact absurd enough (Nat.not_lt_zero _)
  | succ fuel hypothesis =>
      have low := and_seven_lt entropy
      rw [probe, isEnabledUnwrap_eq _ _ (by omega), Checked.ok_bind]
      by_cases found : data.enabled ((entropy &&& 0b111).toNat + bank * 8) = true
      · rw [if_pos found]
        exact Checked.returns_ok _
      · rw [if_neg found]
        by_cases spent : used = 10
        · rw [if_pos spent]
          cases n with
          | zero =>
              have named := (repeated_place (Nat.mod_lt i (by decide : 0 < 8))).2
              have channel : (((rng.nextU32.1 >>> 3) &&& 0b111).toNat + bank * 8) = i := by
                rw [show rng.nextU32.1 = repeated (i % 8) from drawn, named]
                omega
              obtain ⟨left, rfl⟩ : ∃ left, fuel = left + 1 := ⟨fuel - 1, by omega⟩
              rw [probe, channel, isEnabledUnwrap_eq _ _ (by omega), Checked.ok_bind,
                if_pos enabled]
              exact Checked.returns_ok _
          | succ n =>
              refine @hypothesis _ _ _ n (by decide) ?_ (by omega)
              exact drawn
        · rw [if_neg spent]
          exact hypothesis (by omega) drawn (by omega)

/-- Outside the loop a call returns, whatever the stream holds. -/
theorem getNextChannelInner_returns {available : AvailableChannels}
    (unexhausted : available.isExhausted = false) (outside : ∀ bank, ¬ available.Probes bank)
    (fuel : Nat) (rng : Rng) : Checked.Returns (available.getNextChannelInner fuel rng) := by
  unfold getNextChannelInner
  cases last : available.previous with
  | none => exact Checked.returns_ok _
  | some previous =>
      have inside : (previous + 8) % 72 < 72 := Nat.mod_lt _ (by decide)
      simp only
      rw [isEnabledUnwrap_eq _ _ inside, Checked.ok_bind]
      by_cases enabled : available.data.enabled ((previous + 8) % 72) = true
      · rw [if_pos enabled]
        exact Checked.returns_ok _
      · exact absurd ⟨unexhausted, previous, last, Bool.eq_false_iff.mpr enabled, rfl⟩
          (outside _)

/-- Inside the loop a call returns once the stream has named an enabled channel. -/
theorem getNextChannelInner_ends {available : AvailableChannels} {bank i : Nat}
    (probes : available.Probes bank) (place : i / 8 = bank)
    (enabled : available.data.enabled i = true) {rng : Rng} {n : Nat}
    (drawn : rng n = repeated (i % 8)) :
    Checked.Returns (available.getNextChannelInner (10 * n + 1) rng) := by
  obtain ⟨_, previous, last, off, rfl⟩ := probes
  have inside : (previous + 8) % 72 < 72 := Nat.mod_lt _ (by decide)
  unfold getNextChannelInner
  rw [last]
  simp only
  rw [isEnabledUnwrap_eq _ _ inside, Checked.ok_bind, off, if_neg Bool.false_ne_true]
  cases n with
  | zero =>
      have named := (repeated_place (Nat.mod_lt i (by decide : 0 < 8))).1
      have channel : ((rng.nextU32.1 &&& 0b111).toNat + (previous + 8) % 72 / 8 * 8) = i := by
        rw [show rng.nextU32.1 = repeated (i % 8) from drawn, named]
        omega
      rw [probe, channel, isEnabledUnwrap_eq _ _ (by omega), Checked.ok_bind, if_pos enabled]
      exact Checked.returns_ok _
  | succ n =>
      refine @probe_returns _ _ _ (by omega) place enabled _ _ _ _ n (by decide) ?_ (by omega)
      exact drawn

theorem isExhausted_current (available : AvailableChannels) :
    (if available.isExhausted then default else available).isExhausted = false := by
  cases exhausted : available.isExhausted with
  | false => exact exhausted
  | true => rfl

theorem getNext_returns {available : AvailableChannels} {fuel : Nat} {rng : Rng}
    (inner : Checked.Returns
      ((if available.isExhausted then default else available).getNextChannelInner fuel rng)) :
    Checked.Returns (available.getNext fuel rng) := by
  obtain ⟨⟨channel, rest⟩, chosen⟩ := inner
  have inside := (getNextChannelInner_class chosen (isExhausted_current available)).1
  obtain ⟨data, written⟩ := (ChannelMask.setChannel_returns_iff
    (if available.isExhausted then default else available).data channel false).mpr (by omega)
  rw [getNext, chosen, Checked.ok_bind]
  exact Checked.returns_bind_iff.mpr ⟨data, written, Checked.returns_ok _⟩

/-- The walk that is to be continued is in the loop only if it has not used all channels. -/
theorem current_probes_iff {available : AvailableChannels} {bank : Nat} :
    (if available.isExhausted then default else available).Probes bank ↔
      available.Probes bank := by
  cases exhausted : available.isExhausted with
  | false => exact Iff.rfl
  | true =>
      constructor
      · rintro ⟨_, _, last, _⟩
        cases last
      · rintro ⟨unexhausted, _⟩
        rw [exhausted] at unexhausted
        cases unexhausted

theorem getNext_returns_outside {available : AvailableChannels}
    (outside : ∀ bank, ¬ available.Probes bank) (fuel : Nat) (rng : Rng) :
    Checked.Returns (available.getNext fuel rng) := by
  refine getNext_returns ?_
  refine getNextChannelInner_returns (isExhausted_current available) ?_ fuel rng
  intro bank probes
  exact outside bank (current_probes_iff.mp probes)

theorem getNext_ends {available : AvailableChannels} {bank i : Nat}
    (probes : available.Probes bank) (place : i / 8 = bank)
    (enabled : available.data.enabled i = true) {rng : Rng} {n : Nat}
    (drawn : rng n = repeated (i % 8)) :
    Checked.Returns (available.getNext (10 * n + 1) rng) := by
  refine getNext_returns ?_
  rw [probes.1, if_neg Bool.false_ne_true]
  exact getNextChannelInner_ends probes place enabled drawn

end AvailableChannels

/-! ## The law of the walk -/

/-- The channels come in groups of 72 without a repeated channel, all of the channels
in each full group, and one of each bank in each nine of them. -/
structure NoRepeat (channels : List Nat) : Prop where
  distinct : ∀ k, ((channels.drop (72 * k)).take 72).Nodup
  all : ∀ k, 72 * (k + 1) ≤ channels.length →
    ((channels.drop (72 * k)).take 72).Perm (List.range 72)
  banks : ∀ k, 9 * (k + 1) ≤ channels.length →
    (((channels.drop (9 * k)).take 9).map (· / 8)).Perm (List.range 9)

namespace NoRepeat

theorem append {group channels : List Nat} (full : group.length = 72) (first : NoRepeat group)
    (rest : NoRepeat channels) : NoRepeat (group ++ channels) := by
  have later : ∀ n, (group ++ channels).drop (72 + n) = channels.drop n := by
    intro n
    rw [List.drop_append, List.drop_eq_nil_of_le (by omega), List.nil_append, full,
      Nat.add_sub_cancel_left]
  have whole : group.take 72 = group := List.take_of_length_le (by omega)
  constructor
  · intro k
    cases k with
    | zero =>
        have here := first.distinct 0
        rw [Nat.mul_zero, List.drop_zero] at here ⊢
        rw [List.take_append_of_le_length (by omega)]
        exact here
    | succ k =>
        rw [show 72 * (k + 1) = 72 + 72 * k by omega, later]
        exact rest.distinct k
  · intro k enough
    rw [List.length_append, full] at enough
    cases k with
    | zero =>
        have here := first.all 0 (by omega)
        rw [Nat.mul_zero, List.drop_zero] at here ⊢
        rw [List.take_append_of_le_length (by omega)]
        exact here
    | succ k =>
        rw [show 72 * (k + 1) = 72 + 72 * k by omega, later]
        exact rest.all k (by omega)
  · intro k enough
    rw [List.length_append, full] at enough
    by_cases early : k < 8
    · have here := first.banks k (by omega)
      rw [List.drop_append_of_le_length (by omega), List.take_append_of_le_length
        (by rw [List.length_drop]; omega)]
      exact here
    · obtain ⟨n, rfl⟩ := Nat.exists_eq_add_of_le (Nat.not_lt.mp early)
      rw [show 9 * (8 + n) = 72 + 9 * n by omega, later]
      exact rest.banks n (by omega)

theorem nil : NoRepeat [] := by
  constructor
  · intro k
    rw [List.drop_nil, List.take_nil]
    exact List.nodup_nil
  · intro k enough
    rw [List.length_nil] at enough
    omega
  · intro k enough
    rw [List.length_nil] at enough
    omega

/-- The nines of rounds that follow one another, the last of which may be broken off. -/
theorem banks_of_laps {starts tail : List Nat} (inside : ∀ start ∈ starts, start < 72)
    (short : tail.length < 9) (k : Nat) (enough : 9 * (k + 1) ≤ (laps starts ++ tail).length) :
    ((((laps starts ++ tail).drop (9 * k)).take 9).map (· / 8)).Perm (List.range 9) := by
  induction starts generalizing k with
  | nil =>
      rw [laps, List.flatMap_nil, List.nil_append] at enough
      omega
  | cons start rest hypothesis =>
      have split : laps (start :: rest) ++ tail = lap start ++ (laps rest ++ tail) := by
        rw [laps, List.flatMap_cons, List.append_assoc]
        rfl
      rw [split] at enough ⊢
      rw [List.length_append, lap_length] at enough
      cases k with
      | zero =>
          rw [Nat.mul_zero, List.drop_zero, List.take_append_of_le_length (by rw [lap_length]),
            List.take_of_length_le (by rw [lap_length])]
          exact lap_banks (inside start (List.mem_cons_self ..))
      | succ k =>
          rw [show 9 * (k + 1) = 9 + 9 * k by omega, List.drop_append,
            List.drop_eq_nil_of_le (by rw [lap_length]; omega), List.nil_append, lap_length,
            Nat.add_sub_cancel_left]
          apply hypothesis
          · intro earlier listed
            exact inside earlier (List.mem_cons_of_mem _ listed)
          · omega

end NoRepeat

theorem AvailableChannels.Stands.noRepeat {available : AvailableChannels} {used : List Nat}
    (stands : available.Stands used) (inside : used.length ≤ 72) : NoRepeat used := by
  rcases stands with ⟨rfl, _⟩ | ⟨done, start, k, walking⟩
  · exact NoRepeat.nil
  · constructor
    · intro n
      exact (walking.fresh.sublist (List.drop_sublist ..)).sublist (List.take_sublist ..)
    · intro n enough
      obtain rfl : n = 0 := by omega
      have within : used ⊆ List.range 72 := fun i listed =>
        List.mem_range.mpr (walking.used_lt listed)
      rw [Nat.mul_zero, List.drop_zero, List.take_of_length_le inside]
      apply (walking.fresh.subperm within).perm_of_length_le
      rw [List.length_range]
      omega
    · by_cases unfinished : k < 9
      · rw [walking.used_eq]
        refine NoRepeat.banks_of_laps (fun earlier listed => walking.done_lt listed) ?_
        rw [List.length_take, lap_length]
        omega
      · have round : used = laps (done ++ [start]) ++ [] := by
          rw [walking.used_eq, laps_append, List.append_nil,
            List.take_of_length_le (by rw [lap_length]; omega)]
        rw [round]
        refine NoRepeat.banks_of_laps ?_ (by decide)
        intro earlier listed
        rcases List.mem_append.mp listed with before | last
        · exact walking.done_lt before
        · rw [List.mem_singleton.mp last]
          exact walking.inside

/-- The walk after `channels`: full groups, and the group under way. -/
def AvailableChannels.Goes (available : AvailableChannels) (channels : List Nat) : Prop :=
  ∃ (groups : List (List Nat)) (used : List Nat), channels = groups.flatten ++ used ∧
    (∀ group ∈ groups, group.length = 72 ∧ NoRepeat group) ∧ available.Stands used ∧
    used.length ≤ 72

namespace AvailableChannels.Goes

variable {available next : AvailableChannels} {channels : List Nat}

theorem begin : default.Goes [] :=
  ⟨[], [], rfl, fun _ listed => absurd listed List.not_mem_nil, .inl ⟨rfl, rfl⟩, by decide⟩

theorem noRepeat (goes : available.Goes channels) : NoRepeat channels := by
  obtain ⟨groups, used, rfl, full, stands, inside⟩ := goes
  induction groups with
  | nil => exact stands.noRepeat inside
  | cons group rest hypothesis =>
      obtain ⟨length, first⟩ := full group (List.mem_cons_self ..)
      rw [List.flatten_cons, List.append_assoc]
      apply first.append length
      apply hypothesis
      intro later listed
      exact full later (List.mem_cons_of_mem _ listed)

theorem step {fuel channel : Nat} {rng rest : Rng} (goes : available.Goes channels)
    (walked : available.getNext fuel rng = .ok (channel, rest, next)) :
    next.Goes (channels ++ [channel]) := by
  obtain ⟨groups, used, rfl, full, stands, inside⟩ := goes
  have after := stands.getNext inside walked
  by_cases whole : used.length = 72
  · rw [if_pos whole] at after
    refine ⟨groups ++ [used], [channel], ?_, ?_, after, ?_⟩
    · rw [List.flatten_append, List.flatten_singleton]
    · intro group listed
      rcases List.mem_append.mp listed with before | last
      · exact full group before
      · rw [List.mem_singleton.mp last]
        exact ⟨whole, stands.noRepeat inside⟩
    · exact Nat.le_add_left 1 71
  · rw [if_neg whole] at after
    refine ⟨groups, used ++ [channel], List.append_assoc .., full, after, ?_⟩
    rw [List.length_append, List.length_singleton]
    omega

theorem probes (goes : available.Goes channels) {bank : Nat} (probes : available.Probes bank) :
    ∃ i, i / 8 = bank ∧ available.data.enabled i = true := by
  obtain ⟨_, _, _, _, stands, inside⟩ := goes
  exact stands.probes inside probes

end AvailableChannels.Goes

end LoraRs.Region
