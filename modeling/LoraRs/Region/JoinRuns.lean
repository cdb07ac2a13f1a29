import LoraRs.Region.JoinWalk

/-!
# Runs of join requests

The channels of any number of join requests, with a bias and without one, and the
channel of the first data frame after them.
-/

set_option autoImplicit false

namespace LoraRs.Region

open LoraRs.Encoding LoraRs.Lib

/-! ## Join channels in a row -/

namespace JoinChannels

/-- No join channel was chosen since `default` or `reset`. -/
def Fresh (join : JoinChannels) : Prop :=
  join.numRetries = 0 ∧ join.availableChannels = AvailableChannels.default

theorem default_fresh : default.Fresh := ⟨rfl, rfl⟩

theorem reset_fresh (join : JoinChannels) : join.reset.Fresh := ⟨rfl, rfl⟩

theorem setJoinBias_fresh {join : JoinChannels} (fresh : join.Fresh) (sb : Subband) (n : Nat) :
    (join.setJoinBias sb n).Fresh := fresh

/-- Calls of `get_next_channel` that returned, one after the other. -/
inductive Draws (start : JoinChannels) (rng : Rng) : List Nat → JoinChannels → Rng → Prop where
  | begun : Draws start rng [] start rng
  | next {channels : List Nat} {join after : JoinChannels} {left rest : Rng} {fuel channel : Nat}
      (drawn : Draws start rng channels join left)
      (called : join.getNextChannel fuel left = .ok (channel, rest, after)) :
      Draws start rng (channels ++ [channel]) after rest

/-- The next call enters the loop in `bank`. -/
def Probes (join : JoinChannels) (bank : Nat) : Prop :=
  join.isBiased = false ∧ join.availableChannels.Probes bank

theorem getNextChannel_walk {join : JoinChannels} (unbiased : join.isBiased = false) (fuel : Nat)
    (rng : Rng) : join.getNextChannel fuel rng = join.walkChannel fuel rng := by
  unfold getNextChannel
  cases preferred : join.preferredSubband with
  | none => rfl
  | some sb =>
      have spent : ¬join.numRetries < join.maxRetries := by
        simpa [isBiased, preferred] using unbiased
      simp only [if_neg spent]

theorem getNextChannel_biased {join : JoinChannels} {sb : Subband}
    (preferred : join.preferredSubband = some sb) (left : join.numRetries < join.maxRetries)
    (fuel : Nat) (rng : Rng) : join.getNextChannel fuel rng = join.biasedChannel sb rng := by
  simp only [getNextChannel, preferred, if_pos left]

theorem walkChannel_ran {join after : JoinChannels} {fuel channel : Nat} {rng rest : Rng}
    (ran : join.walkChannel fuel rng = .ok (channel, rest, after)) :
    ∃ available, join.availableChannels.getNext fuel rng = .ok (channel, rest, available) ∧
      after = { join with numRetries := join.numRetries + 1, availableChannels := available } := by
  obtain ⟨⟨found, left, available⟩, walked, ran⟩ := Checked.bind_eq_ok_iff.mp ran
  cases ran
  exact ⟨available, walked, rfl⟩

theorem mod_eight_lt (word : UInt32) : (word % 8).toNat < 8 := by
  rw [UInt32.toNat_mod]
  exact Nat.mod_lt _ (by decide)

/-- A biased channel lies in the subband; the last one begins the walk. -/
theorem biasedChannel_ran {join after : JoinChannels} {sb : Subband} {channel : Nat}
    {rng rest : Rng} (ran : join.biasedChannel sb rng = .ok (channel, rest, after)) :
    channel / 8 = sb.toNat - 1 ∧ channel < 64 ∧
      after.preferredSubband = join.preferredSubband ∧ after.maxRetries = join.maxRetries ∧
      after.numRetries = join.numRetries + 1 ∧ after.previousChannel = channel ∧
      (join.numRetries + 1 ≠ join.maxRetries →
        after.availableChannels = join.availableChannels) ∧
      (join.numRetries + 1 = join.maxRetries →
        ∃ data, join.availableChannels.data.setChannel channel false = .ok data ∧
          after.availableChannels = ⟨data, some channel⟩) := by
  have low := mod_eight_lt (rng 0)
  have bounds := sb.toNat_bounds
  unfold biasedChannel at ran
  by_cases last : join.numRetries + 1 = join.maxRetries
  · simp only [if_pos last] at ran
    obtain ⟨data, written, ran⟩ := Checked.bind_eq_ok_iff.mp ran
    cases ran
    refine ⟨by omega, by omega, rfl, rfl, rfl, rfl, fun other => absurd last other, ?_⟩
    intro _
    exact ⟨data, written, rfl⟩
  · simp only [if_neg last] at ran
    cases ran
    exact ⟨by omega, by omega, rfl, rfl, rfl, rfl, fun _ => rfl, fun same => absurd same last⟩

theorem Draws.unbiased {start join : JoinChannels} {rng left : Rng} {channels : List Nat}
    (drawn : Draws start rng channels join left) (fresh : start.Fresh)
    (unpreferred : start.preferredSubband = none) :
    join.preferredSubband = none ∧ join.availableChannels.Goes channels := by
  induction drawn with
  | begun =>
      rw [fresh.2]
      exact ⟨unpreferred, AvailableChannels.Goes.begin⟩
  | @next channels join after left rest fuel channel _ called hypothesis =>
      obtain ⟨unpreferred, goes⟩ := hypothesis
      have unbiased : join.isBiased = false := by
        rw [isBiased, unpreferred]
        rfl
      rw [getNextChannel_walk unbiased] at called
      obtain ⟨available, walked, rfl⟩ := walkChannel_ran called
      exact ⟨unpreferred, goes.step walked⟩

/-- The state after `channels` with a bias: the tries on the subband first, and the
walk from the last of them on. -/
structure Biased (start : JoinChannels) (sb : Subband) (channels : List Nat)
    (join : JoinChannels) : Prop where
  preferred : join.preferredSubband = some sb
  maxRetries : join.maxRetries = start.maxRetries
  numRetries : join.numRetries = channels.length
  inSubband : ∀ i channel, i < start.maxRetries → channels[i]? = some channel →
    channel / 8 = sb.toNat - 1
  waiting : channels.length < start.maxRetries →
    join.availableChannels = AvailableChannels.default
  walking : start.maxRetries ≤ channels.length →
    join.availableChannels.Goes (channels.drop (start.maxRetries - 1))
  previous : join.previousChannel =
    (channels.take start.maxRetries).getLast?.getD start.previousChannel

namespace Biased

variable {start join after : JoinChannels} {sb : Subband} {channels : List Nat}

theorem begin (fresh : start.Fresh) (preferred : start.preferredSubband = some sb) :
    Biased start sb [] start := by
  constructor
  · exact preferred
  · rfl
  · exact fresh.1
  · intro i channel _ listed
    cases listed
  · intro _
    exact fresh.2
  · intro _
    rw [fresh.2, List.drop_nil]
    exact AvailableChannels.Goes.begin
  · rw [List.take_nil]
    rfl

theorem try_step {channel : Nat} {rng rest : Rng} (biased : Biased start sb channels join)
    (left : channels.length < start.maxRetries)
    (ran : join.biasedChannel sb rng = .ok (channel, rest, after)) :
    Biased start sb (channels ++ [channel]) after := by
  obtain ⟨bank, small, preferred, retries, counted, last, kept, begun⟩ := biasedChannel_ran ran
  have length : (channels ++ [channel]).length = channels.length + 1 := by simp
  constructor
  · exact preferred.trans biased.preferred
  · exact retries.trans biased.maxRetries
  · rw [counted, biased.numRetries, length]
  · intro i found below listed
    by_cases earlier : i < channels.length
    · rw [List.getElem?_append_left earlier] at listed
      exact biased.inSubband i found below listed
    · rw [List.getElem?_append_right (by omega)] at listed
      have here := List.mem_of_getElem? listed
      rw [List.mem_singleton.mp here]
      exact bank
  · intro more
    rw [kept (by rw [biased.numRetries, biased.maxRetries]; omega)]
    exact biased.waiting left
  · intro full
    have final : join.numRetries + 1 = join.maxRetries := by
      rw [biased.numRetries, biased.maxRetries]
      omega
    obtain ⟨data, written, walk⟩ := begun final
    have drops : (channels ++ [channel]).drop (start.maxRetries - 1) = [channel] := by
      rw [List.drop_append, List.drop_eq_nil_of_le (by omega), List.nil_append,
        show start.maxRetries - 1 - channels.length = 0 by omega, List.drop_zero]
    have inside : channel < 72 := by omega
    rw [biased.waiting left] at written
    have walking := AvailableChannels.walking_first inside written
    rw [drops, walk]
    refine ⟨[], [channel], rfl, fun _ listed => absurd listed List.not_mem_nil, ?_,
      Nat.le_add_left 1 71⟩
    exact .inr ⟨[], channel, 1, walking⟩
  · rw [last, List.take_of_length_le (by omega), List.getLast?_concat]
    rfl

theorem walk_step {fuel channel : Nat} {rng rest : Rng} (biased : Biased start sb channels join)
    (spent : start.maxRetries ≤ channels.length)
    (ran : join.walkChannel fuel rng = .ok (channel, rest, after)) :
    Biased start sb (channels ++ [channel]) after := by
  obtain ⟨available, walked, rfl⟩ := walkChannel_ran ran
  constructor
  · exact biased.preferred
  · exact biased.maxRetries
  · rw [List.length_append, List.length_singleton, biased.numRetries]
  · intro i found below listed
    rw [List.getElem?_append_left (by omega)] at listed
    exact biased.inSubband i found below listed
  · intro more
    rw [List.length_append] at more
    omega
  · intro _
    rw [List.drop_append_of_le_length (by omega)]
    exact (biased.walking spent).step walked
  · rw [List.take_append_of_le_length spent]
    exact biased.previous

theorem isBiased_iff (biased : Biased start sb channels join) :
    join.isBiased = true ↔ channels.length < start.maxRetries := by
  simp [isBiased, biased.preferred, biased.numRetries, biased.maxRetries]

theorem step {fuel channel : Nat} {rng rest : Rng} (biased : Biased start sb channels join)
    (called : join.getNextChannel fuel rng = .ok (channel, rest, after)) :
    Biased start sb (channels ++ [channel]) after := by
  by_cases left : channels.length < start.maxRetries
  · rw [getNextChannel_biased biased.preferred
      (by rw [biased.numRetries, biased.maxRetries]; exact left)] at called
    exact biased.try_step left called
  · have unbiased : join.isBiased = false :=
      Bool.eq_false_iff.mpr fun still => left (biased.isBiased_iff.mp still)
    rw [getNextChannel_walk unbiased] at called
    exact biased.walk_step (Nat.not_lt.mp left) called

end Biased

theorem Draws.biased {start join : JoinChannels} {rng left : Rng} {channels : List Nat}
    {sb : Subband} (drawn : Draws start rng channels join left) (fresh : start.Fresh)
    (preferred : start.preferredSubband = some sb) : Biased start sb channels join := by
  induction drawn with
  | begun => exact Biased.begin fresh preferred
  | next _ called biased => exact biased.step called

/-- Wherever a run stands, its walk goes on. -/
theorem Draws.probes {start join : JoinChannels} {rng left : Rng} {channels : List Nat}
    (drawn : Draws start rng channels join left) (fresh : start.Fresh) {bank : Nat}
    (probes : join.Probes bank) :
    ∃ i, i / 8 = bank ∧ join.availableChannels.data.enabled i = true := by
  cases preferred : start.preferredSubband with
  | none => exact (drawn.unbiased fresh preferred).2.probes probes.2
  | some sb =>
      have biased := drawn.biased fresh preferred
      have spent : start.maxRetries ≤ channels.length := by
        by_contra left
        have still := biased.isBiased_iff.mpr (Nat.not_le.mp left)
        rw [probes.1] at still
        cases still
      exact (biased.walking spent).probes probes.2

/-- A call does not panic: it returns, or is in its loop. -/
theorem getNextChannel_stops (fuel : Nat) (join : JoinChannels) (rng : Rng) :
    Checked.StopsOnlyWith .outOfFuel (join.getNextChannel fuel rng) := by
  cases biased : join.isBiased with
  | false =>
      rw [getNextChannel_walk biased]
      exact (AvailableChannels.getNext_stops fuel _ rng).bind fun _ => .ok _
  | true =>
      rw [isBiased, Bool.and_eq_true, decide_eq_true_iff] at biased
      obtain ⟨sb, preferred⟩ := Option.isSome_iff_exists.mp biased.1
      rw [getNextChannel_biased preferred biased.2]
      intro fault stopped
      have low := mod_eight_lt rng.nextU32.1
      have bounds := sb.toNat_bounds
      unfold biasedChannel at stopped
      by_cases last : join.numRetries + 1 = join.maxRetries
      · obtain ⟨data, written⟩ := (ChannelMask.setChannel_returns_iff
          join.availableChannels.data ((rng.nextU32.1 % 8).toNat + (sb.toNat - 1) * 8)
          false).mpr (by omega)
        simp only [if_pos last, written] at stopped
        cases stopped
      · simp only [if_neg last] at stopped
        cases stopped

theorem walkChannel_returns {fuel : Nat} {join : JoinChannels} {rng : Rng}
    (walked : Checked.Returns (join.availableChannels.getNext fuel rng)) :
    Checked.Returns (join.walkChannel fuel rng) := by
  obtain ⟨⟨channel, rest, available⟩, walked⟩ := walked
  exact Checked.returns_bind_iff.mpr ⟨_, walked, Checked.returns_ok _⟩

theorem getNextChannel_returns_outside {join : JoinChannels}
    (outside : ∀ bank, ¬ join.Probes bank) (fuel : Nat) (rng : Rng) :
    Checked.Returns (join.getNextChannel fuel rng) := by
  cases biased : join.isBiased with
  | false =>
      rw [getNextChannel_walk biased]
      refine walkChannel_returns (AvailableChannels.getNext_returns_outside ?_ fuel rng)
      intro bank probes
      exact outside bank ⟨biased, probes⟩
  | true =>
      rw [isBiased, Bool.and_eq_true, decide_eq_true_iff] at biased
      obtain ⟨sb, preferred⟩ := Option.isSome_iff_exists.mp biased.1
      rw [getNextChannel_biased preferred biased.2]
      exact FixedChannelPlan.biasedChannel_returns join sb rng

/-- Wherever a run stands there is a word that lets the next call return. -/
theorem Draws.ends {start join : JoinChannels} {rng left : Rng} {channels : List Nat}
    (drawn : Draws start rng channels join left) (fresh : start.Fresh) :
    ∃ word : UInt32, ∀ (rng : Rng) (n : Nat), rng n = word →
      Checked.Returns (join.getNextChannel (10 * n + 1) rng) := by
  by_cases enters : ∃ bank, join.Probes bank
  · obtain ⟨bank, probes⟩ := enters
    obtain ⟨i, place, enabled⟩ := drawn.probes fresh probes
    refine ⟨AvailableChannels.repeated (i % 8), ?_⟩
    intro rng n word
    rw [getNextChannel_walk probes.1]
    exact walkChannel_returns (AvailableChannels.getNext_ends probes.2 place enabled word)
  · refine ⟨0, ?_⟩
    intro rng n _
    exact getNextChannel_returns_outside (fun bank probes => enters ⟨bank, probes⟩) _ rng

end JoinChannels

/-- From a fresh or reset state the channels of any number of join requests keep the law
of the walk; with a bias they lie in its subband for as many tries as it gives, and keep
the law from the last of these on. The loop of the walk is only entered with a channel
left in its bank; a call that does not enter it returns, one that does returns as soon as
the stream has some word, ten tries to each word before, and no call panics. -/
theorem join_requests_walk {start join : JoinChannels} {rng left : Rng} {channels : List Nat}
    (fresh : start.Fresh) (drawn : JoinChannels.Draws start rng channels join left) :
    (start.preferredSubband = none → NoRepeat channels) ∧
      (∀ sb, start.preferredSubband = some sb →
        (∀ i channel, i < start.maxRetries → channels[i]? = some channel →
          channel / 8 = sb.toNat - 1) ∧
        NoRepeat (channels.drop (start.maxRetries - 1))) ∧
      (∀ bank, join.Probes bank →
        ∃ i, i / 8 = bank ∧ join.availableChannels.data.enabled i = true) ∧
      ((∀ bank, ¬ join.Probes bank) →
        ∀ (fuel : Nat) (rng : Rng), Checked.Returns (join.getNextChannel fuel rng)) ∧
      (∃ word : UInt32, ∀ (rng : Rng) (n : Nat), rng n = word →
        Checked.Returns (join.getNextChannel (10 * n + 1) rng)) ∧
      ∀ fuel, Checked.StopsOnlyWith .outOfFuel (join.getNextChannel fuel left) := by
  refine ⟨?_, ?_, ?_, ?_, drawn.ends fresh, ?_⟩
  · intro unbiased
    exact (drawn.unbiased fresh unbiased).2.noRepeat
  · intro sb preferred
    have biased := drawn.biased fresh preferred
    refine ⟨biased.inSubband, ?_⟩
    by_cases spent : start.maxRetries ≤ channels.length
    · exact (biased.walking spent).noRepeat
    · rw [List.drop_eq_nil_of_le (by omega)]
      exact NoRepeat.nil
  · intro bank probes
    exact drawn.probes fresh probes
  · intro outside fuel rng
    exact JoinChannels.getNextChannel_returns_outside outside fuel rng
  · intro fuel
    exact JoinChannels.getNextChannel_stops fuel join left

namespace Sample

/-- A preference for the second subband, for one try. -/
def biased : JoinChannels := JoinChannels.default.setJoinBias ._2 1

def zeros : Rng := fun _ => 0

/-- After the try, and after a step of the walk. -/
def tried : JoinChannels :=
  { biased with
    numRetries := 1
    previousChannel := 8
    availableChannels :=
      { data := ⟨#v[0xFF, 0xFE, 0xFF, 0xFF, 0xFF, 0xFF, 0xFF, 0xFF, 0xFF]⟩
        previous := some 8 } }

def walked : JoinChannels :=
  { tried with
    numRetries := 2
    availableChannels :=
      { data := ⟨#v[0xFF, 0xFE, 0xFE, 0xFF, 0xFF, 0xFF, 0xFF, 0xFF, 0xFF]⟩
        previous := some 16 } }

/-- A stream in which the low bits of the words differ. -/
def mixed : Rng := fun n => UInt32.ofNat (n * 0x9E3779B1)

/-- The channels of a number of calls, the state and the stream after them. -/
def callAll (fuel : Nat) (start : JoinChannels) (rng : Rng) :
    Nat → Checked (List Nat × JoinChannels × Rng)
  | 0 => .ok ([], start, rng)
  | n + 1 => do
      let (channels, join, left) ← callAll fuel start rng n
      let (channel, rest, after) ← join.getNextChannel fuel left
      return (channels ++ [channel], after, rest)

theorem callAll_draws {fuel n : Nat} {start join : JoinChannels} {rng left : Rng}
    {channels : List Nat} (called : callAll fuel start rng n = .ok (channels, join, left)) :
    start.Draws rng channels join left := by
  induction n generalizing channels join left with
  | zero =>
      cases called
      exact .begun
  | succ n ih =>
      obtain ⟨⟨earlier, before, stream⟩, drawn, called⟩ := Checked.bind_eq_ok_iff.mp called
      obtain ⟨⟨channel, rest, after⟩, next, called⟩ := Checked.bind_eq_ok_iff.mp called
      cases called
      exact (ih drawn).next next

/-- The subband of the bias for three tries, a whole walk from the third of them, and the
first channel of the next walk. -/
def biasedWalk : List Nat :=
  [8, 9, 10, 18, 26, 34, 42, 50, 58, 66, 2, 11, 19, 27, 35, 43, 51, 59, 67, 3, 12, 20, 28, 36, 44,
    52, 60, 68, 4, 13, 21, 29, 37, 45, 53, 61, 69, 5, 14, 22, 30, 38, 46, 54, 62, 70, 6, 15, 23,
    31, 39, 47, 55, 63, 71, 7, 8, 16, 24, 32, 40, 48, 56, 64, 0, 9, 17, 25, 33, 41, 49, 57, 65, 1,
    42]

end Sample

/-- With a bias of three tries, 75 calls; and without one, nine calls, after which the next
one enters the loop and some word ends it. -/
theorem join_requests_walk_sample :
    (∃ join left, (JoinChannels.default.setJoinBias ._2 3).Draws Sample.mixed Sample.biasedWalk
        join left ∧
      (∀ i channel, i < 3 → Sample.biasedWalk[i]? = some channel → channel / 8 = 1) ∧
      NoRepeat (Sample.biasedWalk.drop 2)) ∧
    ∃ join left, JoinChannels.default.Draws Sample.mixed [0, 8, 16, 24, 32, 40, 48, 56, 64] join
        left ∧
      join.Probes 0 ∧
      ∃ word : UInt32, ∀ (rng : Rng) (n : Nat), rng n = word →
        Checked.Returns (join.getNextChannel (10 * n + 1) rng) := by
  have biased : (Prod.fst <$> Sample.callAll 40 (JoinChannels.default.setJoinBias ._2 3)
      Sample.mixed 75) = .ok Sample.biasedWalk := by
    decide +kernel
  have plain : ((fun called => (called.1, called.2.1)) <$>
      Sample.callAll 40 JoinChannels.default Sample.mixed 9) =
        .ok ([0, 8, 16, 24, 32, 40, 48, 56, 64], { JoinChannels.default with
          numRetries := 9
          availableChannels := ⟨⟨Vector.replicate 9 254⟩, some 64⟩ }) := by
    decide +kernel
  constructor
  · obtain ⟨⟨channels, join, left⟩, called, same⟩ := Checked.map_eq_ok_iff.mp biased
    cases same
    have drawn := Sample.callAll_draws called
    obtain ⟨inSubband, noRepeat⟩ := (join_requests_walk
      (JoinChannels.setJoinBias_fresh JoinChannels.default_fresh ._2 3) drawn).2.1 ._2 rfl
    exact ⟨join, left, drawn, inSubband, noRepeat⟩
  · obtain ⟨⟨channels, join, left⟩, called, same⟩ := Checked.map_eq_ok_iff.mp plain
    cases same
    have drawn := Sample.callAll_draws called
    refine ⟨_, left, drawn, ⟨rfl, rfl, 64, rfl, by decide, rfl⟩, ?_⟩
    exact (join_requests_walk JoinChannels.default_fresh drawn).2.2.2.2.1

/-! ## The first data channel -/

/-- The subband of a join channel; the 500 kHz channels have one each. -/
def subbandOf (channel : Nat) : Nat := if channel < 64 then channel / 8 else channel % 8

namespace FixedChannelPlan

/-- Join requests that were sent, with their channels. -/
inductive Joins (F : FixedChannelRegion) (start : FixedChannelPlan) (rng : Rng) :
    List Nat → FixedChannelPlan → Rng → Prop where
  | begun : Joins F start rng [] start rng
  | sent {channels : List Nat} {plan : FixedChannelPlan} {left rest : Rng} {fuel channel : Nat}
      {datarate dr : DR} {joinChannels : JoinChannels}
      (earlier : Joins F start rng channels plan left)
      (selected : plan.selectChannel F fuel left datarate .join =
        .ok (dr, channel, rest, joinChannels)) :
      Joins F start rng (channels ++ [channel]) { plan with joinChannels } rest

/-- What follows a join: data frames that were sent, and masks that were set. -/
inductive Uses (F : FixedChannelRegion) (start : FixedChannelPlan) (rng : Rng) :
    FixedChannelPlan → Rng → Prop where
  | begun : Uses F start rng start rng
  | sent {plan : FixedChannelPlan} {left rest : Rng} {fuel channel : Nat} {datarate dr : DR}
      {joinChannels : JoinChannels} (earlier : Uses F start rng plan left)
      (selected : plan.selectChannel F fuel left datarate .data =
        .ok (dr, channel, rest, joinChannels)) :
      Uses F start rng { plan with joinChannels } rest
  | masked {plan : FixedChannelPlan} {left : Rng} {mask : ChannelMask 9}
      (earlier : Uses F start rng plan left) : Uses F start rng (plan.channelMaskSet mask) left

/-- Join requests are calls of `get_next_channel`. -/
theorem Joins.draws {F : FixedChannelRegion} {start plan : FixedChannelPlan} {rng left : Rng}
    {channels : List Nat} (joins : Joins F start rng channels plan left) :
    start.joinChannels.Draws rng channels plan.joinChannels left := by
  induction joins with
  | begun => exact .begun
  | @sent channels plan left rest fuel channel datarate dr joinChannels _ selected drawn =>
      obtain ⟨⟨found, after, join⟩, called, selected⟩ := Checked.bind_eq_ok_iff.mp selected
      cases selected
      exact drawn.next called

end FixedChannelPlan

namespace JoinChannels

theorem firstDataChannel_subband {join after : JoinChannels} {rng rest : Rng} {channel : Nat}
    (first : join.firstDataChannel rng = (some channel, rest, after)) :
    join.preferredSubband.isSome = true ∧ join.numRetries ≠ 0 ∧
      channel / 8 = subbandOf join.previousChannel ∧ after.preferredSubband = none := by
  have due := (firstDataChannel_some first).1
  unfold firstDataChannel at first
  rw [firstDataDue] at due
  rw [if_pos due] at first
  rw [Bool.and_eq_true, decide_eq_true_iff] at due
  have low := and_seven_lt rng.nextU32.1
  cases first
  refine ⟨due.1, due.2, ?_, rfl⟩
  rw [subbandOf]
  omega

/-- After a join: the bias is gone, the tries are forgotten, or the last biased channel
lies in `subband`. -/
def Settled (sb : Subband) (subband : Nat) (join : JoinChannels) : Prop :=
  join.preferredSubband = none ∨ join.numRetries = 0 ∨
    (join.preferredSubband = some sb ∧ subbandOf join.previousChannel = subband ∧
      (join.maxRetries ≠ 0 → subband = sb.toNat - 1))

theorem Settled.biased {sb : Subband} {subband fuel channel : Nat} {join after : JoinChannels}
    {rng rest : Rng} (settled : join.Settled sb subband)
    (still : join.hasBiasAndNotExhausted = true)
    (called : join.getNextChannel fuel rng = .ok (channel, rest, after)) :
    after.Settled sb subband := by
  simp only [hasBiasAndNotExhausted, Bool.and_eq_true, decide_eq_true_iff] at still
  obtain ⟨⟨some', left⟩, begun⟩ := still
  rcases settled with gone | forgotten | ⟨preferred, _, named⟩
  · rw [gone] at some'
    cases some'
  · exact absurd forgotten begun
  · rw [getNextChannel_biased preferred left] at called
    obtain ⟨bank, small, kept, retries, _, last, _⟩ := biasedChannel_ran called
    refine .inr (.inr ⟨kept.trans preferred, ?_, ?_⟩)
    · rw [last, subbandOf, if_pos small, bank]
      exact (named (by omega)).symm
    · rw [retries]
      exact named

end JoinChannels

namespace FixedChannelPlan

theorem Uses.settled {F : FixedChannelRegion} {start plan : FixedChannelPlan} {rng left : Rng}
    {sb : Subband} {subband : Nat} (uses : Uses F start rng plan left)
    (settled : start.joinChannels.Settled sb subband) :
    plan.joinChannels.Settled sb subband := by
  induction uses with
  | begun => exact settled
  | masked _ _ => exact .inr (.inl rfl)
  | @sent plan left rest fuel channel datarate dr joinChannels _ selected hypothesis =>
      unfold selectChannel at selected
      by_cases still : plan.joinChannels.hasBiasAndNotExhausted = true
      · simp only [if_pos still] at selected
        obtain ⟨⟨found, after, join⟩, called, selected⟩ := Checked.bind_eq_ok_iff.mp selected
        cases selected
        exact hypothesis.biased still called
      · simp only [if_neg still] at selected
        cases first : plan.joinChannels.firstDataChannel left with
        | mk found more =>
            obtain ⟨rng', join⟩ := more
            rw [first] at selected
            cases found with
            | some found =>
                cases selected
                exact .inl (JoinChannels.firstDataChannel_subband first).2.2.2
            | none =>
                have same := (JoinChannels.firstDataChannel_none first).2.2
                simp only at selected
                obtain ⟨entry, _, selected⟩ := Checked.bind_eq_ok_iff.mp selected
                obtain ⟨rate, _, selected⟩ := Checked.bind_eq_ok_iff.mp selected
                have kept : joinChannels = join := by
                  by_cases wide : rate.bandwidth = .khz500
                  · rw [if_pos wide] at selected
                    obtain ⟨_, _, selected⟩ := Checked.bind_eq_ok_iff.mp selected
                    cases selected
                    rfl
                  · rw [if_neg wide] at selected
                    obtain ⟨_, _, selected⟩ := Checked.bind_eq_ok_iff.mp selected
                    cases selected
                    rfl
                rw [kept, same]
                exact hypothesis

end FixedChannelPlan

theorem subbandOf_of_bank {channel : Nat} {sb : Subband} (bank : channel / 8 = sb.toNat - 1) :
    subbandOf channel = sb.toNat - 1 := by
  have bounds := sb.toNat_bounds
  rw [subbandOf, if_pos (by omega), bank]

/-- The subband that a first data channel is taken from after a biased run. -/
def JoinChannels.remembered (start : JoinChannels) (sb : Subband) : Nat :=
  if start.maxRetries = 0 then subbandOf start.previousChannel else sb.toNat - 1

theorem JoinChannels.Biased.settled {start join : JoinChannels} {sb : Subband}
    {channels : List Nat} {channel : Nat} (biased : Biased start sb (channels ++ [channel]) join) :
    join.Settled sb (start.remembered sb) := by
  refine .inr (.inr ⟨biased.preferred, ?_, ?_⟩)
  · rw [biased.previous, remembered]
    by_cases none : start.maxRetries = 0
    · rw [if_pos none, none, List.take_zero]
      rfl
    · rw [if_neg none]
      have tried : (channels ++ [channel]).take start.maxRetries ≠ [] := by
        simp [none]
      obtain ⟨i, inside, last⟩ := List.getElem_of_mem (List.getLast_mem tried)
      have length := List.length_take_le start.maxRetries (channels ++ [channel])
      rw [List.getLast?_eq_some_getLast tried, Option.getD_some]
      apply subbandOf_of_bank
      apply biased.inSubband i _ (by omega)
      rw [← last, List.getElem_take]
      exact List.getElem?_eq_getElem _
  · intro some'
    rw [biased.maxRetries] at some'
    rw [remembered, if_neg some']

/-- After any number of join requests and a join accept, a first data channel lies in
the subband of the last request exactly if that was one of the tries of the bias, or the
walk came back to the subband of the last try. -/
theorem first_data_channel_follows_join_iff {F : FixedChannelRegion}
    {start mid plan : FixedChannelPlan} {rng left last rest : Rng} {channels : List Nat}
    {channel first : Nat} {cFList : Option CfList} {after : JoinChannels}
    (fresh : start.joinChannels.Fresh)
    (joins : FixedChannelPlan.Joins F start rng (channels ++ [channel]) mid left)
    (uses : FixedChannelPlan.Uses F (mid.processJoinAccept cFList) left plan last)
    (found : plan.joinChannels.firstDataChannel last = (some first, rest, after)) :
    ∃ sb, start.joinChannels.preferredSubband = some sb ∧
      (first / 8 = subbandOf channel ↔
        channels.length < start.joinChannels.maxRetries ∨
          subbandOf channel = start.joinChannels.remembered sb) := by
  have drawn := joins.draws
  have accepted : ∀ {sb : Subband} {subband : Nat}, mid.joinChannels.Settled sb subband →
      (mid.processJoinAccept cFList).joinChannels.Settled sb subband := by
    intro sb subband settled
    cases cFList with
    | none => exact settled
    | some list =>
        cases list with
        | dynamicChannel freqs => exact settled
        | fixedChannel mask => exact .inr (.inl rfl)
  obtain ⟨preferred, begun, named, _⟩ := JoinChannels.firstDataChannel_subband found
  have located : ∀ {sb : Subband} {subband : Nat}, mid.joinChannels.Settled sb subband →
      first / 8 = subband := by
    intro sb subband settled
    rcases uses.settled (accepted settled) with gone | forgotten | ⟨_, same, _⟩
    · rw [gone] at preferred
      cases preferred
    · exact absurd forgotten begun
    · exact named.trans same
  cases bias : start.joinChannels.preferredSubband with
  | none =>
      have unbiased : mid.joinChannels.Settled ._1 (first / 8 + 1) :=
        .inl (drawn.unbiased fresh bias).1
      exact absurd (located unbiased) (by omega)
  | some sb =>
      have biased := drawn.biased fresh bias
      refine ⟨sb, rfl, ?_⟩
      have same := located biased.settled
      constructor
      · intro follows
        exact .inr (follows.symm.trans same)
      · rintro (tried | back)
        · have listed : (channels ++ [channel])[channels.length]? = some channel := by simp
          have bank := biased.inSubband channels.length channel tried listed
          rw [same, JoinChannels.remembered, if_neg (by omega), subbandOf_of_bank bank]
        · rw [same, back]

namespace Sample

/-- A plan with the bias of `biased`. -/
def plan : FixedChannelPlan := { FixedChannelPlan.default with joinChannels := biased }

def joined : FixedChannelPlan := { plan with joinChannels := walked }

theorem joins : FixedChannelPlan.Joins FixedRegion.us915.params plan zeros ([8] ++ [16]) joined
    zeros.nextU32.2 := by
  have first : plan.selectChannel FixedRegion.us915.params 0 zeros 0 .join =
      .ok (0, 8, zeros.nextU32.2, tried) := rfl
  have second : ({ plan with joinChannels := tried } : FixedChannelPlan).selectChannel
      FixedRegion.us915.params 0 zeros.nextU32.2 0 .join =
      .ok (0, 16, zeros.nextU32.2, walked) := rfl
  have unused : FixedChannelPlan.Joins FixedRegion.us915.params plan zeros [] plan zeros := .begun
  exact (unused.sent first).sent second

theorem uses : FixedChannelPlan.Uses FixedRegion.us915.params (joined.processJoinAccept none)
    zeros.nextU32.2 joined zeros.nextU32.2 := .begun

theorem first_data : joined.joinChannels.firstDataChannel zeros.nextU32.2 =
    (some 8, zeros.nextU32.2.nextU32.2, walked.clearJoinBias) := rfl

end Sample

theorem first_data_channel_follows_join_iff_sample :
    ∃ sb, Sample.plan.joinChannels.preferredSubband = some sb ∧
      (8 / 8 = subbandOf 16 ↔ [8].length < Sample.plan.joinChannels.maxRetries ∨
        subbandOf 16 = Sample.plan.joinChannels.remembered sb) :=
  first_data_channel_follows_join_iff ⟨rfl, rfl⟩ Sample.joins Sample.uses Sample.first_data

/-- The walk has left the subband of the bias, which the first data frame goes to. -/
theorem first_data_channel_leaves_join :
    ¬∀ {F : FixedChannelRegion} {start mid plan : FixedChannelPlan} {rng left last rest : Rng}
      {channels : List Nat} {channel first : Nat} {cFList : Option CfList}
      {after : JoinChannels}, start.joinChannels.Fresh →
      FixedChannelPlan.Joins F start rng (channels ++ [channel]) mid left →
      FixedChannelPlan.Uses F (mid.processJoinAccept cFList) left plan last →
      plan.joinChannels.firstDataChannel last = (some first, rest, after) →
        first / 8 = subbandOf channel := by
  intro follows
  have same := follows ⟨rfl, rfl⟩ Sample.joins Sample.uses
    Sample.first_data
  exact absurd same (by decide)

end LoraRs.Region
