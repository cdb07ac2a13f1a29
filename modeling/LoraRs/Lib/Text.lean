import Mathlib

/-!
# Numbers as text

Digits of a fixed number of places, parsing as the integer types do it, and the octets of a
string.  A string whose octets are digits has these digits as its characters: the octets of
other characters have the high bit.
-/

set_option autoImplicit false

namespace LoraRs.Lib.Text

/-! ## Digits -/

/-- The number with the digits, the high one first. -/
def ofDigits (base : Nat) (ds : List Nat) : Nat := ds.foldl (fun acc d => acc * base + d) 0

/-- The digits at the last places of a number. -/
def digits (base : Nat) : Nat → Nat → List Nat
  | 0, _ => []
  | places + 1, n => digits base places (n / base) ++ [n % base]

theorem ofDigits_append (base : Nat) (ds : List Nat) (d : Nat) :
    ofDigits base (ds ++ [d]) = ofDigits base ds * base + d := by
  rw [ofDigits, List.foldl_append]
  rfl

theorem digits_length (base places n : Nat) : (digits base places n).length = places := by
  induction places generalizing n with
  | zero => rfl
  | succ places ih => rw [digits, List.length_append, ih, List.length_singleton]

theorem digits_lt {base : Nat} (pos : 0 < base) (places n : Nat) :
    ∀ d ∈ digits base places n, d < base := by
  induction places generalizing n with
  | zero =>
      intro d inside
      cases inside
  | succ places ih =>
      intro d inside
      rcases List.mem_append.mp inside with earlier | last
      · exact ih _ d earlier
      · rw [List.mem_singleton.mp last]
        exact Nat.mod_lt n pos

theorem ofDigits_digits {base : Nat} (places n : Nat) (small : n < base ^ places) :
    ofDigits base (digits base places n) = n := by
  induction places generalizing n with
  | zero => exact (Nat.lt_one_iff.mp small).symm
  | succ places ih =>
      have fewer : n / base < base ^ places := Nat.div_lt_of_lt_mul (by rwa [← Nat.pow_succ'])
      rw [digits, ofDigits_append, ih _ fewer, Nat.mul_comm]
      exact Nat.div_add_mod n base

theorem ofDigits_lt {base : Nat} (ds : List Nat) (small : ∀ d ∈ ds, d < base) :
    ofDigits base ds < base ^ ds.length := by
  induction ds using List.reverseRecOn with
  | nil => exact Nat.one_pos
  | append_singleton ds d ih =>
      have last := small d (List.mem_append_right _ (List.mem_singleton_self d))
      have earlier := ih fun other inside => small other (List.mem_append_left _ inside)
      have next : (ofDigits base ds + 1) * base ≤ base ^ ds.length * base :=
        Nat.mul_le_mul_right base earlier
      rw [ofDigits_append, List.length_append, List.length_singleton, Nat.pow_succ]
      rw [Nat.succ_mul] at next
      omega

theorem digits_ofDigits {base : Nat} (ds : List Nat) (small : ∀ d ∈ ds, d < base) :
    digits base ds.length (ofDigits base ds) = ds := by
  induction ds using List.reverseRecOn with
  | nil => rfl
  | append_singleton ds d ih =>
      have last := small d (List.mem_append_right _ (List.mem_singleton_self d))
      have pos : 0 < base := by omega
      have quotient : (ofDigits base ds * base + d) / base = ofDigits base ds := by
        rw [Nat.add_comm, Nat.add_mul_div_right _ _ pos, Nat.div_eq_of_lt last, Nat.zero_add]
      have rest : (ofDigits base ds * base + d) % base = d := by
        rw [Nat.add_comm, Nat.add_mul_mod_self_right, Nat.mod_eq_of_lt last]
      rw [ofDigits_append, List.length_append, List.length_singleton, digits, quotient, rest,
        ih fun other inside => small other (List.mem_append_left _ inside)]

theorem ofDigits_zeros (base k : Nat) (ds : List Nat) :
    ofDigits base (List.replicate k 0 ++ ds) = ofDigits base ds := by
  induction k with
  | zero => rfl
  | succ k ih =>
      rw [List.replicate_succ, List.cons_append, ofDigits, List.foldl_cons, Nat.zero_mul]
      exact ih

theorem ofDigits_minimal (base n : Nat) : ofDigits base (Nat.digits base n).reverse = n := by
  have folded : ofDigits base (Nat.digits base n).reverse = Nat.ofDigits base (Nat.digits base n) := by
    rw [ofDigits, List.foldl_reverse, Nat.ofDigits_eq_foldr]
    congr 1
    funext d acc
    simp [Nat.mul_comm, Nat.add_comm]
  rw [folded, Nat.ofDigits_digits]

/-- Filled up with zeros these are the digits at a fixed number of places. -/
theorem padded_minimal {base : Nat} (two : 1 < base) (places n : Nat) (small : n < base ^ places) :
    List.replicate (places - (Nat.digits base n).reverse.length) 0 ++ (Nat.digits base n).reverse =
      digits base places n := by
  let padded := List.replicate (places - (Nat.digits base n).reverse.length) 0 ++
    (Nat.digits base n).reverse
  have short : (Nat.digits base n).length ≤ places := (Nat.digits_length_le_iff two n).mpr small
  have length : padded.length = places := by
    simp only [padded, List.length_append, List.length_replicate, List.length_reverse]
    omega
  have bounded : ∀ d ∈ padded, d < base := by
    intro d inside
    rcases List.mem_append.mp inside with zero | digit
    · rw [List.eq_of_mem_replicate zero]
      omega
    · exact Nat.digits_lt_base two (List.mem_reverse.mp digit)
  have number : ofDigits base padded = n := by
    rw [ofDigits_zeros, ofDigits_minimal]
  have back := digits_ofDigits padded bounded
  rw [length, number] at back
  exact back.symm

/-! ## Parsing -/

/-- What a character counts as a digit; those that are none count as the radix. -/
def digitValue (radix code : Nat) : Nat :=
  if 48 ≤ code ∧ code ≤ 57 then code - 48
  else if 97 ≤ code ∧ code ≤ 122 then code - 87
  else if 65 ≤ code ∧ code ≤ 90 then code - 55
  else radix

/-- `char::to_digit`. -/
def toDigit (radix code : Nat) : Option Nat :=
  if digitValue radix code < radix then some (digitValue radix code) else none

/-- `IntErrorKind`. -/
inductive IntErrorKind where
  | empty
  | invalidDigit
  | posOverflow
  deriving DecidableEq, Repr

/-- The loop of `from_str_radix` over the octets to come. -/
def parseDigits (bits radix : Nat) : List UInt8 → Nat → Except IntErrorKind Nat
  | [], acc => .ok acc
  | octet :: rest, acc =>
    match toDigit radix octet.toNat with
    | none => .error .invalidDigit
    | some d =>
      if acc * radix + d < 2 ^ bits then parseDigits bits radix rest (acc * radix + d)
      else .error .posOverflow

/-- `from_str_radix` of an unsigned type: an optional `+`, then digits. -/
def fromStrRadix (bits radix : Nat) : List UInt8 → Except IntErrorKind Nat
  | [] => .error .empty
  | [octet] => if octet = 43 ∨ octet = 45 then .error .invalidDigit
      else parseDigits bits radix [octet] 0
  | octet :: next :: rest =>
    if octet = 43 then parseDigits bits radix (next :: rest) 0
    else parseDigits bits radix (octet :: next :: rest) 0

theorem toDigit_eq_some_iff {radix code d : Nat} :
    toDigit radix code = some d ↔ digitValue radix code < radix ∧ digitValue radix code = d := by
  unfold toDigit
  split
  · rename_i small
    simp [small]
  · rename_i large
    simp [large]

theorem toDigit_code {radix code d : Nat} (found : toDigit radix code = some d) :
    48 ≤ code ∧ code < 128 := by
  have small := (toDigit_eq_some_iff.mp found).1
  unfold digitValue at small
  split_ifs at small <;> omega

section Parse

variable {bits radix : Nat} {octets : List UInt8} {acc value : Nat}

theorem parseDigits_read (parsed : parseDigits bits radix octets acc = .ok value) :
    ∃ ds : List Nat, octets.map (fun octet => toDigit radix octet.toNat) = ds.map some ∧
      value = ds.foldl (fun acc d => acc * radix + d) acc := by
  induction octets generalizing acc with
  | nil =>
      cases parsed
      exact ⟨[], rfl, rfl⟩
  | cons octet rest ih =>
      rw [parseDigits] at parsed
      cases found : toDigit radix octet.toNat with
      | none =>
          rw [found] at parsed
          cases parsed
      | some d =>
          rw [found] at parsed
          dsimp only at parsed
          split at parsed
          · obtain ⟨ds, read, same⟩ := ih parsed
            exact ⟨d :: ds, by simp [found, read], same⟩
          · cases parsed

theorem le_foldl (pos : 0 < radix) (ds : List Nat) (acc : Nat) :
    acc ≤ ds.foldl (fun acc d => acc * radix + d) acc := by
  induction ds generalizing acc with
  | nil => exact le_refl acc
  | cons d rest ih =>
      have step : acc * 1 ≤ acc * radix := Nat.mul_le_mul_left acc pos
      have later := ih (acc * radix + d)
      rw [List.foldl_cons]
      omega

theorem parseDigits_ok (pos : 0 < radix) {ds : List Nat}
    (read : octets.map (fun octet => toDigit radix octet.toNat) = ds.map some)
    (fits : ds.foldl (fun acc d => acc * radix + d) acc < 2 ^ bits) :
    parseDigits bits radix octets acc = .ok (ds.foldl (fun acc d => acc * radix + d) acc) := by
  induction octets generalizing acc ds with
  | nil =>
      cases ds with
      | nil => rfl
      | cons d rest => cases read
  | cons octet octets ih =>
      cases ds with
      | nil => cases read
      | cons d rest =>
          obtain ⟨found, others⟩ := List.cons.inj read
          have small : acc * radix + d < 2 ^ bits :=
            lt_of_le_of_lt (le_foldl pos rest _) fits
          have found : toDigit radix octet.toNat = some d := found
          rw [parseDigits, found]
          dsimp only
          rw [if_pos small]
          exact ih others fits

/-- What is read has digits only, but for a `+` in front. -/
theorem fromStrRadix_read (parsed : fromStrRadix bits radix octets = .ok value) :
    ∃ ds : List Nat, octets.map (fun octet => toDigit radix octet.toNat) = ds.map some ∨
      ∃ rest, octets = 43 :: rest ∧
        rest.map (fun octet => toDigit radix octet.toNat) = ds.map some := by
  unfold fromStrRadix at parsed
  split at parsed
  · cases parsed
  · split at parsed
    · cases parsed
    · obtain ⟨ds, read, _⟩ := parseDigits_read parsed
      exact ⟨ds, .inl read⟩
  · split at parsed
    · rename_i plus
      obtain ⟨ds, read, _⟩ := parseDigits_read parsed
      exact ⟨ds, .inr ⟨_, by rw [plus], read⟩⟩
    · obtain ⟨ds, read, _⟩ := parseDigits_read parsed
      exact ⟨ds, .inl read⟩

/-- A string of digits is read as their number, if it fits. -/
theorem fromStrRadix_ok (pos : 0 < radix) {ds : List Nat} (some_digit : ds ≠ [])
    (read : octets.map (fun octet => toDigit radix octet.toNat) = ds.map some)
    (fits : ofDigits radix ds < 2 ^ bits) :
    fromStrRadix bits radix octets = .ok (ofDigits radix ds) := by
  have parsed := parseDigits_ok pos read fits
  have unsigned : ∀ octet ∈ octets, 48 ≤ octet.toNat := by
    intro octet inside
    have found : toDigit radix octet.toNat ∈ ds.map some := by
      rw [← read]
      exact List.mem_map_of_mem inside
    obtain ⟨d, _, here⟩ := List.mem_map.mp found
    exact (toDigit_code here.symm).1
  cases octets with
  | nil =>
      have none_left := congrArg List.length read
      rw [List.length_map, List.length_map] at none_left
      exact absurd (List.length_eq_zero_iff.mp none_left.symm) some_digit
  | cons octet rest =>
      have high := unsigned octet List.mem_cons_self
      have plus : octet ≠ 43 := by
        rintro rfl
        exact absurd high (by decide)
      have minus : octet ≠ 45 := by
        rintro rfl
        exact absurd high (by decide)
      cases rest with
      | nil =>
          rw [fromStrRadix, if_neg (by simp [plus, minus])]
          exact parsed
      | cons next rest =>
          rw [fromStrRadix, if_neg plus]
          exact parsed

/-- So is one with a `+` in front. -/
theorem fromStrRadix_plus (pos : 0 < radix) {ds : List Nat} (some_digit : ds ≠ [])
    (read : octets.map (fun octet => toDigit radix octet.toNat) = ds.map some)
    (fits : ofDigits radix ds < 2 ^ bits) :
    fromStrRadix bits radix (43 :: octets) = .ok (ofDigits radix ds) := by
  cases octets with
  | nil =>
      have none_left := congrArg List.length read
      rw [List.length_map, List.length_map] at none_left
      exact absurd (List.length_eq_zero_iff.mp none_left.symm) some_digit
  | cons octet rest =>
      rw [fromStrRadix, if_pos rfl]
      exact parseDigits_ok pos read fits

end Parse

/-! ## Printing -/

/-- A digit in lower case. -/
def lowerDigit (d : Nat) : Char := if d < 10 then Char.ofNat (48 + d) else Char.ofNat (87 + d)

/-- `{:x}`. -/
def lowerHex (n : Nat) : List Char :=
  if n = 0 then ['0'] else (Nat.digits 16 n).reverse.map lowerDigit

/-- The flag `0` with a width. -/
def zeroPad (width : Nat) (cs : List Char) : List Char :=
  List.replicate (width - cs.length) '0' ++ cs

theorem toDigit_lowerDigit {d : Nat} (small : d < 16) :
    toDigit 16 (lowerDigit d).toNat = some d := by
  interval_cases d <;> rfl

/-- A digit that is no upper-case letter is printed as it was read. -/
theorem lowerDigit_of_toDigit {c : Char} {d : Nat} (found : toDigit 16 c.toNat = some d)
    (lower : ¬ (65 ≤ c.toNat ∧ c.toNat ≤ 90)) : lowerDigit d = c := by
  obtain ⟨small, value⟩ := toDigit_eq_some_iff.mp found
  unfold digitValue at small value
  unfold lowerDigit
  split_ifs at small value with decimal letter
  · rw [if_pos (by omega), show 48 + d = c.toNat by omega, Char.ofNat_toNat]
  · rw [if_neg (by omega), show 87 + d = c.toNat by omega, Char.ofNat_toNat]
  · omega

/-- Padded, a number is printed as its digits at the places. -/
theorem zeroPad_lowerHex {places n : Nat} (room : 0 < places) (small : n < 16 ^ places) :
    zeroPad places (lowerHex n) = (digits 16 places n).map lowerDigit := by
  rw [← padded_minimal (by decide) places n small, List.map_append, List.map_replicate, zeroPad,
    lowerHex]
  split
  · rename_i zero
    subst zero
    have last : places = places - 1 + 1 := by omega
    rw [last]
    simp [List.replicate_succ', lowerDigit]
  · rw [List.length_map]
    rfl

/-! ## Octets of strings -/

/-- `as_bytes`. -/
def asBytes (s : String) : List UInt8 := s.toList.flatMap String.utf8EncodeChar

theorem encode_ascii {c : Char} (ascii : c.toNat < 128) :
    String.utf8EncodeChar c = [UInt8.ofNat c.toNat] :=
  if_pos (Nat.lt_succ_iff.mp ascii)

theorem encode_high {c : Char} (high : ¬ c.toNat < 128) :
    ∃ octet ∈ String.utf8EncodeChar c, ¬ octet.toNat < 128 := by
  have large : ¬ c.val.toNat ≤ 0x7f := fun small => high (Nat.lt_succ_of_le small)
  unfold String.utf8EncodeChar
  dsimp only
  rw [if_neg large]
  split
  · refine ⟨_, List.mem_cons_self, ?_⟩
    rw [UInt8.toNat_ofNat']
    omega
  · split
    · refine ⟨_, List.mem_cons_self, ?_⟩
      rw [UInt8.toNat_ofNat']
      omega
    · refine ⟨_, List.mem_cons_self, ?_⟩
      rw [UInt8.toNat_ofNat']
      omega

theorem flatMap_ascii {cs : List Char} (ascii : ∀ c ∈ cs, c.toNat < 128) :
    cs.flatMap String.utf8EncodeChar = cs.map fun c => UInt8.ofNat c.toNat := by
  induction cs with
  | nil => rfl
  | cons c rest ih =>
      rw [List.flatMap_cons, encode_ascii (ascii c List.mem_cons_self),
        ih fun other inside => ascii other (List.mem_cons_of_mem _ inside)]
      rfl

theorem ascii_of_octets {cs : List Char}
    (small : ∀ octet ∈ cs.flatMap String.utf8EncodeChar, octet.toNat < 128) :
    ∀ c ∈ cs, c.toNat < 128 := by
  intro c inside
  by_contra high
  obtain ⟨octet, encoded, large⟩ := encode_high high
  exact large (small octet (List.mem_flatMap.mpr ⟨c, inside, encoded⟩))

theorem map_toDigit_iff (radix : Nat) (cs : List Char) (ds : List Nat) :
    (cs.flatMap String.utf8EncodeChar).map (fun octet => toDigit radix octet.toNat) = ds.map some ↔
      cs.map (fun c => toDigit radix c.toNat) = ds.map some := by
  have same : (∀ c ∈ cs, c.toNat < 128) →
      (cs.flatMap String.utf8EncodeChar).map (fun octet => toDigit radix octet.toNat) =
        cs.map fun c => toDigit radix c.toNat := by
    intro ascii
    rw [flatMap_ascii ascii, List.map_map]
    apply List.map_congr_left
    intro c inside
    have whole : (UInt8.ofNat c.toNat).toNat = c.toNat := by
      rw [UInt8.toNat_ofNat']
      exact Nat.mod_eq_of_lt (lt_trans (ascii c inside) (by decide))
    exact congrArg (toDigit radix) whole
  have digit : ∀ {α : Type} (xs : List α) (code : α → Nat),
      xs.map (fun x => toDigit radix (code x)) = ds.map some → ∀ x ∈ xs, code x < 128 := by
    intro α xs code read x inside
    have found : toDigit radix (code x) ∈ ds.map some := by
      rw [← read]
      exact List.mem_map_of_mem inside
    obtain ⟨d, _, here⟩ := List.mem_map.mp found
    exact (toDigit_code here.symm).2
  constructor
  · intro read
    rw [← same (ascii_of_octets (digit _ UInt8.toNat read))]
    exact read
  · intro read
    rw [same (digit _ Char.toNat read)]
    exact read

end LoraRs.Lib.Text
