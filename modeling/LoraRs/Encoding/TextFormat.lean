import LoraRs.Encoding.Keys
import LoraRs.Lib.Text

/-!
# Wire fields as text

`Display` and `FromStr` of the wire fields, from `wire_value_newtype!` in
`lorawan-encoding/src/parser.rs`.  `from_str` counts the octets and leaves the rest to the
integer, whose grammar has a sign.
-/

set_option autoImplicit false

namespace LoraRs.Encoding

open LoraRs.Lib LoraRs.Lib.Text

/-- `ParseHexError`. -/
inductive ParseHexError where
  | expectedFixedSizeHexString
  deriving DecidableEq, Repr

/-- `$name([u8; $n], $int)`: the octets of the field and of its integer. -/
structure WireValue where
  byteLen : Nat
  intSize : Nat
  someByte : 0 < byteLen
  fits : byteLen ≤ intSize

/-- `to_le_bytes` of an integer of so many octets. -/
def toLeBytes : Nat → Nat → List Byte
  | 0, _ => []
  | size + 1, value => value.toUInt8 :: toLeBytes size (value / 256)

def fromLeBytes : List Byte → Nat
  | [] => 0
  | byte :: rest => byte.toNat + 256 * fromLeBytes rest

theorem toLeBytes_length (size value : Nat) : (toLeBytes size value).length = size := by
  induction size generalizing value with
  | zero => rfl
  | succ size ih => rw [toLeBytes, List.length_cons, ih]

namespace WireValue

variable (wire : WireValue)

/-- `from_value`: the low octets of the integer. -/
def fromValue (value : Nat) : Vector Byte wire.byteLen :=
  Bytes.arr wire.byteLen ((toLeBytes wire.intSize value).take wire.byteLen) (by
    rw [List.length_take, toLeBytes_length, Nat.min_eq_left wire.fits])

def value (bytes : Vector Byte wire.byteLen) : Nat := fromLeBytes bytes.toList

/-- `fmt`. -/
def display (bytes : Vector Byte wire.byteLen) : String :=
  String.ofList (zeroPad (2 * wire.byteLen) (lowerHex (wire.value bytes)))

def fromStr (s : String) : Except ParseHexError (Vector Byte wire.byteLen) :=
  if (asBytes s).length ≠ 2 * wire.byteLen then .error .expectedFixedSizeHexString
  else match fromStrRadix (8 * wire.intSize) 16 (asBytes s) with
    | .ok value => .ok (wire.fromValue value)
    | .error _ => .error .expectedFixedSizeHexString

/-! ## Values -/

theorem take_toLeBytes {n size : Nat} (below : n ≤ size) (value : Nat) :
    (toLeBytes size value).take n = toLeBytes n value := by
  induction n generalizing size value with
  | zero => rfl
  | succ n ih =>
      obtain ⟨size, rfl⟩ : ∃ less, size = less + 1 := ⟨size - 1, by omega⟩
      rw [toLeBytes, toLeBytes, List.take_succ_cons, ih (by omega)]

theorem fromLeBytes_toLeBytes (size value : Nat) (small : value < 256 ^ size) :
    fromLeBytes (toLeBytes size value) = value := by
  induction size generalizing value with
  | zero => exact (Nat.lt_one_iff.mp small).symm
  | succ size ih =>
      have fewer : value / 256 < 256 ^ size := Nat.div_lt_of_lt_mul (by rwa [← Nat.pow_succ'])
      have low : value.toUInt8.toNat = value % 256 := rfl
      rw [toLeBytes, fromLeBytes, ih _ fewer, low]
      exact Nat.mod_add_div value 256

theorem toLeBytes_fromLeBytes (bytes : List Byte) :
    toLeBytes bytes.length (fromLeBytes bytes) = bytes := by
  induction bytes with
  | nil => rfl
  | cons byte rest ih =>
      have small := byte.toNat_lt
      have low : (byte.toNat + 256 * fromLeBytes rest).toUInt8 = byte := by
        apply UInt8.toNat_inj.mp
        change (byte.toNat + 256 * fromLeBytes rest) % 256 = _
        omega
      have high : (byte.toNat + 256 * fromLeBytes rest) / 256 = fromLeBytes rest := by omega
      rw [List.length_cons, fromLeBytes, toLeBytes, low, high, ih]

theorem fromLeBytes_lt (bytes : List Byte) : fromLeBytes bytes < 256 ^ bytes.length := by
  induction bytes with
  | nil => exact Nat.one_pos
  | cons byte rest ih =>
      have small := byte.toNat_lt
      rw [fromLeBytes, List.length_cons, Nat.pow_succ]
      omega

theorem value_fromValue {value : Nat} (small : value < 256 ^ wire.byteLen) :
    wire.value (wire.fromValue value) = value := by
  rw [WireValue.value, fromValue, Bytes.arr_toList, take_toLeBytes wire.fits]
  exact fromLeBytes_toLeBytes _ _ small

theorem fromValue_value (bytes : Vector Byte wire.byteLen) :
    wire.fromValue (wire.value bytes) = bytes := by
  have whole : (toLeBytes wire.intSize (wire.value bytes)).take wire.byteLen = bytes.toList := by
    rw [take_toLeBytes wire.fits]
    have back := toLeBytes_fromLeBytes bytes.toList
    rw [Vector.length_toList] at back
    exact back
  apply Vector.toList_inj.mp
  rw [fromValue, Bytes.arr_toList, whole]

theorem value_lt (bytes : Vector Byte wire.byteLen) :
    wire.value bytes < 16 ^ (2 * wire.byteLen) := by
  have small := fromLeBytes_lt bytes.toList
  rw [Vector.length_toList, show 256 = 16 ^ 2 from rfl, ← Nat.pow_mul] at small
  exact small

end WireValue

/-! ## Hexadecimal strings -/

def HasDigits (s : String) (ds : List Nat) : Prop :=
  s.toList.map (fun c => toDigit 16 c.toNat) = ds.map some

/-- Exactly so many ASCII hexadecimal digits. -/
def IsHex (count : Nat) (s : String) : Prop :=
  s.toList.length = count ∧ ∀ c ∈ s.toList, (toDigit 16 c.toNat).isSome

/-- No upper-case letters. -/
def IsLower (s : String) : Prop := ∀ c ∈ s.toList, ¬ (65 ≤ c.toNat ∧ c.toNat ≤ 90)

def hexNumber (s : String) : Nat :=
  ofDigits 16 (s.toList.map fun c => (toDigit 16 c.toNat).getD 0)

def IsSigned (count : Nat) (s : String) : Prop :=
  ∃ rest, s.toList = '+' :: rest ∧ rest.length + 1 = count ∧
    ∀ c ∈ rest, (toDigit 16 c.toNat).isSome

theorem digits_exist {cs : List Char} (all : ∀ c ∈ cs, (toDigit 16 c.toNat).isSome) :
    cs.map (fun c => toDigit 16 c.toNat) =
      (cs.map fun c => (toDigit 16 c.toNat).getD 0).map some := by
  rw [List.map_map]
  apply List.map_congr_left
  intro c inside
  obtain ⟨d, found⟩ := Option.isSome_iff_exists.mp (all c inside)
  simp [found]

theorem isSome_of_digits {cs : List Char} {ds : List Nat}
    (read : cs.map (fun c => toDigit 16 c.toNat) = ds.map some) :
    ∀ c ∈ cs, (toDigit 16 c.toNat).isSome := by
  intro c inside
  have found : toDigit 16 c.toNat ∈ ds.map some := by
    rw [← read]
    exact List.mem_map_of_mem inside
  obtain ⟨d, _, same⟩ := List.mem_map.mp found
  rw [← same]
  rfl

theorem isHex_iff (count : Nat) (s : String) :
    IsHex count s ↔ ∃ ds : List Nat, ds.length = count ∧ HasDigits s ds := by
  constructor
  · rintro ⟨length, all⟩
    exact ⟨_, by rw [List.length_map, length], digits_exist all⟩
  · rintro ⟨ds, rfl, read⟩
    have length := congrArg List.length read
    rw [List.length_map, List.length_map] at length
    exact ⟨length, isSome_of_digits read⟩

theorem HasDigits.small {s : String} {ds : List Nat} (read : HasDigits s ds) :
    ∀ d ∈ ds, d < 16 := by
  intro d inside
  have found : some d ∈ s.toList.map fun c => toDigit 16 c.toNat := by
    rw [read]
    exact List.mem_map_of_mem inside
  obtain ⟨c, _, same⟩ := List.mem_map.mp found
  obtain ⟨small, value⟩ := toDigit_eq_some_iff.mp same
  omega

theorem HasDigits.number {s : String} {ds : List Nat} (read : HasDigits s ds) :
    hexNumber s = ofDigits 16 ds := by
  have same : s.toList.map (fun c => (toDigit 16 c.toNat).getD 0) = ds := by
    have got := congrArg (List.map fun found : Option Nat => found.getD 0) read
    rw [List.map_map, List.map_map] at got
    exact got.trans (List.map_id ds)
  rw [hexNumber, same]

theorem HasDigits.printed {s : String} {ds : List Nat} (read : HasDigits s ds)
    (lower : IsLower s) : ds.map lowerDigit = s.toList := by
  have each : ∀ c ∈ s.toList, lowerDigit ((toDigit 16 c.toNat).getD 0) = c := by
    intro c inside
    obtain ⟨d, found⟩ := Option.isSome_iff_exists.mp (isSome_of_digits read c inside)
    rw [found]
    exact lowerDigit_of_toDigit found (lower c inside)
  have same : ds = s.toList.map fun c => (toDigit 16 c.toNat).getD 0 := by
    have got := congrArg (List.map fun found : Option Nat => found.getD 0) read
    rw [List.map_map, List.map_map] at got
    exact (List.map_id ds).symm.trans got.symm
  rw [same, List.map_map]
  exact (List.map_congr_left each).trans (List.map_id _)

/-- Octets of which the first is a `+` are those of a signed string. -/
theorem signed_of_octets {s : String} {ds : List Nat} {rest : List Byte} {count : Nat}
    (plus : asBytes s = 43 :: rest) (length : (asBytes s).length = count)
    (digit : rest.map (fun octet => toDigit 16 octet.toNat) = ds.map some) :
    IsSigned count s := by
  have small : ∀ octet ∈ asBytes s, octet.toNat < 128 := by
    intro octet inside
    rw [plus] at inside
    rcases List.mem_cons.mp inside with sign | later
    · rw [sign]
      decide
    · have found : toDigit 16 octet.toNat ∈ ds.map some := by
        rw [← digit]
        exact List.mem_map_of_mem later
      obtain ⟨d, _, here⟩ := List.mem_map.mp found
      exact (toDigit_code here.symm).2
  have ascii := ascii_of_octets small
  have octets : asBytes s = s.toList.map fun c => UInt8.ofNat c.toNat := flatMap_ascii ascii
  have places : s.toList.length = count := by rw [← length, octets, List.length_map]
  cases chars : s.toList with
  | nil =>
      rw [octets, chars] at plus
      cases plus
  | cons c cs =>
      rw [chars] at octets ascii places
      rw [plus] at octets
      obtain ⟨sign, others⟩ := List.cons.inj octets
      have code : c.toNat = 43 := by
        have here := congrArg UInt8.toNat sign
        have low : c.toNat < 256 := lt_trans (ascii c List.mem_cons_self) (by decide)
        rw [UInt8.toNat_ofNat', Nat.mod_eq_of_lt low] at here
        exact here.symm
      have tail : rest = cs.flatMap String.utf8EncodeChar := by
        rw [others]
        exact (flatMap_ascii fun other inside => ascii other (List.mem_cons_of_mem _ inside)).symm
      rw [tail] at digit
      have first : c = '+' := by
        rw [← Char.ofNat_toNat c, code]
      have digits := (map_toDigit_iff 16 cs ds).mp digit
      exact ⟨cs, by rw [chars, first], places, isSome_of_digits digits⟩

theorem HasDigits.octets {s : String} {ds : List Nat} (read : HasDigits s ds) :
    (asBytes s).map (fun octet => toDigit 16 octet.toNat) = ds.map some :=
  (map_toDigit_iff 16 s.toList ds).mpr read

namespace WireValue

variable {wire : WireValue} {s : String} {ds : List Nat}

/-- The integer of a field holds as many digits as the field is printed with. -/
theorem digits_fit (small : ∀ d ∈ ds, d < 16) (length : ds.length ≤ 2 * wire.byteLen) :
    ofDigits 16 ds < 2 ^ (8 * wire.intSize) := by
  have places : 4 * ds.length ≤ 8 * wire.intSize := by
    have fits := wire.fits
    omega
  calc ofDigits 16 ds < 16 ^ ds.length := ofDigits_lt ds small
    _ = 2 ^ (4 * ds.length) := by rw [Nat.pow_mul]
    _ ≤ 2 ^ (8 * wire.intSize) := Nat.pow_le_pow_right (by decide) places

theorem fromStr_digits (length : ds.length = 2 * wire.byteLen) (read : HasDigits s ds) :
    wire.fromStr s = .ok (wire.fromValue (ofDigits 16 ds)) := by
  have some_byte := wire.someByte
  have some_digit : ds ≠ [] := by
    rintro rfl
    rw [List.length_nil] at length
    omega
  have octets : (asBytes s).length = 2 * wire.byteLen := by
    have same := congrArg List.length read.octets
    rw [List.length_map, List.length_map] at same
    rw [same, length]
  rw [WireValue.fromStr, if_neg (not_not_intro octets),
    fromStrRadix_ok (by decide) some_digit read.octets (digits_fit read.small length.le)]

theorem fromStr_hex (hex : IsHex (2 * wire.byteLen) s) :
    wire.fromStr s = .ok (wire.fromValue (hexNumber s)) := by
  obtain ⟨ds, length, read⟩ := (isHex_iff _ s).mp hex
  rw [read.number]
  exact fromStr_digits length read

theorem hexNumber_lt (hex : IsHex (2 * wire.byteLen) s) : hexNumber s < 256 ^ wire.byteLen := by
  obtain ⟨ds, length, read⟩ := (isHex_iff _ s).mp hex
  have small := ofDigits_lt ds read.small
  rw [length, Nat.pow_mul] at small
  rw [read.number]
  exact small

theorem fromStr_signed (signed : IsSigned (2 * wire.byteLen) s) :
    ∃ bytes, wire.fromStr s = .ok bytes := by
  obtain ⟨rest, same, length, all⟩ := signed
  have some_byte := wire.someByte
  let ds := rest.map fun c => (toDigit 16 c.toNat).getD 0
  have read : HasDigits (String.ofList rest) ds := by
    rw [HasDigits, String.toList_ofList]
    exact digits_exist all
  have places : ds.length = rest.length := List.length_map _
  have some_digit : ds ≠ [] := by
    intro empty
    rw [empty, List.length_nil] at places
    omega
  have tail : asBytes s = 43 :: asBytes (String.ofList rest) := by
    rw [asBytes, same, List.flatMap_cons, asBytes, String.toList_ofList]
    rfl
  have octets : (asBytes s).length = 2 * wire.byteLen := by
    have count := congrArg List.length read.octets
    rw [List.length_map, List.length_map] at count
    rw [tail, List.length_cons, count, ← length]
    exact congrArg (· + 1) places
  have parsed : fromStrRadix (8 * wire.intSize) 16 (43 :: asBytes (String.ofList rest)) =
      .ok (ofDigits 16 ds) :=
    fromStrRadix_plus (by decide) some_digit read.octets (digits_fit read.small (by omega))
  refine ⟨wire.fromValue (ofDigits 16 ds), ?_⟩
  rw [WireValue.fromStr, if_neg (not_not_intro octets), tail, parsed]

theorem fromStr_read {bytes : Vector Byte wire.byteLen} (parsed : wire.fromStr s = .ok bytes) :
    IsHex (2 * wire.byteLen) s ∨ IsSigned (2 * wire.byteLen) s := by
  unfold WireValue.fromStr at parsed
  split at parsed
  · cases parsed
  · rename_i whole
    have octets : (asBytes s).length = 2 * wire.byteLen := not_not.mp whole
    split at parsed
    · rename_i value read
      obtain ⟨ds, digit | ⟨rest, plus, digit⟩⟩ := fromStrRadix_read read
      · left
        refine (isHex_iff _ s).mpr ⟨ds, ?_, (map_toDigit_iff 16 s.toList ds).mp digit⟩
        have length := congrArg List.length digit
        rw [List.length_map, List.length_map] at length
        omega
      · right
        exact signed_of_octets plus octets digit
    · cases parsed

theorem display_eq (bytes : Vector Byte wire.byteLen) :
    wire.display bytes =
      String.ofList ((digits 16 (2 * wire.byteLen) (wire.value bytes)).map lowerDigit) := by
  have some_byte := wire.someByte
  rw [WireValue.display, zeroPad_lowerHex (by omega) (wire.value_lt bytes)]

theorem display_hasDigits (bytes : Vector Byte wire.byteLen) :
    HasDigits (wire.display bytes) (digits 16 (2 * wire.byteLen) (wire.value bytes)) := by
  rw [HasDigits, display_eq, String.toList_ofList, List.map_map]
  apply List.map_congr_left
  intro d inside
  exact toDigit_lowerDigit (digits_lt (by decide) _ _ d inside)

theorem fromStr_display (bytes : Vector Byte wire.byteLen) :
    wire.fromStr (wire.display bytes) = .ok bytes := by
  rw [fromStr_digits (digits_length _ _ _) (display_hasDigits bytes),
    ofDigits_digits _ _ (wire.value_lt bytes), fromValue_value]

/-- A lower-case string is printed again. -/
theorem display_hex (hex : IsHex (2 * wire.byteLen) s) (lower : IsLower s) :
    wire.display (wire.fromValue (hexNumber s)) = s := by
  obtain ⟨ds, length, read⟩ := (isHex_iff _ s).mp hex
  have back := digits_ofDigits ds read.small
  have printed : ds.map lowerDigit = s.toList := read.printed lower
  rw [length] at back
  rw [display_eq, value_fromValue wire (hexNumber_lt hex), read.number, back, printed,
    String.ofList_toList]

end WireValue

/-! ## The fields -/

def WireValue.sized (byteLen intSize : Nat) (sizes : 0 < byteLen ∧ byteLen ≤ intSize) :
    WireValue := ⟨byteLen, intSize, sizes.1, sizes.2⟩

def devAddr : WireValue := .sized 4 4 (by decide)

def devEui : WireValue := .sized 8 8 (by decide)

def joinEui : WireValue := .sized 8 8 (by decide)

def mcAddr : WireValue := .sized 4 4 (by decide)

def devNonce : WireValue := .sized 2 2 (by decide)

def joinNonce : WireValue := .sized 3 4 (by decide)

def netId : WireValue := .sized 3 4 (by decide)

def DevAddr.value (a : DevAddr) : Nat := devAddr.value a.bytes

def DevAddr.display (a : DevAddr) : String := devAddr.display a.bytes

def DevAddr.fromStr (s : String) : Except ParseHexError DevAddr := (devAddr.fromStr s).map .mk

def DevEui.value (a : DevEui) : Nat := devEui.value a.bytes

def DevEui.display (a : DevEui) : String := devEui.display a.bytes

def DevEui.fromStr (s : String) : Except ParseHexError DevEui := (devEui.fromStr s).map .mk

def JoinEui.value (a : JoinEui) : Nat := joinEui.value a.bytes

def JoinEui.display (a : JoinEui) : String := joinEui.display a.bytes

def JoinEui.fromStr (s : String) : Except ParseHexError JoinEui := (joinEui.fromStr s).map .mk

def McAddr.value (a : McAddr) : Nat := mcAddr.value a.bytes

def McAddr.display (a : McAddr) : String := mcAddr.display a.bytes

def McAddr.fromStr (s : String) : Except ParseHexError McAddr := (mcAddr.fromStr s).map .mk

def DevNonce.value (a : DevNonce) : Nat := devNonce.value a.bytes

def DevNonce.display (a : DevNonce) : String := devNonce.display a.bytes

def DevNonce.fromStr (s : String) : Except ParseHexError DevNonce := (devNonce.fromStr s).map .mk

def JoinNonce.value (a : JoinNonce) : Nat := joinNonce.value a.bytes

def JoinNonce.display (a : JoinNonce) : String := joinNonce.display a.bytes

def JoinNonce.fromStr (s : String) : Except ParseHexError JoinNonce :=
  (joinNonce.fromStr s).map .mk

def NetId.value (a : NetId) : Nat := netId.value a.bytes

def NetId.display (a : NetId) : String := netId.display a.bytes

def NetId.fromStr (s : String) : Except ParseHexError NetId := (netId.fromStr s).map .mk

section Text

variable {T : Type} (byteLen : Nat) (fromStr : String → Except ParseHexError T)
  (display : T → String) (value : T → Nat)

/-- What `from_str` owes a string: just the strings of digits at all places are read, as the
number, and the lower-case ones are printed again. -/
structure ReadsText (s : String) : Prop where
  accepted : (∃ parsed, fromStr s = .ok parsed) ↔ IsHex (2 * byteLen) s
  number : ∀ parsed, fromStr s = .ok parsed → value parsed = hexNumber s
  back : ∀ parsed, fromStr s = .ok parsed → IsLower s → display parsed = s

/-- It is met unless the string has a sign, and what is printed is read again. -/
structure TextUnlessSigned (s : String) : Prop where
  read : ReadsText byteLen fromStr display value s ↔ ¬ IsSigned (2 * byteLen) s
  printed : ∀ a, fromStr (display a) = .ok a

end Text

theorem IsSigned.not_isHex {count : Nat} {s : String} (signed : IsSigned count s) :
    ¬ IsHex count s := by
  rintro ⟨_, all⟩
  obtain ⟨rest, same, _⟩ := signed
  have sign := all '+' (by rw [same]; exact List.mem_cons_self)
  exact absurd sign (by decide)

theorem textUnlessSigned {T : Type} (wire : WireValue) {fromStr : String → Except ParseHexError T}
    {display : T → String} {value : T → Nat} (wrap : Vector Byte wire.byteLen → T)
    (bytes : T → Vector Byte wire.byteLen) (wrap_bytes : ∀ a, wrap (bytes a) = a)
    (bytes_wrap : ∀ inner, bytes (wrap inner) = inner)
    (fromStr_eq : ∀ s, fromStr s = (wire.fromStr s).map wrap)
    (display_eq : ∀ a, display a = wire.display (bytes a))
    (value_eq : ∀ a, value a = wire.value (bytes a)) (s : String) :
    TextUnlessSigned wire.byteLen fromStr display value s := by
  refine ⟨?_, ?_⟩
  · constructor
    · intro reads signed
      obtain ⟨inner, parsed⟩ := WireValue.fromStr_signed signed
      have parsed : fromStr s = .ok (wrap inner) := by rw [fromStr_eq, parsed]; rfl
      exact signed.not_isHex (reads.accepted.mp ⟨_, parsed⟩)
    · intro unsigned
      have hex_of : ∀ parsed, fromStr s = .ok parsed →
          IsHex (2 * wire.byteLen) s ∧ parsed = wrap (wire.fromValue (hexNumber s)) := by
        intro parsed read
        rw [fromStr_eq] at read
        cases inner : wire.fromStr s with
        | error e =>
            rw [inner] at read
            cases read
        | ok found =>
            have hex := (WireValue.fromStr_read inner).resolve_right unsigned
            rw [WireValue.fromStr_hex hex] at read
            exact ⟨hex, (Except.ok.inj read).symm⟩
      refine ⟨⟨?_, ?_⟩, ?_, ?_⟩
      · rintro ⟨parsed, read⟩
        exact (hex_of parsed read).1
      · intro hex
        refine ⟨wrap (wire.fromValue (hexNumber s)), ?_⟩
        rw [fromStr_eq, WireValue.fromStr_hex hex]
        rfl
      · intro parsed read
        obtain ⟨hex, rfl⟩ := hex_of parsed read
        rw [value_eq, bytes_wrap, WireValue.value_fromValue wire (WireValue.hexNumber_lt hex)]
      · intro parsed read lower
        obtain ⟨hex, rfl⟩ := hex_of parsed read
        rw [display_eq, bytes_wrap, WireValue.display_hex hex lower]
  · intro a
    rw [fromStr_eq, display_eq, WireValue.fromStr_display]
    exact congrArg Except.ok (wrap_bytes a)

/-- All seven fields have their text but for signed strings. -/
theorem fields_text_unless_signed (s : String) :
    TextUnlessSigned 4 DevAddr.fromStr DevAddr.display DevAddr.value s ∧
    TextUnlessSigned 8 DevEui.fromStr DevEui.display DevEui.value s ∧
    TextUnlessSigned 8 JoinEui.fromStr JoinEui.display JoinEui.value s ∧
    TextUnlessSigned 4 McAddr.fromStr McAddr.display McAddr.value s ∧
    TextUnlessSigned 2 DevNonce.fromStr DevNonce.display DevNonce.value s ∧
    TextUnlessSigned 3 JoinNonce.fromStr JoinNonce.display JoinNonce.value s ∧
    TextUnlessSigned 3 NetId.fromStr NetId.display NetId.value s := by
  refine ⟨?_, ?_, ?_, ?_, ?_, ?_, ?_⟩
  · exact textUnlessSigned devAddr DevAddr.mk DevAddr.bytes (fun _ => rfl) (fun _ => rfl)
      (fun _ => rfl) (fun _ => rfl) (fun _ => rfl) s
  · exact textUnlessSigned devEui DevEui.mk DevEui.bytes (fun _ => rfl) (fun _ => rfl)
      (fun _ => rfl) (fun _ => rfl) (fun _ => rfl) s
  · exact textUnlessSigned joinEui JoinEui.mk JoinEui.bytes (fun _ => rfl) (fun _ => rfl)
      (fun _ => rfl) (fun _ => rfl) (fun _ => rfl) s
  · exact textUnlessSigned mcAddr McAddr.mk McAddr.bytes (fun _ => rfl) (fun _ => rfl)
      (fun _ => rfl) (fun _ => rfl) (fun _ => rfl) s
  · exact textUnlessSigned devNonce DevNonce.mk DevNonce.bytes (fun _ => rfl) (fun _ => rfl)
      (fun _ => rfl) (fun _ => rfl) (fun _ => rfl) s
  · exact textUnlessSigned joinNonce JoinNonce.mk JoinNonce.bytes (fun _ => rfl) (fun _ => rfl)
      (fun _ => rfl) (fun _ => rfl) (fun _ => rfl) s
  · exact textUnlessSigned netId NetId.mk NetId.bytes (fun _ => rfl) (fun _ => rfl)
      (fun _ => rfl) (fun _ => rfl) (fun _ => rfl) s

/-- A sign and seven digits are read as an address. -/
theorem signed_address_read : DevAddr.fromStr "+1234567" = .ok ⟨#v[0x67, 0x45, 0x23, 0x01]⟩ ∧
    ¬ ReadsText 4 DevAddr.fromStr DevAddr.display DevAddr.value "+1234567" := by
  have read : DevAddr.fromStr "+1234567" = .ok ⟨#v[0x67, 0x45, 0x23, 0x01]⟩ := by
    rfl
  refine ⟨read, ?_⟩
  intro reads
  have hex := reads.accepted.mp ⟨_, read⟩
  have signed : IsSigned 8 "+1234567" :=
    ⟨['1', '2', '3', '4', '5', '6', '7'], by decide, rfl, List.all_eq_true.mp rfl⟩
  exact signed.not_isHex hex

end LoraRs.Encoding
