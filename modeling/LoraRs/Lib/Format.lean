import LoraRs.Lib.Bytes

/-!
# Formats of saved values

A format writes values and reads them back, and encodes a structure with named fields either as
a map from names to values or as the sequence of the values.
-/

set_option autoImplicit false

namespace LoraRs.Lib

/-- What a format gives for the key of an entry: a name, or the place among the fields. -/
inductive Identifier where
  | name (s : String)
  | index (n : Nat)
  deriving DecidableEq

structure Format where
  Value : Type
  Error : Type
  bool : Bool → Value
  u8 : UInt8 → Value
  octets : {n : Nat} → Vector UInt8 n → Value
  key : String → Value
  readBool : Value → Except Error Bool
  readU8 : Value → Except Error UInt8
  readOctets : (n : Nat) → Value → Except Error (Vector UInt8 n)
  readKey : Value → Except Error Identifier

/-- What is written is read back. -/
structure Format.Lawful (format : Format) : Prop where
  bool : ∀ value, format.readBool (format.bool value) = .ok value
  u8 : ∀ value, format.readU8 (format.u8 value) = .ok value
  octets : ∀ {n : Nat} (value : Vector UInt8 n),
    format.readOctets n (format.octets value) = .ok value
  key : ∀ name, format.readKey (format.key name) = .ok (.name name)

/-- How a format encodes structures. -/
inductive StructEncoding where
  | map
  | seq
  deriving DecidableEq

inductive Document (Value : Type) where
  | map (entries : List (Value × Value))
  | seq (items : List Value)

namespace Format

variable (format : Format)

def entries (fields : List (String × format.Value)) : List (format.Value × format.Value) :=
  fields.map fun field => (format.key field.1, field.2)

def encodeStruct (encoding : StructEncoding) (fields : List (String × format.Value)) :
    Document format.Value :=
  match encoding with
  | .map => .map (format.entries fields)
  | .seq => .seq (fields.map Prod.snd)

end Format

/-- `serde::de::Error`: an error of the format or one that a visitor raises. -/
inductive DeError (E : Type) where
  | format (e : E)
  | unknownField
  | invalidValue
  | duplicateField (name : String)
  | missingField (name : String)
  | invalidType
  | custom (message : String)
  deriving DecidableEq

/-- `?` on a result of the format. -/
def DeError.lift {E α : Type} : Except E α → Except (DeError E) α
  | .ok value => .ok value
  | .error e => .error (.format e)

@[simp] theorem DeError.ok_bind {E α β : Type} (value : α) (next : α → Except (DeError E) β) :
    ((.ok value : Except (DeError E) α) >>= next) = next value := rfl

@[simp] theorem DeError.error_bind {E α β : Type} (e : DeError E)
    (next : α → Except (DeError E) β) :
    ((.error e : Except (DeError E) α) >>= next) = .error e := rfl

/-- A sequence read a value exactly when its first part did and the rest did from there. -/
theorem DeError.bind_eq_ok_iff {E α β : Type} {run : Except (DeError E) α}
    {next : α → Except (DeError E) β} {value : β} :
    (run >>= next) = .ok value ↔ ∃ middle, run = .ok middle ∧ next middle = .ok value := by
  cases run with
  | error e =>
      constructor
      · intro same
        cases same
      · rintro ⟨middle, same, _⟩
        cases same
  | ok middle =>
      constructor
      · intro same
        exact ⟨middle, rfl, same⟩
      · rintro ⟨other, same, rest⟩
        cases same
        exact rest

end LoraRs.Lib
