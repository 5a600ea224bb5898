import Mathlib.Data.List.Basic

/-!
# Bacnet.Value

What a read returns: `BACnetValue` (`value.rs`) or `Error` (`lib.rs`), and the
conversion of C strings to Rust ones.

`f32` and `f64` values are their bit patterns.
-/

namespace Bacnet

inductive BACnetValue where
  | null
  | bool (b : Bool)
  | uint (n : UInt64)
  | int (n : Int32)
  | real (bits : UInt32)
  | double (bits : UInt64)
  | string (s : String)
  | bytes (octets : List UInt8)
  | bitString (bits : List Bool)
  /-- Enumerated values also have string representations. -/
  | enum (n : UInt32) (name : Option String)
  | objectId (objectType objectInstance : UInt32)
  | array (elements : List BACnetValue)

inductive BACnetErr where
  | rejected (code : UInt8)
  | aborted (text : String) (code : UInt8)
  | error (classText : String) (errorClass : UInt32) (text : String) (code : UInt32)
  deriving DecidableEq

inductive Error where
  | cannotTurnValueIntoString (value : BACnetValue)
  | failedToDecodeData
  | unhandledTypeTag (tagName : String) (valueTag : UInt8)
  | noValueWasExtracted
  | notConnectedToDevice (deviceId : UInt32)
  | failedToBindToDevice
  | tsmTimeout
  | apduTimeout
  | decodingError
  | bacnetError (error : BACnetErr)

/-- `Result<A>`. -/
abbrev Result (α : Type) := Except Error α

/-! ### C strings -/

/-- A UTF-8 continuation octet. -/
def isContinuation (b : UInt8) : Bool := b &&& 0xC0 == 0x80

/-- The second octet a three octet sequence may have. -/
def threeOctetSecond (b b₁ : UInt8) : Bool :=
  if b = 0xE0 then decide (0xA0 ≤ b₁ ∧ b₁ ≤ 0xBF)
  else if b = 0xED then decide (0x80 ≤ b₁ ∧ b₁ ≤ 0x9F)
  else decide (0x80 ≤ b₁ ∧ b₁ ≤ 0xBF)

/-- The second octet a four octet sequence may have. -/
def fourOctetSecond (b b₁ : UInt8) : Bool :=
  if b = 0xF0 then decide (0x90 ≤ b₁ ∧ b₁ ≤ 0xBF)
  else if b = 0xF4 then decide (0x80 ≤ b₁ ∧ b₁ ≤ 0x8F)
  else decide (0x80 ≤ b₁ ∧ b₁ ≤ 0xBF)

/-- One character of a lossy conversion: the octet `b`, the octets after it, and how
many of those the character (or the malformed sequence it stands for) takes up. An
octet past the end reads as 0. -/
def lossyChar (b : UInt8) (rest : List UInt8) : Char × Nat :=
  let b₁ := rest.getD 0 0
  let b₂ := rest.getD 1 0
  let b₃ := rest.getD 2 0
  let replacement := Char.ofNat 0xFFFD
  if b < 0x80 then (Char.ofNat b.toNat, 0)
  else if 0xC2 ≤ b ∧ b ≤ 0xDF then
    if isContinuation b₁ then
      (Char.ofNat ((b.toNat % 32) * 64 + b₁.toNat % 64), 1)
    else (replacement, 0)
  else if 0xE0 ≤ b ∧ b ≤ 0xEF then
    if ¬ threeOctetSecond b b₁ then (replacement, 0)
    else if ¬ isContinuation b₂ then (replacement, 1)
    else (Char.ofNat ((b.toNat % 16) * 4096 + (b₁.toNat % 64) * 64 + b₂.toNat % 64), 2)
  else if 0xF0 ≤ b ∧ b ≤ 0xF4 then
    if ¬ fourOctetSecond b b₁ then (replacement, 0)
    else if ¬ isContinuation b₂ then (replacement, 1)
    else if ¬ isContinuation b₃ then (replacement, 2)
    else
      (Char.ofNat ((b.toNat % 8) * 262144 + (b₁.toNat % 64) * 4096 + (b₂.toNat % 64) * 64
        + b₃.toNat % 64), 3)
  else (replacement, 0)

/-- `String::from_utf8_lossy`, on at most `fuel` characters. -/
def lossyChars : Nat → List UInt8 → List Char
  | 0, _ => []
  | _ + 1, [] => []
  | fuel + 1, b :: rest =>
    (lossyChar b rest).1 :: lossyChars fuel (rest.drop (lossyChar b rest).2)

/-- `cstr`: the octets before the first NUL, converted. A character takes up at least
one octet, so the fuel does not run out. -/
def cstr (octets : List UInt8) : String :=
  String.ofList (lossyChars octets.length (octets.takeWhile (· ≠ 0)))

end Bacnet
