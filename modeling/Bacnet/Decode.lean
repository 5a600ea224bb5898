import Bacnet.Lib.Octets
import Mathlib.Algebra.Group.Int.Defs

/-!
# Bacnet.Decode

The primitive decoders of `bacint.c` and `bacdcode.c`. A decoder takes the memory at
its `apdu` pointer and returns the octets it consumed together with what it stored; an
out parameter it may leave alone is also an argument.

Two tag decoders exist in the source. `decodeTagNumberAndValue` trusts the message and
reads on whatever its length; `bacnetTagNumberAndValueDecode` checks the length.
-/

namespace Bacnet

open Bacnet.Lib

def bacnetStatusError : Int := -1

def bacnetArrayAll : UInt32 := 0xFFFFFFFF

/-- `BACNET_MAX_INSTANCE`, the low `BACNET_INSTANCE_BITS` bits. -/
def bacnetMaxInstance : Nat := 0x3FFFFF

def bacnetInstanceBits : Nat := 22

def bacnetMaxObject : Nat := 0x3FF

/-! ### Numbers (`bacint.c`) -/

def decodeUnsigned16 (apdu : Mem) : Nat := apdu.be 2

def decodeUnsigned32 (apdu : Mem) : Nat := apdu.be 4

/-- `decode_signed8` to `decode_signed32`: `n` octets, sign extended from bit 7 of the
first. -/
def decodeSignedOctets (apdu : Mem) (n : Nat) : Int :=
  if apdu 0 &&& 0x80 ≠ 0 then (apdu.be n : Int) - 256 ^ n else apdu.be n

/-! ### Tags -/

def isExtendedTagNumber (x : UInt8) : Bool := x &&& 0xF0 == 0xF0

def isExtendedValue (x : UInt8) : Bool := x &&& 0x07 == 5

def isContextSpecific (x : UInt8) : Bool := x &&& 0x08 == 0x08

def isOpeningTag (x : UInt8) : Bool := x &&& 0x07 == 6

def isClosingTag (x : UInt8) : Bool := x &&& 0x07 == 7

/-- What a tag decoder stores. -/
structure Tag where
  number : UInt8
  lenValue : Nat

def decodeTagNumber (apdu : Mem) : Nat × UInt8 :=
  if isExtendedTagNumber (apdu 0) then (2, apdu 1) else (1, apdu 0 >>> 4)

def decodeTagNumberAndValue (apdu : Mem) : Nat × Tag :=
  let (len, number) := decodeTagNumber apdu
  if isExtendedValue (apdu 0) then
    if apdu len = 255 then (len + 5, ⟨number, decodeUnsigned32 (apdu.shift (len + 1))⟩)
    else if apdu len = 254 then (len + 3, ⟨number, decodeUnsigned16 (apdu.shift (len + 1))⟩)
    else (len + 1, ⟨number, (apdu len).toNat⟩)
  else if isOpeningTag (apdu 0) then (len, ⟨number, 0⟩)
  else if isClosingTag (apdu 0) then (len, ⟨number, 0⟩)
  else (len, ⟨number, (apdu 0 &&& 0x07).toNat⟩)

/-- `bacnet_tag_number_decode`: `none` when nothing is left to decode. -/
def bacnetTagNumberDecode (apdu : Mem) (apduLenMax : Nat) : Option (Nat × UInt8) :=
  if apduLenMax ≥ 1 then
    if isExtendedTagNumber (apdu 0) ∧ apduLenMax ≥ 2 then some (2, apdu 1)
    else some (1, apdu 0 >>> 4)
  else none

/-- `bacnet_tag_number_and_value_decode`: `none` when the source returns 0. -/
def bacnetTagNumberAndValueDecode (apdu : Mem) (apduLenMax : Nat) : Option (Nat × Tag) :=
  match bacnetTagNumberDecode apdu apduLenMax with
  | none => none
  | some (len, number) =>
    let rest := apduLenMax - len
    if isExtendedValue (apdu 0) then
      if apdu len = 255 ∧ rest ≥ 5 then
        some (len + 5, ⟨number, decodeUnsigned32 (apdu.shift (len + 1))⟩)
      else if apdu len = 254 ∧ rest ≥ 3 then
        some (len + 3, ⟨number, decodeUnsigned16 (apdu.shift (len + 1))⟩)
      else if apdu len < 254 ∧ rest ≥ 1 then some (len + 1, ⟨number, (apdu len).toNat⟩)
      -- packet is truncated
      else none
    else if isOpeningTag (apdu 0) then some (len, ⟨number, 0⟩)
    else if isClosingTag (apdu 0) then some (len, ⟨number, 0⟩)
    else some (len, ⟨number, (apdu 0 &&& 0x07).toNat⟩)

def decodeIsContextTag (apdu : Mem) (tagNumber : UInt8) : Bool :=
  isContextSpecific (apdu 0) && (decodeTagNumber apdu).2 == tagNumber

def decodeIsOpeningTagNumber (apdu : Mem) (tagNumber : UInt8) : Bool :=
  isOpeningTag (apdu 0) && (decodeTagNumber apdu).2 == tagNumber

/-! ### Primitive values -/

/-- `bacnet_unsigned_decode`. The length is checked against `apduLenMax` only; a length
of 0, or one no case of the switch covers, stores 0 and consumes nothing. -/
def bacnetUnsignedDecode (apdu : Mem) (apduLenMax lenValue value : Nat) : Nat × Nat :=
  if lenValue ≤ apduLenMax then
    if 1 ≤ lenValue ∧ lenValue ≤ 8 then (lenValue, apdu.be lenValue) else (0, 0)
  else (0, value)

def decodeUnsigned (apdu : Mem) (lenValue value : Nat) : Nat × Nat :=
  bacnetUnsignedDecode apdu 8 lenValue value

/-- `bacnet_enumerated_decode`: the low 32 bits, stored only when something was
consumed. -/
def bacnetEnumeratedDecode (apdu : Mem) (apduLenMax lenValue : Nat) (value : UInt32) :
    Nat × UInt32 :=
  let (len, unsignedValue) := bacnetUnsignedDecode apdu apduLenMax lenValue 0
  (len, if len > 0 then UInt32.ofNat unsignedValue else value)

def decodeEnumerated (apdu : Mem) (lenValue : Nat) (value : UInt32) : Nat × UInt32 :=
  bacnetEnumeratedDecode apdu 4 lenValue value

def bacnetSignedDecode (apdu : Mem) (apduLenMax lenValue : Nat) (value : Int32) : Nat × Int32 :=
  if lenValue ≤ apduLenMax then
    if 1 ≤ lenValue ∧ lenValue ≤ 4 then
      (lenValue, Int32.ofInt (decodeSignedOctets apdu lenValue))
    else (0, 0)
  else (0, value)

def decodeSigned (apdu : Mem) (lenValue : Nat) (value : Int32) : Nat × Int32 :=
  bacnetSignedDecode apdu 4 lenValue value

/-- `decode_object_id`, which always consumes 4 octets. -/
def decodeObjectId (apdu : Mem) : UInt32 × UInt32 :=
  let value := decodeUnsigned32 apdu
  (UInt32.ofNat ((value >>> bacnetInstanceBits) &&& bacnetMaxObject),
    UInt32.ofNat (value &&& bacnetMaxInstance))

/-- `bacnet_object_id_decode`: `none` when the source returns 0. -/
def bacnetObjectIdDecode (apdu : Mem) (lenValue : Nat) : Option (UInt32 × UInt32) :=
  if lenValue ≠ 4 then none else some (decodeObjectId apdu)

end Bacnet
