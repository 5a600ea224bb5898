import Bacnet.Decode
import Bacnet.Text
import Bacnet.Value
import Mathlib.Algebra.Group.Nat.Defs

/-!
# Bacnet.AppData

Application-tagged data: `bacapp_decode_application_data` (`bacapp.c`) with the string
types of `bacstr.c`, and the client's `decode_data` (`lib.rs`) over it.

The C value is a tagged union. It is modelled with one field a member, since a member is
read only when the tag names it; the members that `decode_data` never reads (octet
strings, dates, times, lighting commands) are left out and only the lengths their
decoders return are kept.
-/

namespace Bacnet

open Bacnet.Lib

/-- `MAX_APDU`. -/
def maxApdu : Nat := 1476

/-- `MAX_BITSTRING_BYTES`. -/
abbrev maxBitstringBytes : Nat := 15

/-- `MAX_CHARACTER_STRING_BYTES`, and `MAX_OCTET_STRING_BYTES`. -/
def maxCharacterStringBytes : Nat := maxApdu - 6

/-- `CHARACTER_STRING_CAPACITY`: one octet is kept for the NUL. -/
def characterStringCapacity : Nat := maxCharacterStringBytes - 1

/-- `MAX_BACNET_APPLICATION_TAG`, which marks a value that was not decoded. -/
def maxBacnetApplicationTag : UInt8 := 16

/-! ### Strings (`bacstr.c`) -/

/-- `BACNET_BIT_STRING`. -/
structure BitString where
  bitsUsed : UInt8
  value : Vector UInt8 maxBitstringBytes

/-- `bitstring_init`. -/
def bitstringInit : BitString := ⟨0, Vector.replicate maxBitstringBytes 0⟩

/-- `bitstring_bit`. -/
def bitstringBit (bitString : BitString) (bitNumber : UInt8) : Bool :=
  if h : bitNumber.toNat / 8 < maxBitstringBytes then
    bitString.value[bitNumber.toNat / 8].toNat.testBit (bitNumber.toNat % 8)
  else false

/-- `BACNET_CHARACTER_STRING`: `value` holds the `length` octets, and the rest of the C
buffer is zero. -/
structure CharacterString where
  encoding : UInt8
  value : List UInt8

/-- `characterstring_init`: `none` when the text does not fit. -/
def characterstringInit (encoding : UInt8) (value : List UInt8) : Option CharacterString :=
  if value.length ≤ characterStringCapacity then some ⟨encoding, value⟩ else none

/-! ### Decoding one value -/

/-- `BACNET_APPLICATION_DATA_VALUE`. -/
structure ApplicationDataValue where
  tag : UInt8
  boolean : Bool
  unsignedInt : UInt64
  signedInt : Int32
  real : UInt32
  double : UInt64
  characterString : CharacterString
  bitString : BitString
  enumerated : UInt32
  objectId : UInt32 × UInt32

namespace ApplicationDataValue

/-- The zeroed structure. -/
def default : ApplicationDataValue :=
  ⟨0, false, 0, 0, 0, 0, ⟨0, []⟩, bitstringInit, 0, (0, 0)⟩

end ApplicationDataValue

/-- `byte_reverse_bits`. -/
def byteReverseBits (inByte : UInt8) : UInt8 :=
  UInt8.ofNat ((List.range 8).foldl
    (fun out i => if inByte.toNat.testBit i then out + 2 ^ (7 - i) else out) 0)

/-- `decode_bitstring`. -/
def decodeBitstring (apdu : Mem) (lenValue : Nat) : Nat × BitString :=
  if lenValue ≠ 0 then
    let bytesUsed := lenValue - 1
    if bytesUsed ≤ maxBitstringBytes then
      (1 + bytesUsed,
        { value := Vector.ofFn fun i =>
            if i.val < bytesUsed then byteReverseBits (apdu (1 + i.val)) else 0
          bitsUsed := UInt8.ofNat bytesUsed * 8 - (apdu 0 &&& 0x07) })
    else (0, bitstringInit)
  else (0, bitstringInit)

/-- `decode_character_string`. With a length of 0 the source passes `0 - 1` as the text's
length, which never fits. -/
def decodeCharacterString (apdu : Mem) (lenValue : Nat) (value : CharacterString) :
    Nat × CharacterString :=
  if lenValue ≤ maxApdu ∧ 1 ≤ lenValue then
    match characterstringInit (apdu 0) ((apdu.shift 1).slice (lenValue - 1)) with
    | some s => (lenValue, s)
    | none => (0, value)
  else (0, value)

/-- `decode_octet_string`: the length it returns. -/
def decodeOctetString (lenValue : Nat) : Int :=
  if lenValue ≤ maxApdu ∧ lenValue ≤ maxCharacterStringBytes then lenValue
  else bacnetStatusError

/-- `decode_real_safe`. -/
def decodeRealSafe (apdu : Mem) (lenValue : Nat) : Nat × UInt32 :=
  if lenValue ≠ 4 then (lenValue, 0) else (4, UInt32.ofNat (apdu.be 4))

/-- `decode_double_safe`. -/
def decodeDoubleSafe (apdu : Mem) (lenValue : Nat) : Nat × UInt64 :=
  if lenValue ≠ 8 then (lenValue, 0) else (8, UInt64.ofNat (apdu.be 8))

/-- One optional member of `lighting_command_decode`: where decoding goes on, and the
length the last decoder returned. `consumes` says whether the source counts the value's
own octets (it does so for the target level only). -/
def lightingMember (apdu : Mem) (tagNumber : UInt8) (consumes : Bool)
    (decode : Mem → Nat → Nat) (pos len : Nat) : Nat × Nat :=
  if decodeIsContextTag (apdu.shift pos) tagNumber then
    let (n, tag) := decodeTagNumberAndValue (apdu.shift pos)
    let len := decode (apdu.shift (pos + n)) tag.lenValue
    (if consumes then pos + n + len else pos + n, len)
  else (pos, len)

/-- `lighting_command_decode`: the length it returns, which is that of the last member
it decoded. -/
def lightingCommandDecode (apdu : Mem) (apduMaxLen : Nat) : Int :=
  if apduMaxLen = 0 then 0
  else if ¬ decodeIsContextTag apdu 0 then bacnetStatusError
  else
    let (pos, tag) := decodeTagNumberAndValue apdu
    let (len, _) := decodeEnumerated (apdu.shift pos) tag.lenValue 0
    let real := fun (_ : Mem) (_ : Nat) => 4
    let unsigned := fun (apdu : Mem) (lenValue : Nat) => (decodeUnsigned apdu lenValue 0).1
    let (pos, len) := lightingMember apdu 1 true real (pos + len) len
    let (pos, len) := lightingMember apdu 2 false real pos len
    let (pos, len) := lightingMember apdu 3 false real pos len
    let (pos, len) := lightingMember apdu 4 false unsigned pos len
    -- the source tests for tag 4 again where the priority would be
    let (_, len) := lightingMember apdu 4 false unsigned pos len
    len

/-- `bacapp_decode_data_len`. -/
def bacappDecodeDataLen (tagDataType : UInt8) (lenValueType : Nat) : Nat :=
  if 2 ≤ tagDataType ∧ tagDataType ≤ 12 then lenValueType else 0

/-- The switch of `bacapp_decode_data`: the length decoded and the member stored. -/
def bacappDecodeMember (apdu : Mem) (tagDataType : UInt8) (lenValueType : Nat)
    (value : ApplicationDataValue) : Int × ApplicationDataValue :=
  match tagDataType.toNat with
  | 0 => (0, value)
  | 1 => (0, { value with boolean := decide (lenValueType ≠ 0) })
  | 2 =>
    let (len, n) := decodeUnsigned apdu lenValueType value.unsignedInt.toNat
    (len, { value with unsignedInt := UInt64.ofNat n })
  | 3 =>
    let (len, n) := decodeSigned apdu lenValueType value.signedInt
    (len, { value with signedInt := n })
  | 4 =>
    let (len, bits) := decodeRealSafe apdu lenValueType
    (len, { value with real := bits })
  | 5 =>
    let (len, bits) := decodeDoubleSafe apdu lenValueType
    (len, { value with double := bits })
  | 6 => (decodeOctetString lenValueType, value)
  | 7 =>
    let (len, s) := decodeCharacterString apdu lenValueType value.characterString
    (len, { value with characterString := s })
  | 8 =>
    let (len, s) := decodeBitstring apdu lenValueType
    (len, { value with bitString := s })
  | 9 =>
    let (len, n) := decodeEnumerated apdu lenValueType value.enumerated
    (len, { value with enumerated := n })
  -- `decode_date_safe` and `decode_bacnet_time_safe` return the length they are given
  | 10 => (lenValueType, value)
  | 11 => (lenValueType, value)
  | 12 =>
    match bacnetObjectIdDecode apdu lenValueType with
    | some id => (4, { value with objectId := id })
    | none => (0, { value with objectId := (0xFFFF, 0) })
  | 33 => (lightingCommandDecode apdu lenValueType, value)
  | _ => (0, value)

/-- `bacapp_decode_data`: a value of no octets is not decoded, unless it is null, a
boolean or an octet string. -/
def bacappDecodeData (apdu : Mem) (tagDataType : UInt8) (lenValueType : Nat)
    (value : ApplicationDataValue) : Int × ApplicationDataValue :=
  let (len, value) := bacappDecodeMember apdu tagDataType lenValueType value
  if len = 0 ∧ tagDataType ≠ 0 ∧ tagDataType ≠ 1 ∧ tagDataType ≠ 6 then
    (len, { value with tag := maxBacnetApplicationTag })
  else (len, value)

/-- `bacapp_decode_application_data`. -/
def bacappDecodeApplicationData (apdu : Mem) (apduLenMax : Nat) (value : ApplicationDataValue) :
    Int × ApplicationDataValue :=
  if isContextSpecific (apdu 0) then (0, value)
  else
    match bacnetTagNumberAndValueDecode apdu apduLenMax with
    | none => (0, value)
    | some (len, tag) =>
      let value := { value with tag := tag.number }
      if len ≤ apduLenMax then
        if bacappDecodeDataLen tag.number tag.lenValue ≤ apduLenMax - len then
          let (decodeLen, value) := bacappDecodeData (apdu.shift len) tag.number tag.lenValue value
          if value.tag ≠ maxBacnetApplicationTag then (len + decodeLen, value)
          else (bacnetStatusError, value)
        else (bacnetStatusError, value)
      else (bacnetStatusError, value)

/-! ### The client's decoder (`lib.rs`) -/

/-- `BACNET_READ_PROPERTY_DATA`, without the error fields no client code reads. -/
structure ReadPropertyData where
  objectType : UInt32
  objectInstance : UInt32
  objectProperty : UInt32
  arrayIndex : UInt32
  applicationData : Mem
  applicationDataLen : Nat

/-- The name `decode_data` gives an enumerated value, from the object type and property
that the reply echoes. -/
def enumName (objectType objectProperty enumVal : UInt32) : Option String :=
  -- PROP_UNITS
  if objectProperty = 117 then
    if enumVal < 256 then some (bactextEngineeringUnitName enumVal) else none
  -- PROP_OBJECT_TYPE, MAX_ASHRAE_OBJECT_TYPE
  else if objectProperty = 79 then
    if enumVal < 60 then some (bactextObjectTypeName enumVal) else none
  -- PROP_PRESENT_VALUE, PROP_RELINQUISH_DEFAULT, OBJECT_PROPRIETARY_MIN
  else if objectProperty = 85 ∨ objectProperty = 104 then
    if objectType < 128 then some (bactextBinaryPresentValueName enumVal) else none
  else none

/-- `decode_data`. -/
def decodeData (data : ReadPropertyData) : Result BACnetValue :=
  let (len, value) :=
    bacappDecodeApplicationData data.applicationData data.applicationDataLen
      ApplicationDataValue.default
  if len = bacnetStatusError then .error .decodingError
  else
    match value.tag.toNat with
    | 0 => .ok .null
    | 1 => .ok (.bool value.boolean)
    | 3 => .ok (.int value.signedInt)
    | 2 => .ok (.uint value.unsignedInt)
    | 4 => .ok (.real value.real)
    | 5 => .ok (.double value.double)
    | 7 => .ok (.string (cstr value.characterString.value))
    | 8 =>
      .ok (.bitString ((List.range value.bitString.bitsUsed.toNat).map fun i =>
        bitstringBit value.bitString (UInt8.ofNat i)))
    | 9 =>
      .ok (.enum value.enumerated
        (enumName data.objectType data.objectProperty value.enumerated))
    | 12 => .ok (.objectId value.objectId.1 value.objectId.2)
    | _ =>
      .error (.unhandledTypeTag (bactextApplicationTagName value.tag.toUInt32) value.tag)

end Bacnet
