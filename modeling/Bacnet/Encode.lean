import Bacnet.ReadProperty

/-!
# Bacnet.Encode

The server's side of ReadProperty: the encoders of application data (`bacdcode.c`,
`bacreal.c`, `bacapp.c`) and of the acknowledgement (`rp.c`). The client does not use
them; they say what a device built on the same stack answers.

An encoder returns the octets it writes. Where the source writes the contents first and
leaves one or two octets for the tag in front, that is the length the tag has.
-/

namespace Bacnet

open Bacnet.Lib

/-! ### Opening and closing tags -/

def encodeOpeningTag (tagNumber : UInt8) : List UInt8 :=
  if tagNumber ≤ 14 then [(0x08 : UInt8) ||| (tagNumber <<< 4) ||| 6]
  else [0x08 ||| 0xF0 ||| 6, tagNumber]

def encodeClosingTag (tagNumber : UInt8) : List UInt8 :=
  if tagNumber ≤ 14 then [(0x08 : UInt8) ||| (tagNumber <<< 4) ||| 7]
  else [0x08 ||| 0xF0 ||| 7, tagNumber]

/-! ### Application data -/

def encodeApplicationBoolean (booleanValue : Bool) : List UInt8 :=
  let lenValue := if booleanValue then 1 else 0
  encodeTag 1 false lenValue

def encodeApplicationUnsigned (value : UInt64) : List UInt8 :=
  encodeTag 2 false (bacnetUnsignedLength value.toNat) ++ encodeBacnetUnsigned value.toNat

/-- `encode_signed8` to `encode_signed32`: the low `n` octets. -/
def encodeSignedOctets (n : Nat) (value : Int32) : List UInt8 := toBe n value.toUInt32.toNat

def encodeBacnetSigned (value : Int32) : List UInt8 :=
  let v := value.toInt
  if v ≥ -128 ∧ v < 128 then encodeSignedOctets 1 value
  else if v ≥ -32768 ∧ v < 32768 then encodeSignedOctets 2 value
  else if v > -8388608 ∧ v < 8388608 then encodeSignedOctets 3 value
  else encodeSignedOctets 4 value

def encodeApplicationSigned (value : Int32) : List UInt8 :=
  encodeTag 3 false (encodeBacnetSigned value).length ++ encodeBacnetSigned value

/-- `encode_bacnet_real`, on the bit pattern. -/
def encodeBacnetReal (value : UInt32) : List UInt8 := toBe 4 value.toNat

def encodeApplicationReal (value : UInt32) : List UInt8 :=
  encodeTag 4 false (encodeBacnetReal value).length ++ encodeBacnetReal value

/-- `encode_bacnet_double`, on the bit pattern. -/
def encodeBacnetDouble (value : UInt64) : List UInt8 := toBe 8 value.toNat

def encodeApplicationDouble (value : UInt64) : List UInt8 :=
  encodeTag 5 false (encodeBacnetDouble value).length ++ encodeBacnetDouble value

/-- `encode_bacnet_character_string_safe`. -/
def encodeBacnetCharacterStringSafe (maxApdu : Nat) (encoding : UInt8) (pString : List UInt8) :
    List UInt8 :=
  if 1 + pString.length ≤ maxApdu then encoding :: pString else []

def encodeBacnetCharacterString (charString : CharacterString) : List UInt8 :=
  encodeBacnetCharacterStringSafe maxApdu charString.encoding charString.value

/-- `encode_application_character_string`: nothing when the string does not fit. -/
def encodeApplicationCharacterString (charString : CharacterString) : List UInt8 :=
  let stringLen := charString.value.length + 1
  let tag := encodeTag 7 false stringLen
  if tag.length + stringLen < maxApdu then tag ++ encodeBacnetCharacterString charString else []

/-- `bitstring_bytes_used`. -/
def bitstringBytesUsed (bitString : BitString) : Nat :=
  if bitString.bitsUsed ≠ 0 then (bitString.bitsUsed - 1).toNat / 8 + 1 else 0

/-- `bitstring_octet`. -/
def bitstringOctet (bitString : BitString) (octetIndex : Nat) : UInt8 :=
  if h : octetIndex < maxBitstringBytes then bitString.value[octetIndex] else 0

/-- `encode_bitstring`. -/
def encodeBitstring (bitString : BitString) : List UInt8 :=
  -- if the bit string is empty, then the first octet shall be zero
  if bitString.bitsUsed = 0 then [0]
  else
    let usedBytes := bitstringBytesUsed bitString
    let remainingUsedBits := bitString.bitsUsed - UInt8.ofNat ((usedBytes - 1) * 8)
    (8 - remainingUsedBits) ::
      (List.range usedBytes).map fun i => byteReverseBits (bitstringOctet bitString i)

def encodeApplicationBitstring (bitString : BitString) : List UInt8 :=
  encodeTag 8 false (1 + bitstringBytesUsed bitString) ++ encodeBitstring bitString

def encodeBacnetEnumerated (value : UInt32) : List UInt8 := encodeBacnetUnsigned value.toNat

def encodeApplicationEnumerated (value : UInt32) : List UInt8 :=
  encodeTag 9 false (encodeBacnetEnumerated value).length ++ encodeBacnetEnumerated value

def encodeApplicationObjectId (objectType inst : UInt32) : List UInt8 :=
  encodeTag 12 false 4 ++ encodeBacnetObjectId objectType inst

/-- `bacapp_encode_application_data`: `none` for the types whose members the modelled
structure leaves out. -/
def bacappEncodeApplicationData (value : ApplicationDataValue) : Option (List UInt8) :=
  match value.tag.toNat with
  | 0 => some [value.tag]
  | 1 => some (encodeApplicationBoolean value.boolean)
  | 2 => some (encodeApplicationUnsigned value.unsignedInt)
  | 3 => some (encodeApplicationSigned value.signedInt)
  | 4 => some (encodeApplicationReal value.real)
  | 5 => some (encodeApplicationDouble value.double)
  | 6 => none
  | 7 => some (encodeApplicationCharacterString value.characterString)
  | 8 => some (encodeApplicationBitstring value.bitString)
  | 9 => some (encodeApplicationEnumerated value.enumerated)
  | 10 => none
  | 11 => none
  | 12 => some (encodeApplicationObjectId value.objectId.1 value.objectId.2)
  -- BACNET_APPLICATION_TAG_DEVICE_OBJECT_PROPERTY_REFERENCE
  | 23 => none
  -- BACNET_APPLICATION_TAG_LIGHTING_COMMAND
  | 33 => none
  | _ => some []

/-! ### The acknowledgement -/

/-- `rp_ack_encode_apdu_init`. -/
def rpAckEncodeApduInit (invokeId : UInt8) (rpdata : ReadPropertyData) : List UInt8 :=
  -- PDU_TYPE_COMPLEX_ACK
  [0x30, invokeId, serviceConfirmedReadProperty] ++
  encodeContextObjectId 0 rpdata.objectType rpdata.objectInstance ++
  encodeContextEnumerated 1 rpdata.objectProperty.toNat ++
  -- context 2 array index is optional
  (if rpdata.arrayIndex ≠ bacnetArrayAll then
    encodeContextUnsigned 2 rpdata.arrayIndex.toNat else []) ++
  encodeOpeningTag 3

/-- `rp_ack_encode_apdu`. -/
def rpAckEncodeApdu (invokeId : UInt8) (rpdata : ReadPropertyData) : List UInt8 :=
  let init := rpAckEncodeApduInit invokeId rpdata
  -- double check maximum possible
  let imax := min rpdata.applicationDataLen (maxApdu - init.length - 2)
  init ++ rpdata.applicationData.slice imax ++ encodeClosingTag 3

end Bacnet
