import Bacnet.AppData

/-!
# Bacnet.ReadProperty

The ReadProperty service (`rp.c`): the request APDU and the decoder of the
acknowledgement.
-/

namespace Bacnet

open Bacnet.Lib

/-! ### Encoders (`bacdcode.c`) -/

/-- `encode_max_segs_max_apdu`. -/
def encodeMaxSegsMaxApdu (maxSegs maxApdu : Nat) : UInt8 :=
  let segs : UInt8 :=
    if maxSegs < 2 then 0
    else if maxSegs < 4 then 0x10
    else if maxSegs < 8 then 0x20
    else if maxSegs < 16 then 0x30
    else if maxSegs < 32 then 0x40
    else if maxSegs < 64 then 0x50
    else if maxSegs = 64 then 0x60
    else 0x70
  let apdu : UInt8 :=
    if maxApdu ≤ 50 then 0x00
    else if maxApdu ≤ 128 then 0x01
    else if maxApdu ≤ 206 then 0x02
    else if maxApdu ≤ 480 then 0x03
    else if maxApdu ≤ 1024 then 0x04
    else if maxApdu ≤ 1476 then 0x05
    else 0x00
  segs ||| apdu

/-- `encode_tag`. -/
def encodeTag (tagNumber : UInt8) (contextSpecific : Bool) (lenValueType : Nat) : List UInt8 :=
  let cls : UInt8 := if contextSpecific then 0x08 else 0
  let number : UInt8 := if tagNumber ≤ 14 then tagNumber <<< 4 else 0xF0
  let extended : List UInt8 := if tagNumber ≤ 14 then [] else [tagNumber]
  if lenValueType ≤ 4 then
    (cls ||| number ||| UInt8.ofNat lenValueType) :: extended
  else
    (cls ||| number ||| 5) :: extended ++
      if lenValueType ≤ 253 then [UInt8.ofNat lenValueType]
      else if lenValueType ≤ 65535 then 254 :: toBe 2 lenValueType
      else 255 :: toBe 4 lenValueType

theorem length_encodeTag_le {tagNumber : UInt8} (ht : tagNumber ≤ 14) (cs : Bool) {n : Nat}
    (hn : n ≤ 4) : (encodeTag tagNumber cs n).length = 1 := by
  simp [encodeTag, ht, hn]

/-- `bacnet_unsigned_length`. -/
def bacnetUnsignedLength (value : Nat) : Nat :=
  if value ≤ 0xFF then 1
  else if value ≤ 0xFFFF then 2
  else if value ≤ 0xFFFFFF then 3
  else if value ≤ 0xFFFFFFFF then 4
  else if value ≤ 0xFFFFFFFFFF then 5
  else if value ≤ 0xFFFFFFFFFFFF then 6
  else if value ≤ 0xFFFFFFFFFFFFFF then 7
  else 8

def encodeBacnetUnsigned (value : Nat) : List UInt8 := toBe (bacnetUnsignedLength value) value

def encodeContextUnsigned (tagNumber : UInt8) (value : Nat) : List UInt8 :=
  encodeTag tagNumber true (bacnetUnsignedLength value) ++ encodeBacnetUnsigned value

/-- `encode_context_enumerated`, which works out the length itself. -/
def encodeContextEnumerated (tagNumber : UInt8) (value : Nat) : List UInt8 :=
  let len := if value < 0x100 then 1 else if value < 0x10000 then 2
    else if value < 0x1000000 then 3 else 4
  encodeTag tagNumber true len ++ encodeBacnetUnsigned value

def encodeBacnetObjectId (objectType inst : UInt32) : List UInt8 :=
  toBe 4 (((objectType &&& 0x3FF) <<< 22) ||| (inst &&& 0x3FFFFF)).toNat

def encodeContextObjectId (tagNumber : UInt8) (objectType inst : UInt32) : List UInt8 :=
  encodeTag tagNumber true 4 ++ encodeBacnetObjectId objectType inst

/-! ### The request -/

/-- `SERVICE_CONFIRMED_READ_PROPERTY`. -/
def serviceConfirmedReadProperty : UInt8 := 12

/-- The arguments of `read_prop_at`. -/
structure ReadArgs where
  objectType : UInt32
  objectInstance : UInt32
  propertyId : UInt32
  index : UInt32
  deriving DecidableEq

/-- `rp_encode_apdu`. Out of range fields are left out of the message. -/
def rpEncodeApdu (invokeId : UInt8) (args : ReadArgs) : List UInt8 :=
  [0x00, encodeMaxSegsMaxApdu 0 maxApdu, invokeId, serviceConfirmedReadProperty] ++
  (if args.objectType.toNat ≤ bacnetMaxObject then
    encodeContextObjectId 0 args.objectType args.objectInstance else []) ++
  -- MAX_BACNET_PROPERTY_ID
  (if args.propertyId ≤ 4194303 then encodeContextEnumerated 1 args.propertyId.toNat else []) ++
  (if args.index ≠ bacnetArrayAll then encodeContextUnsigned 2 args.index.toNat else [])

/-! ### The acknowledgement -/

/-- `rp_ack_decode_service_request`: `none` when the source returns -1. -/
def rpAckDecodeServiceRequest (apdu : Mem) (apduLen : Nat) : Option ReadPropertyData :=
  if apduLen < 8 then none
  -- Tag 0: Object ID
  else if ¬ decodeIsContextTag apdu 0 then none
  else
    let (objectType, objectInstance) := decodeObjectId (apdu.shift 1)
    let len := 5
    -- Tag 1: Property ID
    let (n, tag) := decodeTagNumberAndValue (apdu.shift len)
    let len := len + n
    if tag.number ≠ 1 then none
    else if len ≥ apduLen then none
    else
      let (n, objectProperty) := decodeEnumerated (apdu.shift len) tag.lenValue 0
      let len := len + n
      -- Tag 2: Optional Array Index
      if len ≥ apduLen then none
      else
        let (tagLen, tag) := decodeTagNumberAndValue (apdu.shift len)
        let (len, arrayIndex) :=
          if tag.number = 2 then
            let (n, v) := decodeUnsigned (apdu.shift (len + tagLen)) tag.lenValue 0
            (len + tagLen + n, UInt32.ofNat v)
          else (len, bacnetArrayAll)
        -- Tag 3: opening context tag
        if len ≥ apduLen then none
        else if decodeIsOpeningTagNumber (apdu.shift len) 3 then
          let len := len + 1
          some
            { objectType, objectInstance, objectProperty, arrayIndex
              applicationData := apdu.shift len
              applicationDataLen := if len < apduLen then apduLen - len - 1 else 0 }
        else none

/-- What the acknowledgement handler stores for a reply: the decoded value, or why there
is none. -/
def decodeReply (apdu : Mem) (apduLen : Nat) : Result BACnetValue :=
  match rpAckDecodeServiceRequest apdu apduLen with
  | some data => decodeData data
  | none => .error .failedToDecodeData

/-- The stack never reports `NoValueWasExtracted` itself: a decoded reply is a value or a
decoding error. -/
theorem decodeData_error {data : ReadPropertyData} {e : Error} (h : decodeData data = .error e) :
    e = .decodingError ∨ ∃ name tag, e = .unhandledTypeTag name tag := by
  unfold decodeData at h
  split at h
  rename_i len value heq
  split at h
  · exact Or.inl (Except.error.inj h).symm
  · split at h
    all_goals cases h
    exact Or.inr ⟨_, _, rfl⟩

theorem decodeReply_error {apdu : Mem} {n : Nat} {e : Error}
    (h : decodeReply apdu n = .error e) :
    e = .failedToDecodeData ∨ e = .decodingError ∨ ∃ name tag, e = .unhandledTypeTag name tag := by
  unfold decodeReply at h
  split at h
  · exact Or.inr (decodeData_error h)
  · exact Or.inl (Except.error.inj h).symm

end Bacnet
