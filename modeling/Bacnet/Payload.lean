import Bacnet.ReadProperty
import Bacnet.Tags

/-!
# Bacnet.Payload

`decode_data` on the payload of an acknowledgement: the octets between the opening and the
closing tag.

The result depends on the tag the payload starts with and on the octets behind it; there
is one equation for each type. From these, what `decode_data` makes of a payload that
starts with the encoding of a value.
-/

namespace Bacnet

open Bacnet.Lib

/-- The octets between the opening and the closing tag. -/
def ReadPropertyData.payload (data : ReadPropertyData) : List UInt8 :=
  data.applicationData.slice data.applicationDataLen

/-- An acknowledgement of one property with the given payload. -/
def ackWith (payload : List UInt8) : ReadPropertyData where
  objectType := 2
  objectInstance := 1
  objectProperty := 85
  arrayIndex := bacnetArrayAll
  applicationData := Mem.overlay payload fun _ => 0
  applicationDataLen := payload.length

theorem payload_ackWith (payload : List UInt8) : (ackWith payload).payload = payload :=
  (Mem.holds_overlay payload _).slice_eq

/-- What `decode_data` makes of a decoded value. -/
def readValue (data : ReadPropertyData) (value : ApplicationDataValue) : Result BACnetValue :=
  match value.tag.toNat with
  | 0 => .ok .null
  | 1 => .ok (.bool value.boolean)
  | 3 => .ok (.int value.signedInt)
  | 2 => .ok (.uint value.unsignedInt)
  | 4 => .ok (.real value.real)
  | 5 => .ok (.double value.double)
  | 7 => .ok (.string (cstr value.characterString.value))
  | 8 =>
    .ok (.bitString ((List.range value.bitString.bitsUsed.toNat).map fun i =>
      bitstringBit value.bitString (UInt8.ofNat i)))
  | 9 =>
    .ok (.enum value.enumerated (enumName data.objectType data.objectProperty value.enumerated))
  | 12 => .ok (.objectId value.objectId.1 value.objectId.2)
  | _ => .error (.unhandledTypeTag (bactextApplicationTagName value.tag.toUInt32) value.tag)

theorem decodeData_eq (data : ReadPropertyData) :
    decodeData data =
      if (bacappDecodeApplicationData data.applicationData data.applicationDataLen
          ApplicationDataValue.default).1 = bacnetStatusError then .error .decodingError
      else readValue data (bacappDecodeApplicationData data.applicationData
        data.applicationDataLen ApplicationDataValue.default).2 :=
  rfl

/-- The payload starts with `len` octets that are read as a tag of the application class. -/
structure StartsWith (data : ReadPropertyData) (len : Nat) (number : UInt8) (length : Nat) :
    Prop where
  application : isContextSpecific (data.applicationData 0) = false
  decoded : bacnetTagNumberAndValueDecode data.applicationData data.applicationDataLen =
    some (len, ⟨number, length⟩)

/-- The octets behind the tag, and how many of them the payload has. -/
abbrev ReadPropertyData.behind (data : ReadPropertyData) (len : Nat) : Mem :=
  data.applicationData.shift len

abbrev ReadPropertyData.left (data : ReadPropertyData) (len : Nat) : Nat :=
  data.applicationDataLen - len

/-- The zeroed structure with the tag stored. -/
def tagStored (number : UInt8) : ApplicationDataValue :=
  { ApplicationDataValue.default with tag := number }

theorem bacappDecodeMember_tag (m : Mem) (number : UInt8) (length : Nat)
    (value : ApplicationDataValue) : (bacappDecodeMember m number length value).2.tag = value.tag := by
  unfold bacappDecodeMember
  split
  all_goals try rfl
  split <;> rfl

/-- A value keeps its tag, or gets the one that stands for no value. -/
theorem bacappDecodeData_tag (m : Mem) (number : UInt8) (length : Nat)
    (value : ApplicationDataValue) :
    (bacappDecodeData m number length value).2.tag = value.tag ∨
      (bacappDecodeData m number length value).2.tag = maxBacnetApplicationTag := by
  have htag := bacappDecodeMember_tag m number length value
  unfold bacappDecodeData
  simp only
  split
  · exact Or.inr rfl
  · exact Or.inl htag

theorem lightingCommandDecode_ge (m : Mem) (n : Nat) : -1 ≤ lightingCommandDecode m n := by
  unfold lightingCommandDecode bacnetStatusError
  split
  · omega
  · split
    · omega
    · simp only
      omega

theorem bacappDecodeMember_ge (m : Mem) (number : UInt8) (length : Nat)
    (value : ApplicationDataValue) : -1 ≤ (bacappDecodeMember m number length value).1 := by
  unfold bacappDecodeMember
  split
  all_goals try (simp only; omega)
  · simp only [decodeOctetString, bacnetStatusError]
    split <;> omega
  · split
    · simp
    · simp
  · exact lightingCommandDecode_ge m length

/-- `decode_data` on a payload that starts with a tag. -/
theorem decodeData_of_tag {data : ReadPropertyData} {len : Nat} {number : UInt8}
    {length : Nat} (h : StartsWith data len number length) :
    decodeData data =
      if bacappDecodeDataLen number length ≤ data.left len ∧ number ≠ 16 ∧
          ((bacappDecodeMember (data.behind len) number length (tagStored number)).1 ≠ 0 ∨
            number = 0 ∨ number = 1 ∨ number = 6) then
        readValue data (bacappDecodeMember (data.behind len) number length (tagStored number)).2
      else .error .decodingError := by
  obtain ⟨hpos, hfits⟩ := tagLength_bounds h.decoded
  have hge := bacappDecodeMember_ge (data.behind len) number length (tagStored number)
  have htag := bacappDecodeMember_tag (data.behind len) number length (tagStored number)
  rw [decodeData_eq]
  unfold bacappDecodeApplicationData
  rw [h.application, h.decoded]
  simp only [Bool.false_eq_true, if_false, hfits, if_true]
  by_cases hlen : bacappDecodeDataLen number length ≤ data.left len
  · rw [if_pos hlen]
    unfold bacappDecodeData
    change _ = (if _ then readValue data _ else _)
    have hstored : { ApplicationDataValue.default with tag := number } = tagStored number := rfl
    rw [hstored]
    generalize bacappDecodeMember (data.behind len) number length (tagStored number) = member
      at hge htag ⊢
    obtain ⟨decodeLen, value⟩ := member
    simp only at hge htag ⊢
    obtain rfl : value.tag = number := htag
    by_cases hzero : decodeLen = 0 ∧ value.tag ≠ 0 ∧ value.tag ≠ 1 ∧ value.tag ≠ 6
    · rw [if_pos hzero]
      simp only [maxBacnetApplicationTag, ne_eq, not_true_eq_false, if_false, if_true]
      rw [if_neg]
      rintro ⟨-, -, hne | h0 | h1 | h6⟩
      · exact hne hzero.1
      · exact hzero.2.1 h0
      · exact hzero.2.2.1 h1
      · exact hzero.2.2.2 h6
    · rw [if_neg hzero]
      have hsome : decodeLen ≠ 0 ∨ value.tag = 0 ∨ value.tag = 1 ∨ value.tag = 6 := by
        by_contra hcon
        push Not at hcon
        exact hzero hcon
      by_cases h16 : value.tag = 16
      · simp [h16, maxBacnetApplicationTag]
      · have hne : ¬ (len : Int) + decodeLen = bacnetStatusError := by
          unfold bacnetStatusError
          omega
        simp only [maxBacnetApplicationTag, ne_eq, h16, not_false_eq_true, if_true]
        rw [if_neg hne, if_pos ⟨hlen, trivial, hsome⟩]
  · rw [if_neg hlen]
    exact (if_pos rfl).trans (if_neg fun hcon => hlen hcon.1).symm

/-! ### One equation for each type -/

section Members

variable (m : Mem) (length : Nat) (value : ApplicationDataValue)

theorem bacappDecodeMember_unsigned :
    bacappDecodeMember m 2 length value =
      (((decodeUnsigned m length value.unsignedInt.toNat).1 : Int),
        { value with
          unsignedInt := UInt64.ofNat (decodeUnsigned m length value.unsignedInt.toNat).2 }) :=
  rfl

theorem bacappDecodeMember_signed :
    bacappDecodeMember m 3 length value =
      (((decodeSigned m length value.signedInt).1 : Int),
        { value with signedInt := (decodeSigned m length value.signedInt).2 }) :=
  rfl

theorem bacappDecodeMember_real :
    bacappDecodeMember m 4 length value =
      (((decodeRealSafe m length).1 : Int),
        { value with real := (decodeRealSafe m length).2 }) :=
  rfl

theorem bacappDecodeMember_double :
    bacappDecodeMember m 5 length value =
      (((decodeDoubleSafe m length).1 : Int),
        { value with double := (decodeDoubleSafe m length).2 }) :=
  rfl

theorem bacappDecodeMember_characterString :
    bacappDecodeMember m 7 length value =
      (((decodeCharacterString m length value.characterString).1 : Int),
        { value with
          characterString := (decodeCharacterString m length value.characterString).2 }) :=
  rfl

theorem bacappDecodeMember_bitString :
    bacappDecodeMember m 8 length value =
      (((decodeBitstring m length).1 : Int),
        { value with bitString := (decodeBitstring m length).2 }) :=
  rfl

theorem bacappDecodeMember_enumerated :
    bacappDecodeMember m 9 length value =
      (((decodeEnumerated m length value.enumerated).1 : Int),
        { value with enumerated := (decodeEnumerated m length value.enumerated).2 }) :=
  rfl

end Members

section Types

variable {data : ReadPropertyData} {len length : Nat}

theorem decodeData_null (h : StartsWith data len 0 length) : decodeData data = .ok .null := by
  rw [decodeData_of_tag h, if_pos]
  · rfl
  · exact ⟨Nat.zero_le _, by decide, Or.inr (Or.inl rfl)⟩

theorem decodeData_boolean (h : StartsWith data len 1 length) :
    decodeData data = .ok (.bool (decide (length ≠ 0))) := by
  rw [decodeData_of_tag h, if_pos]
  · rfl
  · exact ⟨Nat.zero_le _, by decide, Or.inr (Or.inr (Or.inl rfl))⟩

/-- A type that is decoded to `value` when its length is within bounds and the octets are
there, and otherwise is not. -/
theorem decodeData_checked {number : UInt8} (h : StartsWith data len number length)
    (hnumber : 2 ≤ number ∧ number ≤ 12 ∧ number ≠ 6) {bound : Prop} [Decidable bound] (decodeLen : Int)
    (value : ApplicationDataValue)
    (hok : bound → decodeLen ≠ 0 ∧
      bacappDecodeMember (data.behind len) number length (tagStored number) = (decodeLen, value))
    (hno : ¬ bound →
      (bacappDecodeMember (data.behind len) number length (tagStored number)).1 = 0) :
    decodeData data =
      if bound ∧ length ≤ data.left len then readValue data value else .error .decodingError := by
  obtain ⟨h2, h12, h6⟩ := hnumber
  have hdatalen : bacappDecodeDataLen number length = length := if_pos ⟨h2, h12⟩
  have h0 : number ≠ 0 := by
    rintro rfl
    exact absurd h2 (by decide)
  have h1 : number ≠ 1 := by
    rintro rfl
    exact absurd h2 (by decide)
  have h16 : number ≠ 16 := by
    rintro rfl
    exact absurd h12 (by decide)
  rw [decodeData_of_tag h, hdatalen]
  by_cases hb : bound
  · obtain ⟨hne, hmember⟩ := hok hb
    rw [hmember]
    simp [hb, hne, h16]
  · have hzero := hno hb
    simp [hb, hzero, h0, h1, h6]

theorem decodeData_unsigned (h : StartsWith data len 2 length) :
    decodeData data =
      if (1 ≤ length ∧ length ≤ 8) ∧ length ≤ data.left len then
        .ok (.uint (UInt64.ofNat ((data.behind len).be length)))
      else .error .decodingError := by
  refine decodeData_checked h (by decide) length
    ({ tagStored 2 with unsignedInt := UInt64.ofNat ((data.behind len).be length) })
    (fun hb => ⟨by omega, ?_⟩) fun hb => ?_
  · simp only [bacappDecodeMember_unsigned, decodeUnsigned, bacnetUnsignedDecode, if_pos hb.2,
      if_pos hb]
  · simp only [bacappDecodeMember_unsigned, decodeUnsigned, bacnetUnsignedDecode, if_neg hb]
    split
    all_goals rfl

theorem decodeData_signed (h : StartsWith data len 3 length) :
    decodeData data =
      if (1 ≤ length ∧ length ≤ 4) ∧ length ≤ data.left len then
        .ok (.int (Int32.ofInt (decodeSignedOctets (data.behind len) length)))
      else .error .decodingError := by
  refine decodeData_checked h (by decide) length
    ({ tagStored 3 with
      signedInt := Int32.ofInt (decodeSignedOctets (data.behind len) length) })
    (fun hb => ⟨by omega, ?_⟩) fun hb => ?_
  · simp only [bacappDecodeMember_signed, decodeSigned, bacnetSignedDecode, if_pos hb.2, if_pos hb]
  · simp only [bacappDecodeMember_signed, decodeSigned, bacnetSignedDecode, if_neg hb]
    split
    all_goals rfl

/-- A real of any other length than 4 is decoded too, to zero. -/
theorem decodeData_real (h : StartsWith data len 4 length) :
    decodeData data =
      if length ≠ 0 ∧ length ≤ data.left len then
        .ok (.real (if length = 4 then UInt32.ofNat ((data.behind len).be 4) else 0))
      else .error .decodingError := by
  refine decodeData_checked h (by decide) length
    ({ tagStored 4 with
      real := if length = 4 then UInt32.ofNat ((data.behind len).be 4) else 0 })
    (fun hb => ⟨by omega, ?_⟩) fun hb => ?_
  · by_cases h4 : length = 4
    · subst h4
      rfl
    · simp only [bacappDecodeMember_real, decodeRealSafe, ne_eq, h4, not_false_eq_true,
        if_true]
      rfl
  · obtain rfl : length = 0 := not_not.mp hb
    rfl

/-- A double of any other length than 8 is decoded too, to zero. -/
theorem decodeData_double (h : StartsWith data len 5 length) :
    decodeData data =
      if length ≠ 0 ∧ length ≤ data.left len then
        .ok (.double (if length = 8 then UInt64.ofNat ((data.behind len).be 8) else 0))
      else .error .decodingError := by
  refine decodeData_checked h (by decide) length
    ({ tagStored 5 with
      double := if length = 8 then UInt64.ofNat ((data.behind len).be 8) else 0 })
    (fun hb => ⟨by omega, ?_⟩) fun hb => ?_
  · by_cases h8 : length = 8
    · subst h8
      rfl
    · simp only [bacappDecodeMember_double, decodeDoubleSafe, ne_eq, h8, not_false_eq_true,
        if_true]
      rfl
  · obtain rfl : length = 0 := not_not.mp hb
    rfl

theorem decodeData_characterString (h : StartsWith data len 7 length) :
    decodeData data =
      if (1 ≤ length ∧ length ≤ characterStringCapacity + 1) ∧ length ≤ data.left len then
        .ok (.string (cstr (((data.behind len).shift 1).slice (length - 1))))
      else .error .decodingError := by
  refine decodeData_checked h (by decide) length
    ({ tagStored 7 with
      characterString :=
        ⟨data.behind len 0, ((data.behind len).shift 1).slice (length - 1)⟩ })
    (fun hb => ⟨by omega, ?_⟩) fun hb => ?_
  · have hmax : length ≤ maxApdu ∧ 1 ≤ length := by
      simp only [characterStringCapacity, maxCharacterStringBytes, maxApdu] at hb ⊢
      omega
    have hcap : length - 1 ≤ characterStringCapacity := by omega
    simp only [bacappDecodeMember_characterString, decodeCharacterString, if_pos hmax,
      characterstringInit, Mem.length_slice, if_pos hcap]
  · simp only [bacappDecodeMember_characterString, decodeCharacterString]
    by_cases hmax : length ≤ maxApdu ∧ 1 ≤ length
    · have hcap : ¬ length - 1 ≤ characterStringCapacity := by omega
      simp only [if_pos hmax, characterstringInit, Mem.length_slice, if_neg hcap]
      rfl
    · simp only [if_neg hmax]
      rfl

theorem decodeData_bitString (h : StartsWith data len 8 length) :
    decodeData data =
      if (1 ≤ length ∧ length ≤ maxBitstringBytes + 1) ∧ length ≤ data.left len then
        readValue data { tagStored 8 with
          bitString := (decodeBitstring (data.behind len) length).2 }
      else .error .decodingError := by
  refine decodeData_checked h (by decide) length _ (fun hb => ⟨by omega, ?_⟩) fun hb => ?_
  · have hne : length ≠ 0 := by omega
    have hmax : length - 1 ≤ maxBitstringBytes := by omega
    have hlen : 1 + (length - 1) = length := by omega
    simp only [bacappDecodeMember_bitString, decodeBitstring, if_pos hne, if_pos hmax, hlen]
  · simp only [bacappDecodeMember_bitString, decodeBitstring]
    by_cases hne : length = 0
    · simp [hne]
    · have hmax : ¬ length - 1 ≤ maxBitstringBytes := by omega
      simp [hne, hmax]

theorem decodeData_enumerated (h : StartsWith data len 9 length) :
    decodeData data =
      if (1 ≤ length ∧ length ≤ 4) ∧ length ≤ data.left len then
        .ok (.enum (UInt32.ofNat ((data.behind len).be length))
          (enumName data.objectType data.objectProperty
            (UInt32.ofNat ((data.behind len).be length))))
      else .error .decodingError := by
  refine decodeData_checked h (by decide) length
    ({ tagStored 9 with enumerated := UInt32.ofNat ((data.behind len).be length) })
    (fun hb => ⟨by omega, ?_⟩) fun hb => ?_
  · have hle : 1 ≤ length ∧ length ≤ 8 := by omega
    have hpos : length > 0 := by omega
    simp only [bacappDecodeMember_enumerated, decodeEnumerated, bacnetEnumeratedDecode,
      bacnetUnsignedDecode, if_pos hb.2, if_pos hle, if_pos hpos]
  · simp only [bacappDecodeMember_enumerated, decodeEnumerated, bacnetEnumeratedDecode,
      bacnetUnsignedDecode]
    by_cases h4 : length ≤ 4
    · have hle : ¬ (1 ≤ length ∧ length ≤ 8) := by omega
      simp only [if_pos h4, if_neg hle]
      rfl
    · simp only [if_neg h4]
      rfl

theorem decodeData_objectId (h : StartsWith data len 12 length) :
    decodeData data =
      if length = 4 ∧ length ≤ data.left len then
        .ok (.objectId (decodeObjectId (data.behind len)).1 (decodeObjectId (data.behind len)).2)
      else .error .decodingError := by
  refine decodeData_checked h (by decide) 4
    ({ tagStored 12 with objectId := decodeObjectId (data.behind len) })
    (fun hb => ⟨by omega, ?_⟩) fun hb => ?_
  · subst hb
    rfl
  · simp [bacappDecodeMember, bacnetObjectIdDecode, hb]

/-- The other types are never decoded to a value. -/
theorem decodeData_unhandled {number : UInt8} (h : StartsWith data len number length)
    (hnumber : number.toNat = 6 ∨ number.toNat = 10 ∨ number.toNat = 11 ∨ 12 < number.toNat) :
    ∃ e, decodeData data = .error e := by
  rw [decodeData_of_tag h]
  have htag : (bacappDecodeMember (data.behind len) number length (tagStored number)).2.tag =
      number := bacappDecodeMember_tag _ _ _ _
  split
  · unfold readValue
    rw [htag]
    split
    all_goals first | omega | exact ⟨_, rfl⟩
  · exact ⟨_, rfl⟩

end Types

/-! ### The numbers and bits of a value -/

set_option maxRecDepth 4096 in
theorem signBit_iff (b : UInt8) : b &&& 0x80 ≠ 0 ↔ 128 ≤ b.toNat := by
  have hall : ∀ n : Fin 256, UInt8.ofNat n.val &&& 0x80 ≠ 0 ↔ 128 ≤ (UInt8.ofNat n.val).toNat := by
    decide
  exact forall_octet (P := fun b => b &&& 0x80 ≠ 0 ↔ 128 ≤ b.toNat) hall b

theorem decodeSignedOctets_eq {m : Mem} {o : List UInt8} (hm : m.Holds o) (hne : o ≠ []) :
    decodeSignedOctets m o.length = ofBeSigned o := by
  cases o with
  | nil => exact absurd rfl hne
  | cons b tail =>
    have hb : m 0 = b := (Mem.holds_cons.mp hm).1
    have hlt := ofBe_lt tail
    have hcons := ofBe_cons b tail
    have hpow : 256 ^ (tail.length + 1) = 256 * 256 ^ tail.length := by
      rw [Nat.pow_succ, Nat.mul_comm]
    have hbound := ofBe_lt (b :: tail)
    rw [decodeSignedOctets, hb, hm.be_eq, ofBeSigned, Int.bmod, List.length_cons]
    rw [List.length_cons] at hbound
    have hmod : ((ofBe (b :: tail) : Nat) : Int) % ((256 ^ (tail.length + 1) : Nat) : Int) =
        ofBe (b :: tail) := Int.emod_eq_of_lt (by omega) (by omega)
    rw [hmod, hpow]
    -- the sign bit is the upper half of the range
    have hhalf : 128 ≤ b.toNat ↔
        ¬ (ofBe (b :: tail) : Int) < ((256 * 256 ^ tail.length : Nat) + 1 : Int) / 2 := by
      generalize 256 ^ tail.length = k at hlt hcons hbound
      rw [hcons]
      constructor
      · intro h128
        have hmul : 128 * k ≤ b.toNat * k := Nat.mul_le_mul_right k h128
        omega
      · intro hge
        by_contra hsmall
        have hmul : b.toNat * k ≤ 127 * k := Nat.mul_le_mul_right k (by omega)
        omega
    by_cases hsign : 128 ≤ b.toNat
    · rw [if_pos ((signBit_iff b).mpr hsign), if_neg (hhalf.mp hsign)]
      have hcast : ((256 * 256 ^ tail.length : Nat) : Int) = (256 : Int) ^ (tail.length + 1) := by
        rw [Int.pow_succ, Int.mul_comm, Int.natCast_mul, Int.natCast_pow]
        rfl
      rw [hcast]
    · rw [if_neg (fun h => hsign ((signBit_iff b).mp h)), if_pos (not_not.mp (hhalf.not.mp hsign))]

/-- Reversing an octet swaps each bit with the one as far from the other end. -/
theorem testBit_byteReverseBits (b : UInt8) {j : Nat} (hj : j < 8) :
    (byteReverseBits b).toNat.testBit j = b.toNat.testBit (7 - j) := by
  have hall : ∀ n : Fin 256, ∀ j : Fin 8,
      (byteReverseBits (UInt8.ofNat n.val)).toNat.testBit j.val =
        (UInt8.ofNat n.val).toNat.testBit (7 - j.val) := by
    decide +kernel
  exact forall_octet (P := fun b => ∀ j : Fin 8,
    (byteReverseBits b).toNat.testBit j.val = b.toNat.testBit (7 - j.val)) hall b ⟨j, hj⟩

/-- The bits that `decode_bitstring` stores, in the order they are sent. -/
theorem bitsOf_decodeBitstring {m : Mem} {unused : UInt8} {o : List UInt8}
    (hm : m.Holds (unused :: o)) (hlen : o.length ≤ maxBitstringBytes) (hunused : unused.toNat ≤ 7)
    (hnil : o = [] → unused = 0) :
    ((List.range (decodeBitstring m (o.length + 1)).2.bitsUsed.toNat).map fun i =>
        bitstringBit (decodeBitstring m (o.length + 1)).2 (UInt8.ofNat i)) =
      bitsOf o (8 * o.length - unused.toNat) := by
  obtain ⟨h0, hrest⟩ := Mem.holds_cons.mp hm
  have hmax : o.length ≤ 15 := hlen
  have hdecode : (decodeBitstring m (o.length + 1)).2 =
      { value := Vector.ofFn fun i =>
          if i.val < o.length then byteReverseBits (m (1 + i.val)) else 0
        bitsUsed := UInt8.ofNat o.length * 8 - (m 0 &&& 0x07) } := by
    rw [decodeBitstring, if_pos (Nat.succ_ne_zero _), Nat.add_sub_cancel, if_pos hlen]
  have hlow : (m 0 &&& 0x07).toNat = unused.toNat := by
    rw [lowerBits, h0]
    omega
  have hle : unused.toNat ≤ 8 * o.length := by
    cases o with
    | nil =>
      rw [hnil rfl]
      exact Nat.zero_le _
    | cons b tail =>
      rw [List.length_cons]
      omega
  have hmul : (UInt8.ofNat o.length * 8).toNat = 8 * o.length := by
    have h8 : (8 : UInt8).toNat = 8 := rfl
    rw [UInt8.toNat_mul, UInt8.toNat_ofNat', h8]
    omega
  have hused : (UInt8.ofNat o.length * 8 - (m 0 &&& 0x07)).toNat =
      8 * o.length - unused.toNat := by
    rw [UInt8.toNat_sub_of_le, hmul, hlow]
    rw [UInt8.le_iff_toNat_le, hmul, hlow]
    exact hle
  rw [hdecode, bitsOf]
  simp only [hused]
  refine List.map_congr_left fun i hi => ?_
  have hi := List.mem_range.mp hi
  have hval : (UInt8.ofNat i).toNat = i := by
    rw [UInt8.toNat_ofNat']
    omega
  have hdiv : i / 8 < maxBitstringBytes := by
    change i / 8 < 15
    omega
  have hoctet : i / 8 < o.length := by omega
  have hget : o.getD (i / 8) 0 = m (1 + i / 8) := by
    rw [List.getD_eq_getElem?_getD, List.getElem?_eq_getElem hoctet, Option.getD_some]
    exact (hrest (i / 8) hoctet).symm
  rw [bitstringBit, hval, dif_pos hdiv, Vector.getElem_ofFn, if_pos hoctet,
    testBit_byteReverseBits _ (by omega), hget]

theorem toNat_decodeObjectId {m : Mem} {o : List UInt8} (hm : m.Holds o) (hlen : o.length = 4) :
    (decodeObjectId m).1.toNat = ofBe o / 2 ^ 22 ∧ (decodeObjectId m).2.toNat = ofBe o % 2 ^ 22 := by
  have hlt := ofBe_lt o
  have hvalue : decodeUnsigned32 m = ofBe o := by
    rw [decodeUnsigned32, ← hlen, hm.be_eq]
  have htype : (ofBe o >>> 22) &&& 0x3FF = ofBe o / 2 ^ 22 % 2 ^ 10 := by
    rw [Nat.shiftRight_eq_div_pow]
    exact Nat.and_two_pow_sub_one_eq_mod _ 10
  have hinstance : ofBe o &&& 0x3FFFFF = ofBe o % 2 ^ 22 := Nat.and_two_pow_sub_one_eq_mod _ 22
  rw [hlen] at hlt
  unfold decodeObjectId
  simp only [hvalue, bacnetInstanceBits, bacnetMaxObject, bacnetMaxInstance, htype, hinstance,
    UInt32.toNat_ofNat']
  omega

/-! ### Payloads that start with the encoding of a value -/

namespace EncodedValue

variable {pages : CodePages}

/-- The values the decoders have room for, of the types `decode_data` handles. -/
def Accepted (e : EncodedValue pages) : Prop :=
  match e.number.toNat with
  | 2 => e.contents.length ≤ 8
  | 3 => e.contents.length ≤ 4
  | 6 => False
  | 7 => e.contents.length ≤ characterStringCapacity + 1
  | 8 => e.contents.length ≤ maxBitstringBytes + 1
  | 9 => e.contents.length ≤ 4
  | 10 => False
  | 11 => False
  | _ => True

/-- A character string is in a text that `cstr` reads. -/
def Legible (e : EncodedValue pages) : Prop :=
  e.number.toNat = 7 → ReadsAsUtf8 pages (e.contents.getD 0 0) e.contents.tail

end EncodedValue

/-- What a payload that starts with an encoded value offers the decoder. -/
theorem startsWith_of_begins {pages : CodePages} {e : EncodedValue pages} {data : ReadPropertyData}
    (h : e.octets <+: data.payload) :
    StartsWith data e.tag.length e.number e.length ∧
      (data.behind e.tag.length).Holds e.contents ∧
      e.contents.length ≤ data.left e.tag.length := by
  obtain ⟨hm, hle⟩ := Mem.prefix_slice_iff.mp h
  obtain ⟨htag, hcontents⟩ := Mem.holds_append.mp hm
  rw [EncodedValue.octets, List.length_append] at hle
  exact ⟨⟨isContextSpecific_of_octets e.tagged htag,
    bacnetTagNumberAndValueDecode_of_octets e.tagged htag (by omega)⟩, hcontents,
    Nat.le_sub_of_add_le (by omega)⟩

theorem Represents.characterString_iff {s s' : String} :
    Represents (.characterString s) (.string s') ↔ s = s' := by
  constructor
  · rintro ⟨⟩
    rfl
  · rintro rfl
    exact .characterString s

/-- An encoded value that the decoders have room for is decoded, to the value it encodes if
it is legible. -/
theorem decodeData_accepted {pages : CodePages} {e : EncodedValue pages} {data : ReadPropertyData}
    (h : e.octets <+: data.payload) (hacc : e.Accepted) :
    ∃ v, decodeData data = .ok v ∧ (Represents e.value v ↔ e.Legible) := by
  obtain ⟨hstart, hm, hleft⟩ := startsWith_of_begins h
  obtain ⟨tag, number, length, contents, value, tagged, meaning⟩ := e
  simp only at hstart hm hleft
  clear h
  unfold EncodedValue.Accepted EncodedValue.Legible at *
  simp only at hacc ⊢
  generalize hk : number.toNat = k at meaning hacc ⊢
  have hnumber : number = UInt8.ofNat k := by rw [← hk, UInt8.ofNat_toNat]
  subst hnumber
  have hlegible : ∀ {p : Primitive} {v : BACnetValue} {P : Prop}, k ≠ 7 → Represents p v →
      (Represents p v ↔ (k = 7 → P)) := fun h7 hr => iff_of_true hr fun hk => absurd hk h7
  cases meaning with
  | null => exact ⟨_, decodeData_null hstart, hlegible (by decide) .null⟩
  | boolean b =>
    refine ⟨_, decodeData_boolean hstart, hlegible (by decide) ?_⟩
    cases b with
    | false => exact .boolean false
    | true => exact .boolean true
  | unsigned hne =>
    have hpos := List.length_pos_iff.mpr hne
    have hlt : ofBe contents < 2 ^ 64 :=
      Nat.lt_of_lt_of_le (ofBe_lt contents) (Nat.pow_le_pow_right (n := 256) (by decide) hacc)
    refine ⟨_, (decodeData_unsigned hstart).trans (if_pos ⟨⟨hpos, hacc⟩, hleft⟩),
      hlegible (by decide) ?_⟩
    rw [hm.be_eq]
    have hrep := Represents.unsigned (UInt64.ofNat (ofBe contents))
    rwa [UInt64.toNat_ofNat', Nat.mod_eq_of_lt hlt] at hrep
  | signed hne =>
    have hpos := List.length_pos_iff.mpr hne
    have hle : 256 ^ contents.length ≤ 256 ^ 4 :=
      Nat.pow_le_pow_right (n := 256) (by decide) hacc
    have hpow : 0 < 256 ^ contents.length := Nat.pow_pos (n := contents.length) (by decide)
    have hlow := Int.le_bmod (x := ofBe contents) hpow
    have hhigh := Int.bmod_lt (x := ofBe contents) hpow
    refine ⟨_, (decodeData_signed hstart).trans (if_pos ⟨⟨hpos, hacc⟩, hleft⟩),
      hlegible (by decide) ?_⟩
    rw [decodeSignedOctets_eq hm hne]
    have hrep := Represents.signed (Int32.ofInt (ofBeSigned contents))
    rwa [Int32.toInt_ofInt_of_le (by rw [ofBeSigned]; omega) (by rw [ofBeSigned]; omega)] at hrep
  | real hlen =>
    have hlt : ofBe contents < 2 ^ 32 := by
      have := ofBe_lt contents
      rwa [hlen] at this
    refine ⟨_, (decodeData_real hstart).trans (if_pos ⟨by decide, by omega⟩),
      hlegible (by decide) ?_⟩
    rw [if_pos rfl, ← hlen, hm.be_eq]
    have hrep := Represents.real (UInt32.ofNat (ofBe contents))
    rwa [UInt32.toNat_ofNat', Nat.mod_eq_of_lt hlt] at hrep
  | double hlen =>
    have hlt : ofBe contents < 2 ^ 64 := by
      have := ofBe_lt contents
      rwa [hlen] at this
    refine ⟨_, (decodeData_double hstart).trans (if_pos ⟨by decide, by omega⟩),
      hlegible (by decide) ?_⟩
    rw [if_pos rfl, ← hlen, hm.be_eq]
    have hrep := Represents.double (UInt64.ofNat (ofBe contents))
    rwa [UInt64.toNat_ofNat', Nat.mod_eq_of_lt hlt] at hrep
  | octetString o => exact hacc.elim
  | @characterString encoding o s hs =>
    refine ⟨_, (decodeData_characterString hstart).trans (if_pos ⟨⟨by omega, hacc⟩, hleft⟩), ?_⟩
    have htext : ((data.behind tag.length).shift 1).slice (o.length + 1 - 1) = o := by
      rw [Nat.add_sub_cancel]
      exact (Mem.holds_cons.mp hm).2.slice_eq
    rw [htext, Represents.characterString_iff]
    constructor
    · rintro rfl _
      exact (textIn_cstr_iff pages encoding o).mp hs
    · intro hread
      exact hs.unique ((textIn_cstr_iff pages encoding o).mpr (hread rfl))
  | @bitString unused o hunused hnil =>
    refine ⟨_, (decodeData_bitString hstart).trans (if_pos ⟨⟨by omega, hacc⟩, hleft⟩),
      hlegible (by decide) ?_⟩
    rw [← bitsOf_decodeBitstring hm (Nat.le_of_succ_le_succ hacc) hunused hnil]
    exact .bitString _
  | enumerated hne =>
    have hpos := List.length_pos_iff.mpr hne
    have hlt : ofBe contents < 2 ^ 32 :=
      Nat.lt_of_lt_of_le (ofBe_lt contents) (Nat.pow_le_pow_right (n := 256) (by decide) hacc)
    refine ⟨_, (decodeData_enumerated hstart).trans (if_pos ⟨⟨hpos, hacc⟩, hleft⟩),
      hlegible (by decide) ?_⟩
    rw [hm.be_eq]
    have hrep := Represents.enumerated (UInt32.ofNat (ofBe contents))
      (enumName data.objectType data.objectProperty (UInt32.ofNat (ofBe contents)))
    rwa [UInt32.toNat_ofNat', Nat.mod_eq_of_lt hlt] at hrep
  | date hlen => exact hacc.elim
  | time hlen => exact hacc.elim
  | objectId hlen =>
    obtain ⟨htype, hinstance⟩ := toNat_decodeObjectId hm hlen
    refine ⟨_, (decodeData_objectId hstart).trans (if_pos ⟨rfl, by omega⟩),
      hlegible (by decide) ?_⟩
    rw [← htype, ← hinstance]
    exact .objectId _ _

/-- One that they have no room for, or that `decode_data` does not handle, is an error. -/
theorem decodeData_refused {pages : CodePages} {e : EncodedValue pages} {data : ReadPropertyData}
    (h : e.octets <+: data.payload) (hacc : ¬ e.Accepted) : ∃ err, decodeData data = .error err := by
  obtain ⟨hstart, -, -⟩ := startsWith_of_begins h
  obtain ⟨tag, number, length, contents, value, tagged, meaning⟩ := e
  simp only at hstart
  clear h
  unfold EncodedValue.Accepted at hacc
  simp only at hacc
  generalize hk : number.toNat = k at meaning hacc
  have hnumber : number = UInt8.ofNat k := by rw [← hk, UInt8.ofNat_toNat]
  subst hnumber
  cases meaning with
  | null => exact absurd trivial hacc
  | boolean b => exact absurd trivial hacc
  | unsigned hne =>
    exact ⟨_, (decodeData_unsigned hstart).trans (if_neg fun hb => hacc hb.1.2)⟩
  | signed hne =>
    exact ⟨_, (decodeData_signed hstart).trans (if_neg fun hb => hacc hb.1.2)⟩
  | real hlen => exact absurd trivial hacc
  | double hlen => exact absurd trivial hacc
  | octetString o => exact decodeData_unhandled hstart (Or.inl rfl)
  | characterString hs =>
    exact ⟨_, (decodeData_characterString hstart).trans (if_neg fun hb => hacc hb.1.2)⟩
  | bitString hunused hnil =>
    exact ⟨_, (decodeData_bitString hstart).trans (if_neg fun hb => hacc hb.1.2)⟩
  | enumerated hne =>
    exact ⟨_, (decodeData_enumerated hstart).trans (if_neg fun hb => hacc hb.1.2)⟩
  | date hlen => exact decodeData_unhandled hstart (Or.inr (Or.inl rfl))
  | time hlen => exact decodeData_unhandled hstart (Or.inr (Or.inr (Or.inl rfl)))
  | objectId hlen => exact absurd trivial hacc

/-- An empty payload is read as null. -/
theorem decodeData_empty {data : ReadPropertyData} (h : data.payload = []) :
    decodeData data = .ok .null := by
  have hlen : data.applicationDataLen = 0 := by
    have := congrArg List.length h
    rwa [ReadPropertyData.payload, Mem.length_slice] at this
  rw [decodeData_eq]
  unfold bacappDecodeApplicationData
  rw [hlen]
  by_cases hclass : isContextSpecific (data.applicationData 0) = true
  · rw [if_pos hclass]
    rfl
  · rw [if_neg hclass]
    rfl

end Bacnet
