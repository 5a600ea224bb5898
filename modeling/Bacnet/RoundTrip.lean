import Bacnet.Encode
import Bacnet.Payload

/-!
# Bacnet.RoundTrip

A value that a device encodes and puts into an acknowledgement, read by the client.

What `bacapp_encode_application_data` writes is the encoding of the value, the header that
`rp_ack_encode_apdu_init` puts in front is read back, and `decode_data` returns the value:
except when the acknowledgement takes up all of `MAX_APDU`. `rp_ack_encode_apdu` keeps two
octets for the closing tag, which has one, and drops the last octet of such a message.
-/

namespace Bacnet

open Bacnet.Lib

/-- The `BACnetValue` that a value of the C structure stands for, for the values that can
be represented on both sides. The name of an enumerated value is left open. -/
inductive Corresponds (value : ApplicationDataValue) : BACnetValue → Prop
  | null (h : value.tag = 0) : Corresponds value .null
  | boolean (h : value.tag = 1) : Corresponds value (.bool value.boolean)
  | unsigned (h : value.tag = 2) : Corresponds value (.uint value.unsignedInt)
  | signed (h : value.tag = 3) : Corresponds value (.int value.signedInt)
  | real (h : value.tag = 4) : Corresponds value (.real value.real)
  | double (h : value.tag = 5) : Corresponds value (.double value.double)
  /-- UTF-8 without NUL, within the string buffer. -/
  | characterString {s : String} (h : value.tag = 7) (hset : value.characterString.encoding = 0)
      (hs : value.characterString.value = utf8Octets s.toList) (hnul : Char.ofNat 0 ∉ s.toList)
      (hfit : value.characterString.value.length ≤ characterStringCapacity) :
      Corresponds value (.string s)
  | bitString (h : value.tag = 8) (hbits : value.bitString.bitsUsed.toNat ≤ 120) :
      Corresponds value (.bitString ((List.range value.bitString.bitsUsed.toNat).map fun i =>
        bitstringBit value.bitString (UInt8.ofNat i)))
  | enumerated (h : value.tag = 9) (name : Option String) :
      Corresponds value (.enum value.enumerated name)
  | objectId (h : value.tag = 12) (htype : value.objectId.1.toNat ≤ bacnetMaxObject)
      (hinstance : value.objectId.2.toNat ≤ bacnetMaxInstance) :
      Corresponds value (.objectId value.objectId.1 value.objectId.2)

/-- A value that stands for a `BACnetValue`. -/
def Supported (value : ApplicationDataValue) : Prop := ∃ v, Corresponds value v

/-! ### Numbers -/

theorem bacnetUnsignedLength_spec {value : Nat} (h : value < 2 ^ 64) :
    1 ≤ bacnetUnsignedLength value ∧ bacnetUnsignedLength value ≤ 8 ∧
      value < 256 ^ bacnetUnsignedLength value := by
  unfold bacnetUnsignedLength
  split_ifs
  all_goals exact ⟨by decide, by decide, by omega⟩

theorem bacnetUnsignedLength_le {value : Nat} (h : value < 2 ^ 32) :
    bacnetUnsignedLength value ≤ 4 := by
  unfold bacnetUnsignedLength
  split_ifs
  all_goals omega

theorem ofBe_encodeBacnetUnsigned {value : Nat} (h : value < 2 ^ 64) :
    ofBe (encodeBacnetUnsigned value) = value :=
  ofBe_toBe (bacnetUnsignedLength_spec h).2.2

theorem encodeBacnetUnsigned_ne_nil {value : Nat} (h : value < 2 ^ 64) :
    encodeBacnetUnsigned value ≠ [] := by
  have hlen := (bacnetUnsignedLength_spec h).1
  intro hnil
  have := congrArg List.length hnil
  rw [encodeBacnetUnsigned, length_toBe, List.length_nil] at this
  omega

/-- The low octets of a number. -/
theorem ofBe_toBe_mod (n v : Nat) : ofBe (toBe n v) = v % 256 ^ n := by
  induction n generalizing v with
  | zero => simp [toBe, Nat.mod_one]
  | succ n ih =>
    have h8 : 2 ^ 8 = 256 := rfl
    rw [toBe, ofBe_concat, ih, UInt8.toNat_ofNat', h8, Nat.pow_succ, Nat.mul_comm (256 ^ n),
      Nat.mod_mul]
    omega

theorem toInt_eq_bmod (value : Int32) :
    value.toInt = Int.bmod value.toUInt32.toNat (2 ^ 32) :=
  BitVec.toInt_eq_toNat_bmod value.toBitVec

/-- The octets of a signed value stand for it when they are as many as it needs. -/
theorem ofBeSigned_encodeSignedOctets {n : Nat} {value : Int32} (hn : n = 1 ∨ n = 2 ∨ n = 3 ∨ n = 4)
    (hlow : -(256 ^ n / 2 : Nat) ≤ value.toInt) (hhigh : value.toInt < (256 ^ n / 2 : Nat)) :
    ofBeSigned (encodeSignedOctets n value) = value.toInt := by
  have hu := value.toUInt32.toNat_lt
  rw [toInt_eq_bmod] at hlow hhigh ⊢
  rw [ofBeSigned, encodeSignedOctets, length_toBe, ofBe_toBe_mod]
  generalize value.toUInt32.toNat = u at hu hlow hhigh
  simp only [Int.bmod] at hlow hhigh ⊢
  rcases hn with rfl | rfl | rfl | rfl
  all_goals
    split_ifs at hlow hhigh ⊢
    all_goals omega

theorem ofBeSigned_encodeBacnetSigned (value : Int32) :
    ofBeSigned (encodeBacnetSigned value) = value.toInt ∧
      1 ≤ (encodeBacnetSigned value).length ∧ (encodeBacnetSigned value).length ≤ 4 := by
  have hlt := value.toInt_lt
  have hge := value.le_toInt
  unfold encodeBacnetSigned
  simp only
  split
  · exact ⟨ofBeSigned_encodeSignedOctets (by decide) (by omega) (by omega), by
      simp [encodeSignedOctets], by simp [encodeSignedOctets]⟩
  · split
    · exact ⟨ofBeSigned_encodeSignedOctets (by decide) (by omega) (by omega), by
        simp [encodeSignedOctets], by simp [encodeSignedOctets]⟩
    · split
      · exact ⟨ofBeSigned_encodeSignedOctets (by decide) (by omega) (by omega), by
          simp [encodeSignedOctets], by simp [encodeSignedOctets]⟩
      · exact ⟨ofBeSigned_encodeSignedOctets (by decide) (by omega) (by omega), by
          simp [encodeSignedOctets], by simp [encodeSignedOctets]⟩

theorem ofBe_encodeBacnetObjectId {objectType inst : UInt32}
    (htype : objectType.toNat ≤ bacnetMaxObject) (hinst : inst.toNat ≤ bacnetMaxInstance) :
    ofBe (encodeBacnetObjectId objectType inst) = objectType.toNat * 2 ^ 22 + inst.toNat := by
  have hmask : ((objectType &&& 0x3FF) <<< 22 ||| (inst &&& 0x3FFFFF)).toNat =
      objectType.toNat * 2 ^ 22 + inst.toNat := by
    have htype' : objectType.toNat &&& 0x3FF = objectType.toNat := by
      rw [Nat.and_two_pow_sub_one_eq_mod _ 10]
      exact Nat.mod_eq_of_lt (Nat.lt_succ_of_le htype)
    have hinst' : inst.toNat &&& 0x3FFFFF = inst.toNat := by
      rw [Nat.and_two_pow_sub_one_eq_mod _ 22]
      exact Nat.mod_eq_of_lt (Nat.lt_succ_of_le hinst)
    have hlt : inst.toNat < 2 ^ 22 := Nat.lt_succ_of_le hinst
    have hlt' : objectType.toNat < 2 ^ 10 := Nat.lt_succ_of_le htype
    simp only [UInt32.toNat_or, UInt32.toNat_shiftLeft, UInt32.toNat_and, UInt32.reduceToNat,
      htype', hinst']
    have hshift : objectType.toNat <<< (22 % 32) = objectType.toNat * 2 ^ 22 :=
      Nat.shiftLeft_eq _ _
    rw [hshift, Nat.mod_eq_of_lt (by omega), ← Nat.shiftLeft_eq,
      ← Nat.shiftLeft_add_eq_or_of_lt hlt]
  rw [encodeBacnetObjectId, hmask]
  refine ofBe_toBe ?_
  unfold bacnetMaxObject at htype
  unfold bacnetMaxInstance at hinst
  omega

/-! ### The encoding of a value -/

/-- The bits that `encode_bitstring` writes. -/
theorem encodeBitstring_spec {bitString : BitString} (h : bitString.bitsUsed.toNat ≤ 120) :
    ∃ unused o, encodeBitstring bitString = unused :: o ∧
      o.length = bitstringBytesUsed bitString ∧ o.length ≤ maxBitstringBytes ∧
      unused.toNat ≤ 7 ∧ (o = [] → unused = 0) ∧
      bitsOf o (8 * o.length - unused.toNat) =
        (List.range bitString.bitsUsed.toNat).map fun i =>
          bitstringBit bitString (UInt8.ofNat i) := by
  unfold encodeBitstring bitstringBytesUsed
  by_cases hzero : bitString.bitsUsed = 0
  · refine ⟨0, [], if_pos hzero, ?_, by decide, by decide, fun _ => rfl, ?_⟩
    · simp [hzero]
    · rw [hzero]
      rfl
  · have hpos : 1 ≤ bitString.bitsUsed.toNat := by
      rw [Nat.one_le_iff_ne_zero]
      exact fun h0 => hzero (UInt8.toNat_inj.mp h0)
    have hpred : (bitString.bitsUsed - 1).toNat = bitString.bitsUsed.toNat - 1 :=
      UInt8.toNat_sub_of_le _ _ (UInt8.le_iff_toNat_le.mpr hpos)
    simp only [hzero, if_false, ne_eq, not_false_eq_true, if_true, hpred]
    generalize hused : (bitString.bitsUsed.toNat - 1) / 8 + 1 = used
    have hoffset : (UInt8.ofNat ((used - 1) * 8)).toNat = (used - 1) * 8 := by
      rw [UInt8.toNat_ofNat']
      omega
    have hremaining : (bitString.bitsUsed - UInt8.ofNat ((used - 1) * 8)).toNat =
        bitString.bitsUsed.toNat - (used - 1) * 8 := by
      rw [UInt8.toNat_sub_of_le, hoffset]
      rw [UInt8.le_iff_toNat_le, hoffset]
      omega
    have h8 : (8 : UInt8).toNat = 8 := rfl
    have hunused : (8 - (bitString.bitsUsed - UInt8.ofNat ((used - 1) * 8))).toNat =
        8 - (bitString.bitsUsed.toNat - (used - 1) * 8) := by
      rw [UInt8.toNat_sub_of_le, hremaining, h8]
      rw [UInt8.le_iff_toNat_le, hremaining, h8]
      omega
    refine ⟨_, _, rfl, by simp, ?_, by omega, ?_, ?_⟩
    · rw [List.length_map, List.length_range]
      change used ≤ 15
      omega
    · intro hnil
      have := congrArg List.length hnil
      rw [List.length_map, List.length_range, List.length_nil] at this
      omega
    · have hbits : 8 * used - (8 - (bitString.bitsUsed.toNat - (used - 1) * 8)) =
          bitString.bitsUsed.toNat := by omega
      rw [List.length_map, List.length_range, hunused, hbits, bitsOf]
      refine List.map_congr_left fun i hi => ?_
      have hi := List.mem_range.mp hi
      have hval : (UInt8.ofNat i).toNat = i := by
        rw [UInt8.toNat_ofNat']
        omega
      have hoctet : i / 8 < ((List.range used).map
          fun i => byteReverseBits (bitstringOctet bitString i)).length := by
        rw [List.length_map, List.length_range]
        omega
      have hmax : i / 8 < maxBitstringBytes := by
        change i / 8 < 15
        omega
      rw [List.getD_eq_getElem?_getD, List.getElem?_eq_getElem hoctet, Option.getD_some,
        List.getElem_map, List.getElem_range, testBit_byteReverseBits _ (by omega), bitstringBit,
        hval, dif_pos hmax, bitstringOctet, dif_pos hmax]
      congr 1
      omega

theorem length_encodeTag_short {number : UInt8} (h : number ≤ 14) (contextSpecific : Bool)
    {length : Nat} (hlength : length ≤ 65535) :
    (encodeTag number contextSpecific length).length ≤ 4 := by
  unfold encodeTag
  simp only [h, if_true]
  split_ifs
  all_goals simp

/-- An encoded value with the tag that `encode_tag` writes. -/
theorem encoded_intro {pages : CodePages} (number : UInt8) {length : Nat} {contents : List UInt8}
    {p : Primitive} {octets : List UInt8} {v : BACnetValue} (hlength : length < 2 ^ 32)
    (meaning : Contents pages number.toNat length contents p)
    (hoctets : encodeTag number false length ++ contents = octets)
    (haccepted : ∀ tag tagged,
      (EncodedValue.mk tag number length contents p tagged meaning).Accepted)
    (hlegible : number.toNat = 7 → ReadsAsUtf8 pages (contents.getD 0 0) contents.tail)
    (hrep : Represents p v) :
    ∃ e : EncodedValue pages, e.octets = octets ∧ e.Accepted ∧ e.Legible ∧ Represents e.value v :=
  ⟨⟨_, number, length, contents, p, encodeTag_octets number false hlength, meaning⟩, hoctets,
    haccepted _ _, hlegible, hrep⟩

/-- What `bacapp_encode_application_data` writes is the encoding of the value. -/
theorem encoded_of_corresponds (pages : CodePages) {value : ApplicationDataValue}
    {v : BACnetValue} {octets : List UInt8} (h : Corresponds value v)
    (henc : bacappEncodeApplicationData value = some octets) :
    ∃ e : EncodedValue pages, e.octets = octets ∧ e.Accepted ∧ e.Legible ∧
      Represents e.value v := by
  have hother : ∀ {n : Nat} {P : Prop}, n ≠ 7 → n = 7 → P := fun h7 hk => absurd hk h7
  unfold bacappEncodeApplicationData at henc
  cases h with
  | null htag =>
    rw [htag] at henc
    have hoctets : [0] = octets := Option.some.inj henc
    exact encoded_intro 0 (by decide) .null hoctets (fun _ _ => trivial)
      (hother (by decide)) .null
  | boolean htag =>
    rw [htag] at henc
    have hoctets : encodeApplicationBoolean value.boolean = octets := Option.some.inj henc
    have hle := value.boolean.toNat_le
    refine encoded_intro 1 (by omega) (.boolean value.boolean) ?_ (fun _ _ => trivial)
      (hother (by decide)) (.boolean _)
    rw [← hoctets]
    cases value.boolean <;> rfl
  | unsigned htag =>
    rw [htag] at henc
    have hoctets : encodeApplicationUnsigned value.unsignedInt = octets := Option.some.inj henc
    have hlt := value.unsignedInt.toNat_lt
    obtain ⟨hpos, hle, -⟩ := bacnetUnsignedLength_spec hlt
    have hcontents : Contents pages _ _ _ _ := .unsigned (encodeBacnetUnsigned_ne_nil hlt)
    have hlen : (encodeBacnetUnsigned value.unsignedInt.toNat).length =
        bacnetUnsignedLength value.unsignedInt.toNat := length_toBe _ _
    rw [ofBe_encodeBacnetUnsigned hlt, hlen] at hcontents
    refine encoded_intro 2 (by omega) hcontents hoctets (fun _ _ => ?_)
      (hother (by decide)) (.unsigned _)
    exact (Nat.le_of_eq hlen).trans hle
  | signed htag =>
    rw [htag] at henc
    have hoctets : encodeApplicationSigned value.signedInt = octets := Option.some.inj henc
    obtain ⟨hvalue, hpos, hle⟩ := ofBeSigned_encodeBacnetSigned value.signedInt
    have hcontents : Contents pages _ _ _ _ := .signed (List.length_pos_iff.mp hpos)
    rw [hvalue] at hcontents
    exact encoded_intro 3 (by omega) hcontents hoctets (fun _ _ => hle)
      (hother (by decide)) (.signed _)
  | real htag =>
    rw [htag] at henc
    have hoctets : encodeApplicationReal value.real = octets := Option.some.inj henc
    have hcontents : Contents pages _ _ _ _ := .real (length_toBe 4 value.real.toNat)
    rw [ofBe_toBe value.real.toNat_lt] at hcontents
    exact encoded_intro 4 (by decide) hcontents hoctets (fun _ _ => trivial)
      (hother (by decide)) (.real _)
  | double htag =>
    rw [htag] at henc
    have hoctets : encodeApplicationDouble value.double = octets := Option.some.inj henc
    have hcontents : Contents pages _ _ _ _ := .double (length_toBe 8 value.double.toNat)
    rw [ofBe_toBe value.double.toNat_lt] at hcontents
    exact encoded_intro 5 (by decide) hcontents hoctets (fun _ _ => trivial)
      (hother (by decide)) (.double _)
  | @characterString s htag hset hs hnul hfit =>
    rw [htag] at henc
    have hoctets : encodeApplicationCharacterString value.characterString = octets :=
      Option.some.inj henc
    have hcap : value.characterString.value.length ≤ 1469 := hfit
    have htext : TextIn pages value.characterString.encoding s value.characterString.value := by
      rw [hset]
      exact hs
    have htaglen : (encodeTag 7 false (value.characterString.value.length + 1)).length ≤ 4 :=
      length_encodeTag_short (by decide) _ (by omega)
    refine encoded_intro 7 (by omega) (.characterString htext) ?_
      (fun _ _ => Nat.succ_le_succ hfit) (fun _ => ?_) (.characterString s)
    · rw [← hoctets, encodeApplicationCharacterString, if_pos (by unfold maxApdu; omega),
        encodeBacnetCharacterString, encodeBacnetCharacterStringSafe,
        if_pos (by unfold maxApdu; omega)]
    · change ReadsAsUtf8 pages value.characterString.encoding value.characterString.value
      rw [hset, hs]
      exact ⟨s.toList, rfl, hnul⟩
  | bitString htag hbits =>
    rw [htag] at henc
    have hoctets : encodeApplicationBitstring value.bitString = octets := Option.some.inj henc
    obtain ⟨unused, o, henc', hlen, hmax, hunused, hnil, hvalue⟩ := encodeBitstring_spec hbits
    have hmax' : o.length ≤ 15 := hmax
    have hcontents : Contents pages _ _ _ _ := .bitString hunused hnil
    rw [hvalue] at hcontents
    refine encoded_intro 8 (by omega) hcontents ?_
      (fun _ _ => Nat.succ_le_succ hmax) (hother (by decide)) (.bitString _)
    rw [← hoctets, encodeApplicationBitstring, henc', ← hlen, Nat.add_comm]
  | enumerated htag name =>
    rw [htag] at henc
    have hoctets : encodeApplicationEnumerated value.enumerated = octets := Option.some.inj henc
    have hlt := value.enumerated.toNat_lt
    have hlt' : value.enumerated.toNat < 2 ^ 64 := by omega
    have hcontents : Contents pages _ _ _ _ := .enumerated (encodeBacnetUnsigned_ne_nil hlt')
    rw [ofBe_encodeBacnetUnsigned hlt'] at hcontents
    have hle : (encodeBacnetUnsigned value.enumerated.toNat).length ≤ 4 := by
      rw [encodeBacnetUnsigned, length_toBe]
      exact bacnetUnsignedLength_le hlt
    exact encoded_intro 9 (by omega) hcontents hoctets (fun _ _ => hle)
      (hother (by decide)) (.enumerated _ name)
  | objectId htag htype hinst =>
    rw [htag] at henc
    have hoctets : encodeApplicationObjectId value.objectId.1 value.objectId.2 = octets :=
      Option.some.inj henc
    have hlt : value.objectId.2.toNat < 2 ^ 22 := Nat.lt_succ_of_le hinst
    have hlen : (encodeBacnetObjectId value.objectId.1 value.objectId.2).length = 4 :=
      length_toBe _ _
    have hcontents : Contents pages _ _ _ _ := .objectId hlen
    rw [ofBe_encodeBacnetObjectId htype hinst, Nat.mul_comm, Nat.mul_add_div (by decide),
      Nat.div_eq_of_lt hlt, Nat.add_zero, Nat.mul_add_mod, Nat.mod_eq_of_lt hlt] at hcontents
    exact encoded_intro 12 (by decide) hcontents hoctets (fun _ _ => trivial)
      (hother (by decide)) (.objectId _ _)

/-! ### The header -/

theorem encodeContextEnumerated_eq (tagNumber : UInt8) {value : Nat} (h : value < 2 ^ 32) :
    encodeContextEnumerated tagNumber value = encodeContextUnsigned tagNumber value := by
  have hlen : (if value < 0x100 then 1 else if value < 0x10000 then 2
      else if value < 0x1000000 then 3 else 4) = bacnetUnsignedLength value := by
    unfold bacnetUnsignedLength
    split_ifs
    all_goals omega
  rw [encodeContextEnumerated, encodeContextUnsigned]
  simp only [hlen]

/-- A context-tagged number is read back. -/
theorem decode_encodeContextUnsigned {m : Mem} {tagNumber : UInt8} {value : Nat}
    (ht : tagNumber ≤ 14) (hvalue : value < 2 ^ 32)
    (hm : m.Holds (encodeContextUnsigned tagNumber value)) :
    decodeTagNumberAndValue m = (1, ⟨tagNumber, bacnetUnsignedLength value⟩) ∧
      decodeUnsigned (m.shift 1) (bacnetUnsignedLength value) 0 =
        (bacnetUnsignedLength value, value) ∧
      decodeEnumerated (m.shift 1) (bacnetUnsignedLength value) 0 =
        (bacnetUnsignedLength value, UInt32.ofNat value) := by
  obtain ⟨hpos, hle, -⟩ := bacnetUnsignedLength_spec (Nat.lt_trans hvalue (by decide))
  have hle4 := bacnetUnsignedLength_le hvalue
  obtain ⟨htag, hcontents⟩ := Mem.holds_append.mp hm
  have htaglen := length_encodeTag_le ht true hle4
  have hdecode := decodeTagNumberAndValue_of_octets (encodeTag_octets tagNumber true (by omega)) htag
  rw [htaglen] at hdecode hcontents
  have hbe : (m.shift 1).be (bacnetUnsignedLength value) = value := by
    have hbe := hcontents.be_eq
    rw [ofBe_encodeBacnetUnsigned (by omega), encodeBacnetUnsigned, length_toBe] at hbe
    exact hbe
  refine ⟨hdecode, ?_, ?_⟩
  · rw [decodeUnsigned, bacnetUnsignedDecode, if_pos hle, if_pos ⟨hpos, hle⟩, hbe]
  · rw [decodeEnumerated, bacnetEnumeratedDecode, bacnetUnsignedDecode, if_pos hle4,
      if_pos ⟨hpos, hle⟩, hbe]
    simp only
    rw [if_pos (by omega)]

theorem length_encodeContextUnsigned (tagNumber : UInt8) {value : Nat} (ht : tagNumber ≤ 14)
    (hvalue : value < 2 ^ 32) :
    (encodeContextUnsigned tagNumber value).length = 1 + bacnetUnsignedLength value := by
  rw [encodeContextUnsigned, List.length_append,
    length_encodeTag_le ht true (bacnetUnsignedLength_le hvalue), encodeBacnetUnsigned,
    length_toBe]

/-- A context-tagged object identifier is read back. -/
theorem decode_encodeContextObjectId {m : Mem} {objectType inst : UInt32}
    (htype : objectType.toNat ≤ bacnetMaxObject) (hinst : inst.toNat ≤ bacnetMaxInstance)
    (hm : m.Holds (encodeContextObjectId 0 objectType inst)) :
    decodeIsContextTag m 0 = true ∧ decodeObjectId (m.shift 1) = (objectType, inst) := by
  obtain ⟨htag, hcontents⟩ := Mem.holds_append.mp hm
  have hlt : inst.toNat < 2 ^ 22 := Nat.lt_succ_of_le hinst
  have hlen : (encodeBacnetObjectId objectType inst).length = 4 := length_toBe _ _
  obtain ⟨h1, h2⟩ := toNat_decodeObjectId hcontents hlen
  rw [ofBe_encodeBacnetObjectId htype hinst, Nat.mul_comm, Nat.mul_add_div (by decide),
    Nat.div_eq_of_lt hlt, Nat.add_zero] at h1
  rw [ofBe_encodeBacnetObjectId htype hinst, Nat.mul_comm, Nat.mul_add_mod,
    Nat.mod_eq_of_lt hlt] at h2
  have h0 : m 0 = 0x0C := htag 0 (by decide)
  refine ⟨?_, Prod.ext (UInt32.toNat_inj.mp h1) (UInt32.toNat_inj.mp h2)⟩
  rw [decodeIsContextTag, decodeTagNumber, h0]
  rfl

/-- The opening tag in front of the property value. -/
theorem decode_encodeOpeningTag {m : Mem} (hm : m.Holds (encodeOpeningTag 3)) :
    decodeTagNumberAndValue m = (1, ⟨3, 0⟩) ∧ decodeIsOpeningTagNumber m 3 = true := by
  have h0 : m 0 = 0x3E := hm 0 (by decide)
  refine ⟨?_, ?_⟩
  · rw [decodeTagNumberAndValue, decodeTagNumber, h0]
    rfl
  · rw [decodeIsOpeningTagNumber, decodeTagNumber, h0]
    rfl

/-- The acknowledgement from its service data up to the opening tag. -/
def ackHeader (rpdata : ReadPropertyData) : List UInt8 :=
  encodeContextObjectId 0 rpdata.objectType rpdata.objectInstance ++
  (encodeContextUnsigned 1 rpdata.objectProperty.toNat ++
  ((if rpdata.arrayIndex ≠ bacnetArrayAll then
    encodeContextUnsigned 2 rpdata.arrayIndex.toNat else []) ++
  encodeOpeningTag 3))

theorem rpAckEncodeApduInit_eq (invokeId : UInt8) (rpdata : ReadPropertyData) :
    rpAckEncodeApduInit invokeId rpdata =
      [0x30, invokeId, serviceConfirmedReadProperty] ++ ackHeader rpdata := by
  rw [rpAckEncodeApduInit, encodeContextEnumerated_eq 1 rpdata.objectProperty.toNat_lt, ackHeader]
  simp only [List.append_assoc]

theorem length_ackHeader (rpdata : ReadPropertyData) :
    8 ≤ (ackHeader rpdata).length ∧ (ackHeader rpdata).length ≤ 16 := by
  have hobject : (encodeContextObjectId 0 rpdata.objectType rpdata.objectInstance).length = 5 := by
    rw [encodeContextObjectId, List.length_append, length_encodeTag_le (by decide) true (by decide),
      encodeBacnetObjectId, length_toBe]
  have hproperty := length_encodeContextUnsigned 1 (by decide)
    rpdata.objectProperty.toNat_lt
  have hindex := length_encodeContextUnsigned 2 (by decide)
    rpdata.arrayIndex.toNat_lt
  have hproperty' := bacnetUnsignedLength_le rpdata.objectProperty.toNat_lt
  have hindex' := bacnetUnsignedLength_le rpdata.arrayIndex.toNat_lt
  have hpos := (bacnetUnsignedLength_spec
    (Nat.lt_trans rpdata.objectProperty.toNat_lt (by decide))).1
  have hopening : (encodeOpeningTag 3).length = 1 := rfl
  simp only [ackHeader, List.length_append]
  split_ifs
  · omega
  · rw [List.length_nil]
    omega

/-- The header is read back, and the property value is what stands between it and the last
octet. -/
theorem rpAckDecodeServiceRequest_ackHeader {rpdata : ReadPropertyData} {m : Mem} (apduLen : Nat)
    (htype : rpdata.objectType.toNat ≤ bacnetMaxObject)
    (hinst : rpdata.objectInstance.toNat ≤ bacnetMaxInstance) (hm : m.Holds (ackHeader rpdata))
    (hlen : (ackHeader rpdata).length < apduLen) :
    rpAckDecodeServiceRequest m apduLen =
      some { rpdata with
        applicationData := m.shift (ackHeader rpdata).length
        applicationDataLen := apduLen - (ackHeader rpdata).length - 1 } := by
  obtain ⟨hmin, -⟩ := length_ackHeader rpdata
  have hobject : (encodeContextObjectId 0 rpdata.objectType rpdata.objectInstance).length = 5 := by
    rw [encodeContextObjectId, List.length_append, length_encodeTag_le (by decide) true (by decide),
      encodeBacnetObjectId, length_toBe]
  have hproperty := length_encodeContextUnsigned 1 (by decide)
    rpdata.objectProperty.toNat_lt
  have hindex := length_encodeContextUnsigned 2 (by decide)
    rpdata.arrayIndex.toNat_lt
  have hopening : (encodeOpeningTag 3).length = 1 := rfl
  have htotal : (ackHeader rpdata).length =
      5 + (1 + bacnetUnsignedLength rpdata.objectProperty.toNat) +
        (if rpdata.arrayIndex ≠ bacnetArrayAll then
          encodeContextUnsigned 2 rpdata.arrayIndex.toNat else []).length + 1 := by
    simp only [ackHeader, List.length_append, hobject, hproperty, hopening]
    omega
  obtain ⟨hm₀, hrest⟩ := Mem.holds_append.mp hm
  obtain ⟨hm₁, hrest⟩ := Mem.holds_append.mp hrest
  obtain ⟨hm₂, hm₃⟩ := Mem.holds_append.mp hrest
  rw [hobject] at hm₁ hm₂ hm₃
  rw [Mem.shift_shift, hproperty] at hm₂
  rw [Mem.shift_shift, Mem.shift_shift, hproperty, ← Nat.add_assoc 5] at hm₃
  obtain ⟨htag, hid⟩ := decode_encodeContextObjectId htype hinst hm₀
  obtain ⟨hdecode₁, -, hvalue₁⟩ :=
    decode_encodeContextUnsigned (by decide) rpdata.objectProperty.toNat_lt hm₁
  rw [Mem.shift_shift] at hvalue₁
  rw [UInt32.ofNat_toNat] at hvalue₁
  unfold rpAckDecodeServiceRequest
  rw [if_neg (by omega), if_neg (not_not_intro htag), hid]
  simp only [hdecode₁]
  rw [if_neg (by simp), if_neg (by omega), hvalue₁]
  simp only
  rw [if_neg (by omega)]
  have hlen₁ : 5 + 1 + bacnetUnsignedLength rpdata.objectProperty.toNat =
      5 + (1 + bacnetUnsignedLength rpdata.objectProperty.toNat) := by omega
  rw [hlen₁]
  generalize 5 + (1 + bacnetUnsignedLength rpdata.objectProperty.toNat) = pos at *
  by_cases hall : rpdata.arrayIndex = bacnetArrayAll
  · simp only [hall, ne_eq, not_true_eq_false, if_false, List.length_nil,
      Nat.add_zero] at htotal hm₃
    obtain ⟨hdecode₃, hopen⟩ := decode_encodeOpeningTag hm₃
    have hne : ¬ (3 : UInt8) = 2 := by decide
    simp only [hdecode₃, hne, if_false]
    rw [if_neg (by omega), if_pos hopen, if_pos (by omega), htotal, hall]
  · simp only [ne_eq, hall, not_false_eq_true, if_true, hindex] at htotal hm₂ hm₃
    obtain ⟨hdecode₂, hvalue₂, -⟩ :=
      decode_encodeContextUnsigned (by decide) rpdata.arrayIndex.toNat_lt hm₂
    obtain ⟨-, hopen⟩ := decode_encodeOpeningTag hm₃
    rw [Mem.shift_shift] at hvalue₂
    simp only [hdecode₂, if_true, hvalue₂, UInt32.ofNat_toNat]
    rw [Nat.add_assoc pos, if_neg (by omega), if_pos hopen, if_pos (by omega), htotal]

/-! ### The round trip -/

/-- Two `BACnetValue`s for one value differ at most in the name of an enumerated value. -/
theorem Represents.unique {p q : Primitive} {v v' : BACnetValue} (h : Represents p v)
    (h' : Represents q v') (hpq : p = q) :
    v' = v ∨ ∃ n name name', v = .enum n name ∧ v' = .enum n name' := by
  cases h with
  | enumerated n name =>
    cases h' with
    | enumerated n' name' =>
      obtain rfl := UInt32.toNat_inj.mp (Primitive.enumerated.inj hpq)
      exact Or.inr ⟨n, name, name', rfl, rfl⟩
    | _ => cases hpq
  | objectId a b =>
    cases h' with
    | objectId a' b' =>
      obtain ⟨ha, hb⟩ := Primitive.objectId.inj hpq
      obtain rfl := UInt32.toNat_inj.mp ha
      obtain rfl := UInt32.toNat_inj.mp hb
      exact Or.inl rfl
    | _ => cases hpq
  | unsigned n =>
    cases h' with
    | unsigned n' =>
      obtain rfl := UInt64.toNat_inj.mp (Primitive.unsigned.inj hpq)
      exact Or.inl rfl
    | _ => cases hpq
  | signed n =>
    cases h' with
    | signed n' =>
      obtain rfl := Int32.toInt_inj.mp (Primitive.signed.inj hpq)
      exact Or.inl rfl
    | _ => cases hpq
  | real n =>
    cases h' with
    | real n' =>
      obtain rfl := UInt32.toNat_inj.mp (Primitive.real.inj hpq)
      exact Or.inl rfl
    | _ => cases hpq
  | double n =>
    cases h' with
    | double n' =>
      obtain rfl := UInt64.toNat_inj.mp (Primitive.double.inj hpq)
      exact Or.inl rfl
    | _ => cases hpq
  | _ =>
    cases h'
    all_goals cases hpq
    all_goals exact Or.inl rfl

theorem Corresponds.of_represents {value : ApplicationDataValue} {p : Primitive}
    {v v' : BACnetValue} (h : Corresponds value v) (hv : Represents p v) (hv' : Represents p v') :
    Corresponds value v' := by
  rcases hv.unique hv' rfl with rfl | ⟨n, name, name', rfl, rfl⟩
  · exact h
  · cases h with
    | enumerated htag => exact .enumerated htag name'

/-- A value of which the last octets are missing is a decoding error. -/
theorem decodeData_truncated {pages : CodePages} {e : EncodedValue pages} {data : ReadPropertyData}
    {n : Nat} (hdata : data.payload = e.octets.take n) (hnumber : 2 ≤ e.number.toNat)
    (htag : e.tag.length ≤ n) (hn : n < e.octets.length) :
    ∃ err, decodeData data = .error err := by
  have hlen := congrArg List.length hdata
  have hoctets : e.octets.length = e.tag.length + e.contents.length := List.length_append
  rw [ReadPropertyData.payload, Mem.length_slice, List.length_take, Nat.min_eq_left (by omega)]
    at hlen
  have hbegins : e.tag <+: data.payload := by
    rw [hdata]
    exact List.prefix_take_iff.mpr ⟨List.prefix_append _ _, htag⟩
  obtain ⟨hm, hle⟩ := Mem.prefix_slice_iff.mp hbegins
  have hstart : StartsWith data e.tag.length e.number e.length :=
    ⟨isContextSpecific_of_octets e.tagged hm,
      bacnetTagNumberAndValueDecode_of_octets e.tagged hm hle⟩
  have hdatalen : bacappDecodeDataLen e.number e.length = e.length :=
    if_pos ⟨UInt8.le_iff_toNat_le.mpr hnumber, UInt8.le_iff_toNat_le.mpr e.meaning.number_le⟩
  have hcontents := e.meaning.length_eq hnumber
  refine ⟨_, (decodeData_of_tag hstart).trans (if_neg fun hcond => ?_)⟩
  have hroom := hcond.1
  rw [hdatalen] at hroom
  change e.length ≤ data.applicationDataLen - e.tag.length at hroom
  omega

/-- The octets of the acknowledgement. -/
theorem rpAckEncodeApdu_eq (invokeId : UInt8) {rpdata : ReadPropertyData} {octets : List UInt8}
    (hdata : rpdata.payload = octets) :
    rpAckEncodeApdu invokeId rpdata =
      [0x30, invokeId, serviceConfirmedReadProperty] ++ (ackHeader rpdata ++
        (octets.take (maxApdu - (ackHeader rpdata).length - 5) ++ [0x3F])) := by
  have hlen := congrArg List.length hdata
  rw [ReadPropertyData.payload, Mem.length_slice] at hlen
  have hclosing : encodeClosingTag 3 = [0x3F] := rfl
  have hinit : (rpAckEncodeApduInit invokeId rpdata).length = (ackHeader rpdata).length + 3 := by
    rw [rpAckEncodeApduInit_eq, List.length_append, Nat.add_comm]
    rfl
  have himax : maxApdu - ((ackHeader rpdata).length + 3) - 2 =
      maxApdu - (ackHeader rpdata).length - 5 := by omega
  have hslice : ∀ n, rpdata.applicationData.slice (min rpdata.applicationDataLen n) =
      octets.take n := by
    intro n
    have hbegins : rpdata.applicationData.slice (min rpdata.applicationDataLen n) <+: octets := by
      rw [← hdata]
      refine Mem.prefix_slice_iff.mpr ⟨Mem.holds_slice _ _, ?_⟩
      rw [Mem.length_slice]
      exact Nat.min_le_left _ _
    rw [List.prefix_iff_eq_take.mp hbegins, Mem.length_slice, hlen, List.take_eq_take_iff]
    omega
  rw [rpAckEncodeApdu]
  simp only [hinit, himax, hslice]
  rw [rpAckEncodeApduInit_eq, hclosing]
  simp only [List.append_assoc]

/-- The client's decoder on the acknowledgement: what `decode_data` makes of the octets of
the value that were put in. -/
theorem decodeReply_rpAckEncodeApdu (invokeId : UInt8) {rpdata : ReadPropertyData}
    {octets : List UInt8} (beyond : Mem) (htype : rpdata.objectType.toNat ≤ bacnetMaxObject)
    (hinst : rpdata.objectInstance.toNat ≤ bacnetMaxInstance) (hdata : rpdata.payload = octets) :
    ∃ data : ReadPropertyData,
      decodeReply ((Mem.overlay (rpAckEncodeApdu invokeId rpdata) beyond).shift 3)
        ((rpAckEncodeApdu invokeId rpdata).length - 3) = decodeData data ∧
      data.payload = octets.take (maxApdu - (ackHeader rpdata).length - 5) := by
  have hm := Mem.holds_overlay (rpAckEncodeApdu invokeId rpdata) beyond
  generalize Mem.overlay (rpAckEncodeApdu invokeId rpdata) beyond = m at hm ⊢
  rw [rpAckEncodeApdu_eq invokeId hdata] at hm ⊢
  have hservice := hm.right
  have hlen3 : [0x30, invokeId, serviceConfirmedReadProperty].length = 3 := rfl
  rw [hlen3] at hservice
  have hdecode := rpAckDecodeServiceRequest_ackHeader
    (ackHeader rpdata ++
      (octets.take (maxApdu - (ackHeader rpdata).length - 5) ++ [0x3F])).length
    htype hinst hservice.left (by simp)
  rw [List.length_append, hlen3, Nat.add_sub_cancel_left, decodeReply, hdecode]
  refine ⟨_, rfl, ?_⟩
  have hvalue := hservice.right.left
  rw [ReadPropertyData.payload]
  simp only [List.length_append, List.length_singleton]
  rw [Nat.add_sub_cancel_left, Nat.add_sub_cancel]
  exact hvalue.slice_eq

section RoundTrip

variable (invokeId : UInt8) (beyond : Mem) {rpdata : ReadPropertyData}
  {value : ApplicationDataValue} {octets : List UInt8}

theorem length_rpAckEncodeApduInit (rpdata : ReadPropertyData) :
    (rpAckEncodeApduInit invokeId rpdata).length = (ackHeader rpdata).length + 3 := by
  rw [rpAckEncodeApduInit_eq, List.length_append, Nat.add_comm]
  rfl

/-- An acknowledgement below `MAX_APDU` brings the value back. -/
theorem roundTrip_ok (htype : rpdata.objectType.toNat ≤ bacnetMaxObject)
    (hinst : rpdata.objectInstance.toNat ≤ bacnetMaxInstance) (hvalue : Supported value)
    (henc : bacappEncodeApplicationData value = some octets) (hdata : rpdata.payload = octets)
    (hlt : (rpAckEncodeApduInit invokeId rpdata).length + octets.length + 1 < maxApdu) :
    ∃ v, decodeReply ((Mem.overlay (rpAckEncodeApdu invokeId rpdata) beyond).shift 3)
      ((rpAckEncodeApdu invokeId rpdata).length - 3) = .ok v ∧ Corresponds value v := by
  obtain ⟨v, hv⟩ := hvalue
  obtain ⟨e, rfl, haccepted, hlegible, hrep⟩ :=
    encoded_of_corresponds ⟨fun _ => none, fun _ => none⟩ hv henc
  obtain ⟨data, hreply, hpayload⟩ :=
    decodeReply_rpAckEncodeApdu invokeId beyond htype hinst hdata
  rw [length_rpAckEncodeApduInit] at hlt
  rw [List.take_of_length_le (by omega)] at hpayload
  have hbegins : e.octets <+: data.payload := ⟨[], by rw [hpayload, List.append_nil]⟩
  obtain ⟨v', hv', hrep'⟩ := decodeData_accepted hbegins haccepted
  exact ⟨v', hreply.trans hv', hv.of_represents hrep (hrep'.mpr hlegible)⟩

/-- One of exactly `MAX_APDU` octets loses the last octet of the value, and is refused. -/
theorem roundTrip_full (htype : rpdata.objectType.toNat ≤ bacnetMaxObject)
    (hinst : rpdata.objectInstance.toNat ≤ bacnetMaxInstance) (hvalue : Supported value)
    (henc : bacappEncodeApplicationData value = some octets) (hdata : rpdata.payload = octets)
    (hfull : (rpAckEncodeApduInit invokeId rpdata).length + octets.length + 1 = maxApdu) :
    ∃ err, decodeReply ((Mem.overlay (rpAckEncodeApdu invokeId rpdata) beyond).shift 3)
      ((rpAckEncodeApdu invokeId rpdata).length - 3) = .error err := by
  obtain ⟨v, hv⟩ := hvalue
  obtain ⟨e, rfl, -, -, -⟩ := encoded_of_corresponds ⟨fun _ => none, fun _ => none⟩ hv henc
  obtain ⟨data, hreply, hpayload⟩ :=
    decodeReply_rpAckEncodeApdu invokeId beyond htype hinst hdata
  obtain ⟨-, hheader⟩ := length_ackHeader rpdata
  rw [length_rpAckEncodeApduInit] at hfull
  have hmax : maxApdu = 1476 := rfl
  have hshort : maxApdu - (ackHeader rpdata).length - 5 = e.octets.length - 1 := by omega
  have htaglen := e.tagged.length_le
  have hlen : e.tag.length + e.contents.length = e.octets.length := List.length_append.symm
  -- only a long value fills the acknowledgement, and null and booleans have no contents
  have hnumber : 2 ≤ e.number.toNat := by
    by_contra hlt
    have hnil := e.meaning.nil_of_lt (Nat.lt_of_not_le hlt)
    rw [hnil, List.length_nil] at hlen
    omega
  rw [hshort] at hpayload
  obtain ⟨err, herr⟩ := decodeData_truncated hpayload hnumber (by omega) (by omega)
  exact ⟨err, hreply.trans herr⟩

/-- A value that is encoded, acknowledged and decoded is returned as it was, exactly when
the acknowledgement stays below `MAX_APDU`. -/
theorem roundTrip_iff (htype : rpdata.objectType.toNat ≤ bacnetMaxObject)
    (hinst : rpdata.objectInstance.toNat ≤ bacnetMaxInstance) (hvalue : Supported value)
    (henc : bacappEncodeApplicationData value = some octets) (hdata : rpdata.payload = octets)
    (hfit : (rpAckEncodeApduInit invokeId rpdata).length + octets.length + 1 ≤ maxApdu) :
    (∃ v, decodeReply ((Mem.overlay (rpAckEncodeApdu invokeId rpdata) beyond).shift 3)
        ((rpAckEncodeApdu invokeId rpdata).length - 3) = .ok v ∧ Corresponds value v) ↔
      (rpAckEncodeApduInit invokeId rpdata).length + octets.length + 1 < maxApdu := by
  constructor
  · rintro ⟨v, hv, -⟩
    by_contra hfull
    obtain ⟨err, herr⟩ := roundTrip_full invokeId beyond htype hinst hvalue henc hdata
      (by omega)
    rw [herr] at hv
    cases hv
  · exact roundTrip_ok invokeId beyond htype hinst hvalue henc hdata

end RoundTrip

theorem unsigned_returned :
    ∃ v, decodeReply ((Mem.overlay (rpAckEncodeApdu 1 (ackWith [0x21, 5])) fun _ => 0).shift 3)
        ((rpAckEncodeApdu 1 (ackWith [0x21, 5])).length - 3) = .ok v ∧
      Corresponds { ApplicationDataValue.default with tag := 2, unsignedInt := 5 } v :=
  (roundTrip_iff 1 (fun _ => 0) (show (ackWith [0x21, 5]).objectType.toNat ≤ bacnetMaxObject by decide)
    (by decide) ⟨_, .unsigned rfl⟩ rfl
    (payload_ackWith [0x21, 5]) (by decide)).mpr (by decide)

theorem length_utf8Octets_letters (n : Nat) : (utf8Octets (List.replicate n 'a')).length = n := by
  induction n with
  | zero => rfl
  | succ n ih =>
    have hcons : utf8Octets (List.replicate (n + 1) 'a') =
        0x61 :: utf8Octets (List.replicate n 'a') := rfl
    rw [hcons, List.length_cons, ih]

/-- A text of 1459 letters fills the acknowledgement, and does not come back. -/
theorem fullText_lost :
    ∃ (value : ApplicationDataValue) (octets : List UInt8), Supported value ∧
      bacappEncodeApplicationData value = some octets ∧
      (rpAckEncodeApduInit 1 (ackWith octets)).length + octets.length + 1 ≤ maxApdu ∧
      ¬ ∃ v, decodeReply
          ((Mem.overlay (rpAckEncodeApdu 1 (ackWith octets)) fun _ => 0).shift 3)
          ((rpAckEncodeApdu 1 (ackWith octets)).length - 3) = .ok v ∧
        Corresponds value v := by
  obtain ⟨chars, hchars⟩ : ∃ chars : List Char, chars = List.replicate 1459 'a' := ⟨_, rfl⟩
  have hlen : (utf8Octets chars).length = 1459 := by
    rw [hchars, length_utf8Octets_letters]
  have hnul : Char.ofNat 0 ∉ chars := by
    rw [hchars, List.mem_replicate]
    intro h
    exact absurd h.2 (by decide)
  have hsupported : Supported { ApplicationDataValue.default with
      tag := 7, characterString := ⟨0, utf8Octets chars⟩ } := by
    refine ⟨_, .characterString (s := String.ofList chars) rfl rfl ?_ ?_ ?_⟩
    · rw [String.toList_ofList]
    · rwa [String.toList_ofList]
    · change (utf8Octets chars).length ≤ characterStringCapacity
      rw [hlen]
      decide
  have henc : encodeApplicationCharacterString ⟨0, utf8Octets chars⟩ =
      [0x75, 254, 0x05, 0xB4] ++ 0 :: utf8Octets chars := by
    have htag : encodeTag 7 false (1459 + 1) = [0x75, 254, 0x05, 0xB4] := by decide
    simp only [encodeApplicationCharacterString, encodeBacnetCharacterString,
      encodeBacnetCharacterStringSafe, hlen, htag]
    rfl
  obtain ⟨octets, hoctets⟩ : ∃ octets, octets = [0x75, 254, 0x05, 0xB4] ++ 0 :: utf8Octets chars :=
    ⟨_, rfl⟩
  have hsize : octets.length = 1464 := by
    rw [hoctets, List.length_append, List.length_cons (a := 0), hlen]
    rfl
  have hvalue : bacappEncodeApplicationData { ApplicationDataValue.default with
      tag := 7, characterString := ⟨0, utf8Octets chars⟩ } = some octets :=
    congrArg some (henc.trans hoctets.symm)
  have hinit : (rpAckEncodeApduInit 1 (ackWith octets)).length = 11 := rfl
  have hmax : maxApdu = 1476 := rfl
  have htype : (ackWith octets).objectType.toNat ≤ bacnetMaxObject := show 2 ≤ bacnetMaxObject by
    decide
  obtain ⟨err, herr⟩ := roundTrip_full 1 (fun _ => 0) htype
    (show 1 ≤ bacnetMaxInstance by decide) hsupported hvalue (payload_ackWith octets) (by omega)
  refine ⟨_, octets, hsupported, hvalue, by omega, ?_⟩
  rintro ⟨v, hv, -⟩
  rw [herr] at hv
  cases hv

end Bacnet
