import Bacnet.DiscoveredAddress
import Bacnet.ReceiveBuffer
import Bacnet.RoundTrip

/-!
# Bacnet.IAmBodies

The I-Am service request, from the octets to the record that `i_am_handler` appends.

Two grammars stand side by side. `IAmBody` is a well-formed request. `IAmLike` is what
`iam_decode_service_request` accepts, exactly: it does not know where the message ends, looks
at the number of a tag only, and a length that it has no number for reads as a number of no
octets. A well-formed request is like one; the handler is right about the others exactly if
nothing like a request stands in memory.
-/

namespace Bacnet

open Bacnet.Lib

variable {m : Mem} {octets : List UInt8}

/-! ### Requests -/

/-- The fields of an I-Am. -/
structure IAmFields where
  deviceInstance : Nat
  maxApdu : Nat
  segmentation : Nat
  vendorId : Nat

/-- The octets of an I-Am service request with these fields. -/
inductive IAmBody : List UInt8 → IAmFields → Prop
  | mk {idTag idOctets apduOctets segmentationOctets vendorOctets : List UInt8}
      {fields : IAmFields} (htag : TagOctets false idTag 12 4) (hlen : idOctets.length = 4)
      (hid : ofBe idOctets = 8 * 2 ^ 22 + fields.deviceInstance)
      (hinstance : fields.deviceInstance ≤ 4194303)
      (hmaxApdu : NumberField 2 8 apduOctets fields.maxApdu)
      (hsegmentation : NumberField 9 4 segmentationOctets fields.segmentation)
      (hfour : fields.segmentation < 4) (hvendor : NumberField 2 8 vendorOctets fields.vendorId)
      (h16 : fields.vendorId ≤ 0xFFFF) :
      IAmBody (idTag ++ (idOctets ++ (apduOctets ++ (segmentationOctets ++ vendorOctets)))) fields

/-- The octets that are read as a tag: one of either class, or an opening or closing tag. -/
inductive TagLike : List UInt8 → UInt8 → Nat → Prop
  | tag {contextSpecific : Bool} {t : List UInt8} {number : UInt8} {length : Nat}
      (h : TagOctets contextSpecific t number length) : TagLike t number length
  | paired {field kind : Nat} {octets : List UInt8} {number : UInt8} (contextSpecific : Bool)
      (hnumber : NumberOctets field octets number) (hkind : kind = 6 ∨ kind = 7) :
      TagLike (initialOctet field contextSpecific kind :: octets) number 0

/-- The octets that are read as a number of `length` octets: none, if the length is 0 or too
large, and then the number is 0 or the one that was read before. -/
inductive NumberLike (max kept : Nat) : Nat → List UInt8 → Nat → Prop
  | read {contents : List UInt8} (hpos : 0 < contents.length) (hmax : contents.length ≤ max) :
      NumberLike max kept contents.length contents (ofBe contents)
  | empty : NumberLike max kept 0 [] 0
  | long {length : Nat} (h : max < length) : NumberLike max kept length [] kept

/-- The octets that are accepted as an I-Am service request, and what is read from them. -/
inductive IAmLike : List UInt8 → IAm → Prop
  | mk {idTag idOctets apduTag apduOctets segmentationTag segmentationOctets vendorTag
        vendorOctets : List UInt8}
      {idLength deviceInstance apduLength maxApdu segmentationLength segmentation vendorLength
        vendorId : Nat}
      (hidTag : TagLike idTag 12 idLength) (hlen : idOctets.length = 4)
      (hid : ofBe idOctets = 8 * 2 ^ 22 + deviceInstance) (hinstance : deviceInstance ≤ 4194303)
      (hapduTag : TagLike apduTag 2 apduLength)
      (hmaxApdu : NumberLike 8 0 apduLength apduOctets maxApdu)
      (hsegmentationTag : TagLike segmentationTag 9 segmentationLength)
      (hsegmentation : NumberLike 4 0 segmentationLength segmentationOctets segmentation)
      (hfour : segmentation < 4) (hvendorTag : TagLike vendorTag 2 vendorLength)
      (hvendor : NumberLike 8 maxApdu vendorLength vendorOctets vendorId)
      (h16 : vendorId ≤ 0xFFFF) :
      IAmLike
        (idTag ++ (idOctets ++ (apduTag ++ (apduOctets ++
          (segmentationTag ++ (segmentationOctets ++ (vendorTag ++ vendorOctets)))))))
        ⟨UInt32.ofNat deviceInstance, UInt32.ofNat maxApdu, UInt32.ofNat segmentation,
          UInt16.ofNat vendorId⟩

/-! ### What a device encodes -/

/-- `iam_encode_apdu`. -/
def iamEncodeApdu (deviceId maxApdu segmentation : UInt32) (vendorId : UInt16) : List UInt8 :=
  -- PDU_TYPE_UNCONFIRMED_SERVICE_REQUEST, SERVICE_UNCONFIRMED_I_AM
  [0x10, 0] ++ (encodeApplicationObjectId 8 deviceId ++
    (encodeApplicationUnsigned maxApdu.toUInt64 ++ (encodeApplicationEnumerated segmentation ++
      encodeApplicationUnsigned vendorId.toUInt64)))

theorem numberField_encode (number : UInt8) {max value : Nat} (hvalue : value < 2 ^ 64)
    (hmax : bacnetUnsignedLength value ≤ max) :
    NumberField number max
      (encodeTag number false (bacnetUnsignedLength value) ++ encodeBacnetUnsigned value)
      value := by
  obtain ⟨h1, h8, -⟩ := bacnetUnsignedLength_spec hvalue
  have hlen : (encodeBacnetUnsigned value).length = bacnetUnsignedLength value := length_toBe _ _
  have htag : TagOctets false (encodeTag number false (bacnetUnsignedLength value)) number
      (encodeBacnetUnsigned value).length := by
    rw [hlen]
    exact encodeTag_octets number false (by omega)
  have hfield : NumberField number max _ (ofBe (encodeBacnetUnsigned value)) :=
    .mk htag (by omega) (by omega)
  rw [ofBe_encodeBacnetUnsigned hvalue] at hfield
  exact hfield

theorem numberField_unsigned (value : UInt64) :
    NumberField 2 8 (encodeApplicationUnsigned value) value.toNat :=
  numberField_encode 2 value.toNat_lt (bacnetUnsignedLength_spec value.toNat_lt).2.1

theorem numberField_enumerated (value : UInt32) :
    NumberField 9 4 (encodeApplicationEnumerated value) value.toNat := by
  have hlt := value.toNat_lt
  have hfield := numberField_encode 9 (show value.toNat < 2 ^ 64 by omega)
    (bacnetUnsignedLength_le hlt)
  rwa [encodeApplicationEnumerated, encodeBacnetEnumerated, encodeBacnetUnsigned, length_toBe]

/-- What a device encodes is a well-formed request. -/
theorem iamBody_encode {deviceId segmentation : UInt32} (maxApdu : UInt32) (vendorId : UInt16)
    (hid : deviceId.toNat ≤ bacnetMaxInstance) (hfour : segmentation.toNat < 4) :
    IAmBody ((iamEncodeApdu deviceId maxApdu segmentation vendorId).drop 2)
      ⟨deviceId.toNat, maxApdu.toNat, segmentation.toNat, vendorId.toNat⟩ := by
  have hlt := vendorId.toNat_lt
  have htag : TagOctets false (encodeTag 12 false 4) 12 4 := encodeTag_octets 12 false (by decide)
  have hlen : (encodeBacnetObjectId 8 deviceId).length = 4 := length_toBe _ _
  have hobject : ofBe (encodeBacnetObjectId 8 deviceId) = 8 * 2 ^ 22 + deviceId.toNat :=
    ofBe_encodeBacnetObjectId (by decide) hid
  have hapdu := numberField_unsigned maxApdu.toUInt64
  have hvendor := numberField_unsigned vendorId.toUInt64
  rw [UInt32.toNat_toUInt64] at hapdu
  rw [UInt16.toNat_toUInt64] at hvendor
  have hbody : IAmBody _ ⟨deviceId.toNat, maxApdu.toNat, segmentation.toNat, vendorId.toNat⟩ :=
    .mk htag hlen hobject hid hapdu (numberField_enumerated segmentation) hfour hvendor
      (Nat.le_of_lt_succ hlt)
  rw [← List.append_assoc] at hbody
  exact hbody

/-! ### Tags and numbers, as they are read -/

theorem TagLike.decode {t : List UInt8} {number : UInt8} {length : Nat}
    (h : TagLike t number length) (hm : m.Holds t) :
    decodeTagNumberAndValue m = (t.length, ⟨number, length⟩) := by
  cases h with
  | tag h => exact decodeTagNumberAndValue_of_octets h hm
  | @paired field kind octets _ contextSpecific hnumber hkind =>
      have hfield := hnumber.field_le
      have hc := contextSpecific.toNat_le
      obtain ⟨h0, hrest⟩ := Mem.holds_cons.mp hm
      have hvalue : (m 0).toNat = 16 * field + 8 * contextSpecific.toNat + kind := by
        rw [h0, toNat_initialOctet contextSpecific hfield (by omega)]
      have h16 : (m 0).toNat / 16 = field := by omega
      have h8 : (m 0).toNat % 8 = kind := by omega
      unfold decodeTagNumberAndValue
      rw [decodeTagNumber_of_octets hnumber h16 hrest, isExtendedValue_eq, isOpeningTag_eq,
        isClosingTag_eq, h8, List.length_cons, Nat.add_comm]
      rcases hkind with rfl | rfl
      · rfl
      · rfl

theorem exists_numberOctets (m : Mem) {field : Nat} (h : field ≤ 15) :
    ∃ octets number, NumberOctets field octets number ∧ m.Holds octets := by
  by_cases h15 : field = 15
  · subst h15
    exact ⟨[m 0], m 0, .extended _, Mem.holds_cons.mpr ⟨rfl, Mem.holds_nil _⟩⟩
  · have hval : (UInt8.ofNat field).toNat = field := by
      rw [UInt8.toNat_ofNat']
      omega
    have hshort : NumberOctets (UInt8.ofNat field).toNat [] (UInt8.ofNat field) :=
      .short (by omega)
    rw [hval] at hshort
    exact ⟨[], _, hshort, Mem.holds_nil _⟩

theorem exists_lengthOctets (m : Mem) {field : Nat} (h : field ≤ 5) :
    ∃ octets length, LengthOctets field octets length ∧ m.Holds octets := by
  by_cases h5 : field = 5
  · subst h5
    by_cases h255 : m 0 = 255
    · exact ⟨_, _, .four _ _ _ _,
        Mem.holds_cons.mpr ⟨h255, Mem.holds_slice (m.shift 1) 4⟩⟩
    · by_cases h254 : m 0 = 254
      · exact ⟨_, _, .two _ _, Mem.holds_cons.mpr ⟨h254, Mem.holds_slice (m.shift 1) 2⟩⟩
      · have hlt : (m 0).toNat < 254 := by
          have hb := (m 0).toNat_lt
          have h255' : (m 0).toNat ≠ 255 := fun he => h255 (UInt8.toNat_inj.mp he)
          have h254' : (m 0).toNat ≠ 254 := fun he => h254 (UInt8.toNat_inj.mp he)
          omega
        exact ⟨_, _, .one hlt, Mem.holds_cons.mpr ⟨rfl, Mem.holds_nil _⟩⟩
  · exact ⟨[], field, .short (by omega), Mem.holds_nil _⟩

/-- Whatever stands in memory starts with something that is read as a tag. -/
theorem exists_tagLike (m : Mem) : ∃ t number length, TagLike t number length ∧ m.Holds t := by
  have hb := (m 0).toNat_lt
  have h0 : m 0 = initialOctet ((m 0).toNat / 16) (isContextSpecific (m 0)) ((m 0).toNat % 8) :=
    eq_initialOctet rfl
  obtain ⟨octets, number, hnumber, hm⟩ :=
    exists_numberOctets (m.shift 1) (show (m 0).toNat / 16 ≤ 15 by omega)
  by_cases hkind : (m 0).toNat % 8 ≤ 5
  · obtain ⟨octets', length, hlength, hm'⟩ :=
      exists_lengthOctets ((m.shift 1).shift octets.length) hkind
    exact ⟨_, number, length, .tag (.mk hnumber hlength),
      Mem.holds_cons.mpr ⟨h0, Mem.holds_append.mpr ⟨hm, hm'⟩⟩⟩
  · exact ⟨_, number, 0, .paired _ hnumber (by omega), Mem.holds_cons.mpr ⟨h0, hm⟩⟩

theorem NumberLike.decode {max kept length value : Nat} {contents : List UInt8}
    (h : NumberLike max kept length contents value) (h8 : max ≤ 8) (hm : m.Holds contents) :
    bacnetUnsignedDecode m max length kept = (contents.length, value) := by
  unfold bacnetUnsignedDecode
  cases h with
  | read hpos hmax => rw [if_pos hmax, if_pos ⟨hpos, Nat.le_trans hmax h8⟩, hm.be_eq]
  | empty => exact if_pos (Nat.zero_le _)
  | long h => rw [if_neg (by omega), List.length_nil]

theorem exists_numberLike (m : Mem) (max kept length : Nat) :
    ∃ contents value, NumberLike max kept length contents value ∧ m.Holds contents := by
  by_cases hmax : length ≤ max
  · by_cases h0 : length = 0
    · subst h0
      exact ⟨[], 0, .empty, Mem.holds_nil _⟩
    · have hlen := Mem.length_slice m length
      have hread : NumberLike max kept (m.slice length).length (m.slice length)
          (ofBe (m.slice length)) := .read (by omega) (by omega)
      rw [hlen] at hread
      exact ⟨_, _, hread, Mem.holds_slice m length⟩
  · exact ⟨[], kept, .long (by omega), Mem.holds_nil _⟩

theorem NumberField.numberLike {number : UInt8} {max value : Nat} {octets : List UInt8}
    (h : NumberField number max octets value) (kept : Nat) :
    ∃ tag contents length, octets = tag ++ contents ∧ TagLike tag number length ∧
      NumberLike max kept length contents value := by
  cases h with
  | mk htag hpos hmax => exact ⟨_, _, _, rfl, .tag htag, .read hpos hmax⟩

/-! ### What is accepted -/

theorem decodeObjectId_of_octets {o : List UInt8} {deviceInstance : Nat} (hm : m.Holds o)
    (hlen : o.length = 4) (hid : ofBe o = 8 * 2 ^ 22 + deviceInstance)
    (hinstance : deviceInstance ≤ 4194303) :
    decodeObjectId m = (8, UInt32.ofNat deviceInstance) := by
  obtain ⟨htype, hvalue⟩ := toNat_decodeObjectId hm hlen
  refine Prod.ext (UInt32.toNat_inj.mp ?_) (UInt32.toNat_inj.mp ?_)
  · rw [htype, hid]
    simp only [UInt32.reduceToNat]
    omega
  · rw [hvalue, hid, UInt32.toNat_ofNat']
    omega

theorem four_le_ofNat_iff {n : Nat} (h : n < 2 ^ 32) : UInt32.ofNat n ≥ 4 ↔ 4 ≤ n := by
  rw [ge_iff_le, UInt32.le_iff_toNat_le, UInt32.toNat_ofNat', Nat.mod_eq_of_lt h]
  rfl

theorem NumberLike.lt {max kept length value : Nat} {contents : List UInt8}
    (h : NumberLike max kept length contents value) (hkept : kept < 256 ^ max) :
    value < 256 ^ max := by
  cases h with
  | read hpos hmax => exact Nat.lt_of_lt_of_le (ofBe_lt _) (Nat.pow_le_pow_right (by decide) hmax)
  | empty => exact Nat.pow_pos (by decide)
  | long h => exact hkept

/-- A request that is like an I-Am is decoded. -/
theorem IAmLike.decode {i : IAm} (h : IAmLike octets i) (hm : m.Holds octets) :
    iamDecodeServiceRequest m = some i := by
  cases h with
  | mk hidTag hlen hid hinstance hapduTag hmaxApdu hsegmentationTag hsegmentation hfour hvendorTag
      hvendor h16 =>
      obtain ⟨h1, hm⟩ := Mem.holds_append.mp hm
      obtain ⟨h2, hm⟩ := Mem.holds_append.mp hm
      obtain ⟨h3, hm⟩ := Mem.holds_append.mp hm
      obtain ⟨h4, hm⟩ := Mem.holds_append.mp hm
      obtain ⟨h5, hm⟩ := Mem.holds_append.mp hm
      obtain ⟨h6, hm⟩ := Mem.holds_append.mp hm
      obtain ⟨h7, h8⟩ := Mem.holds_append.mp hm
      simp only [Mem.shift_shift, hlen] at h3 h4 h5 h6 h7 h8
      have hobject := decodeObjectId_of_octets h2 hlen hid hinstance
      have hseg : ¬ UInt32.ofNat _ ≥ 4 := fun h4 =>
        Nat.not_le.mpr hfour ((four_le_ofNat_iff (hsegmentation.lt (by decide))).mp h4)
      simp only [iamDecodeServiceRequest, hidTag.decode h1, hobject, hapduTag.decode h3,
        decodeUnsigned, hmaxApdu.decode (by decide) h4, hsegmentationTag.decode h5,
        decodeEnumerated_eq, hsegmentation.decode (by decide) h6, hvendorTag.decode h7,
        hvendor.decode (by decide) h8, hseg, not_true, ne_eq, if_false, gt_iff_lt,
        Nat.not_lt.mpr h16]

theorem device_of_decodeObjectId {o : List UInt8} (hm : m.Holds o) (hlen : o.length = 4)
    (htype : (decodeObjectId m).1 = 8) : ofBe o = 8 * 2 ^ 22 + ofBe o % 2 ^ 22 := by
  have hdiv : ofBe o / 2 ^ 22 = 8 := by
    rw [← (toNat_decodeObjectId hm hlen).1, htype]
    rfl
  omega

/-- Nothing else is. -/
theorem exists_iAmLike {i : IAm} (h : iamDecodeServiceRequest m = some i) :
    ∃ octets, IAmLike octets i ∧ m.Holds octets := by
  obtain ⟨idTag, number₁, length₁, htag₁, hm₁⟩ := exists_tagLike m
  have hid := Mem.holds_slice (m.shift idTag.length) 4
  have hidLen := Mem.length_slice (m.shift idTag.length) 4
  obtain ⟨apduTag, number₂, length₂, htag₂, hm₂⟩ := exists_tagLike (m.shift (idTag.length + 4))
  obtain ⟨apduOctets, maxApdu, hvalue₂, hm₂'⟩ :=
    exists_numberLike (m.shift (idTag.length + 4 + apduTag.length)) 8 0 length₂
  obtain ⟨segmentationTag, number₃, length₃, htag₃, hm₃⟩ :=
    exists_tagLike (m.shift (idTag.length + 4 + apduTag.length + apduOctets.length))
  obtain ⟨segmentationOctets, segmentation, hvalue₃, hm₃'⟩ :=
    exists_numberLike (m.shift (idTag.length + 4 + apduTag.length + apduOctets.length +
      segmentationTag.length)) 4 0 length₃
  obtain ⟨vendorTag, number₄, length₄, htag₄, hm₄⟩ :=
    exists_tagLike (m.shift (idTag.length + 4 + apduTag.length + apduOctets.length +
      segmentationTag.length + segmentationOctets.length))
  obtain ⟨vendorOctets, vendorId, hvalue₄, hm₄'⟩ :=
    exists_numberLike (m.shift (idTag.length + 4 + apduTag.length + apduOctets.length +
      segmentationTag.length + segmentationOctets.length + vendorTag.length)) 8 maxApdu length₄
  have hholds : m.Holds (idTag ++ ((m.shift idTag.length).slice 4 ++ (apduTag ++ (apduOctets ++
      (segmentationTag ++ (segmentationOctets ++ (vendorTag ++ vendorOctets))))))) := by
    simp only [Mem.holds_append, Mem.shift_shift, hidLen]
    exact ⟨hm₁, hid, hm₂, hm₂', hm₃, hm₃', hm₄, hm₄'⟩
  simp only [iamDecodeServiceRequest, htag₁.decode hm₁, htag₂.decode hm₂, decodeUnsigned,
    hvalue₂.decode (by decide) hm₂', htag₃.decode hm₃, decodeEnumerated_eq,
    hvalue₃.decode (by decide) hm₃', htag₄.decode hm₄, hvalue₄.decode (by decide) hm₄', ne_eq,
    ite_not, Option.ite_none_right_eq_some, Option.ite_none_left_eq_some] at h
  obtain ⟨h12, h8, h2, h9, hfour, h2', h16, hi⟩ := h
  have hdevice := device_of_decodeObjectId hid hidLen h8
  have hinstance : ofBe ((m.shift idTag.length).slice 4) % 2 ^ 22 ≤ 4194303 := by omega
  rw [decodeObjectId_of_octets hid hidLen hdevice hinstance] at hi
  cases hi
  subst h12 h2 h9 h2'
  exact ⟨_, .mk htag₁ hidLen hdevice hinstance htag₂ hvalue₂ htag₃ hvalue₃
    ((four_le_ofNat_iff (hvalue₃.lt (by decide))).not.mp hfour |> Nat.lt_of_not_le) htag₄ hvalue₄
    (Nat.le_of_not_lt h16), hholds⟩

theorem iamDecodeServiceRequest_eq_some_iff {i : IAm} :
    iamDecodeServiceRequest m = some i ↔ ∃ octets, IAmLike octets i ∧ m.Holds octets :=
  ⟨exists_iAmLike, fun ⟨_, hlike, hm⟩ => hlike.decode hm⟩

/-! ### What stands behind a request -/

theorem TagLike.length_le {t : List UInt8} {number : UInt8} {length : Nat}
    (h : TagLike t number length) : t.length ≤ 7 := by
  cases h with
  | tag h => exact h.length_le
  | paired contextSpecific hnumber hkind =>
      rw [List.length_cons]
      cases hnumber with
      | short h => simp
      | extended b => simp

theorem NumberLike.length_le {max kept length value : Nat} {contents : List UInt8}
    (h : NumberLike max kept length contents value) : contents.length ≤ max := by
  cases h with
  | read hpos hmax => exact hmax
  | empty => exact Nat.zero_le _
  | long h => exact Nat.zero_le _

/-- How far a request is read. -/
theorem IAmLike.length_le {i : IAm} (h : IAmLike octets i) : octets.length ≤ 52 := by
  cases h with
  | mk hidTag hlen hid hinstance hapduTag hmaxApdu hsegmentationTag hsegmentation hfour hvendorTag
      hvendor h16 =>
      have h₁ := hidTag.length_le
      have h₂ := hapduTag.length_le
      have h₃ := hmaxApdu.length_le
      have h₄ := hsegmentationTag.length_le
      have h₅ := hsegmentation.length_le
      have h₆ := hvendorTag.length_le
      have h₇ := hvendor.length_le
      simp only [List.length_append]
      omega

theorem holds_of_agree {m' : Mem} {n : Nat} (h : Mem.Agree n m m') (hlen : octets.length ≤ n)
    (hm : m.Holds octets) : m'.Holds octets :=
  fun i hi => (h i (Nat.lt_of_lt_of_le hi hlen)).symm.trans (hm i hi)

theorem iamDecodeServiceRequest_agree {m' : Mem} (h : Mem.Agree 52 m m') :
    iamDecodeServiceRequest m = iamDecodeServiceRequest m' := by
  have hsymm : Mem.Agree 52 m' m := fun i hi => (h i hi).symm
  refine Option.ext fun i => ?_
  rw [iamDecodeServiceRequest_eq_some_iff, iamDecodeServiceRequest_eq_some_iff]
  constructor
  · rintro ⟨octets, hlike, hm⟩
    exact ⟨octets, hlike, holds_of_agree h hlike.length_le hm⟩
  · rintro ⟨octets, hlike, hm⟩
    exact ⟨octets, hlike, holds_of_agree hsymm hlike.length_le hm⟩

/-- Octets with zeros behind them. -/
theorem slice_overlay_zero (l : List UInt8) (k : Nat) :
    (Mem.overlay l fun _ => 0).slice (l.length + k) = l ++ List.replicate k 0 := by
  rw [Mem.slice_add, (Mem.holds_overlay l _).slice_eq]
  refine congrArg (l ++ ·) (List.ext_getElem (by simp) fun i hi hi' => ?_)
  simp [Mem.slice, Mem.overlay, List.getD_eq_getElem?_getD]

/-- A request in the receive buffer is decoded like one with nothing but zeros behind it and
its tail. -/
theorem iamDecodeServiceRequest_inBuffer {request : Mem} {body tail : List UInt8}
    (h : InBuffer request body tail) :
    iamDecodeServiceRequest request =
      iamDecodeServiceRequest (Mem.overlay (body ++ tail) fun _ => 0) := by
  obtain ⟨zeros, hm, hroom⟩ := h
  have hsame : Mem.Agree ((body ++ tail).length + zeros) request
      (Mem.overlay (body ++ tail) fun _ => 0) := by
    have hslice := slice_overlay_zero (body ++ tail) zeros
    rw [← List.append_assoc] at hm
    have hlen : (body ++ tail ++ List.replicate zeros 0).length =
        (body ++ tail).length + zeros := by
      rw [List.length_append, List.length_replicate]
    intro i hi
    have hzeros := Mem.holds_slice (Mem.overlay (body ++ tail) fun _ => 0)
      ((body ++ tail).length + zeros)
    rw [hslice] at hzeros
    rw [hm i (by omega), hzeros i (by omega)]
  rcases hroom with hzeros | hlong
  · refine iamDecodeServiceRequest_congr (n := (body ++ tail).length)
      ⟨hsame.mono (by omega), fun i hi _ => ?_⟩
    simp [Mem.overlay, List.getD_eq_getElem?_getD, List.getElem?_eq_none hi]
  · refine iamDecodeServiceRequest_agree (hsame.mono ?_)
    rw [List.length_append]
    omega

/-- What is not decoded does not start like a request, read on into what stands behind it. -/
theorem iamDecodeServiceRequest_eq_none_iff {request : Mem} {body tail : List UInt8}
    (h : InBuffer request body tail) :
    iamDecodeServiceRequest request = none ↔
      ∀ octets i zeros, IAmLike octets i →
        ¬ octets <+: body ++ (tail ++ List.replicate zeros 0) := by
  have hstart : ∀ octets zeros, octets <+: body ++ (tail ++ List.replicate zeros 0) →
      (Mem.overlay (body ++ tail) fun _ => 0).Holds octets := by
    intro octets zeros hpre
    rw [← List.append_assoc, ← slice_overlay_zero] at hpre
    exact (Mem.prefix_slice_iff.mp hpre).1
  rw [iamDecodeServiceRequest_inBuffer h, Option.eq_none_iff_forall_ne_some]
  constructor
  · intro hnone octets i zeros hlike hpre
    exact hnone i (hlike.decode (hstart octets zeros hpre))
  · intro hno i hi
    obtain ⟨octets, hlike, hholds⟩ := exists_iAmLike hi
    refine hno octets i octets.length hlike ?_
    rw [← List.append_assoc, ← slice_overlay_zero]
    exact Mem.prefix_slice_iff.mpr ⟨hholds, Nat.le_add_left _ _⟩

/-- A well-formed request is like one. -/
theorem IAmBody.iAmLike {body : List UInt8} {fields : IAmFields} (h : IAmBody body fields) :
    IAmLike body ⟨UInt32.ofNat fields.deviceInstance, UInt32.ofNat fields.maxApdu,
      UInt32.ofNat fields.segmentation, UInt16.ofNat fields.vendorId⟩ := by
  cases h with
  | mk htag hlen hid hinstance hmaxApdu hsegmentation hfour hvendor h16 =>
      obtain ⟨_, _, _, rfl, htag₂, hvalue₂⟩ := hmaxApdu.numberLike 0
      obtain ⟨_, _, _, rfl, htag₃, hvalue₃⟩ := hsegmentation.numberLike 0
      obtain ⟨_, _, _, rfl, htag₄, hvalue₄⟩ := hvendor.numberLike fields.maxApdu
      simp only [List.append_assoc]
      exact .mk (.tag htag) hlen hid hinstance htag₂ hvalue₂ htag₃ hvalue₃ hfour htag₄ hvalue₄ h16

/-! ### What is recorded -/

/-- All the octets of an address are in the six of a record. -/
def HoldsAll (mac : Vector UInt8 maxMacLen) (len : UInt8) (octets : Vector UInt8 6) : Prop :=
  ∀ i : Fin maxMacLen, i.val < len.toNat → ∃ h : i.val < 6, octets.get ⟨i.val, h⟩ = mac.get i

/-- The record has the fields of the request and the whole address of its source. -/
structure DeviceOf (fields : IAmFields) (src : BacnetAddress) (device : IAmDevice) : Prop where
  deviceId : device.deviceId.toNat = fields.deviceInstance
  maxApdu : device.maxApdu.toNat = fields.maxApdu
  vendorId : device.vendorId.toNat = fields.vendorId
  networkNumber : device.networkNumber = src.net
  macAddr : HoldsAll src.mac src.macLen device.macAddr
  addr : HoldsAll src.adr src.len device.addr

/-- What `i_am_handler` is for: a well-formed request is recorded, once and with everything in
it, and nothing else is. -/
structure Discovers (s : Stack) (request : Mem) (body : List UInt8) (src : BacnetAddress) :
    Prop where
  wellFormed : ∀ fields, IAmBody body fields → ∃ device, DeviceOf fields src device ∧
    iAmHandler s request src = some { s with discovered := s.discovered ++ [device] }
  other : (∀ fields, ¬ IAmBody body fields) → iAmHandler s request src = some s

/-- When it does that: the record has room for what is in a well-formed request and for its
source, and what is no request does not start like one, read on into the `tail` and the zeros
behind it. -/
structure Recordable (body tail : List UInt8) (src : BacnetAddress) : Prop where
  wellFormed : ∀ fields, IAmBody body fields →
    fields.maxApdu < 2 ^ 32 ∧ src.macLen.toNat ≤ 6 ∧ src.len.toNat ≤ 6 ∧
      (src.net = 0 → ∀ i : Fin maxMacLen, i.val < src.len.toNat → src.adr.get i = 0)
  other : (∀ fields, ¬ IAmBody body fields) → ∀ octets i zeros, IAmLike octets i →
    ¬ octets <+: body ++ (tail ++ List.replicate zeros 0)

theorem HoldsAll.le {mac : Vector UInt8 maxMacLen} {len : UInt8} {octets : Vector UInt8 6}
    (h : HoldsAll mac len octets) : len.toNat ≤ 6 := by
  by_contra hlt
  obtain ⟨h6, -⟩ := h ⟨6, by decide⟩ (show 6 < len.toNat by omega)
  exact Nat.lt_irrefl 6 h6

theorem holdsAll_of_copy {mac : Vector UInt8 maxMacLen} {len : UInt8} {octets : Vector UInt8 6}
    (h : copyFromSlice mac len = some octets) : HoldsAll mac len octets := by
  obtain ⟨hlen, hget⟩ := copyFromSlice_some h
  intro i hi
  have h6 : i.val < 6 := by omega
  exact ⟨h6, (hget ⟨i.val, h6⟩).trans (if_pos hi)⟩

theorem copyFromSlice_of_le (mac : Vector UInt8 maxMacLen) {len : UInt8} (h : len.toNat ≤ 6) :
    ∃ octets, copyFromSlice mac len = some octets :=
  ⟨_, if_pos h⟩

/-- The handler leaves the list as it is exactly if it cannot decode the request. -/
theorem iAmHandler_eq_self_iff {s : Stack} {request : Mem} {src : BacnetAddress} :
    iAmHandler s request src = some s ↔ iamDecodeServiceRequest request = none := by
  constructor
  · intro h
    by_contra hne
    obtain ⟨i, hi⟩ := Option.ne_none_iff_exists'.mp hne
    simp only [iAmHandler, hi] at h
    split at h
    · cases h
    · split at h
      · cases h
      · have hlen := congrArg (fun s => s.discovered.length) (Option.some.inj h)
        simp at hlen
  · intro h
    simp only [iAmHandler, h]

/-- What the handler does with a request that it can decode. -/
theorem iAmHandler_of_decode {s : Stack} {request : Mem} {src : BacnetAddress} {i : IAm}
    (hi : iamDecodeServiceRequest request = some i) {device : IAmDevice} :
    iAmHandler s request src = some { s with discovered := s.discovered ++ [device] } ↔
      copyFromSlice src.mac src.macLen = some device.macAddr ∧
      (if src.net > 0 then copyFromSlice src.adr src.len else some (Vector.replicate 6 0)) =
        some device.addr ∧
      device.deviceId = i.deviceId ∧ device.maxApdu = i.maxApdu ∧ device.vendorId = i.vendorId ∧
      device.networkNumber = src.net := by
  simp only [iAmHandler, hi]
  constructor
  · intro h
    cases hmac : copyFromSlice src.mac src.macLen with
    | none =>
        rw [hmac] at h
        cases h
    | some macAddr =>
        simp only [hmac] at h
        split at h
        · cases h
        · rename_i addr haddr
          have hlist := congrArg Stack.discovered (Option.some.inj h)
          have hdevice := List.append_cancel_left hlist
          cases hdevice
          exact ⟨rfl, haddr, rfl, rfl, rfl, rfl⟩
  · rintro ⟨hmac, haddr, hid, hmax, hvendor, hnet⟩
    obtain ⟨deviceId, maxApdu, vendorId, macAddr, networkNumber, addr⟩ := device
    cases hid
    cases hmax
    cases hvendor
    cases hnet
    simp only [hmac, haddr]

theorem IAmBody.bounds {body : List UInt8} {fields : IAmFields} (h : IAmBody body fields) :
    fields.deviceInstance ≤ 4194303 ∧ fields.vendorId ≤ 0xFFFF := by
  cases h with
  | mk htag hlen hid hinstance hmaxApdu hsegmentation hfour hvendor h16 => exact ⟨hinstance, h16⟩

/-- The addresses of a record: all of the source's is there. -/
theorem exists_addr {src : BacnetAddress} (hlen : src.len.toNat ≤ 6)
    (hzero : src.net = 0 → ∀ i : Fin maxMacLen, i.val < src.len.toNat → src.adr.get i = 0) :
    ∃ addr, (if src.net > 0 then copyFromSlice src.adr src.len
      else some (Vector.replicate 6 0)) = some addr ∧ HoldsAll src.adr src.len addr := by
  by_cases hnet : src.net > 0
  · obtain ⟨addr, hcopy⟩ := copyFromSlice_of_le src.adr hlen
    exact ⟨addr, (if_pos hnet).trans hcopy, holdsAll_of_copy hcopy⟩
  · have h0 : src.net = 0 := by
      by_contra hne
      exact hnet (UInt16.pos_iff_ne_zero.mpr hne)
    refine ⟨Vector.replicate 6 0, if_neg hnet, fun i hi => ?_⟩
    have h6 : i.val < 6 := by omega
    refine ⟨h6, ?_⟩
    rw [hzero h0 i hi]
    exact Vector.getElem_replicate h6

/-- A well-formed request is recorded in full exactly if the record has room. -/
theorem recorded_iff {request : Mem} {body : List UInt8} (hm : request.Holds body) (s : Stack)
    (src : BacnetAddress) {fields : IAmFields} (hbody : IAmBody body fields) :
    (∃ device, DeviceOf fields src device ∧
      iAmHandler s request src = some { s with discovered := s.discovered ++ [device] }) ↔
    fields.maxApdu < 2 ^ 32 ∧ src.macLen.toNat ≤ 6 ∧ src.len.toNat ≤ 6 ∧
      (src.net = 0 → ∀ i : Fin maxMacLen, i.val < src.len.toNat → src.adr.get i = 0) := by
  have hdecode := hbody.iAmLike.decode hm
  constructor
  · rintro ⟨device, hdevice, hcall⟩
    obtain ⟨-, haddr, -⟩ := (iAmHandler_of_decode hdecode).mp hcall
    refine ⟨hdevice.maxApdu ▸ device.maxApdu.toNat_lt, hdevice.macAddr.le, hdevice.addr.le,
      fun h0 i hi => ?_⟩
    rw [h0, if_neg (by decide)] at haddr
    obtain ⟨h6, hget⟩ := hdevice.addr i hi
    rw [← hget, ← Option.some.inj haddr]
    exact Vector.getElem_replicate h6
  · rintro ⟨hmax, hmacLen, hlen, hzero⟩
    obtain ⟨hinstance, h16⟩ := hbody.bounds
    obtain ⟨macAddr, hmac⟩ := copyFromSlice_of_le src.mac hmacLen
    obtain ⟨addr, haddr, hall⟩ := exists_addr hlen hzero
    refine ⟨⟨UInt32.ofNat fields.deviceInstance, UInt32.ofNat fields.maxApdu,
      UInt16.ofNat fields.vendorId, macAddr, src.net, addr⟩,
      ⟨?_, ?_, ?_, rfl, holdsAll_of_copy hmac, hall⟩,
      (iAmHandler_of_decode hdecode).mpr ⟨hmac, haddr, rfl, rfl, rfl, rfl⟩⟩
    · rw [UInt32.toNat_ofNat']
      omega
    · rw [UInt32.toNat_ofNat', Nat.mod_eq_of_lt hmax]
    · rw [UInt16.toNat_ofNat']
      omega

/-- The handler does what it is for exactly if the request is recordable. -/
theorem discovers_iff {request : Mem} {body tail : List UInt8} (h : InBuffer request body tail)
    (s : Stack) (src : BacnetAddress) :
    Discovers s request body src ↔ Recordable body tail src := by
  have hm : request.Holds body := h.choose_spec.1.left
  have hother : iAmHandler s request src = some s ↔ ∀ octets i zeros, IAmLike octets i →
      ¬ octets <+: body ++ (tail ++ List.replicate zeros 0) := by
    rw [iAmHandler_eq_self_iff, iamDecodeServiceRequest_eq_none_iff h]
  constructor
  · rintro ⟨hwf, ho⟩
    exact ⟨fun fields hbody => (recorded_iff hm s src hbody).mp (hwf fields hbody),
      fun hno => hother.mp (ho hno)⟩
  · rintro ⟨hwf, ho⟩
    exact ⟨fun fields hbody => (recorded_iff hm s src hbody).mpr (hwf fields hbody),
      fun hno => hother.mpr (ho hno)⟩

/-- A request has one meaning. -/
theorem NumberField.unique {number : UInt8} {max value value' : Nat}
    {octets octets' rest rest' : List UInt8} (h : NumberField number max octets value)
    (h' : NumberField number max octets' value') (heq : octets ++ rest = octets' ++ rest') :
    value = value' ∧ rest = rest' := by
  cases h with
  | @mk tag contents htag hpos hmax =>
    cases h' with
    | @mk tag' contents' htag' hpos' hmax' =>
      rw [List.append_assoc, List.append_assoc] at heq
      obtain ⟨-, hrest, -, hlen⟩ := htag.unique htag' heq
      obtain ⟨hcontents, hrest⟩ := List.append_inj hrest hlen
      exact ⟨congrArg ofBe hcontents, hrest⟩

theorem IAmBody.unique {body : List UInt8} {fields fields' : IAmFields} (h : IAmBody body fields)
    (h' : IAmBody body fields') : fields = fields' := by
  generalize hbody : body = body' at h'
  cases h with
  | mk htag hlen hid hinstance hmaxApdu hsegmentation hfour hvendor h16 =>
    cases h' with
    | mk htag' hlen' hid' hinstance' hmaxApdu' hsegmentation' hfour' hvendor' h16' =>
      obtain ⟨-, hrest, -, -⟩ := htag.unique htag' hbody
      obtain ⟨hoctets, hrest⟩ := List.append_inj hrest (hlen.trans hlen'.symm)
      have hinstances := hid.symm.trans ((congrArg ofBe hoctets).trans hid')
      obtain ⟨hmax, hrest⟩ := hmaxApdu.unique hmaxApdu' hrest
      obtain ⟨hseg, hrest⟩ := hsegmentation.unique hsegmentation' hrest
      have hvendors := (hvendor.unique hvendor' (congrArg (· ++ []) hrest)).1
      obtain ⟨deviceInstance, maxApdu, segmentation, vendorId⟩ := fields
      obtain ⟨deviceInstance', maxApdu', segmentation', vendorId'⟩ := fields'
      rw [IAmFields.mk.injEq]
      exact ⟨Nat.add_left_cancel hinstances, hmax, hseg, hvendors⟩

/-- The I-Am of device 8. -/
def lanBody : List UInt8 := [0xc4, 0x02, 0, 0, 8, 0x22, 0x05, 0xc4, 0x91, 0x03, 0x21, 15]

theorem iAmBody_lanBody : IAmBody lanBody ⟨8, 1476, 3, 15⟩ := by
  have hencode : IAmBody ((iamEncodeApdu 8 1476 3 15).drop 2) _ :=
    iamBody_encode 1476 15 (by decide) (by decide)
  exact hencode

/-- The octets of its datagram, from a router and the address 5 behind it. -/
def routedOctets : List UInt8 := [0x81, 0x0a, 0, 24, 1, 0x08, 0, 7, 1, 5, 0x10, 0] ++ lanBody

theorem inBuffer_routedIAm {src : BacnetAddress} {request : Mem}
    (h : delivered lan true .fresh (routedIAm [5]) = some (src, .iAm request)) :
    ∃ tail, InBuffer request lanBody tail := by
  obtain ⟨d, header, pduType, body, tail, hd, hsplit, htype, -, -, hbuffer⟩ :=
    inBuffer_of_delivered h
  cases hd
  -- an octet of this type with a zero behind it stands at one place only
  have hplace : ∀ k < 23, routedOctets.getD k 0 &&& 0xF0 = 0x10 →
      routedOctets.getD (k + 1) 0 = 0 → k = 10 := by
    decide
  have hpayload : routedOctets = header ++ pduType :: 0 :: body := hsplit
  have hlen := congrArg List.length hpayload
  rw [show routedOctets.length = 24 from rfl, List.length_append, List.length_cons,
    List.length_cons] at hlen
  have hten : header.length = 10 := by
    refine hplace _ (by omega) ?_ ?_
    · rw [hpayload]
      simpa using htype
    · rw [hpayload]
      simp
  have hbody : routedOctets.drop 12 = body := by
    rw [hpayload, List.drop_append, hten]
    simp [List.drop_eq_nil_of_le, hten]
  have hdrop : routedOctets.drop 12 = lanBody := rfl
  obtain rfl := hdrop.symm.trans hbody
  exact ⟨tail, hbuffer⟩

/-- Behind a router it is recorded with the addresses of the router and of the device. -/
theorem discovers_routed :
    ∃ request tail, delivered lan true .fresh (routedIAm [5]) =
        some (routedSource 1, .iAm request) ∧
      InBuffer request lanBody tail ∧ Discovers .init request lanBody (routedSource 1) ∧
      DeviceOf ⟨8, 1476, 3, 15⟩ (routedSource 1) routedRecord ∧
      iAmHandler .init request (routedSource 1) =
        some { Stack.init with discovered := [routedRecord] } := by
  obtain ⟨⟨src, a⟩, hdel, htest⟩ :
      ∃ r, delivered lan true .fresh (routedIAm [5]) = some r ∧
        (decide (r.1 = routedSource 1) && (r.2.record { Stack.init with
          handlers := { Stack.init.handlers with iAm := some .iAmHandler } } r.1).isSome) = true :=
    (Option.any_eq_true _ _).mp (by decide +kernel)
  rw [Bool.and_eq_true, decide_eq_true_iff] at htest
  obtain ⟨rfl, hrecord⟩ := htest
  cases a with
  | iAm request =>
      obtain ⟨tail, hbuffer⟩ := inBuffer_routedIAm hdel
      have hdecode := iAmBody_lanBody.iAmLike.decode hbuffer.choose_spec.1.left
      have hcall : iAmHandler .init request (routedSource 1) =
          some { Stack.init with discovered := Stack.init.discovered ++ [routedRecord] } :=
        (iAmHandler_of_decode hdecode).mpr ⟨by decide, by decide, rfl, rfl, rfl, rfl⟩
      have hdiscovers : Discovers .init request lanBody (routedSource 1) := by
        refine (discovers_iff hbuffer .init (routedSource 1)).mpr
          ⟨fun fields hbody => ?_, fun hno => absurd iAmBody_lanBody (hno _)⟩
        obtain rfl := hbody.unique iAmBody_lanBody
        exact ⟨by decide, by decide, by decide, fun h0 => absurd h0 (by decide)⟩
      refine ⟨request, tail, hdel, hbuffer, hdiscovers, ?_, hcall⟩
      obtain ⟨device, hdevice, hcall'⟩ := hdiscovers.wellFormed _ iAmBody_lanBody
      have hlist := congrArg Stack.discovered (Option.some.inj (hcall'.symm.trans hcall))
      obtain rfl := List.singleton_inj.mp (List.append_cancel_left hlist)
      exact hdevice
  | _ => cases hrecord

/-- The address of seven octets on the network 7, behind the router at 10.0.0.9. -/
def longSource : BacnetAddress :=
  { routedSource 7 with adr := #v[21, 22, 23, 24, 25, 26, 27] }

/-- The I-Am of a device there is well-formed, and ends the process. -/
theorem longSource_aborts :
    (∃ body, lanIAm 8 = 0x10 :: 0 :: body ∧ IAmBody body ⟨8, 1476, 3, 15⟩ ∧
      ∀ (request : Mem) (s : Stack), request.Holds body → ¬ Discovers s request body longSource) ∧
    ∃ s os, (client lan).run .init
      [.whoisStart 0 none, .receive 0 (routedIAm [21, 22, 23, 24, 25, 26, 27])] = some (s, os) ∧
      s.aborted = true := by
  refine ⟨⟨lanBody, rfl, iAmBody_lanBody, fun request s hm hdiscovers => ?_⟩, ?_⟩
  · obtain ⟨device, -, hcall⟩ := hdiscovers.wellFormed _ iAmBody_lanBody
    obtain ⟨-, haddr, -⟩ := (iAmHandler_of_decode (iAmBody_lanBody.iAmLike.decode hm)).mp hcall
    rw [show (if longSource.net > 0 then copyFromSlice longSource.adr longSource.len
      else some (Vector.replicate 6 0)) = none by decide] at haddr
    cases haddr
  · have hsome : ((client lan).run .init
        [.whoisStart 0 none, .receive 0 (routedIAm [21, 22, 23, 24, 25, 26, 27])]).any
        (fun r => r.1.aborted) = true := by
      decide +kernel
    exact Machine.exists_run hsome

end Bacnet
