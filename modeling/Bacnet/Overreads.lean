import Bacnet.Apdu

/-!
# Bacnet.Overreads

How far the decoders read. Several of them look at a tag before they know that it is within
the message, or do not know the message's length at all. `bip_receive` clears 16 octets
behind what it received, and a tag that starts there is a zero; so nothing that the decoders
return depends on what was in the receive buffer before the message.
-/

namespace Bacnet

open Bacnet.Lib

/-! ### What a decoder reads -/

section

variable {m m' : Mem}

theorem decodeTagNumber_congr (h : Mem.Agree 2 m m') : decodeTagNumber m = decodeTagNumber m' := by
  rw [decodeTagNumber, decodeTagNumber, h 0 (by decide), h 1 (by decide)]

theorem decodeTagNumber_fst_le (m : Mem) : (decodeTagNumber m).1 ≤ 2 := by
  rw [decodeTagNumber]
  split
  · exact Nat.le_refl 2
  · exact Nat.le_succ 1

theorem decodeTagNumberAndValue_congr (h : Mem.Agree 7 m m') :
    decodeTagNumberAndValue m = decodeTagNumberAndValue m' := by
  have hlen := decodeTagNumber_fst_le m'
  have hnumber := decodeTagNumber_congr (h.mono (by decide : 2 ≤ 7))
  unfold decodeTagNumberAndValue
  rw [hnumber]
  generalize decodeTagNumber m' = r at hlen ⊢
  obtain ⟨len, number⟩ := r
  dsimp only at hlen ⊢
  have hvalue : ∀ n, n ≤ 4 → (m.shift (len + 1)).be n = (m'.shift (len + 1)).be n := by
    intro n hn
    exact ((h.mono (by omega : len + 1 + n ≤ 7)).shift).be_eq
  rw [h 0 (by decide), h len (by omega), decodeUnsigned32, decodeUnsigned32, decodeUnsigned16,
    decodeUnsigned16, hvalue 4 (Nat.le_refl 4), hvalue 2 (by decide)]

theorem decodeTagNumberAndValue_fst_le (m : Mem) : (decodeTagNumberAndValue m).1 ≤ 7 := by
  have hlen := decodeTagNumber_fst_le m
  unfold decodeTagNumberAndValue
  generalize decodeTagNumber m = r at hlen ⊢
  obtain ⟨len, number⟩ := r
  dsimp only at hlen ⊢
  repeat' split
  all_goals dsimp only
  all_goals omega

/-- A zero is a tag of one octet, with the number 0. -/
theorem decodeTagNumberAndValue_zero (h : m 0 = 0) :
    decodeTagNumberAndValue m = (1, ⟨0, 0⟩) := by
  unfold decodeTagNumberAndValue decodeTagNumber
  rw [h]
  rfl

theorem bacnetTagNumberAndValueDecode_congr (h : Mem.Agree 7 m m') (max : Nat) :
    bacnetTagNumberAndValueDecode m max = bacnetTagNumberAndValueDecode m' max := by
  have hnumber : bacnetTagNumberDecode m max = bacnetTagNumberDecode m' max := by
    rw [bacnetTagNumberDecode, bacnetTagNumberDecode, h 0 (by decide), h 1 (by decide)]
  have hle : ∀ p ∈ bacnetTagNumberDecode m' max, p.1 ≤ 2 := by
    intro p hp
    unfold bacnetTagNumberDecode at hp
    repeat' split at hp
    all_goals cases hp
    · exact Nat.le_refl 2
    · exact Nat.le_succ 1
  unfold bacnetTagNumberAndValueDecode
  rw [hnumber]
  cases hr : bacnetTagNumberDecode m' max with
  | none => rfl
  | some p =>
    have hlen := hle p hr
    obtain ⟨len, number⟩ := p
    dsimp only at hlen ⊢
    have hvalue : ∀ n, n ≤ 4 → (m.shift (len + 1)).be n = (m'.shift (len + 1)).be n := by
      intro n hn
      exact ((h.mono (by omega : len + 1 + n ≤ 7)).shift).be_eq
    rw [h 0 (by decide), h len (by omega), decodeUnsigned32, decodeUnsigned32, decodeUnsigned16,
      decodeUnsigned16, hvalue 4 (Nat.le_refl 4), hvalue 2 (by decide)]

theorem decodeIsContextTag_congr (h : Mem.Agree 2 m m') (number : UInt8) :
    decodeIsContextTag m number = decodeIsContextTag m' number := by
  rw [decodeIsContextTag, decodeIsContextTag, decodeTagNumber_congr h, h 0 (by decide)]

theorem decodeIsOpeningTagNumber_congr (h : Mem.Agree 2 m m') (number : UInt8) :
    decodeIsOpeningTagNumber m number = decodeIsOpeningTagNumber m' number := by
  rw [decodeIsOpeningTagNumber, decodeIsOpeningTagNumber, decodeTagNumber_congr h,
    h 0 (by decide)]

theorem decodeObjectId_congr (h : Mem.Agree 4 m m') : decodeObjectId m = decodeObjectId m' := by
  rw [decodeObjectId, decodeObjectId, decodeUnsigned32, decodeUnsigned32, h.be_eq]

/-- A number is read as far as its length says, if that is not too long. -/
theorem bacnetUnsignedDecode_congr {lenValue max : Nat}
    (h : lenValue ≤ max → Mem.Agree lenValue m m') (value : Nat) :
    bacnetUnsignedDecode m max lenValue value = bacnetUnsignedDecode m' max lenValue value := by
  unfold bacnetUnsignedDecode
  split
  · rename_i hle
    rw [(h hle).be_eq]
  · rfl

theorem bacnetUnsignedDecode_fst_le (m : Mem) (max lenValue value : Nat) :
    (bacnetUnsignedDecode m max lenValue value).1 ≤ max := by
  unfold bacnetUnsignedDecode
  split
  · split
    · assumption
    · exact Nat.zero_le _
  · exact Nat.zero_le _

theorem decodeUnsigned_congr (h : Mem.Agree 8 m m') (lenValue value : Nat) :
    decodeUnsigned m lenValue value = decodeUnsigned m' lenValue value :=
  bacnetUnsignedDecode_congr h.mono value

theorem decodeEnumerated_congr (h : Mem.Agree 4 m m') (lenValue : Nat) (value : UInt32) :
    decodeEnumerated m lenValue value = decodeEnumerated m' lenValue value := by
  rw [decodeEnumerated, decodeEnumerated, bacnetEnumeratedDecode, bacnetEnumeratedDecode,
    bacnetUnsignedDecode_congr h.mono]

theorem decodeEnumerated_fst_le (m : Mem) (lenValue : Nat) (value : UInt32) :
    (decodeEnumerated m lenValue value).1 ≤ 4 :=
  bacnetUnsignedDecode_fst_le m 4 lenValue 0

/-! ### The margin behind a message -/

/-- The two memories hold the same `n` octets, and 16 zeros behind them. -/
structure Margin (n : Nat) (m m' : Mem) : Prop where
  agree : Mem.Agree (n + 16) m m'
  zero : ∀ i, n ≤ i → i < n + 16 → m' i = 0

/-- What is read up to the margin, and up to 15 octets of it. -/
theorem Margin.shift_agree {n p k : Nat} (h : Margin n m m') (hk : p + k ≤ n + 16) :
    Mem.Agree k (m.shift p) (m'.shift p) :=
  (h.agree.mono hk).shift

theorem Margin.shift {n p : Nat} (h : Margin n m m') (hp : p ≤ n) :
    Margin (n - p) (m.shift p) (m'.shift p) where
  agree := h.shift_agree (by omega)
  zero i hi hlt := h.zero (p + i) (by omega) (by omega)

/-- A tag at or before the margin is the same, and only in the message does it have a number. -/
theorem Margin.tag {n p : Nat} (h : Margin n m m') (hp : p < n + 16) :
    ∃ len tag, decodeTagNumberAndValue (m.shift p) = (len, tag) ∧
      decodeTagNumberAndValue (m'.shift p) = (len, tag) ∧ len ≤ 7 ∧
      (p < n ∨ len = 1 ∧ tag = ⟨0, 0⟩) := by
  by_cases hin : p < n
  · have heq := decodeTagNumberAndValue_congr (h.shift_agree (by omega : p + 7 ≤ n + 16))
    have hle := decodeTagNumberAndValue_fst_le (m'.shift p)
    exact ⟨_, _, heq, rfl, hle, Or.inl hin⟩
  · have hzero : m' p = 0 := h.zero p (by omega) hp
    have hzero' : m p = 0 := (h.agree p hp).trans hzero
    exact ⟨1, ⟨0, 0⟩, decodeTagNumberAndValue_zero (by simpa using hzero'),
      decodeTagNumberAndValue_zero (by simpa using hzero), by decide, Or.inr ⟨rfl, rfl⟩⟩

/-- A tag with a number is in the message. -/
theorem lt_of_number {n p len : Nat} {tag : Tag} (h : p < n ∨ len = 1 ∧ tag = ⟨0, 0⟩)
    (hnumber : tag.number ≠ 0) : p < n := by
  rcases h with hin | ⟨-, rfl⟩
  · exact hin
  · exact absurd rfl hnumber

/-- The margin has no context tag. -/
theorem Margin.contextTag {n p : Nat} (h : Margin n m m') (hp : p < n + 16) (number : UInt8) :
    decodeIsContextTag (m.shift p) number = decodeIsContextTag (m'.shift p) number ∧
      (decodeIsContextTag (m'.shift p) number = true → p < n) := by
  by_cases hin : p < n
  · exact ⟨decodeIsContextTag_congr (h.shift_agree (by omega)) number, fun _ => hin⟩
  · have hzero : m' p = 0 := h.zero p (by omega) hp
    have hzero' : m p = 0 := (h.agree p hp).trans hzero
    simp [decodeIsContextTag, hzero, hzero', isContextSpecific]

/-- The margin has no opening tag. -/
theorem Margin.openingTag {n p : Nat} (h : Margin n m m') (hp : p < n + 16) (number : UInt8) :
    decodeIsOpeningTagNumber (m.shift p) number = decodeIsOpeningTagNumber (m'.shift p) number ∧
      (decodeIsOpeningTagNumber (m'.shift p) number = true → p < n) := by
  by_cases hin : p < n
  · exact ⟨decodeIsOpeningTagNumber_congr (h.shift_agree (by omega)) number, fun _ => hin⟩
  · have hzero : m' p = 0 := h.zero p (by omega) hp
    have hzero' : m p = 0 := (h.agree p hp).trans hzero
    simp [decodeIsOpeningTagNumber, hzero, hzero', isOpeningTag]

theorem decodeUnsigned_fst_le (m : Mem) (lenValue value : Nat) :
    (decodeUnsigned m lenValue value).1 ≤ 8 :=
  bacnetUnsignedDecode_fst_le m 8 lenValue value

/-! ### I-Am -/

/-- Each tag of an announcement is in the message, or it is a zero and ends the decoding. -/
theorem iamDecodeServiceRequest_congr {n : Nat} (h : Margin n m m') :
    iamDecodeServiceRequest m = iamDecodeServiceRequest m' := by
  obtain ⟨p₁, tag₁, ht₁, ht₁', hp₁, hin₁⟩ := h.tag (p := 0) (by omega)
  rw [Mem.shift_zero] at ht₁ ht₁'
  unfold iamDecodeServiceRequest
  simp only [ht₁, ht₁']
  by_cases h₁ : tag₁.number ≠ 12
  · rw [if_pos h₁, if_pos h₁]
  rw [if_neg h₁, if_neg h₁]
  have hlt₁ := lt_of_number hin₁ (by rw [not_not.mp h₁]; decide)
  -- OBJECT ID
  rw [decodeObjectId_congr (h.shift_agree (by omega : p₁ + 4 ≤ n + 16))]
  generalize decodeObjectId (m'.shift p₁) = objectId
  by_cases hdevice : objectId.1 ≠ 8
  · rw [if_pos hdevice, if_pos hdevice]
  rw [if_neg hdevice, if_neg hdevice]
  -- MAX APDU
  obtain ⟨p₂, tag₂, ht₂, ht₂', hp₂, hin₂⟩ := h.tag (p := p₁ + 4) (by omega)
  simp only [ht₂, ht₂']
  by_cases h₂ : tag₂.number ≠ 2
  · rw [if_pos h₂, if_pos h₂]
  rw [if_neg h₂, if_neg h₂]
  have hlt₂ := lt_of_number hin₂ (by rw [not_not.mp h₂]; decide)
  rw [decodeUnsigned_congr (h.shift_agree (by omega : p₁ + 4 + p₂ + 8 ≤ n + 16))]
  have hv₂ := decodeUnsigned_fst_le (m'.shift (p₁ + 4 + p₂)) tag₂.lenValue 0
  generalize decodeUnsigned (m'.shift (p₁ + 4 + p₂)) tag₂.lenValue 0 = v₂ at hv₂ ⊢
  -- Segmentation
  obtain ⟨p₃, tag₃, ht₃, ht₃', hp₃, hin₃⟩ := h.tag (p := p₁ + 4 + p₂ + v₂.1) (by omega)
  simp only [ht₃, ht₃']
  by_cases h₃ : tag₃.number ≠ 9
  · rw [if_pos h₃, if_pos h₃]
  rw [if_neg h₃, if_neg h₃]
  have hlt₃ := lt_of_number hin₃ (by rw [not_not.mp h₃]; decide)
  rw [decodeEnumerated_congr (h.shift_agree (by omega : p₁ + 4 + p₂ + v₂.1 + p₃ + 4 ≤ n + 16))]
  have hv₃ := decodeEnumerated_fst_le (m'.shift (p₁ + 4 + p₂ + v₂.1 + p₃)) tag₃.lenValue 0
  generalize decodeEnumerated (m'.shift (p₁ + 4 + p₂ + v₂.1 + p₃)) tag₃.lenValue 0 = v₃ at hv₃ ⊢
  by_cases hsegmentation : v₃.2 ≥ 4
  · rw [if_pos hsegmentation, if_pos hsegmentation]
  rw [if_neg hsegmentation, if_neg hsegmentation]
  -- Vendor ID
  obtain ⟨p₄, tag₄, ht₄, ht₄', hp₄, hin₄⟩ :=
    h.tag (p := p₁ + 4 + p₂ + v₂.1 + p₃ + v₃.1) (by omega)
  simp only [ht₄, ht₄']
  by_cases h₄ : tag₄.number ≠ 2
  · rw [if_pos h₄, if_pos h₄]
  rw [if_neg h₄, if_neg h₄]
  have hlt₄ := lt_of_number hin₄ (by rw [not_not.mp h₄]; decide)
  rw [decodeUnsigned_congr
    (h.shift_agree (by omega : p₁ + 4 + p₂ + v₂.1 + p₃ + v₃.1 + p₄ + 8 ≤ n + 16))]

/-! ### Application data -/

theorem decodeSigned_congr (h : Mem.Agree 4 m m') (lenValue : Nat) (value : Int32) :
    decodeSigned m lenValue value = decodeSigned m' lenValue value := by
  unfold decodeSigned bacnetSignedDecode
  split
  · rename_i hle
    rw [decodeSignedOctets, decodeSignedOctets, h 0 (by decide), (h.mono hle).be_eq]
  · rfl

theorem decodeCharacterString_congr {lenValue : Nat} (h : Mem.Agree lenValue m m')
    (value : CharacterString) :
    decodeCharacterString m lenValue value = decodeCharacterString m' lenValue value := by
  unfold decodeCharacterString
  split
  · rename_i hle
    have htext : Mem.Agree (lenValue - 1) (m.shift 1) (m'.shift 1) :=
      (h.mono (by omega : 1 + (lenValue - 1) ≤ lenValue)).shift
    rw [h 0 (by omega), htext.slice_eq]
  · rfl

theorem decodeBitstring_congr {lenValue : Nat} (h : Mem.Agree lenValue m m') :
    decodeBitstring m lenValue = decodeBitstring m' lenValue := by
  unfold decodeBitstring
  split
  · dsimp only
    split
    · have hoctet : ∀ i : Fin maxBitstringBytes,
          (if i.val < lenValue - 1 then byteReverseBits (m (1 + i.val)) else 0) =
            if i.val < lenValue - 1 then byteReverseBits (m' (1 + i.val)) else 0 := by
        intro i
        split
        · rw [h (1 + i.val) (by omega)]
        · rfl
      simp only [hoctet]
      rw [h 0 (by omega)]
    · rfl
  · rfl

/-- A member of a lighting command starts in the message, or there is none. -/
theorem lightingMember_congr {n pos : Nat} (h : Margin n m m') (hpos : pos < n + 16) (len : Nat)
    (tagNumber : UInt8) (consumes : Bool) {decode : Mem → Nat → Nat}
    (hdecode : ∀ {m m' : Mem}, Mem.Agree 8 m m' → ∀ k, decode m k = decode m' k)
    (hle : ∀ m k, decode m k ≤ 8) :
    lightingMember m tagNumber consumes decode pos len =
        lightingMember m' tagNumber consumes decode pos len ∧
      (lightingMember m' tagNumber consumes decode pos len).1 < n + 16 := by
  obtain ⟨hcontext, hin⟩ := h.contextTag hpos tagNumber
  unfold lightingMember
  rw [hcontext]
  split
  · rename_i htrue
    have hlt := hin htrue
    obtain ⟨p, tag, ht, ht', hp, -⟩ := h.tag hpos
    have hvalue := hdecode (h.shift_agree (by omega : pos + p + 8 ≤ n + 16)) tag.lenValue
    have hvalue8 := hle (m'.shift (pos + p)) tag.lenValue
    simp only [ht, ht', hvalue]
    refine ⟨trivial, ?_⟩
    split
    · omega
    · omega
  · exact ⟨rfl, hpos⟩

theorem lightingCommandDecode_congr {n : Nat} (h : Margin n m m') (apduMaxLen : Nat) :
    lightingCommandDecode m apduMaxLen = lightingCommandDecode m' apduMaxLen := by
  obtain ⟨hcontext, hin⟩ := h.contextTag (p := 0) (by omega) 0
  obtain ⟨p, tag, ht, ht', hp, -⟩ := h.tag (p := 0) (by omega)
  rw [Mem.shift_zero, Mem.shift_zero] at hcontext
  rw [Mem.shift_zero] at hin ht ht'
  unfold lightingCommandDecode
  rw [hcontext]
  split
  · rfl
  · split
    · rfl
    · rename_i htrue
      have hlt := hin (not_not.mp htrue)
      have heq := decodeEnumerated_congr (h.shift_agree (by omega : p + 4 ≤ n + 16)) tag.lenValue 0
      have hle := decodeEnumerated_fst_le (m'.shift p) tag.lenValue 0
      have hreal : ∀ {m m' : Mem}, Mem.Agree 8 m m' → ∀ _ : Nat, 4 = 4 := fun _ _ => rfl
      have hreal8 : ∀ (_ : Mem) (_ : Nat), 4 ≤ 8 := fun _ _ => by decide
      have hunsigned : ∀ {m m' : Mem}, Mem.Agree 8 m m' →
          ∀ k, (decodeUnsigned m k 0).1 = (decodeUnsigned m' k 0).1 :=
        fun hagree k => congrArg Prod.fst (decodeUnsigned_congr hagree k 0)
      have hunsigned8 : ∀ m k, (decodeUnsigned m k 0).1 ≤ 8 :=
        fun m k => decodeUnsigned_fst_le m k 0
      simp only [ht, ht', heq]
      generalize (decodeEnumerated (m'.shift p) tag.lenValue 0).1 = len at hle ⊢
      obtain ⟨h₁, hlt₁⟩ := lightingMember_congr h (by omega : p + len < n + 16) len 1 true hreal
        hreal8
      rw [h₁]
      obtain ⟨h₂, hlt₂⟩ := lightingMember_congr h hlt₁ _ 2 false hreal hreal8
      rw [h₂]
      obtain ⟨h₃, hlt₃⟩ := lightingMember_congr h hlt₂ _ 3 false hreal hreal8
      rw [h₃]
      obtain ⟨h₄, hlt₄⟩ := lightingMember_congr h hlt₃ _ 4 false hunsigned hunsigned8
      rw [h₄]
      rw [(lightingMember_congr h hlt₄ _ 4 false hunsigned hunsigned8).1]

/-- A value whose octets are in the message. -/
theorem bacappDecodeMember_congr {n : Nat} (h : Margin n m m') {tag : UInt8} {k : Nat}
    (hk : bacappDecodeDataLen tag k ≤ n) (value : ApplicationDataValue) :
    bacappDecodeMember m tag k value = bacappDecodeMember m' tag k value := by
  have hbuf : ∀ i, i ≤ 16 → Mem.Agree i m m' := fun i hi => h.agree.mono (by omega)
  have hk' : 2 ≤ tag.toNat → tag.toNat ≤ 12 → Mem.Agree k m m' := by
    intro h2 h12
    have hlen : bacappDecodeDataLen tag k = k :=
      if_pos ⟨UInt8.le_iff_toNat_le.mpr h2, UInt8.le_iff_toNat_le.mpr h12⟩
    exact h.agree.mono (by omega)
  unfold bacappDecodeMember
  split
  · rfl
  · rfl
  · rw [decodeUnsigned_congr (hbuf 8 (by decide))]
  · rw [decodeSigned_congr (hbuf 4 (by decide))]
  · rw [decodeRealSafe, decodeRealSafe, (hbuf 4 (by decide)).be_eq]
  · rw [decodeDoubleSafe, decodeDoubleSafe, (hbuf 8 (by decide)).be_eq]
  · rfl
  · rename_i htag
    rw [decodeCharacterString_congr (hk' (by omega) (by omega))]
  · rename_i htag
    rw [decodeBitstring_congr (hk' (by omega) (by omega))]
  · rw [decodeEnumerated_congr (hbuf 4 (by decide))]
  · rfl
  · rfl
  · rw [bacnetObjectIdDecode, bacnetObjectIdDecode, decodeObjectId_congr (hbuf 4 (by decide))]
  · rw [lightingCommandDecode_congr h]
  · rfl

theorem bacappDecodeApplicationData_congr {n len : Nat} (h : Margin n m m') (hlen : len ≤ n)
    (value : ApplicationDataValue) :
    bacappDecodeApplicationData m len value = bacappDecodeApplicationData m' len value := by
  have htag := bacnetTagNumberAndValueDecode_congr (h.agree.mono (by omega : 7 ≤ n + 16)) len
  unfold bacappDecodeApplicationData
  rw [h.agree 0 (by omega), htag]
  split
  · rfl
  · cases bacnetTagNumberAndValueDecode m' len with
    | none => rfl
    | some r =>
      obtain ⟨p, tag⟩ := r
      dsimp only
      split
      · split
        · rename_i hp hk
          rw [bacappDecodeData, bacappDecodeData,
            bacappDecodeMember_congr (h.shift (by omega : p ≤ n)) (by omega)]
        · rfl
      · rfl

/-! ### ReadProperty-ACK -/

/-- The header of an acknowledgement is read within it, and its payload ends with it. -/
theorem rpAckDecodeServiceRequest_congr {n len : Nat} (h : Margin n m m') (hlen : len ≤ n) :
    (rpAckDecodeServiceRequest m len = none ∧ rpAckDecodeServiceRequest m' len = none) ∨
      ∃ (data : ReadPropertyData) (p : Nat), p + data.applicationDataLen ≤ n ∧
        rpAckDecodeServiceRequest m len = some { data with applicationData := m.shift p } ∧
        rpAckDecodeServiceRequest m' len = some { data with applicationData := m'.shift p } := by
  unfold rpAckDecodeServiceRequest
  by_cases h8 : len < 8
  · rw [if_pos h8, if_pos h8]
    exact Or.inl ⟨rfl, rfl⟩
  rw [if_neg h8, if_neg h8, decodeIsContextTag_congr (h.agree.mono (by omega : 2 ≤ n + 16))]
  by_cases hcontext : ¬ decodeIsContextTag m' 0
  · rw [if_pos hcontext, if_pos hcontext]
    exact Or.inl ⟨rfl, rfl⟩
  rw [if_neg hcontext, if_neg hcontext,
    decodeObjectId_congr (h.shift_agree (by omega : 1 + 4 ≤ n + 16))]
  generalize decodeObjectId (m'.shift 1) = objectId
  -- Tag 1: Property ID
  obtain ⟨p₁, tag₁, ht₁, ht₁', hp₁, -⟩ := h.tag (p := 5) (by omega)
  simp only [ht₁, ht₁']
  by_cases h₁ : tag₁.number ≠ 1
  · rw [if_pos h₁, if_pos h₁]
    exact Or.inl ⟨rfl, rfl⟩
  rw [if_neg h₁, if_neg h₁]
  by_cases hend₁ : 5 + p₁ ≥ len
  · rw [if_pos hend₁, if_pos hend₁]
    exact Or.inl ⟨rfl, rfl⟩
  rw [if_neg hend₁, if_neg hend₁,
    decodeEnumerated_congr (h.shift_agree (by omega : 5 + p₁ + 4 ≤ n + 16))]
  generalize decodeEnumerated (m'.shift (5 + p₁)) tag₁.lenValue 0 = property
  by_cases hend₂ : 5 + p₁ + property.1 ≥ len
  · rw [if_pos hend₂, if_pos hend₂]
    exact Or.inl ⟨rfl, rfl⟩
  rw [if_neg hend₂, if_neg hend₂]
  -- Tag 2: Optional Array Index
  obtain ⟨p₂, tag₂, ht₂, ht₂', hp₂, -⟩ := h.tag (p := 5 + p₁ + property.1) (by omega)
  simp only [ht₂, ht₂']
  rw [decodeUnsigned_congr (h.shift_agree (by omega : 5 + p₁ + property.1 + p₂ + 8 ≤ n + 16))]
  generalize (if tag₂.number = 2 then _ else _ : Nat × UInt32) = index
  by_cases hend₃ : index.1 ≥ len
  · rw [if_pos hend₃, if_pos hend₃]
    exact Or.inl ⟨rfl, rfl⟩
  rw [if_neg hend₃, if_neg hend₃, (h.openingTag (by omega : index.1 < n + 16) 3).1]
  by_cases hopening : decodeIsOpeningTagNumber (m'.shift index.1) 3
  · rw [if_pos hopening, if_pos hopening]
    refine Or.inr ⟨⟨objectId.1, objectId.2, property.2, index.2, m,
      if index.1 + 1 < len then len - (index.1 + 1) - 1 else 0⟩, index.1 + 1, ?_, rfl, rfl⟩
    dsimp only
    split
    · omega
    · omega
  · rw [if_neg hopening, if_neg hopening]
    exact Or.inl ⟨rfl, rfl⟩

theorem decodeReply_congr {n len : Nat} (h : Margin n m m') (hlen : len ≤ n) :
    decodeReply m len = decodeReply m' len := by
  unfold decodeReply
  rcases rpAckDecodeServiceRequest_congr h hlen with ⟨hm, hm'⟩ | ⟨data, p, hp, hm, hm'⟩
  · rw [hm, hm']
  · rw [hm, hm']
    dsimp only
    unfold decodeData
    dsimp only
    rw [bacappDecodeApplicationData_congr (h.shift (by omega : p ≤ n)) (by omega)]

/-! ### Error -/

theorem decodeErrorPair_congr {n len : Nat} (h : Margin n m m') (hlen : len ≤ n)
    (serviceChoice : UInt8) :
    decodeErrorPair m len serviceChoice = decodeErrorPair m' len serviceChoice := by
  unfold decodeErrorPair
  rw [(h.openingTag (by omega : 3 < n + 16) 0).1]
  generalize (if serviceChoice = 18 ∧ decodeIsOpeningTagNumber (m'.shift 3) 0 = true then 4
    else 3 : Nat) = p
  by_cases h₁ : p < len
  · obtain ⟨p₁, tag₁, ht₁, ht₁', -, -⟩ := h.tag (p := p) (by omega)
    simp only [ht₁, ht₁']
    rw [if_pos h₁, if_pos h₁]
    by_cases h₂ : p + p₁ < len
    · rw [if_pos h₂, if_pos h₂,
        decodeEnumerated_congr (h.shift_agree (by omega : p + p₁ + 4 ≤ n + 16))]
      generalize decodeEnumerated (m'.shift (p + p₁)) tag₁.lenValue 0 = errorClass
      by_cases h₃ : p + p₁ + errorClass.1 < len
      · obtain ⟨p₂, tag₂, ht₂, ht₂', -, -⟩ := h.tag (p := p + p₁ + errorClass.1) (by omega)
        simp only [ht₂, ht₂']
        rw [if_pos h₃, if_pos h₃]
        by_cases h₄ : p + p₁ + errorClass.1 + p₂ < len
        · rw [if_pos h₄, if_pos h₄, decodeEnumerated_congr
            (h.shift_agree (by omega : p + p₁ + errorClass.1 + p₂ + 4 ≤ n + 16))]
        · rw [if_neg h₄, if_neg h₄]
      · rw [if_neg h₃, if_neg h₃]
    · rw [if_neg h₂, if_neg h₂]
  · rw [if_neg h₁, if_neg h₁]

end

end Bacnet
