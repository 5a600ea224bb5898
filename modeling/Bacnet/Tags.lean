import Bacnet.Decode
import Bacnet.Encoding
import Bacnet.ReadProperty

/-!
# Bacnet.Tags

The stack's tag functions against the octets that are a tag: `encode_tag` yields such
octets, both tag decoders read them back, and what the checking decoder accepts is such
octets, but for the opening and closing tags it lets through.
-/

namespace Bacnet

open Bacnet.Lib

/-! ### The initial octet -/

section InitialOctet

set_option maxRecDepth 4096

theorem isExtendedTagNumber_eq (b : UInt8) :
    isExtendedTagNumber b = decide (b.toNat / 16 = 15) :=
  forall_octet (P := fun b => isExtendedTagNumber b = decide (b.toNat / 16 = 15)) (by decide) b

theorem isExtendedValue_eq (b : UInt8) : isExtendedValue b = decide (b.toNat % 8 = 5) :=
  forall_octet (P := fun b => isExtendedValue b = decide (b.toNat % 8 = 5)) (by decide) b

theorem isContextSpecific_eq (b : UInt8) :
    isContextSpecific b = decide (b.toNat / 8 % 2 = 1) :=
  forall_octet (P := fun b => isContextSpecific b = decide (b.toNat / 8 % 2 = 1)) (by decide) b

theorem isOpeningTag_eq (b : UInt8) : isOpeningTag b = decide (b.toNat % 8 = 6) :=
  forall_octet (P := fun b => isOpeningTag b = decide (b.toNat % 8 = 6)) (by decide) b

theorem isClosingTag_eq (b : UInt8) : isClosingTag b = decide (b.toNat % 8 = 7) :=
  forall_octet (P := fun b => isClosingTag b = decide (b.toNat % 8 = 7)) (by decide) b

theorem upperBits (b : UInt8) : (b >>> 4).toNat = b.toNat / 16 :=
  forall_octet (P := fun b => (b >>> 4).toNat = b.toNat / 16) (by decide) b

theorem lowerBits (b : UInt8) : (b &&& 0x07).toNat = b.toNat % 8 :=
  forall_octet (P := fun b => (b &&& 0x07).toNat = b.toNat % 8) (by decide) b

end InitialOctet

theorem decodeTagNumberAndValue_number (m : Mem) :
    (decodeTagNumberAndValue m).2.number = (decodeTagNumber m).2 := by
  unfold decodeTagNumberAndValue
  cases decodeTagNumber m with
  | mk len number =>
    dsimp only
    repeat' split
    all_goals rfl

theorem NumberOctets.field_le {field : Nat} {octets : List UInt8} {number : UInt8}
    (h : NumberOctets field octets number) : field ≤ 15 := by
  cases h with
  | short h => omega
  | extended number => omega

theorem LengthOctets.field_le {field : Nat} {octets : List UInt8} {length : Nat}
    (h : LengthOctets field octets length) : field ≤ 5 := by
  cases h with
  | short h => omega
  | one h => omega
  | two a b => omega
  | four a b c d => omega

theorem TagOctets.length_pos {contextSpecific : Bool} {t : List UInt8} {number : UInt8}
    {length : Nat} (h : TagOctets contextSpecific t number length) : 0 < t.length := by
  cases h
  simp

theorem TagOctets.length_le {contextSpecific : Bool} {t : List UInt8} {number : UInt8}
    {length : Nat} (h : TagOctets contextSpecific t number length) : t.length ≤ 7 := by
  cases h with
  | mk hnumber hlength =>
    rw [List.length_cons, List.length_append]
    cases hnumber
    all_goals cases hlength
    all_goals simp

theorem toNat_initialOctet {number length : Nat} (contextSpecific : Bool) (hn : number ≤ 15)
    (hl : length ≤ 7) :
    (initialOctet number contextSpecific length).toNat =
      16 * number + 8 * contextSpecific.toNat + length := by
  have hc := contextSpecific.toNat_le
  rw [initialOctet, UInt8.toNat_ofNat']
  omega

/-! ### Decoding a tag -/

theorem decodeTagNumber_of_octets {m : Mem} {field : Nat} {octets : List UInt8} {number : UInt8}
    (h : NumberOctets field octets number) (h0 : (m 0).toNat / 16 = field)
    (hm : (m.shift 1).Holds octets) : decodeTagNumber m = (1 + octets.length, number) := by
  unfold decodeTagNumber
  rw [isExtendedTagNumber_eq, h0]
  cases h with
  | short h =>
    have hnumber : m 0 >>> 4 = number := UInt8.toNat_inj.mp ((upperBits (m 0)).trans h0)
    rw [if_neg (by simp; omega), hnumber]
    rfl
  | extended number =>
    have h1 : m 1 = number := hm 0 (by simp)
    rw [if_pos (by simp), h1]
    rfl

theorem bacnetTagNumberDecode_of_octets {m : Mem} {field max : Nat} {octets : List UInt8}
    {number : UInt8} (h : NumberOctets field octets number) (h0 : (m 0).toNat / 16 = field)
    (hm : (m.shift 1).Holds octets) (hmax : 1 + octets.length ≤ max) :
    bacnetTagNumberDecode m max = some (1 + octets.length, number) := by
  have hdecode := decodeTagNumber_of_octets h h0 hm
  unfold decodeTagNumber at hdecode
  unfold bacnetTagNumberDecode
  rw [if_pos (by omega)]
  cases h with
  | short h =>
    rw [isExtendedTagNumber_eq, h0, if_neg (by simp; omega)] at hdecode
    rw [isExtendedTagNumber_eq, h0, if_neg (by simp; omega), hdecode]
  | extended number =>
    have h2 : 2 ≤ max := hmax
    rw [isExtendedTagNumber_eq, h0, if_pos (by simp)] at hdecode
    rw [isExtendedTagNumber_eq, h0, if_pos (by simp [h2]), hdecode]

/-- The parts of a tag, as the decoders come to them. -/
theorem TagOctets.parts {contextSpecific : Bool} {t : List UInt8} {number : UInt8} {length : Nat}
    (h : TagOctets contextSpecific t number length) {m : Mem} (hm : m.Holds t) :
    ∃ field octets field' octets', NumberOctets field octets number ∧
      LengthOctets field' octets' length ∧ t.length = 1 + octets.length + octets'.length ∧
      (m 0).toNat / 16 = field ∧ (m 0).toNat / 8 % 2 = contextSpecific.toNat ∧
      (m 0).toNat % 8 = field' ∧ (m.shift 1).Holds octets ∧
      (m.shift (1 + octets.length)).Holds octets' := by
  cases h with
  | @mk field field' _ octets octets' _ hnumber hlength =>
    have hn := hnumber.field_le
    have hl := hlength.field_le
    have hc := contextSpecific.toNat_le
    obtain ⟨h0, hrest⟩ := Mem.holds_cons.mp hm
    obtain ⟨hm₁, hm₂⟩ := Mem.holds_append.mp hrest
    rw [Mem.shift_shift] at hm₂
    refine ⟨field, octets, field', octets', hnumber, hlength, by simp; omega, ?_, ?_, ?_, hm₁, hm₂⟩
    all_goals rw [h0, toNat_initialOctet contextSpecific hn (by omega)]; omega

theorem isContextSpecific_of_octets {contextSpecific : Bool} {t : List UInt8} {number : UInt8}
    {length : Nat} (h : TagOctets contextSpecific t number length) {m : Mem} (hm : m.Holds t) :
    isContextSpecific (m 0) = contextSpecific := by
  obtain ⟨-, -, -, -, -, -, -, -, hclass, -⟩ := h.parts hm
  rw [isContextSpecific_eq, hclass]
  cases contextSpecific <;> rfl

theorem decodeTagNumberAndValue_of_octets {contextSpecific : Bool} {t : List UInt8}
    {number : UInt8} {length : Nat} (h : TagOctets contextSpecific t number length) {m : Mem}
    (hm : m.Holds t) : decodeTagNumberAndValue m = (t.length, ⟨number, length⟩) := by
  obtain ⟨field, octets, field', octets', hnumber, hlength, hlen, h16, -, h8, hm₁, hm₂⟩ :=
    h.parts hm
  unfold decodeTagNumberAndValue
  rw [decodeTagNumber_of_octets hnumber h16 hm₁, isExtendedValue_eq, isOpeningTag_eq,
    isClosingTag_eq, h8]
  simp only
  cases hlength with
  | short hle =>
    have hlow : (m 0 &&& 0x07).toNat = length := (lowerBits (m 0)).trans h8
    rw [if_neg (by simp; omega), if_neg (by simp; omega), if_neg (by simp; omega), hlow, hlen]
    rfl
  | @one b hb =>
    have h1 : m (1 + octets.length) = b := hm₂ 0 (by simp)
    have hne : b ≠ 255 ∧ b ≠ 254 := by
      constructor
      all_goals rintro rfl; simp at hb
    rw [if_pos (by simp), h1, if_neg hne.1, if_neg hne.2, hlen]
    rfl
  | two a b =>
    obtain ⟨h1, hrest⟩ := Mem.holds_cons.mp hm₂
    have h1' : m (1 + octets.length) = 254 := h1
    rw [if_pos (by simp), h1', if_neg (by decide), if_pos rfl, hlen]
    rw [Mem.shift_shift] at hrest
    have hvalue : (m.shift (1 + octets.length + 1)).be 2 = ofBe [a, b] := hrest.be_eq
    rw [decodeUnsigned16, hvalue]
    rfl
  | four a b c d =>
    obtain ⟨h1, hrest⟩ := Mem.holds_cons.mp hm₂
    have h1' : m (1 + octets.length) = 255 := h1
    rw [if_pos (by simp), h1', if_pos rfl, hlen]
    rw [Mem.shift_shift] at hrest
    have hvalue : (m.shift (1 + octets.length + 1)).be 4 = ofBe [a, b, c, d] := hrest.be_eq
    rw [decodeUnsigned32, hvalue]
    rfl

/-- A number that is there in full is read. -/
theorem NumberField.decode {number : UInt8} {max value : Nat} {octets : List UInt8}
    (h : NumberField number max octets value) (hmax : max ≤ 8) {m : Mem} (hm : m.Holds octets) :
    ∃ n length, decodeTagNumberAndValue m = (n, ⟨number, length⟩) ∧ n < octets.length ∧
      ∀ kept, bacnetUnsignedDecode (m.shift n) max length kept = (octets.length - n, value) := by
  cases h with
  | @mk tag contents htag hpos hle =>
      refine ⟨tag.length, contents.length, decodeTagNumberAndValue_of_octets htag hm.left, ?_,
        fun kept => ?_⟩
      · rw [List.length_append]
        omega
      · have h8 : contents.length ≤ 8 := by omega
        rw [bacnetUnsignedDecode, if_pos hle, if_pos ⟨hpos, h8⟩, hm.right.be_eq,
          List.length_append, Nat.add_sub_cancel_left]

theorem NumberField.lt {number : UInt8} {max value : Nat} {octets : List UInt8}
    (h : NumberField number max octets value) : value < 256 ^ max := by
  cases h with
  | mk htag hpos hle =>
      exact Nat.lt_of_lt_of_le (ofBe_lt _) (Nat.pow_le_pow_right (by decide) hle)

theorem NumberField.two_le {number : UInt8} {max value : Nat} {octets : List UInt8}
    (h : NumberField number max octets value) : 2 ≤ octets.length := by
  cases h with
  | mk htag hpos _ =>
      have htag' := htag.length_pos
      rw [List.length_append]
      omega

theorem decodeEnumerated_eq (m : Mem) (length : Nat) :
    decodeEnumerated m length 0 =
      ((bacnetUnsignedDecode m 4 length 0).1,
        UInt32.ofNat (bacnetUnsignedDecode m 4 length 0).2) := by
  unfold decodeEnumerated bacnetEnumeratedDecode bacnetUnsignedDecode
  by_cases hmax : length ≤ 4
  · by_cases hlen : 1 ≤ length ∧ length ≤ 8
    · simp only [hmax, hlen, and_self, if_true, gt_iff_lt, show 0 < length from hlen.1]
    · simp only [hmax, hlen, if_true, if_false, gt_iff_lt, Nat.lt_irrefl]
      rfl
  · simp only [hmax, if_false, gt_iff_lt, Nat.lt_irrefl]
    rfl

/-- The checking decoder reads a tag that is there in full as the other one does. -/
theorem bacnetTagNumberAndValueDecode_of_octets {contextSpecific : Bool} {t : List UInt8}
    {number : UInt8} {length max : Nat} (h : TagOctets contextSpecific t number length) {m : Mem}
    (hm : m.Holds t) (hmax : t.length ≤ max) :
    bacnetTagNumberAndValueDecode m max = some (t.length, ⟨number, length⟩) := by
  have hdecode := decodeTagNumberAndValue_of_octets h hm
  obtain ⟨field, octets, field', octets', hnumber, hlength, hlen, h16, -, h8, hm₁, hm₂⟩ :=
    h.parts hm
  unfold decodeTagNumberAndValue at hdecode
  rw [decodeTagNumber_of_octets hnumber h16 hm₁] at hdecode
  unfold bacnetTagNumberAndValueDecode
  rw [bacnetTagNumberDecode_of_octets hnumber h16 hm₁ (by omega)]
  simp only at hdecode ⊢
  rw [isExtendedValue_eq, isOpeningTag_eq, isClosingTag_eq, h8] at hdecode ⊢
  cases hlength with
  | short hle =>
    rw [if_neg (by simp; omega), if_neg (by simp; omega), if_neg (by simp; omega)] at hdecode ⊢
    rw [hdecode]
  | @one b hb =>
    have h1 : m (1 + octets.length) = b := hm₂ 0 (by simp)
    have hne : b ≠ 255 ∧ b ≠ 254 := by
      constructor
      all_goals rintro rfl; simp at hb
    have hlt : b < 254 := UInt8.lt_iff_toNat_lt.mpr hb
    have hrest : max - (1 + octets.length) ≥ 1 := by
      rw [hlen, List.length_singleton] at hmax
      omega
    rw [if_pos (by simp), h1] at hdecode ⊢
    rw [if_neg hne.1, if_neg hne.2] at hdecode
    rw [if_neg (by simp [hne.1]), if_neg (by simp [hne.2]), if_pos ⟨hlt, hrest⟩, hdecode]
  | two a b =>
    have h1 : m (1 + octets.length) = 254 := (Mem.holds_cons.mp hm₂).1
    have hrest : max - (1 + octets.length) ≥ 3 := by
      rw [hlen] at hmax
      simp only [List.length_cons, List.length_nil] at hmax
      omega
    rw [if_pos (by simp), h1] at hdecode ⊢
    rw [if_neg (by decide), if_pos rfl] at hdecode
    rw [if_neg (by simp), if_pos ⟨rfl, hrest⟩, hdecode]
  | four a b c d =>
    have h1 : m (1 + octets.length) = 255 := (Mem.holds_cons.mp hm₂).1
    have hrest : max - (1 + octets.length) ≥ 5 := by
      rw [hlen] at hmax
      simp only [List.length_cons, List.length_nil] at hmax
      omega
    rw [if_pos (by simp), h1] at hdecode ⊢
    rw [if_pos rfl] at hdecode
    rw [if_pos ⟨rfl, hrest⟩, hdecode]

/-- A message starts with at most one tag. -/
theorem TagOctets.unique {contextSpecific : Bool} {t t' rest rest' : List UInt8}
    {number number' : UInt8} {length length' : Nat} (h : TagOctets contextSpecific t number length)
    (h' : TagOctets contextSpecific t' number' length') (heq : t ++ rest = t' ++ rest') :
    t = t' ∧ rest = rest' ∧ number = number' ∧ length = length' := by
  have hm := Mem.holds_overlay (t ++ rest) fun _ => 0
  have hm' : (Mem.overlay (t ++ rest) fun _ => 0).Holds (t' ++ rest') := by
    rw [← heq]
    exact hm
  have hdecode := decodeTagNumberAndValue_of_octets h hm.left
  have hdecode' := decodeTagNumberAndValue_of_octets h' hm'.left
  rw [hdecode, Prod.mk.injEq, Tag.mk.injEq] at hdecode'
  obtain ⟨hlen, hnumber, hlength⟩ := hdecode'
  obtain ⟨ht, hrest⟩ := List.append_inj heq hlen
  exact ⟨ht, hrest, hnumber, hlength⟩

/-! ### Encoding a tag -/

set_option maxRecDepth 4096 in
theorem encodeTag_initialOctet (contextSpecific : Bool) {number : UInt8} (hn : number ≤ 14)
    (field : Fin 6) :
    (if contextSpecific then 0x08 else 0 : UInt8) ||| number <<< 4 ||| UInt8.ofNat field.val =
      initialOctet number.toNat contextSpecific field.val := by
  have hall : ∀ (c : Bool) (k : Fin 15) (g : Fin 6),
      (if c then 0x08 else 0 : UInt8) ||| UInt8.ofNat k.val <<< 4 ||| UInt8.ofNat g.val =
        initialOctet k.val c g.val := by decide
  have hk := hall contextSpecific
    ⟨number.toNat, Nat.lt_succ_of_le (UInt8.le_iff_toNat_le.mp hn)⟩ field
  rwa [UInt8.ofNat_toNat] at hk

theorem encodeTag_initialOctet_extended (contextSpecific : Bool) (field : Fin 6) :
    (if contextSpecific then 0x08 else 0 : UInt8) ||| 0xF0 ||| UInt8.ofNat field.val =
      initialOctet 15 contextSpecific field.val := by
  revert contextSpecific field
  decide

/-- What `encode_tag` yields is the tag. -/
theorem encodeTag_octets (number : UInt8) (contextSpecific : Bool) {length : Nat}
    (h : length < 2 ^ 32) :
    TagOctets contextSpecific (encodeTag number contextSpecific length) number length := by
  have hlength : ∃ (field : Fin 6) (octets : List UInt8), LengthOctets field.val octets length ∧
      ∀ cls extended,
        (if length ≤ 4 then (cls ||| UInt8.ofNat length) :: extended
          else
            (cls ||| 5) :: extended ++
              if length ≤ 253 then [UInt8.ofNat length]
              else if length ≤ 65535 then 254 :: toBe 2 length
              else 255 :: toBe 4 length) =
          (cls ||| UInt8.ofNat field.val) :: (extended ++ octets) := by
    by_cases h4 : length ≤ 4
    · refine ⟨⟨length, by omega⟩, [], .short h4, fun cls extended => ?_⟩
      rw [if_pos h4, List.append_nil]
    · by_cases h253 : length ≤ 253
      · have hval : (UInt8.ofNat length).toNat = length := by
          rw [UInt8.toNat_ofNat']
          omega
        have hone := LengthOctets.one (b := UInt8.ofNat length) (by omega)
        rw [hval] at hone
        refine ⟨5, [UInt8.ofNat length], hone, fun cls extended => ?_⟩
        rw [if_neg h4, if_pos h253]
        rfl
      · by_cases h16 : length ≤ 65535
        · have htwo := LengthOctets.two (UInt8.ofNat (length / 256)) (UInt8.ofNat length)
          have hoctets : [UInt8.ofNat (length / 256), UInt8.ofNat length] = toBe 2 length := rfl
          rw [hoctets, ofBe_toBe (by omega)] at htwo
          refine ⟨5, 254 :: toBe 2 length, htwo, fun cls extended => ?_⟩
          rw [if_neg h4, if_neg h253, if_pos h16]
          rfl
        · have hfour := LengthOctets.four (UInt8.ofNat (length / 256 / 256 / 256))
            (UInt8.ofNat (length / 256 / 256)) (UInt8.ofNat (length / 256)) (UInt8.ofNat length)
          have hoctets : [UInt8.ofNat (length / 256 / 256 / 256), UInt8.ofNat (length / 256 / 256),
              UInt8.ofNat (length / 256), UInt8.ofNat length] = toBe 4 length := rfl
          rw [hoctets, ofBe_toBe (by omega)] at hfour
          refine ⟨5, 255 :: toBe 4 length, hfour, fun cls extended => ?_⟩
          rw [if_neg h4, if_neg h253, if_neg h16]
          rfl
  obtain ⟨field, octets, hoctets, heq⟩ := hlength
  unfold encodeTag
  simp only
  by_cases h14 : number ≤ 14
  · rw [if_pos h14, if_pos h14, heq, encodeTag_initialOctet contextSpecific h14]
    exact .mk (.short (Nat.lt_succ_of_le (UInt8.le_iff_toNat_le.mp h14))) hoctets
  · rw [if_neg h14, if_neg h14, heq, encodeTag_initialOctet_extended]
    exact .mk (.extended number) hoctets

/-! ### What the checking decoder accepts -/

/-- A tag number read from the message, or an extended one that is cut off. -/
theorem bacnetTagNumberDecode_inv {m : Mem} {max len : Nat} {number : UInt8}
    (h : bacnetTagNumberDecode m max = some (len, number)) :
    (∃ octets, NumberOctets ((m 0).toNat / 16) octets number ∧ (m.shift 1).Holds octets ∧
      len = 1 + octets.length ∧ len ≤ max) ∨
    (max = 1 ∧ len = 1 ∧ number = 15) := by
  have hb := (m 0).toNat_lt
  unfold bacnetTagNumberDecode at h
  split at h
  · rename_i hmax
    rw [isExtendedTagNumber_eq] at h
    split at h
    · rename_i hext
      rw [Option.some.injEq, Prod.mk.injEq] at h
      obtain ⟨rfl, rfl⟩ := h
      rw [of_decide_eq_true hext.1]
      exact Or.inl ⟨[m 1], .extended _, Mem.holds_cons.mpr ⟨rfl, Mem.holds_nil _⟩, rfl, hext.2⟩
    · rename_i hext
      rw [Option.some.injEq, Prod.mk.injEq] at h
      obtain ⟨rfl, rfl⟩ := h
      have hupper := upperBits (m 0)
      by_cases h15 : (m 0).toNat / 16 = 15
      · refine Or.inr ⟨?_, rfl, UInt8.toNat_inj.mp (hupper.trans h15)⟩
        simp only [h15, decide_true, true_and] at hext
        omega
      · refine Or.inl ⟨[], ?_, Mem.holds_nil _, rfl, hmax⟩
        rw [← hupper]
        exact .short (by omega)
  · cases h

theorem eq_initialOctet {b : UInt8} {contextSpecific : Bool}
    (h : isContextSpecific b = contextSpecific) :
    b = initialOctet (b.toNat / 16) contextSpecific (b.toNat % 8) := by
  have hb := b.toNat_lt
  refine UInt8.toNat_inj.mp ?_
  rw [toNat_initialOctet _ (by omega) (by omega), ← h, isContextSpecific_eq]
  by_cases hclass : b.toNat / 8 % 2 = 1
  · simp only [hclass, decide_true, Bool.toNat_true]
    omega
  · simp only [hclass, decide_false, Bool.toNat_false]
    omega

/-- A tag that is accepted is within the message. -/
theorem tagLength_bounds {m : Mem} {max len : Nat} {tag : Tag}
    (h : bacnetTagNumberAndValueDecode m max = some (len, tag)) : 0 < len ∧ len ≤ max := by
  unfold bacnetTagNumberAndValueDecode at h
  split at h
  · cases h
  · rename_i len' number hnumber
    have hlen : 0 < len' ∧ len' ≤ max := by
      rcases bacnetTagNumberDecode_inv hnumber with ⟨octets, -, -, hlen, hle⟩ | ⟨hmax, hlen, -⟩
      · omega
      · omega
    simp only at h
    repeat' split at h
    all_goals cases h
    all_goals omega

/-- What the checking decoder accepts: a tag, an opening or closing tag, or the start of an
extended tag number that the message ends in. -/
theorem bacnetTagNumberAndValueDecode_inv {m : Mem} {max len : Nat} {tag : Tag}
    {contextSpecific : Bool} (hclass : isContextSpecific (m 0) = contextSpecific)
    (h : bacnetTagNumberAndValueDecode m max = some (len, tag)) :
    (∃ t, TagOctets contextSpecific t tag.number tag.lenValue ∧ m.Holds t ∧ t.length = len ∧
      len ≤ max) ∨
    (6 ≤ (m 0).toNat % 8 ∧ tag.lenValue = 0 ∧
      ∃ octets, NumberOctets ((m 0).toNat / 16) octets tag.number ∧ (m.shift 1).Holds octets ∧
        octets.length + 1 ≤ max) ∨
    (tag.number = 15 ∧ (m 0).toNat % 8 ≠ 5) := by
  have hb := (m 0).toNat_lt
  unfold bacnetTagNumberAndValueDecode at h
  split at h
  · cases h
  · rename_i len' number hnumber
    simp only [isExtendedValue_eq, isOpeningTag_eq, isClosingTag_eq] at h
    rcases bacnetTagNumberDecode_inv hnumber with ⟨octets, hoctets, hm, hlen, hle⟩ |
      ⟨hmax, rfl, rfl⟩
    · -- a tag is put together from its number and the octets of its length
      have hjoin : ∀ {octets' : List UInt8} {length : Nat},
          LengthOctets ((m 0).toNat % 8) octets' length → (m.shift len').Holds octets' →
          len' + octets'.length ≤ max →
          ∃ t, TagOctets contextSpecific t number length ∧ m.Holds t ∧
            t.length = len' + octets'.length ∧ len' + octets'.length ≤ max := by
        intro octets' length hlength hm' hmax
        refine ⟨_, .mk hoctets hlength, ?_, by simp; omega, hmax⟩
        rw [← eq_initialOctet hclass]
        refine Mem.holds_cons.mpr ⟨rfl, Mem.holds_append.mpr ⟨hm, ?_⟩⟩
        rwa [Mem.shift_shift, ← hlen]
      split at h
      · rename_i h5
        have h5 := of_decide_eq_true h5
        rw [h5] at hjoin
        split at h
        · rename_i hfour
          rw [Option.some.injEq, Prod.mk.injEq] at h
          obtain ⟨rfl, rfl⟩ := h
          have hheld := Mem.holds_slice (m.shift (len' + 1)) 4
          have hvalue : decodeUnsigned32 (m.shift (len' + 1)) =
              ofBe ((m.shift (len' + 1)).slice 4) := Mem.be_eq _ _
          rw [hvalue]
          refine Or.inl (hjoin (.four _ _ _ _) (Mem.holds_cons.mpr ⟨hfour.1, ?_⟩)
            (by simp; omega))
          rwa [Mem.shift_shift]
        · split at h
          · rename_i htwo
            rw [Option.some.injEq, Prod.mk.injEq] at h
            obtain ⟨rfl, rfl⟩ := h
            have hheld := Mem.holds_slice (m.shift (len' + 1)) 2
            have hvalue : decodeUnsigned16 (m.shift (len' + 1)) =
                ofBe ((m.shift (len' + 1)).slice 2) := Mem.be_eq _ _
            rw [hvalue]
            refine Or.inl (hjoin (.two _ _) (Mem.holds_cons.mpr ⟨htwo.1, ?_⟩) (by simp; omega))
            rwa [Mem.shift_shift]
          · split at h
            · rename_i hone
              rw [Option.some.injEq, Prod.mk.injEq] at h
              obtain ⟨rfl, rfl⟩ := h
              exact Or.inl (hjoin (.one (UInt8.lt_iff_toNat_lt.mp hone.1))
                (Mem.holds_cons.mpr ⟨rfl, Mem.holds_nil _⟩) (by simp; omega))
            · cases h
      · rename_i h5
        split at h
        · rename_i h6
          rw [Option.some.injEq, Prod.mk.injEq] at h
          obtain ⟨rfl, rfl⟩ := h
          exact Or.inr (Or.inl ⟨by simp at h6; omega, rfl, octets, hoctets, hm, by omega⟩)
        · rename_i h6
          split at h
          · rename_i h7
            rw [Option.some.injEq, Prod.mk.injEq] at h
            obtain ⟨rfl, rfl⟩ := h
            exact Or.inr (Or.inl ⟨by simp at h7; omega, rfl, octets, hoctets, hm, by omega⟩)
          · rename_i h7
            rw [Option.some.injEq, Prod.mk.injEq] at h
            obtain ⟨rfl, rfl⟩ := h
            simp only [decide_eq_true_eq] at h5 h6 h7
            have hlow := lowerBits (m 0)
            rw [hlow]
            exact Or.inl (hjoin (.short (by omega)) (Mem.holds_nil _) hle)
    · refine Or.inr (Or.inr ?_)
      split at h
      · -- nothing is left for the octets of the length
        rw [if_neg (by omega), if_neg (by omega), if_neg (by omega)] at h
        cases h
      · rename_i h5
        refine ⟨?_, by simpa using h5⟩
        repeat' split at h
        all_goals cases h
        all_goals rfl

end Bacnet
