import Bacnet.Payload

/-!
# Bacnet.Misread

The payloads that `decode_data` misreads.

`decode_data` asks `bacapp_decode_application_data` for a value and tests its result for
one error code only. A result of 0 octets passes the test with the structure still zeroed,
which reads as null; a length that does not go with the type passes it with the member
zeroed; and the octets of a character string are taken for UTF-8 in every character set.
`Misread` lists these payloads, and nothing else is returned as a value that the payload
does not begin with.

What follows the first value is not looked at, so a payload with more values is reported as
its first one unless that one is refused.
-/

namespace Bacnet

open Bacnet.Lib

/-- The payload begins with an encoding of the value. -/
def BeginsWith (pages : CodePages) (payload : List UInt8) (v : BACnetValue) : Prop :=
  ∃ e : EncodedValue pages, e.octets <+: payload ∧ Represents e.value v

/-- The payloads that `decode_data` returns a value for that they do not begin with. -/
inductive Misread (pages : CodePages) : List UInt8 → Prop
  | empty : Misread pages []
  | contextTag {b : UInt8} {rest : List UInt8} (h : b.toNat / 8 % 2 = 1) :
      Misread pages (b :: rest)
  /-- The octets of an extended length are not all there. -/
  | lengthCut {b : UInt8} {rest : List UInt8} (hclass : b.toNat / 8 % 2 = 0)
      (hfield : b.toNat % 8 = 5)
      (hcut : ∀ t number length, TagOctets false t number length → ¬ t <+: b :: rest) :
      Misread pages (b :: rest)
  /-- An opening or closing tag of the application class, with the number of null or
  boolean. -/
  | constructed {field field' : Nat} {octets rest : List UInt8} {number : UInt8}
      (hoctets : NumberOctets field octets number) (hnumber : number ≤ 1)
      (hfield : field' = 6 ∨ field' = 7) :
      Misread pages (initialOctet field false field' :: (octets ++ rest))
  | null {t rest : List UInt8} {length : Nat} (ht : TagOctets false t 0 length)
      (hlength : length ≠ 0) : Misread pages (t ++ rest)
  | boolean {t rest : List UInt8} {length : Nat} (ht : TagOctets false t 1 length)
      (hlength : 1 < length) : Misread pages (t ++ rest)
  | real {t rest : List UInt8} {length : Nat} (ht : TagOctets false t 4 length)
      (hlength : length ≠ 0 ∧ length ≠ 4) (hrest : length ≤ rest.length) :
      Misread pages (t ++ rest)
  | double {t rest : List UInt8} {length : Nat} (ht : TagOctets false t 5 length)
      (hlength : length ≠ 0 ∧ length ≠ 8) (hrest : length ≤ rest.length) :
      Misread pages (t ++ rest)
  /-- More unused bits than the last octet has, or unused bits without an octet. -/
  | bitString {t o rest : List UInt8} {unused : UInt8} (ht : TagOctets false t 8 (o.length + 1))
      (hlength : o.length ≤ maxBitstringBytes) (hunused : 7 < unused.toNat ∨ o = [] ∧ unused ≠ 0) :
      Misread pages (t ++ unused :: (o ++ rest))
  | characterString {t o rest : List UInt8} {encoding : UInt8}
      (ht : TagOctets false t 7 (o.length + 1)) (hlength : o.length ≤ characterStringCapacity)
      (hread : ¬ ReadsAsUtf8 pages encoding o) : Misread pages (t ++ encoding :: (o ++ rest))

/-! ### The contents that a tag announces -/

/-- The lengths that go with the types that `decode_data` does not check. -/
theorem Contents.length_spec {pages : CodePages} {number length : Nat} {o : List UInt8}
    {p : Primitive} (h : Contents pages number length o p) :
    (number = 0 → length = 0) ∧ (number = 1 → length ≤ 1) ∧ (number = 4 → length = 4) ∧
      (number = 5 → length = 8) := by
  cases h with
  | boolean b =>
    have hb := b.toNat_le
    omega
  | _ => omega

theorem Contents.bitString_inv {pages : CodePages} {length : Nat} {unused : UInt8}
    {o : List UInt8} {p : Primitive} (h : Contents pages 8 length (unused :: o) p) :
    unused.toNat ≤ 7 ∧ (o = [] → unused = 0) := by
  cases h with
  | bitString hunused hnil => exact ⟨hunused, hnil⟩

theorem Contents.characterString_inv {pages : CodePages} {length : Nat} {encoding : UInt8}
    {o : List UInt8} {p : Primitive} (h : Contents pages 7 length (encoding :: o) p) :
    ∃ s, TextIn pages encoding s o ∧ p = .characterString s := by
  cases h with
  | characterString hs => exact ⟨_, hs, rfl⟩

/-- Two tags at the start of one payload are the same. -/
theorem EncodedValue.tag_eq {pages : CodePages} {e : EncodedValue pages} {t rest : List UInt8}
    {number : UInt8} {length : Nat} (ht : TagOctets false t number length)
    (h : e.octets <+: t ++ rest) :
    e.number = number ∧ e.length = length ∧ e.contents <+: rest := by
  obtain ⟨more, hmore⟩ := h
  rw [EncodedValue.octets, List.append_assoc] at hmore
  obtain ⟨-, hrest, hnumber, hlength⟩ := e.tagged.unique ht hmore
  exact ⟨hnumber, hlength, ⟨more, hrest⟩⟩

/-- The contents that a payload holds behind the tag. -/
theorem EncodedValue.contents_eq {pages : CodePages} {e : EncodedValue pages}
    {t o rest : List UInt8} {number : UInt8} (ht : TagOctets false t number o.length)
    (hnumber : 2 ≤ number.toNat) (h : e.octets <+: t ++ (o ++ rest)) :
    e.number = number ∧ e.contents = o := by
  obtain ⟨hn, hlength, hbegins⟩ := EncodedValue.tag_eq ht h
  have hlen := e.meaning.length_eq (hn ▸ hnumber)
  refine ⟨hn, ?_⟩
  rw [hlength] at hlen
  rw [List.prefix_iff_eq_take, hlen, List.take_left] at hbegins
  exact hbegins

/-! ### A misread payload -/

theorem startsWith_of_octets {data : ReadPropertyData} {t rest : List UInt8} {number : UInt8}
    {length : Nat} (ht : TagOctets false t number length) (h : data.payload = t ++ rest) :
    StartsWith data t.length number length ∧ (data.behind t.length).Holds rest ∧
      data.left t.length = rest.length := by
  have hlen := congrArg List.length h
  rw [ReadPropertyData.payload, Mem.length_slice, List.length_append] at hlen
  have hm : data.applicationData.Holds (t ++ rest) := by
    rw [← h]
    exact Mem.holds_slice _ _
  refine ⟨⟨isContextSpecific_of_octets ht hm.left,
    bacnetTagNumberAndValueDecode_of_octets ht hm.left (by omega)⟩, hm.right, ?_⟩
  change data.applicationDataLen - t.length = rest.length
  omega

/-- A payload with no tag that the decoders accept is read as null. -/
theorem decodeData_noTag {data : ReadPropertyData}
    (h : isContextSpecific (data.applicationData 0) = true ∨
      bacnetTagNumberAndValueDecode data.applicationData data.applicationDataLen = none) :
    decodeData data = .ok .null := by
  rw [decodeData_eq]
  unfold bacappDecodeApplicationData
  by_cases hclass : isContextSpecific (data.applicationData 0) = true
  · rw [if_pos hclass]
    rfl
  · rw [if_neg hclass, h.resolve_left hclass]
    rfl

theorem payload_cons {data : ReadPropertyData} {b : UInt8} {rest : List UInt8}
    (h : data.payload = b :: rest) :
    data.applicationData 0 = b ∧ (data.applicationData.shift 1).Holds rest ∧
      data.applicationDataLen = rest.length + 1 := by
  have hm : data.applicationData.Holds (b :: rest) := by
    rw [← h]
    exact Mem.holds_slice _ _
  have hlen := congrArg List.length h
  rw [ReadPropertyData.payload, Mem.length_slice] at hlen
  exact ⟨(Mem.holds_cons.mp hm).1, (Mem.holds_cons.mp hm).2, hlen⟩

theorem decodeData_misread {pages : CodePages} {data : ReadPropertyData}
    (h : Misread pages data.payload) :
    ∃ v, decodeData data = .ok v ∧ ¬ BeginsWith pages data.payload v := by
  generalize hp : data.payload = payload at h
  cases h with
  | empty =>
    refine ⟨_, decodeData_empty hp, ?_⟩
    rintro ⟨e, hbegins, -⟩
    have hpos := TagOctets.length_pos e.tagged
    have hle := hbegins.length_le
    rw [EncodedValue.octets, List.length_append, List.length_nil] at hle
    omega
  | @contextTag b rest hclass =>
    obtain ⟨h0, -, -⟩ := payload_cons hp
    have hcontext : isContextSpecific (data.applicationData 0) = true := by
      rw [h0, isContextSpecific_eq, hclass]
      rfl
    refine ⟨_, decodeData_noTag (Or.inl hcontext), ?_⟩
    rintro ⟨e, hbegins, -⟩
    rw [← hp] at hbegins
    rw [(startsWith_of_begins hbegins).1.application] at hcontext
    exact Bool.false_ne_true hcontext
  | @lengthCut b rest hclass hfield hcut =>
    obtain ⟨h0, hm, hlen⟩ := payload_cons hp
    have happ : isContextSpecific (data.applicationData 0) = false := by
      rw [h0, isContextSpecific_eq, hclass]
      rfl
    refine ⟨_, decodeData_noTag (Or.inr ?_), ?_⟩
    · rw [Option.eq_none_iff_forall_ne_some]
      rintro ⟨len, tag⟩ hdecode
      rcases bacnetTagNumberAndValueDecode_inv happ hdecode with
        ⟨t, ht, hholds, hlent, hle⟩ | ⟨h6, -, -⟩ | ⟨-, h5⟩
      · refine hcut t _ _ ht ?_
        rw [← hp]
        exact Mem.prefix_slice_iff.mpr ⟨hholds, by omega⟩
      · rw [h0] at h6
        omega
      · rw [h0] at h5
        exact h5 hfield
    · rintro ⟨e, hbegins, -⟩
      exact hcut e.tag _ _ e.tagged ((List.prefix_append _ _).trans hbegins)
  | @constructed field field' octets rest number hoctets hnumber hfield =>
    obtain ⟨h0, hm, hlen⟩ := payload_cons hp
    have hle := hoctets.field_le
    have hval : (data.applicationData 0).toNat = 16 * field + field' := by
      rw [h0, toNat_initialOctet false hle (by omega)]
      rfl
    rw [List.length_append] at hlen
    have hstart : StartsWith data (1 + octets.length) number 0 := by
      refine ⟨?_, ?_⟩
      · rw [isContextSpecific_eq]
        exact decide_eq_false (by omega)
      · have hopening : isOpeningTag (data.applicationData 0) =
            decide (field' = 6) := by
          rw [isOpeningTag_eq]
          exact decide_eq_decide.mpr (by omega)
        have hclosing : isClosingTag (data.applicationData 0) =
            decide (field' = 7) := by
          rw [isClosingTag_eq]
          exact decide_eq_decide.mpr (by omega)
        have hextended : isExtendedValue (data.applicationData 0) = false := by
          rw [isExtendedValue_eq]
          exact decide_eq_false (by omega)
        unfold bacnetTagNumberAndValueDecode
        rw [bacnetTagNumberDecode_of_octets hoctets (by omega) hm.left (by omega), hextended,
          hopening, hclosing]
        rcases hfield with rfl | rfl
        · rfl
        · rfl
    have hok : ∃ v, decodeData data = .ok v := by
      by_cases hzero : number = 0
      · subst hzero
        exact ⟨_, decodeData_null hstart⟩
      · have hone : number = 1 := by
          refine UInt8.toNat_inj.mp ?_
          have hnumber := UInt8.le_iff_toNat_le.mp hnumber
          have hne : number.toNat ≠ 0 := fun h => hzero (UInt8.toNat_inj.mp h)
          change number.toNat ≤ 1 at hnumber
          change number.toNat = 1
          omega
        subst hone
        exact ⟨_, decodeData_boolean hstart⟩
    obtain ⟨v, hv⟩ := hok
    refine ⟨v, hv, ?_⟩
    rintro ⟨e, hbegins, -⟩
    rw [← hp] at hbegins
    have hheld := (Mem.prefix_slice_iff.mp hbegins).1.left
    obtain ⟨_, _, _, _, -, hlength, -, -, -, h8, -⟩ := e.tagged.parts hheld
    have h5 := hlength.field_le
    omega
  | @null t rest length ht hlength =>
    obtain ⟨hstart, -, -⟩ := startsWith_of_octets ht hp
    refine ⟨_, decodeData_null hstart, ?_⟩
    rintro ⟨e, hbegins, -⟩
    obtain ⟨hn, hl, -⟩ := EncodedValue.tag_eq ht hbegins
    exact hlength (hl ▸ e.meaning.length_spec.1 (by rw [hn]; rfl))
  | @boolean t rest length ht hlength =>
    obtain ⟨hstart, -, -⟩ := startsWith_of_octets ht hp
    refine ⟨_, decodeData_boolean hstart, ?_⟩
    rintro ⟨e, hbegins, -⟩
    obtain ⟨hn, hl, -⟩ := EncodedValue.tag_eq ht hbegins
    have hle := e.meaning.length_spec.2.1 (by rw [hn]; rfl)
    omega
  | @real t rest length ht hlength hrest =>
    obtain ⟨hstart, -, hleft⟩ := startsWith_of_octets ht hp
    refine ⟨_, (decodeData_real hstart).trans (if_pos ⟨hlength.1, hleft ▸ hrest⟩), ?_⟩
    rintro ⟨e, hbegins, -⟩
    obtain ⟨hn, hl, -⟩ := EncodedValue.tag_eq ht hbegins
    exact hlength.2 (hl ▸ e.meaning.length_spec.2.2.1 (by rw [hn]; rfl))
  | @double t rest length ht hlength hrest =>
    obtain ⟨hstart, -, hleft⟩ := startsWith_of_octets ht hp
    refine ⟨_, (decodeData_double hstart).trans (if_pos ⟨hlength.1, hleft ▸ hrest⟩), ?_⟩
    rintro ⟨e, hbegins, -⟩
    obtain ⟨hn, hl, -⟩ := EncodedValue.tag_eq ht hbegins
    exact hlength.2 (hl ▸ e.meaning.length_spec.2.2.2 (by rw [hn]; rfl))
  | @bitString t o rest unused ht hlength hunused =>
    obtain ⟨hstart, -, hleft⟩ := startsWith_of_octets ht hp
    have hroom : o.length + 1 ≤ data.left t.length := by
      rw [hleft]
      simp
    refine ⟨_, (decodeData_bitString hstart).trans
      (if_pos ⟨⟨by omega, Nat.succ_le_succ hlength⟩, hroom⟩), ?_⟩
    rintro ⟨e, hbegins, -⟩
    obtain ⟨hn, hcontents⟩ := EncodedValue.contents_eq (o := unused :: o) ht (by decide) hbegins
    have hmeaning := e.meaning
    rw [hn, hcontents] at hmeaning
    obtain ⟨hle, hnil⟩ := hmeaning.bitString_inv
    rcases hunused with hgt | ⟨hempty, hne⟩
    · omega
    · exact hne (hnil hempty)
  | @characterString t o rest encoding ht hlength hread =>
    obtain ⟨hstart, hm, hleft⟩ := startsWith_of_octets ht hp
    have hroom : o.length + 1 ≤ data.left t.length := by
      rw [hleft]
      simp
    have htext : ((data.behind t.length).shift 1).slice (o.length + 1 - 1) = o := by
      rw [Nat.add_sub_cancel]
      exact (Mem.holds_cons.mp hm).2.left.slice_eq
    refine ⟨_, (decodeData_characterString hstart).trans
      (if_pos ⟨⟨by omega, Nat.succ_le_succ hlength⟩, hroom⟩), ?_⟩
    rw [htext]
    rintro ⟨e, hbegins, hrep⟩
    obtain ⟨hn, hcontents⟩ := EncodedValue.contents_eq (o := encoding :: o) ht (by decide) hbegins
    have hmeaning := e.meaning
    rw [hn, hcontents] at hmeaning
    obtain ⟨s, hs, hvalue⟩ := hmeaning.characterString_inv
    rw [hvalue, Represents.characterString_iff] at hrep
    exact hread ((textIn_cstr_iff pages encoding o).mp (hrep ▸ hs))

/-! ### Every other payload -/

theorem Mem.slice_cons (m : Mem) (n : Nat) : m.slice (n + 1) = m 0 :: (m.shift 1).slice n := by
  rw [Nat.add_comm, Mem.slice_add]
  rfl

/-- A payload behind a tag it starts with, split after the contents. -/
theorem payload_split {data : ReadPropertyData} {t : List UInt8} {n : Nat}
    (hm : data.applicationData.Holds t) (hle : t.length ≤ data.applicationDataLen)
    (hn : n ≤ data.left t.length) :
    ∃ rest, data.payload = t ++ ((data.behind t.length).slice n ++ rest) := by
  refine ⟨((data.behind t.length).shift n).slice (data.left t.length - n), ?_⟩
  have hlen : data.applicationDataLen = t.length + (n + (data.left t.length - n)) := by
    change data.applicationDataLen = t.length + (n + (data.applicationDataLen - t.length - n))
    have hn' : n ≤ data.applicationDataLen - t.length := hn
    omega
  rw [ReadPropertyData.payload, hlen, Mem.slice_add, Mem.slice_add, hm.slice_eq]

/-- A value that is returned, for a payload that begins with the encoding of one that
`cstr` reads. -/
theorem beginsWith_of_encoded {pages : CodePages} {data : ReadPropertyData} {v : BACnetValue}
    (e : EncodedValue pages) (hbegins : e.octets <+: data.payload) (hlegible : e.Legible)
    (h : decodeData data = .ok v) : BeginsWith pages data.payload v := by
  by_cases hacc : e.Accepted
  · obtain ⟨v', hv', hrep⟩ := decodeData_accepted hbegins hacc
    rw [h] at hv'
    exact ⟨e, hbegins, Except.ok.inj hv' ▸ hrep.mpr hlegible⟩
  · obtain ⟨err, herr⟩ := decodeData_refused hbegins hacc
    rw [h] at herr
    cases herr

/-- The tags behind which `decode_data` finds a value. -/
theorem decodeData_ok_inv {data : ReadPropertyData} {len length : Nat} {number : UInt8}
    {v : BACnetValue} (hstart : StartsWith data len number length) (h : decodeData data = .ok v) :
    number = 0 ∨ number = 1 ∨
      (length ≠ 0 ∧ length ≤ data.left len ∧
        (number = 2 ∨ number = 3 ∨ number = 4 ∨ number = 5 ∨
          (number = 7 ∧ length ≤ characterStringCapacity + 1) ∨
          (number = 8 ∧ length ≤ maxBitstringBytes + 1) ∨ number = 9 ∨
          (number = 12 ∧ length = 4))) := by
  have hif : ∀ {P : Prop} [Decidable P] {r : Result BACnetValue} {e : Error},
      (if P then r else .error e) = .ok v → P := by
    intro P _ r e hr
    by_contra hP
    rw [if_neg hP] at hr
    cases hr
  have hnot : ¬ ∃ e, decodeData data = .error e := by
    rintro ⟨e, he⟩
    rw [h] at he
    cases he
  have hnumber : ∀ {k : Nat}, number.toNat = k → number = UInt8.ofNat k := by
    rintro k rfl
    exact UInt8.ofNat_toNat.symm
  by_cases h6 : number.toNat = 6 ∨ number.toNat = 10 ∨ number.toNat = 11 ∨ 12 < number.toNat
  · exact absurd (decodeData_unhandled hstart h6) hnot
  · obtain hk | hk | hk | hk | hk | hk | hk | hk | hk | hk :
        number.toNat = 0 ∨ number.toNat = 1 ∨ number.toNat = 2 ∨ number.toNat = 3 ∨
          number.toNat = 4 ∨ number.toNat = 5 ∨ number.toNat = 7 ∨ number.toNat = 8 ∨
          number.toNat = 9 ∨ number.toNat = 12 := by omega
    all_goals obtain rfl := hnumber hk
    · exact Or.inl rfl
    · exact Or.inr (Or.inl rfl)
    · have hb := hif ((decodeData_unsigned hstart).symm.trans h)
      exact Or.inr (Or.inr ⟨by omega, hb.2, by simp⟩)
    · have hb := hif ((decodeData_signed hstart).symm.trans h)
      exact Or.inr (Or.inr ⟨by omega, hb.2, by simp⟩)
    · have hb := hif ((decodeData_real hstart).symm.trans h)
      exact Or.inr (Or.inr ⟨hb.1, hb.2, by simp⟩)
    · have hb := hif ((decodeData_double hstart).symm.trans h)
      exact Or.inr (Or.inr ⟨hb.1, hb.2, by simp⟩)
    · have hb := hif ((decodeData_characterString hstart).symm.trans h)
      exact Or.inr (Or.inr ⟨by omega, hb.2, by simp [hb.1.2]⟩)
    · have hb := hif ((decodeData_bitString hstart).symm.trans h)
      exact Or.inr (Or.inr ⟨by omega, hb.2, by simp [hb.1.2]⟩)
    · have hb := hif ((decodeData_enumerated hstart).symm.trans h)
      exact Or.inr (Or.inr ⟨by omega, hb.2, by simp⟩)
    · have hb := hif ((decodeData_objectId hstart).symm.trans h)
      exact Or.inr (Or.inr ⟨by omega, hb.2, by simp [hb.1]⟩)

/-- Soundness behind a complete tag. -/
theorem decodeData_sound_of_tag {pages : CodePages} {data : ReadPropertyData} {t : List UInt8}
    {length : Nat} {number : UInt8} {v : BACnetValue} (ht : TagOctets false t number length)
    (hm : data.applicationData.Holds t) (hle : t.length ≤ data.applicationDataLen)
    (h : decodeData data = .ok v) :
    Misread pages data.payload ∨ BeginsWith pages data.payload v := by
  have hstart : StartsWith data t.length number length :=
    ⟨isContextSpecific_of_octets ht hm, bacnetTagNumberAndValueDecode_of_octets ht hm hle⟩
  -- an encoded value with the given contents, when there are such
  have hencoded : ∀ {n : Nat} {p : Primitive}, n ≤ data.left t.length →
      Contents pages number.toNat length ((data.behind t.length).slice n) p → number.toNat ≠ 7 →
      BeginsWith pages data.payload v := by
    intro n p hn hcontents h7
    obtain ⟨rest, hsplit⟩ := payload_split hm hle hn
    refine beginsWith_of_encoded ⟨t, number, length, _, p, ht, hcontents⟩ ?_ (fun hk => absurd hk h7) h
    rw [hsplit, EncodedValue.octets, ← List.append_assoc]
    exact List.prefix_append _ _
  have hslice : ((data.behind t.length).slice length).length = length := Mem.length_slice _ _
  rcases decodeData_ok_inv hstart h with rfl | rfl | ⟨hne, hleft, hnumber⟩
  · obtain ⟨rest, hsplit⟩ := payload_split hm hle (Nat.zero_le _)
    by_cases hzero : length = 0
    · subst hzero
      exact Or.inr (hencoded (Nat.zero_le _) .null (by decide))
    · rw [hsplit]
      exact Or.inl (.null ht hzero)
  · obtain ⟨rest, hsplit⟩ := payload_split hm hle (Nat.zero_le _)
    by_cases hone : length ≤ 1
    · have hbool : length = (decide (length = 1)).toNat := by
        by_cases h1 : length = 1
        · rw [h1]
          rfl
        · have h0 : length = 0 := by omega
          rw [h0]
          rfl
      have hcontents : Contents pages _ _ _ _ := .boolean (decide (length = 1))
      rw [← hbool] at hcontents
      exact Or.inr (hencoded (Nat.zero_le _) hcontents (by decide))
    · rw [hsplit]
      exact Or.inl (.boolean ht (by omega))
  · have hnil : (data.behind t.length).slice length ≠ [] := by
      intro hnil
      rw [hnil] at hslice
      exact hne hslice.symm
    obtain ⟨rest, hsplit⟩ := payload_split hm hle hleft
    rcases hnumber with rfl | rfl | rfl | rfl | ⟨rfl, hmax⟩ | ⟨rfl, hmax⟩ | rfl | ⟨rfl, rfl⟩
    · have hcontents : Contents pages _ _ _ _ := .unsigned hnil
      rw [hslice] at hcontents
      exact Or.inr (hencoded hleft hcontents (by decide))
    · have hcontents : Contents pages _ _ _ _ := .signed hnil
      rw [hslice] at hcontents
      exact Or.inr (hencoded hleft hcontents (by decide))
    · by_cases h4 : length = 4
      · subst h4
        exact Or.inr (hencoded hleft (.real hslice) (by decide))
      · rw [hsplit]
        refine Or.inl (.real ht ⟨hne, h4⟩ ?_)
        rw [List.length_append, hslice]
        omega
    · by_cases h8 : length = 8
      · subst h8
        exact Or.inr (hencoded hleft (.double hslice) (by decide))
      · rw [hsplit]
        refine Or.inl (.double ht ⟨hne, h8⟩ ?_)
        rw [List.length_append, hslice]
        omega
    · obtain ⟨k, rfl⟩ := Nat.exists_eq_succ_of_ne_zero hne
      have hlen : (((data.behind t.length).shift 1).slice k).length = k := Mem.length_slice _ _
      rw [Nat.succ_eq_add_one, Mem.slice_cons] at hsplit
      generalize ((data.behind t.length).shift 1).slice k = o at hsplit hlen
      obtain rfl := hlen
      by_cases hread : ReadsAsUtf8 pages (data.behind t.length 0) o
      · have hcontents : Contents pages (UInt8.toNat 7) (o.length + 1)
            (data.behind t.length 0 :: o) (.characterString (cstr o)) :=
          .characterString ((textIn_cstr_iff pages _ o).mpr hread)
        refine Or.inr (beginsWith_of_encoded ⟨t, 7, _, _, _, ht, hcontents⟩ ?_ (fun _ => hread) h)
        rw [hsplit, EncodedValue.octets, ← List.append_assoc]
        exact List.prefix_append _ _
      · rw [hsplit]
        exact Or.inl (.characterString ht (Nat.le_of_succ_le_succ hmax) hread)
    · obtain ⟨k, rfl⟩ := Nat.exists_eq_succ_of_ne_zero hne
      have hlen : (((data.behind t.length).shift 1).slice k).length = k := Mem.length_slice _ _
      have hslice' := Mem.slice_cons (data.behind t.length) k
      generalize ((data.behind t.length).shift 1).slice k = o at hslice' hlen
      obtain rfl := hlen
      by_cases hunused : 7 < (data.behind t.length 0).toNat ∨
          o = [] ∧ data.behind t.length 0 ≠ 0
      · rw [hsplit, Nat.succ_eq_add_one, hslice']
        exact Or.inl (.bitString ht (Nat.le_of_succ_le_succ hmax) hunused)
      · have hcontents : Contents pages (UInt8.toNat 8) (o.length + 1)
            (data.behind t.length 0 :: o) _ :=
          .bitString (by omega) fun hnil => by
            by_contra hne
            exact hunused (Or.inr ⟨hnil, hne⟩)
        rw [← hslice'] at hcontents
        exact Or.inr (hencoded hleft hcontents (by decide))
    · have hcontents : Contents pages _ _ _ _ := .enumerated hnil
      rw [hslice] at hcontents
      exact Or.inr (hencoded hleft hcontents (by decide))
    · exact Or.inr (hencoded hleft (.objectId hslice) (by decide))

/-- A tag is not accepted only when its length is cut off. -/
theorem bacnetTagNumberAndValueDecode_none {m : Mem} {max : Nat} (hmax : 0 < max)
    (h : bacnetTagNumberAndValueDecode m max = none) : (m 0).toNat % 8 = 5 := by
  unfold bacnetTagNumberAndValueDecode at h
  split at h
  · rename_i hnumber
    unfold bacnetTagNumberDecode at hnumber
    rw [if_pos (Nat.succ_le_of_lt hmax)] at hnumber
    split at hnumber <;> cases hnumber
  · simp only [isExtendedValue_eq] at h
    split at h
    · rename_i h5
      exact of_decide_eq_true h5
    · split at h
      · cases h
      · split at h <;> cases h

theorem decodeData_sound {pages : CodePages} {data : ReadPropertyData} {v : BACnetValue}
    (h : decodeData data = .ok v) : Misread pages data.payload ∨ BeginsWith pages data.payload v := by
  cases hp : data.payload with
  | nil => exact Or.inl .empty
  | cons b rest =>
    obtain ⟨h0, hm, hlen⟩ := payload_cons hp
    cases hclass : isContextSpecific (data.applicationData 0) with
    | true =>
      rw [h0, isContextSpecific_eq] at hclass
      exact Or.inl (.contextTag (of_decide_eq_true hclass))
    | false =>
      cases hdecode : bacnetTagNumberAndValueDecode data.applicationData
          data.applicationDataLen with
      | none =>
        have h5 := bacnetTagNumberAndValueDecode_none (by omega) hdecode
        rw [h0] at h5 hclass
        rw [isContextSpecific_eq] at hclass
        have hclass := of_decide_eq_false hclass
        refine Or.inl (.lengthCut (by omega) h5 fun t number length ht hbegins => ?_)
        rw [← hp] at hbegins
        obtain ⟨hholds, hle⟩ := Mem.prefix_slice_iff.mp hbegins
        rw [bacnetTagNumberAndValueDecode_of_octets ht hholds hle] at hdecode
        cases hdecode
      | some decoded =>
        obtain ⟨len, number, length⟩ := decoded
        rw [← hp]
        rcases bacnetTagNumberAndValueDecode_inv hclass hdecode with
          ⟨t, ht, hholds, rfl, hle⟩ | ⟨h6, hzero, octets, hoctets, hholds, hle⟩ | ⟨h15, -⟩
        · exact decodeData_sound_of_tag ht hholds hle h
        · -- an opening or closing tag has no length, so only null and boolean are returned
          obtain rfl : length = 0 := hzero
          have hnumber : number ≤ 1 := by
            rcases decodeData_ok_inv ⟨hclass, hdecode⟩ h with rfl | rfl | ⟨hne, -, -⟩
            · decide
            · decide
            · exact absurd rfl hne
          obtain ⟨more, hmore⟩ : octets <+: rest := by
            have hslice : data.payload = data.applicationData 0 ::
                (data.applicationData.shift 1).slice rest.length := by
              rw [ReadPropertyData.payload, hlen, Mem.slice_cons]
            rw [hp, List.cons.injEq] at hslice
            rw [hslice.2]
            exact Mem.prefix_slice_iff.mpr ⟨hholds, by omega⟩
          rw [hp, ← hmore, ← h0, eq_initialOctet hclass]
          have hb := (data.applicationData 0).toNat_lt
          exact Or.inl (.constructed hoctets hnumber (by omega))
        · obtain ⟨e, he⟩ := decodeData_unhandled ⟨hclass, hdecode⟩
            (Or.inr (Or.inr (Or.inr (by
              have h15' : number = 15 := h15
              rw [h15']
              decide))))
          rw [h] at he
          cases he

/-- `decode_data` returns only what the payload begins with, for exactly the payloads that
are not misread. -/
theorem decodeData_sound_iff (pages : CodePages) (data : ReadPropertyData) :
    (∀ v, decodeData data = .ok v → BeginsWith pages data.payload v) ↔
      ¬ Misread pages data.payload := by
  constructor
  · intro hall hmis
    obtain ⟨v, hv, hnot⟩ := decodeData_misread hmis
    exact hnot (hall v hv)
  · intro hmis v hv
    exact (decodeData_sound hv).resolve_left hmis

/-- A real of two octets is returned as zero. -/
theorem shortReal_misread :
    decodeData (ackWith [0x42, 0x12, 0x34]) = .ok (.real 0) ∧
      ∀ pages, ¬ BeginsWith pages (ackWith [0x42, 0x12, 0x34]).payload (.real 0) := by
  have hread : decodeData (ackWith [0x42, 0x12, 0x34]) = .ok (.real 0) := rfl
  refine ⟨hread, fun pages => ?_⟩
  have ht : TagOctets false (encodeTag 4 false 2) 4 2 := encodeTag_octets 4 false (by decide)
  have hmis : Misread pages (ackWith [0x42, 0x12, 0x34]).payload := by
    rw [payload_ackWith]
    have hrest : 2 ≤ [(0x12 : UInt8), 0x34].length := by decide
    exact .real ht (by decide) hrest
  obtain ⟨v, hv, hnot⟩ := decodeData_misread hmis
  rw [hread] at hv
  exact Except.ok.inj hv ▸ hnot

/-! ### Payloads of several values -/

/-- A result that accounts for all of the values: a single one is returned itself, any
other number of them as an array, or there is an error. -/
def AccountsFor (result : Result BACnetValue) : List Primitive → Prop
  | [p] => ∃ v, result = .ok v ∧ Represents p v
  | ps =>
    (∃ vs, result = .ok (.array vs) ∧ List.Forall₂ Represents ps vs) ∨ ∃ e, result = .error e

/-- The payloads that are accounted for: one value that is decoded and read, or several of
which the first is refused. -/
def ReportedInFull {pages : CodePages} : List (EncodedValue pages) → Prop
  | [] => False
  | [e] => e.Accepted ∧ e.Legible
  | e :: _ :: _ => ¬ e.Accepted

theorem decodeData_ne_array {data : ReadPropertyData} {vs : List BACnetValue} :
    decodeData data ≠ .ok (.array vs) := by
  intro h
  rw [decodeData_eq] at h
  split at h
  · cases h
  · unfold readValue at h
    split at h
    all_goals cases h

theorem decodeData_accountsFor_iff {pages : CodePages} (values : List (EncodedValue pages))
    {data : ReadPropertyData} (h : data.payload = values.flatMap EncodedValue.octets) :
    AccountsFor (decodeData data) (values.map EncodedValue.value) ↔ ReportedInFull values := by
  have hbegins : ∀ {e rest}, values = e :: rest → e.octets <+: data.payload := by
    rintro e rest rfl
    rw [h]
    exact List.prefix_append _ _
  cases values with
  | nil =>
    have hread := decodeData_empty h
    simp only [List.map_nil, AccountsFor, ReportedInFull, iff_false]
    rintro (⟨vs, hvs, -⟩ | ⟨e, he⟩)
    · exact decodeData_ne_array hvs
    · rw [hread] at he
      cases he
  | cons e rest =>
    have he := hbegins rfl
    cases rest with
    | nil =>
      simp only [List.map_cons, List.map_nil, AccountsFor, ReportedInFull]
      by_cases hacc : e.Accepted
      · obtain ⟨v, hv, hrep⟩ := decodeData_accepted he hacc
        rw [hv]
        constructor
        · rintro ⟨v', hv', hrep'⟩
          exact ⟨hacc, hrep.mp (Except.ok.inj hv' ▸ hrep')⟩
        · rintro ⟨-, hlegible⟩
          exact ⟨v, rfl, hrep.mpr hlegible⟩
      · obtain ⟨err, herr⟩ := decodeData_refused he hacc
        rw [herr]
        refine iff_of_false ?_ fun hfull => hacc hfull.1
        rintro ⟨v, hv, -⟩
        cases hv
    | cons e' rest =>
      simp only [List.map_cons, AccountsFor, ReportedInFull]
      by_cases hacc : e.Accepted
      · obtain ⟨v, hv, -⟩ := decodeData_accepted he hacc
        refine iff_of_false ?_ fun hfull => hfull hacc
        rintro (⟨vs, hvs, -⟩ | ⟨err, herr⟩)
        · exact decodeData_ne_array hvs
        · rw [hv] at herr
          cases herr
      · exact iff_of_true (Or.inr (decodeData_refused he hacc)) hacc

/-- An unsigned value of one octet. -/
def smallUnsigned (pages : CodePages) (n : UInt8) : EncodedValue pages where
  tag := [0x21]
  number := 2
  length := 1
  contents := [n]
  value := .unsigned n.toNat
  tagged := show TagOctets false (encodeTag 2 false 1) 2 1 from
    encodeTag_octets 2 false (by decide)
  meaning := by
    have hcontents : Contents pages _ _ _ _ := .unsigned (List.cons_ne_nil n [])
    rwa [ofBe_cons, ofBe_nil, List.length_nil, Nat.pow_zero, Nat.mul_one] at hcontents

/-- Code pages of plain ASCII. -/
def asciiPages : CodePages :=
  let text := fun octets : List UInt8 =>
    if octets.all (· < 128) then
      some (String.ofList (octets.map fun b => Char.ofNat b.toNat)) else none
  ⟨text, text⟩

theorem oneUnsigned_accounted :
    AccountsFor (decodeData (ackWith [0x21, 5])) [.unsigned 5] :=
  (decodeData_accountsFor_iff [smallUnsigned asciiPages 5] (payload_ackWith _)).mpr
    ⟨show 1 ≤ 8 by decide, fun h => absurd (show 2 = 7 from h) (by decide)⟩

/-- Two unsigned values are reported as the first of them. -/
theorem twoUnsigned_reported_as_first :
    (ackWith [0x21, 5, 0x21, 6]).payload =
        [smallUnsigned asciiPages 5, smallUnsigned asciiPages 6].flatMap EncodedValue.octets ∧
      decodeData (ackWith [0x21, 5, 0x21, 6]) = .ok (.uint 5) ∧
      ¬ AccountsFor (decodeData (ackWith [0x21, 5, 0x21, 6])) [.unsigned 5, .unsigned 6] := by
  have hread : decodeData (ackWith [0x21, 5, 0x21, 6]) = .ok (.uint 5) := rfl
  refine ⟨payload_ackWith _, hread, ?_⟩
  rw [hread]
  rintro (⟨vs, hvs, -⟩ | ⟨e, he⟩)
  · cases hvs
  · cases he

end Bacnet
