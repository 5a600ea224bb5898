import Bacnet.CString
import Bacnet.ReadProperty

/-!
# Bacnet.Checked

The decoding of a reply's value once more, with every access checked: to the array behind a
pointer or an index, to a slice, and to the text that `cstr` reads. `none` is an access that
panics or leaves its array.

What `Bacnet.decodeData` takes for granted is proved here: the checked decoder ends with what
the unchecked one gives, whatever the reply holds.
-/

namespace Bacnet.Checked

open Bacnet.Lib

/-! ### Pointers -/

/-- A `const char *`: NULL, or the octets from there to the end of the array. -/
abbrev CharPtr := Option (List UInt8)

/-- A string literal. -/
def literal (text : String) : CharPtr := some (utf8Octets text.toList ++ [0])

/-- `cstr`: it reads up to the first NUL. -/
def cstr (ptr : CharPtr) : Option String := do
  let octets ← ptr
  if 0 ∈ octets then some (Bacnet.cstr octets) else none

/-- A text that a literal holds up to its end. -/
def Plain (text : String) : Prop := Char.ofNat 0 ∉ text.toList

theorem plain_ofList {text : List Char} (h : (text.all fun c => c != Char.ofNat 0) = true) :
    Plain (String.ofList text) := by
  rw [Plain, String.toList_ofList]
  intro hmem
  simpa using List.all_eq_true.mp h _ hmem

theorem cstr_literal {text : String} (h : Plain text) :
    cstr (literal text) = some text := by
  have hoctets : utf8Octets text.toList ++ [0] = utf8Octets (text.toList ++ [Char.ofNat 0]) := by
    rw [utf8Octets, utf8Octets, List.flatMap_append]
    rfl
  have hread : Bacnet.cstr (utf8Octets text.toList ++ [0]) = text := by
    have htake : (text.toList ++ [Char.ofNat 0]).takeWhile (· ≠ Char.ofNat 0) = text.toList := by
      have hne : ∀ c ∈ text.toList, decide (c ≠ Char.ofNat 0) = true := by
        intro c hc
        exact decide_eq_true fun h0 => h (h0 ▸ hc)
      rw [List.takeWhile_append_of_pos hne]
      simp
    rw [hoctets, cstr_utf8Octets, htake, String.ofList_toList]
  rw [cstr, literal, Option.bind_eq_bind, Option.bind_some, if_pos (by simp), hread]

/-! ### Names (`indtext.c`, `bactext.c`) -/

/-- `INDTEXT_DATA`. -/
structure IndtextData where
  index : UInt32
  pString : CharPtr

/-- A table as the source writes it, with the entry `{ 0, NULL }` at its end. -/
def indtextData (names : List (UInt32 × String)) : List IndtextData :=
  names.map (fun e => ⟨e.1, literal e.2⟩) ++ [⟨0, none⟩]

/-- The search of `indtext_by_index_default`. -/
def indtextSearch (index : UInt32) : List IndtextData → Option CharPtr
  | [] => none
  | e :: dataList =>
    match e.pString with
    | none => some none
    | some text => if e.index = index then some (some text) else indtextSearch index dataList

/-- `indtext_by_index_default`. -/
def indtextByIndexDefault (dataList : List IndtextData) (index : UInt32)
    (defaultString : CharPtr) : Option CharPtr :=
  (indtextSearch index dataList).map fun pString => pString.or defaultString

/-- `indtext_by_index_split_default`. -/
def indtextByIndexSplitDefault (dataList : List IndtextData) (index splitIndex : UInt32)
    (beforeSplitDefaultName defaultName : CharPtr) : Option CharPtr :=
  if index < splitIndex then indtextByIndexDefault dataList index beforeSplitDefaultName
  else indtextByIndexDefault dataList index defaultName

def bactextApplicationTagName (index : UInt32) : Option CharPtr :=
  indtextByIndexDefault (indtextData bacnetApplicationTagNames) index
    (literal ashraeReservedString)

def bactextObjectTypeName (index : UInt32) : Option CharPtr :=
  indtextByIndexSplitDefault (indtextData bacnetObjectTypeNames) index 128
    (literal ashraeReservedString) (literal vendorProprietaryString)

def bactextEngineeringUnitName (index : UInt32) : Option CharPtr :=
  if index ≤ 255 then
    indtextByIndexDefault (indtextData bacnetEngineeringUnitNames) index
      (literal ashraeReservedString)
  else if index ≤ 47807 then some (literal vendorProprietaryString)
  else if index ≤ 49999 then
    indtextByIndexDefault (indtextData bacnetEngineeringUnitNames) index
      (literal ashraeReservedString)
  else if index ≤ 65535 then some (literal vendorProprietaryString)
  else some (literal ashraeReservedString)

def bactextAbortReasonName (index : UInt32) : Option CharPtr :=
  indtextByIndexSplitDefault (indtextData bacnetAbortReasonNames) index 64
    (literal ashraeReservedString) (literal vendorProprietaryString)

def bactextErrorClassName (index : UInt32) : Option CharPtr :=
  indtextByIndexSplitDefault (indtextData bacnetErrorClassNames) index 64
    (literal ashraeReservedString) (literal vendorProprietaryString)

def bactextErrorCodeName (index : UInt32) : Option CharPtr :=
  indtextByIndexSplitDefault (indtextData bacnetErrorCodeNames) index 256
    (literal ashraeReservedString) (literal vendorProprietaryString)

def bactextBinaryPresentValueName (index : UInt32) : Option CharPtr :=
  indtextByIndexDefault (indtextData bacnetBinaryPresentValueNames) index
    (literal ashraeReservedString)

/-- The search ends in the table, at the first entry with the index or at the NULL. -/
theorem indtextSearch_indtextData (names : List (UInt32 × String)) (index : UInt32) :
    indtextSearch index (indtextData names) =
      some ((names.find? fun e => e.1 == index).map fun e => utf8Octets e.2.toList ++ [0]) := by
  induction names with
  | nil => rfl
  | cons e names ih =>
      have hcons : indtextData (e :: names) = ⟨e.1, literal e.2⟩ :: indtextData names := rfl
      rw [hcons, indtextSearch]
      by_cases he : e.1 = index
      · simp [literal, he]
      · rw [List.find?_cons_of_neg (by simpa using he), ← ih]
        simp [literal, he]

theorem indtextByIndexDefault_eq (names : List (UInt32 × String)) (index : UInt32)
    (defaultString : String) :
    indtextByIndexDefault (indtextData names) index (literal defaultString) =
      some (literal (Bacnet.indtextByIndexDefault names index defaultString)) := by
  rw [indtextByIndexDefault, indtextSearch_indtextData, Option.map_some,
    Bacnet.indtextByIndexDefault]
  cases names.find? fun e => e.1 == index with
  | none => rfl
  | some e => rfl

theorem indtextByIndexSplitDefault_eq (names : List (UInt32 × String)) (index splitIndex : UInt32)
    (before after : String) :
    indtextByIndexSplitDefault (indtextData names) index splitIndex (literal before)
        (literal after) =
      some (literal (Bacnet.indtextByIndexSplitDefault names index splitIndex before after)) := by
  rw [indtextByIndexSplitDefault, Bacnet.indtextByIndexSplitDefault]
  split
  · exact indtextByIndexDefault_eq names index before
  · exact indtextByIndexDefault_eq names index after

/-- The tables that the handlers look their names up in. -/
def tables : List (List (UInt32 × String)) :=
  [bacnetApplicationTagNames, bacnetObjectTypeNames, bacnetEngineeringUnitNames,
    bacnetAbortReasonNames, bacnetErrorClassNames, bacnetErrorCodeNames,
    bacnetBinaryPresentValueNames]

set_option maxRecDepth 8000 in
theorem plain_of_mem_tables : ∀ names ∈ tables, ∀ e ∈ names, Plain e.2 := by
  simp only [tables, List.forall_mem_cons, bacnetApplicationTagNames, bacnetObjectTypeNames,
    bacnetEngineeringUnitNames, bacnetAbortReasonNames, bacnetErrorClassNames,
    bacnetErrorCodeNames, bacnetBinaryPresentValueNames]
  repeat' apply And.intro
  all_goals first | exact plain_ofList rfl | exact List.forall_mem_nil _

theorem plain_ashraeReservedString : Plain ashraeReservedString := plain_ofList rfl

theorem plain_vendorProprietaryString : Plain vendorProprietaryString := plain_ofList rfl

theorem plain_indtextByIndexDefault {names : List (UInt32 × String)} (h : names ∈ tables)
    (index : UInt32) {defaultString : String} (hd : Plain defaultString) :
    Plain (Bacnet.indtextByIndexDefault names index defaultString) := by
  rw [Bacnet.indtextByIndexDefault]
  cases hf : names.find? fun e => e.1 == index with
  | none => exact hd
  | some e => exact plain_of_mem_tables names h e (List.mem_of_find?_eq_some hf)

/-- A lookup that ends, with a text that is read as `name` says. -/
structure Named (lookup : UInt32 → Option CharPtr) (name : UInt32 → String) : Prop where
  lookup : ∀ index, lookup index = some (literal (name index))
  plain : ∀ index, Plain (name index)

theorem Named.cstr {lookup : UInt32 → Option CharPtr} {name : UInt32 → String}
    (h : Named lookup name) (index : UInt32) : (lookup index).bind cstr = some (name index) := by
  rw [h.lookup, Option.bind_some, cstr_literal (h.plain index)]

theorem named_default {names : List (UInt32 × String)} (h : names ∈ tables) {default : String}
    (hd : Plain default) :
    Named (fun index => indtextByIndexDefault (indtextData names) index (literal default))
      (fun index => Bacnet.indtextByIndexDefault names index default) where
  lookup index := indtextByIndexDefault_eq names index default
  plain index := plain_indtextByIndexDefault h index hd

theorem named_splitDefault {names : List (UInt32 × String)} (h : names ∈ tables)
    (splitIndex : UInt32) {before after : String} (hb : Plain before) (ha : Plain after) :
    Named
      (fun index => indtextByIndexSplitDefault (indtextData names) index splitIndex
        (literal before) (literal after))
      (fun index => Bacnet.indtextByIndexSplitDefault names index splitIndex before after) where
  lookup index := indtextByIndexSplitDefault_eq names index splitIndex before after
  plain index := by
    simp only [Bacnet.indtextByIndexSplitDefault]
    split
    · exact plain_indtextByIndexDefault h index hb
    · exact plain_indtextByIndexDefault h index ha

theorem named_applicationTag :
    Named bactextApplicationTagName Bacnet.bactextApplicationTagName :=
  named_default (by simp [tables]) plain_ashraeReservedString

theorem named_objectType : Named bactextObjectTypeName Bacnet.bactextObjectTypeName :=
  named_splitDefault (by simp [tables]) 128 plain_ashraeReservedString
    plain_vendorProprietaryString

theorem named_engineeringUnit :
    Named bactextEngineeringUnitName Bacnet.bactextEngineeringUnitName where
  lookup index := by
    have hfound := indtextByIndexDefault_eq bacnetEngineeringUnitNames index ashraeReservedString
    unfold bactextEngineeringUnitName Bacnet.bactextEngineeringUnitName
    split
    · exact hfound
    · split
      · rfl
      · split
        · exact hfound
        · split <;> rfl
  plain index := by
    have hmem : bacnetEngineeringUnitNames ∈ tables := by simp [tables]
    have hfound := plain_indtextByIndexDefault hmem index plain_ashraeReservedString
    unfold Bacnet.bactextEngineeringUnitName
    split
    · exact hfound
    · split
      · exact plain_vendorProprietaryString
      · split
        · exact hfound
        · split
          · exact plain_vendorProprietaryString
          · exact plain_ashraeReservedString

theorem named_abortReason : Named bactextAbortReasonName Bacnet.bactextAbortReasonName :=
  named_splitDefault (by simp [tables]) 64 plain_ashraeReservedString
    plain_vendorProprietaryString

theorem named_errorClass : Named bactextErrorClassName Bacnet.bactextErrorClassName :=
  named_splitDefault (by simp [tables]) 64 plain_ashraeReservedString
    plain_vendorProprietaryString

theorem named_errorCode : Named bactextErrorCodeName Bacnet.bactextErrorCodeName :=
  named_splitDefault (by simp [tables]) 256 plain_ashraeReservedString
    plain_vendorProprietaryString

theorem named_binaryPresentValue :
    Named bactextBinaryPresentValueName Bacnet.bactextBinaryPresentValueName :=
  named_default (by simp [tables]) plain_ashraeReservedString

/-! ### Strings (`bacstr.c`) -/

/-- `bitstring_bit`. -/
def bitstringBit (bitString : BitString) (bitNumber : UInt8) : Option Bool :=
  if bitNumber.toNat < maxBitstringBytes * 8 then
    bitString.value[bitNumber.toNat / 8]?.map (·.toNat.testBit (bitNumber.toNat % 8))
  else some false

theorem bitstringBit_eq (bitString : BitString) (bitNumber : UInt8) :
    bitstringBit bitString bitNumber = some (Bacnet.bitstringBit bitString bitNumber) := by
  rw [bitstringBit, Bacnet.bitstringBit]
  by_cases h : bitNumber.toNat / 8 < maxBitstringBytes
  · rw [if_pos (by omega), dif_pos h, Vector.getElem?_eq_getElem h]
    rfl
  · rw [if_neg (by omega), dif_neg h]

/-- `BACNET_CHARACTER_STRING`. -/
structure CharacterString where
  length : Nat
  encoding : UInt8
  value : Vector UInt8 maxCharacterStringBytes

/-- `value[i] = octet`. -/
def CharacterString.store (s : CharacterString) (i : Nat) (octet : UInt8) :
    Option CharacterString :=
  if h : i < maxCharacterStringBytes then some { s with value := s.value.set i octet }
  else none

/-- One turn of the loop of `characterstring_init`. -/
def fillTurn (value : Mem) (length : Nat) (s : CharacterString) (i : Nat) :
    Option CharacterString :=
  if i < length then
    (s.store s.length (value i)).map fun s => { s with length := s.length + 1 }
  else s.store i 0

/-- `characterstring_init`. Without a value all octets are zeroed. -/
def characterstringInit (s : CharacterString) (encoding : UInt8) (value : Option Mem)
    (length : Nat) : Option (Bool × CharacterString) :=
  let s := { s with length := 0, encoding }
  if length ≤ characterStringCapacity then
    let filled :=
      match value with
      | some value => (List.range maxCharacterStringBytes).foldlM (fillTurn value length) s
      | none => (List.range maxCharacterStringBytes).foldlM (fun s i => s.store i 0) s
    filled.map fun s => (true, s)
  else some (false, s)

/-- `bacnet_character_string_decode`. The text is one octet shorter than the value, in 32
bits. -/
def bacnetCharacterStringDecode (apdu : Mem) (apduLenMax lenValue : Nat) (s : CharacterString) :
    Option (Nat × CharacterString) :=
  if lenValue ≤ apduLenMax then
    let stringValue := if lenValue > 1 then some (apdu.shift 1) else none
    (characterstringInit s (apdu 0) stringValue ((lenValue + 2 ^ 32 - 1) % 2 ^ 32)).map
      fun r => (if r.1 then lenValue else 0, r.2)
  else some (0, s)

/-- `decode_character_string`. -/
def decodeCharacterString (apdu : Mem) (lenValue : Nat) (s : CharacterString) :
    Option (Nat × CharacterString) :=
  bacnetCharacterStringDecode apdu maxApdu lenValue s

/-- `value[0..length].as_ptr()`. -/
def CharacterString.asPtr (s : CharacterString) : Option CharPtr :=
  if s.length ≤ maxCharacterStringBytes then some (some s.value.toList) else none

/-- The string ends in its buffer, with zeros behind it. -/
structure CharacterString.Terminated (s : CharacterString) : Prop where
  fits : s.length ≤ characterStringCapacity
  zeros : ∀ i (h : i < maxCharacterStringBytes), s.length ≤ i → s.value[i] = 0

/-- The octets of the string. -/
def CharacterString.text (s : CharacterString) : Bacnet.CharacterString :=
  ⟨s.encoding, s.value.toList.take s.length⟩

/-- `BACNET_CHARACTER_STRING` in a zeroed value. -/
def CharacterString.default : CharacterString := ⟨0, 0, Vector.replicate _ 0⟩

theorem CharacterString.terminated_default : CharacterString.default.Terminated where
  fits := Nat.zero_le _
  zeros i h _ := by simp [default]

/-- An element that fails the test stops the reading, whatever follows it. -/
theorem takeWhile_take_of_not {α : Type} {p : α → Bool} {l : List α} {n : Nat} (hn : n < l.length)
    (h : p l[n] = false) : (l.take n).takeWhile p = l.takeWhile p := by
  induction l generalizing n with
  | nil => cases hn
  | cons a l ih =>
      cases n with
      | zero =>
          have ha : p a = false := h
          simp [ha]
      | succ n =>
          have htail := ih (by simpa using hn) h
          rw [List.take_succ_cons, List.takeWhile_cons, List.takeWhile_cons, htail]

/-- A string is read up to a NUL in its buffer. -/
theorem CharacterString.Terminated.cstr {s : CharacterString} (h : s.Terminated) :
    s.asPtr.bind cstr = some (Bacnet.cstr s.text.value) := by
  have hcap : characterStringCapacity < maxCharacterStringBytes := by decide
  have hfits := h.fits
  have hlt : s.length < maxCharacterStringBytes := by omega
  have hlen : s.length < s.value.toList.length := by simpa using hlt
  have hnul : s.value.toList[s.length] = 0 := by
    simpa using h.zeros s.length hlt (Nat.le_refl _)
  have hmem : 0 ∈ s.value.toList := hnul ▸ List.getElem_mem _
  -- the octets from the length on are not read
  have hread : s.value.toList.takeWhile (· ≠ 0) = s.text.value.takeWhile (· ≠ 0) :=
    (takeWhile_take_of_not hlen (by simp [hnul])).symm
  rw [asPtr, if_pos (by omega), Option.bind_some, Checked.cstr, Option.bind_eq_bind,
    Option.bind_some, if_pos hmem, cstr_eq, hread, ← cstr_eq]

/-- The string after `i` turns of the loop. -/
structure Filled (value : Mem) (length i : Nat) (encoding : UInt8) (s : CharacterString) :
    Prop where
  written : s.length = min i length
  encoded : s.encoding = encoding
  octets : ∀ j (h : j < maxCharacterStringBytes), j < i →
    s.value[j] = if j < length then value j else 0

theorem filled_turn {value : Mem} {length i : Nat} {encoding : UInt8} {s : CharacterString}
    (hs : Filled value length i encoding s) (hi : i < maxCharacterStringBytes) :
    ∃ s', fillTurn value length s i = some s' ∧ Filled value length (i + 1) encoding s' := by
  -- a turn writes the octet at `i`, whichever index it takes
  have hset : ∀ octet, octet = (if i < length then value i else 0) →
      ∀ j (h : j < maxCharacterStringBytes), j < i + 1 →
        (s.value.set i octet)[j] = if j < length then value j else 0 := by
    intro octet hoctet j h hj
    by_cases hij : i = j
    · subst hij
      rw [Vector.getElem_set_self, hoctet]
    · rw [Vector.getElem_set_ne _ _ hij]
      exact hs.octets j h (by omega)
  rw [fillTurn]
  by_cases hlt : i < length
  · have hlen : s.length = i := by
      rw [hs.written]
      omega
    rw [if_pos hlt, hlen, CharacterString.store, dif_pos hi]
    refine ⟨_, rfl, ?_, hs.encoded, hset _ (by rw [if_pos hlt])⟩
    simp only [hlen]
    omega
  · rw [if_neg hlt, CharacterString.store, dif_pos hi]
    refine ⟨_, rfl, ?_, hs.encoded, hset _ (by rw [if_neg hlt])⟩
    simp only [hs.written]
    omega

theorem filled_turns {value : Mem} {length n : Nat} {encoding : UInt8} {s : CharacterString}
    (hs : Filled value length 0 encoding s) (hn : n ≤ maxCharacterStringBytes) :
    ∃ s', (List.range n).foldlM (fillTurn value length) s = some s' ∧
      Filled value length n encoding s' := by
  induction n with
  | zero => exact ⟨s, rfl, hs⟩
  | succ n ih =>
      obtain ⟨s₁, hrun, hs₁⟩ := ih (by omega)
      obtain ⟨s₂, hturn, hs₂⟩ := filled_turn hs₁ (by omega)
      refine ⟨s₂, ?_, hs₂⟩
      rw [List.range_succ, List.foldlM_append, hrun]
      simpa using hturn

/-- A string that is filled to the end of its buffer. -/
theorem Filled.text {value : Mem} {length : Nat} {encoding : UInt8} {s : CharacterString}
    (hs : Filled value length maxCharacterStringBytes encoding s)
    (hlen : length ≤ characterStringCapacity) :
    s.Terminated ∧ s.text = ⟨encoding, value.slice length⟩ := by
  have hcap : characterStringCapacity < maxCharacterStringBytes := by decide
  have hlength : s.length = length := by
    rw [hs.written]
    omega
  refine ⟨⟨hlength ▸ hlen, fun i h hi => ?_⟩, ?_⟩
  · rw [hs.octets i h h, if_neg (by omega)]
  · rw [CharacterString.text, hs.encoded, hlength]
    congr 1
    refine List.ext_getElem (by simp [Mem.slice]; omega) fun j hj hj' => ?_
    have hjlen : j < length := by simpa [Mem.slice] using hj'
    have hvalue := hs.octets j (by omega) (by omega)
    rw [if_pos hjlen] at hvalue
    simpa [Mem.slice] using hvalue

theorem characterstringInit_some (s : CharacterString) (encoding : UInt8) (value : Mem)
    {length : Nat} (hlen : length ≤ characterStringCapacity) :
    ∃ s', characterstringInit s encoding (some value) length = some (true, s') ∧
      s'.Terminated ∧ s'.text = ⟨encoding, value.slice length⟩ := by
  have hstart : Filled value length 0 encoding { s with length := 0, encoding } :=
    ⟨(Nat.zero_min length).symm, rfl, fun j _ hj => by omega⟩
  obtain ⟨s', hrun, hs'⟩ := filled_turns hstart (Nat.le_refl maxCharacterStringBytes)
  refine ⟨s', ?_, hs'.text hlen⟩
  rw [characterstringInit, if_pos hlen]
  simp only [hrun, Option.map_some]

theorem characterstringInit_none (s : CharacterString) (encoding : UInt8) :
    ∃ s', characterstringInit s encoding none 0 = some (true, s') ∧
      s'.Terminated ∧ s'.text = ⟨encoding, []⟩ := by
  have hturn : (fun (s : CharacterString) i => s.store i 0) = fillTurn (fun _ => 0) 0 := by
    funext s i
    rw [fillTurn, if_neg (Nat.not_lt_zero i)]
  obtain ⟨s', hrun, hs'⟩ := characterstringInit_some s encoding (fun _ => 0) (Nat.zero_le _)
  refine ⟨s', ?_, hs'⟩
  rw [← hrun, characterstringInit, characterstringInit, hturn]

/-- `decode_character_string` stores a terminated string, and reports a length when it is the
text that was sent. -/
theorem decodeCharacterString_spec (apdu : Mem) (lenValue : Nat)
    (value : Bacnet.CharacterString) :
    ∃ n s', decodeCharacterString apdu lenValue .default = some (n, s') ∧ s'.Terminated ∧
      (Bacnet.decodeCharacterString apdu lenValue value).1 = n ∧
      (n ≠ 0 → (Bacnet.decodeCharacterString apdu lenValue value).2 = s'.text) := by
  have hcap : characterStringCapacity < maxApdu ∧ maxApdu < 2 ^ 32 := by decide
  rw [decodeCharacterString, bacnetCharacterStringDecode, Bacnet.decodeCharacterString]
  by_cases hle : lenValue ≤ maxApdu
  · rw [if_pos hle]
    by_cases hfit : 1 ≤ lenValue ∧ lenValue - 1 ≤ characterStringCapacity
    · obtain ⟨hpos, hfit⟩ := hfit
      have hlen : (lenValue + 2 ^ 32 - 1) % 2 ^ 32 = lenValue - 1 := by omega
      obtain ⟨s', hinit, hterm, htext⟩ : ∃ s', characterstringInit .default (apdu 0)
          (if lenValue > 1 then some (apdu.shift 1) else none) (lenValue - 1) = some (true, s') ∧
          s'.Terminated ∧ s'.text = ⟨apdu 0, (apdu.shift 1).slice (lenValue - 1)⟩ := by
        by_cases hone : lenValue > 1
        · rw [if_pos hone]
          exact characterstringInit_some _ _ _ hfit
        · have h1 : lenValue = 1 := by omega
          rw [if_neg hone, h1]
          exact characterstringInit_none _ _
      have htotal : Bacnet.characterstringInit (apdu 0) ((apdu.shift 1).slice (lenValue - 1)) =
          some ⟨apdu 0, (apdu.shift 1).slice (lenValue - 1)⟩ :=
        if_pos (by simpa [Mem.slice] using hfit)
      refine ⟨lenValue, s', ?_, hterm, ?_, fun _ => ?_⟩
      · simp only [hlen, hinit, Option.map_some, if_true]
      · rw [if_pos ⟨hle, hpos⟩, htotal]
      · rw [if_pos ⟨hle, hpos⟩, htotal, htext]
    · -- what does not fit is not stored; a value of no octets has a length of 2 ^ 32 - 1
      have hbig : ¬ (lenValue + 2 ^ 32 - 1) % 2 ^ 32 ≤ characterStringCapacity := by omega
      refine ⟨0, { CharacterString.default with encoding := apdu 0 }, ?_,
        ⟨Nat.zero_le _, CharacterString.terminated_default.zeros⟩, ?_, fun h => absurd rfl h⟩
      · simp only [characterstringInit, if_neg hbig, Option.map_some]
        rfl
      · split
        · have hnone : Bacnet.characterstringInit (apdu 0) ((apdu.shift 1).slice (lenValue - 1)) =
              none := if_neg (by simp [Mem.slice]; omega)
          rw [hnone]
        · rfl
  · rw [if_neg hle, if_neg fun h => hle h.1]
    exact ⟨0, .default, rfl, CharacterString.terminated_default, rfl, fun h => absurd rfl h⟩

/-! ### The value -/

/-- `BACNET_APPLICATION_DATA_VALUE`: its character string in a buffer, the other members as
they are. -/
structure ApplicationDataValue where
  value : Bacnet.ApplicationDataValue
  characterString : CharacterString

namespace ApplicationDataValue

/-- The zeroed structure. -/
def default : ApplicationDataValue := ⟨.default, .default⟩

def setTag (v : ApplicationDataValue) (tag : UInt8) : ApplicationDataValue :=
  { v with value := { v.value with tag } }

/-- The value without the buffer. -/
def erase (v : ApplicationDataValue) : Bacnet.ApplicationDataValue :=
  { v.value with characterString := v.characterString.text }

end ApplicationDataValue

/-- The switch of `bacapp_decode_data`. -/
def bacappDecodeMember (apdu : Mem) (tagDataType : UInt8) (lenValueType : Nat)
    (v : ApplicationDataValue) : Option (Int × ApplicationDataValue) :=
  if tagDataType = 7 then
    (decodeCharacterString apdu lenValueType v.characterString).map fun r =>
      (r.1, { v with characterString := r.2 })
  else
    let r := Bacnet.bacappDecodeMember apdu tagDataType lenValueType v.value
    some (r.1, { v with value := r.2 })

/-- `bacapp_decode_data`. -/
def bacappDecodeData (apdu : Mem) (tagDataType : UInt8) (lenValueType : Nat)
    (v : ApplicationDataValue) : Option (Int × ApplicationDataValue) := do
  let (len, v) ← bacappDecodeMember apdu tagDataType lenValueType v
  if len = 0 ∧ tagDataType ≠ 0 ∧ tagDataType ≠ 1 ∧ tagDataType ≠ 6 then
    some (len, v.setTag maxBacnetApplicationTag)
  else some (len, v)

/-- `bacapp_decode_application_data`. -/
def bacappDecodeApplicationData (apdu : Mem) (apduLenMax : Nat) (v : ApplicationDataValue) :
    Option (Int × ApplicationDataValue) :=
  if isContextSpecific (apdu 0) then some (0, v)
  else
    match bacnetTagNumberAndValueDecode apdu apduLenMax with
    | none => some (0, v)
    | some (len, tag) =>
      let v := v.setTag tag.number
      if len ≤ apduLenMax then
        if bacappDecodeDataLen tag.number tag.lenValue ≤ apduLenMax - len then do
          let (decodeLen, v) ← bacappDecodeData (apdu.shift len) tag.number tag.lenValue v
          if v.value.tag ≠ maxBacnetApplicationTag then some (len + decodeLen, v)
          else some (bacnetStatusError, v)
        else some (bacnetStatusError, v)
      else some (bacnetStatusError, v)

/-- The name that `decode_data` gives an enumerated value. -/
def enumName (objectType objectProperty enumVal : UInt32) : Option (Option String) :=
  -- PROP_UNITS
  if objectProperty = 117 then
    if enumVal < 256 then ((bactextEngineeringUnitName enumVal).bind cstr).map some else some none
  -- PROP_OBJECT_TYPE, MAX_ASHRAE_OBJECT_TYPE
  else if objectProperty = 79 then
    if enumVal < 60 then ((bactextObjectTypeName enumVal).bind cstr).map some else some none
  -- PROP_PRESENT_VALUE, PROP_RELINQUISH_DEFAULT, OBJECT_PROPRIETARY_MIN
  else if objectProperty = 85 ∨ objectProperty = 104 then
    if objectType < 128 then
      ((bactextBinaryPresentValueName enumVal).bind cstr).map some
    else some none
  else some none

/-- The bit numbers that the loop of `decode_data` passes to `bitstring_bit`. -/
def bitNumbers (bitString : BitString) : List UInt8 :=
  (List.range bitString.bitsUsed.toNat).map UInt8.ofNat

/-- `decode_data`. -/
def decodeData (data : ReadPropertyData) : Option (Result BACnetValue) := do
  let (len, v) ← bacappDecodeApplicationData data.applicationData data.applicationDataLen .default
  if len = bacnetStatusError then return .error .decodingError
  else
    match v.value.tag.toNat with
    | 0 => return .ok .null
    | 1 => return .ok (.bool v.value.boolean)
    | 3 => return .ok (.int v.value.signedInt)
    | 2 => return .ok (.uint v.value.unsignedInt)
    | 4 => return .ok (.real v.value.real)
    | 5 => return .ok (.double v.value.double)
    | 7 =>
      let s ← v.characterString.asPtr.bind cstr
      return .ok (.string s)
    | 8 =>
      let bits ← (bitNumbers v.value.bitString).mapM (bitstringBit v.value.bitString)
      return .ok (.bitString bits)
    | 9 =>
      let name ← enumName data.objectType data.objectProperty v.value.enumerated
      return .ok (.enum v.value.enumerated name)
    | 12 => return .ok (.objectId v.value.objectId.1 v.value.objectId.2)
    | _ =>
      let tagName ← (bactextApplicationTagName v.value.tag.toUInt32).bind cstr
      return .error (.unhandledTypeTag tagName v.value.tag)

/-- The other members are decoded alike, whatever the character string. -/
theorem bacappDecodeMember_text {apdu : Mem} {tagDataType : UInt8} (h : tagDataType ≠ 7)
    (lenValueType : Nat) (v : ApplicationDataValue) :
    Bacnet.bacappDecodeMember apdu tagDataType lenValueType v.erase =
      ((Bacnet.bacappDecodeMember apdu tagDataType lenValueType v.value).1,
        { (Bacnet.bacappDecodeMember apdu tagDataType lenValueType v.value).2 with
          characterString := v.characterString.text }) := by
  have h7 : tagDataType.toNat ≠ 7 := fun h0 => h (UInt8.toNat_inj.mp h0)
  unfold Bacnet.bacappDecodeMember
  split
  case h_8 htag => exact absurd htag h7
  case h_13 =>
    cases bacnetObjectIdDecode apdu lenValueType with
    | none => rfl
    | some id => rfl
  all_goals rfl

/-- Decoding a member ends, with what the unchecked one gives unless a text did not fit. -/
theorem bacappDecodeMember_spec (apdu : Mem) (tagDataType : UInt8) (lenValueType : Nat)
    {v : ApplicationDataValue} (hv : v.characterString = .default) :
    ∃ n v', bacappDecodeMember apdu tagDataType lenValueType v = some (n, v') ∧
      v'.characterString.Terminated ∧
      (Bacnet.bacappDecodeMember apdu tagDataType lenValueType v.erase).1 = n ∧
      (tagDataType = 7 ∧ n = 0 ∨
        (Bacnet.bacappDecodeMember apdu tagDataType lenValueType v.erase).2 = v'.erase) := by
  rw [bacappDecodeMember]
  by_cases h7 : tagDataType = 7
  · subst h7
    obtain ⟨n, s', hdecode, hterm, hlen, htext⟩ :=
      decodeCharacterString_spec apdu lenValueType v.erase.characterString
    have hmember : Bacnet.bacappDecodeMember apdu 7 lenValueType v.erase =
        (((Bacnet.decodeCharacterString apdu lenValueType v.erase.characterString).1 : Int),
          { v.erase with characterString :=
              (Bacnet.decodeCharacterString apdu lenValueType v.erase.characterString).2 }) := rfl
    rw [if_pos rfl, hv, hdecode, hmember, hlen]
    refine ⟨n, { v with characterString := s' }, rfl, hterm, rfl, ?_⟩
    by_cases hn : n = 0
    · exact Or.inl ⟨rfl, by rw [hn]; rfl⟩
    · refine Or.inr ?_
      rw [htext hn]
      rfl
  · rw [if_neg h7, bacappDecodeMember_text h7]
    refine ⟨_, _, rfl, ?_, rfl, Or.inr rfl⟩
    rw [hv]
    exact CharacterString.terminated_default

theorem bacappDecodeData_spec (apdu : Mem) (tagDataType : UInt8) (lenValueType : Nat)
    {v : ApplicationDataValue} (hv : v.characterString = .default) :
    ∃ n v', bacappDecodeData apdu tagDataType lenValueType v = some (n, v') ∧
      v'.characterString.Terminated ∧
      (Bacnet.bacappDecodeData apdu tagDataType lenValueType v.erase).1 = n ∧
      (Bacnet.bacappDecodeData apdu tagDataType lenValueType v.erase).2.tag = v'.value.tag ∧
      (v'.value.tag ≠ maxBacnetApplicationTag →
        (Bacnet.bacappDecodeData apdu tagDataType lenValueType v.erase).2 = v'.erase) := by
  obtain ⟨n, v', hmember, hterm, hlen, herase⟩ :=
    bacappDecodeMember_spec apdu tagDataType lenValueType hv
  simp only [bacappDecodeData, Bacnet.bacappDecodeData, hmember, hlen, Option.bind_eq_bind,
    Option.bind_some]
  by_cases hnone : n = 0 ∧ tagDataType ≠ 0 ∧ tagDataType ≠ 1 ∧ tagDataType ≠ 6
  · rw [if_pos hnone, if_pos hnone]
    exact ⟨n, _, rfl, hterm, rfl, rfl, fun h => absurd rfl h⟩
  · rw [if_neg hnone, if_neg hnone]
    rcases herase with ⟨h7, hn⟩ | herase
    · subst h7
      exact absurd ⟨hn, by decide, by decide, by decide⟩ hnone
    · rw [herase]
      exact ⟨n, v', rfl, hterm, rfl, rfl, fun _ => rfl⟩

/-- Decoding a value ends, with what the unchecked decoding gives unless that fails. -/
theorem bacappDecodeApplicationData_spec (apdu : Mem) (apduLenMax : Nat) :
    ∃ n v, bacappDecodeApplicationData apdu apduLenMax .default = some (n, v) ∧
      v.characterString.Terminated ∧
      (Bacnet.bacappDecodeApplicationData apdu apduLenMax .default).1 = n ∧
      (n ≠ bacnetStatusError →
        (Bacnet.bacappDecodeApplicationData apdu apduLenMax .default).2 = v.erase) := by
  have hterm := CharacterString.terminated_default
  rw [bacappDecodeApplicationData, Bacnet.bacappDecodeApplicationData]
  by_cases hcontext : isContextSpecific (apdu 0) = true
  · rw [if_pos hcontext, if_pos hcontext]
    exact ⟨0, .default, rfl, hterm, rfl, fun _ => rfl⟩
  · rw [if_neg hcontext, if_neg hcontext]
    cases htag : bacnetTagNumberAndValueDecode apdu apduLenMax with
    | none => exact ⟨0, .default, rfl, hterm, rfl, fun _ => rfl⟩
    | some p =>
        obtain ⟨len, tag⟩ := p
        simp only
        by_cases hlen : len ≤ apduLenMax
        · rw [if_pos hlen, if_pos hlen]
          by_cases hroom : bacappDecodeDataLen tag.number tag.lenValue ≤ apduLenMax - len
          · rw [if_pos hroom, if_pos hroom]
            obtain ⟨m, v, hdata, hterm', hm, htag', herase⟩ :=
              bacappDecodeData_spec (apdu.shift len) tag.number tag.lenValue
                (v := ApplicationDataValue.default.setTag tag.number) rfl
            have htotal : (ApplicationDataValue.default.setTag tag.number).erase =
                { Bacnet.ApplicationDataValue.default with tag := tag.number } := rfl
            rw [htotal] at hm htag' herase
            rw [hdata, Option.bind_eq_bind, Option.bind_some]
            by_cases hmax : v.value.tag = maxBacnetApplicationTag
            · rw [if_neg (not_not_intro hmax), if_neg (not_not_intro (htag'.trans hmax))]
              exact ⟨_, v, rfl, hterm', rfl, fun h => absurd rfl h⟩
            · rw [if_pos hmax, if_pos (htag' ▸ hmax), hm]
              exact ⟨_, v, rfl, hterm', rfl, fun _ => herase hmax⟩
          · rw [if_neg hroom, if_neg hroom]
            exact ⟨_, _, rfl, hterm, rfl, fun h => absurd rfl h⟩
        · rw [if_neg hlen, if_neg hlen]
          exact ⟨_, _, rfl, hterm, rfl, fun h => absurd rfl h⟩

theorem enumName_eq (objectType objectProperty enumVal : UInt32) :
    enumName objectType objectProperty enumVal =
      some (Bacnet.enumName objectType objectProperty enumVal) := by
  unfold enumName Bacnet.enumName
  rw [named_engineeringUnit.cstr, named_objectType.cstr, named_binaryPresentValue.cstr]
  repeat' split
  all_goals rfl

/-- `decode_data` runs to its end, with the result of the unchecked one. -/
theorem decodeData_eq (data : ReadPropertyData) :
    decodeData data = some (Bacnet.decodeData data) := by
  obtain ⟨n, v, hdecode, hterm, hlen, herase⟩ :=
    bacappDecodeApplicationData_spec data.applicationData data.applicationDataLen
  simp only [decodeData, Bacnet.decodeData, hdecode, hlen, Option.bind_eq_bind, Option.bind_some]
  by_cases hn : n = bacnetStatusError
  · rw [if_pos hn, if_pos hn]
    rfl
  · rw [if_neg hn, if_neg hn, herase hn]
    have htag : v.erase.tag = v.value.tag := rfl
    rw [htag]
    have hbits : (bitNumbers v.value.bitString).mapM (bitstringBit v.value.bitString) =
        some ((List.range v.value.bitString.bitsUsed.toNat).map fun i =>
          Bacnet.bitstringBit v.value.bitString (UInt8.ofNat i)) := by
      have hbit : bitstringBit v.value.bitString =
          fun i => some (Bacnet.bitstringBit v.value.bitString i) :=
        funext (bitstringBit_eq v.value.bitString)
      rw [hbit, bitNumbers]
      exact List.mapM_pure.trans (congrArg some (List.map_map ..))
    split
    case h_11 => simp only [named_applicationTag.cstr, Option.bind_some, Option.pure_def]
    all_goals
      simp only [*, hterm.cstr, enumName_eq, Option.bind_some, Option.pure_def] <;> rfl

end Bacnet.Checked
