import Bacnet.CString

/-!
# Bacnet.Encoding

Application-tagged values as the standard has them, apart from any decoder: which octets
are a tag, which octets are the contents of a value of each type, and which text an octet
string is in each of the character sets that `BACNET_CHARACTER_STRING_ENCODING` names.

* `TagOctets` relates the octets of a tag to its number and its length;
* `Contents` relates the octets behind the tag to the value;
* an `EncodedValue` carries both, so that it cannot be built from octets that are not
  the encoding of a value;
* `Represents` says which `BACnetValue` stands for a value.
-/

namespace Bacnet

open Bacnet.Lib

/-! ### Tags -/

/-- The octets of a tag number behind the initial octet, whose upper four bits are
`field`. -/
inductive NumberOctets : Nat → List UInt8 → UInt8 → Prop
  | short {number : UInt8} (h : number.toNat < 15) : NumberOctets number.toNat [] number
  | extended (number : UInt8) : NumberOctets 15 [number] number

/-- The octets of a length behind those of the tag number, with `field` the lower three
bits of the initial octet. -/
inductive LengthOctets : Nat → List UInt8 → Nat → Prop
  | short {length : Nat} (h : length ≤ 4) : LengthOctets length [] length
  | one {b : UInt8} (h : b.toNat < 254) : LengthOctets 5 [b] b.toNat
  | two (a b : UInt8) : LengthOctets 5 [254, a, b] (ofBe [a, b])
  | four (a b c d : UInt8) : LengthOctets 5 [255, a, b, c, d] (ofBe [a, b, c, d])

/-- The initial octet of a tag. -/
def initialOctet (number : Nat) (contextSpecific : Bool) (length : Nat) : UInt8 :=
  UInt8.ofNat (16 * number + 8 * contextSpecific.toNat + length)

/-- The octets of a tag with the given class, number and length. -/
inductive TagOctets (contextSpecific : Bool) : List UInt8 → UInt8 → Nat → Prop
  | mk {field field' length : Nat} {octets octets' : List UInt8} {number : UInt8}
      (hnumber : NumberOctets field octets number)
      (hlength : LengthOctets field' octets' length) :
      TagOctets contextSpecific
        (initialOctet field contextSpecific field' :: (octets ++ octets')) number length

/-- An application-tagged number of at most `max` octets. -/
inductive NumberField (number : UInt8) (max : Nat) : List UInt8 → Nat → Prop
  | mk {tag contents : List UInt8} (htag : TagOctets false tag number contents.length)
      (hpos : 0 < contents.length) (hmax : contents.length ≤ max) :
      NumberField number max (tag ++ contents) (ofBe contents)

/-! ### Character sets -/

/-- The two character sets whose tables are not among the stack's sources, each as the
text that octets stand for, if any. -/
structure CodePages where
  msDbcs : List UInt8 → Option String
  jisc6226 : List UInt8 → Option String

/-- The octets are the text `s` in the character set that `encoding` names. -/
def TextIn (pages : CodePages) (encoding : UInt8) (s : String) (octets : List UInt8) : Prop :=
  match encoding.toNat with
  -- CHARACTER_UTF8
  | 0 => octets = utf8Octets s.toList
  | 1 => pages.msDbcs octets = some s
  | 2 => pages.jisc6226 octets = some s
  -- CHARACTER_UCS4
  | 3 => octets = wideOctets 4 s.toList
  -- CHARACTER_UCS2
  | 4 => (∀ c ∈ s.toList, c.val.toNat < 0x10000) ∧ octets = wideOctets 2 s.toList
  -- CHARACTER_ISO8859
  | 5 => (∀ c ∈ s.toList, c.val.toNat < 256) ∧ octets = wideOctets 1 s.toList
  | _ => False

/-- The octets of a text that `cstr` reads as that text. -/
def ReadsAsUtf8 (pages : CodePages) (encoding : UInt8) (octets : List UInt8) : Prop :=
  match encoding.toNat with
  | 0 => ∃ text, octets = utf8Octets text ∧ Char.ofNat 0 ∉ text
  | 1 => pages.msDbcs octets = some (cstr octets)
  | 2 => pages.jisc6226 octets = some (cstr octets)
  | 3 => octets = []
  | 4 => octets = []
  | 5 => ∀ b ∈ octets, 0 < b.toNat ∧ b.toNat < 128
  | _ => False

/-! ### Values -/

/-- The values of the primitive types. A real or double is its bit pattern, a date or time
its octets. -/
inductive Primitive where
  | null
  | boolean (b : Bool)
  | unsigned (n : Nat)
  | signed (n : Int)
  | real (bits : Nat)
  | double (bits : Nat)
  | octetString (octets : List UInt8)
  | characterString (s : String)
  | bitString (bits : List Bool)
  | enumerated (n : Nat)
  | date (octets : List UInt8)
  | time (octets : List UInt8)
  | objectId (objectType objectInstance : Nat)

/-- The first `n` bits of a bit string, each octet from its most significant bit. -/
def bitsOf (octets : List UInt8) (n : Nat) : List Bool :=
  (List.range n).map fun i => (octets.getD (i / 8) 0).toNat.testBit (7 - i % 8)

/-- The octets behind a tag with the given number and length, and the value they are. -/
inductive Contents (pages : CodePages) : Nat → Nat → List UInt8 → Primitive → Prop
  | null : Contents pages 0 0 [] .null
  | boolean (b : Bool) : Contents pages 1 b.toNat [] (.boolean b)
  | unsigned {o : List UInt8} (h : o ≠ []) : Contents pages 2 o.length o (.unsigned (ofBe o))
  | signed {o : List UInt8} (h : o ≠ []) : Contents pages 3 o.length o (.signed (ofBeSigned o))
  | real {o : List UInt8} (h : o.length = 4) : Contents pages 4 4 o (.real (ofBe o))
  | double {o : List UInt8} (h : o.length = 8) : Contents pages 5 8 o (.double (ofBe o))
  | octetString (o : List UInt8) : Contents pages 6 o.length o (.octetString o)
  | characterString {encoding : UInt8} {o : List UInt8} {s : String}
      (h : TextIn pages encoding s o) :
      Contents pages 7 (o.length + 1) (encoding :: o) (.characterString s)
  | bitString {unused : UInt8} {o : List UInt8} (h : unused.toNat ≤ 7)
      (hnil : o = [] → unused = 0) :
      Contents pages 8 (o.length + 1) (unused :: o)
        (.bitString (bitsOf o (8 * o.length - unused.toNat)))
  | enumerated {o : List UInt8} (h : o ≠ []) : Contents pages 9 o.length o (.enumerated (ofBe o))
  | date {o : List UInt8} (h : o.length = 4) : Contents pages 10 4 o (.date o)
  | time {o : List UInt8} (h : o.length = 4) : Contents pages 11 4 o (.time o)
  | objectId {o : List UInt8} (h : o.length = 4) :
      Contents pages 12 4 o (.objectId (ofBe o / 2 ^ 22) (ofBe o % 2 ^ 22))

theorem Contents.length_eq {pages : CodePages} {number length : Nat} {o : List UInt8}
    {p : Primitive} (h : Contents pages number length o p) (hnumber : 2 ≤ number) :
    o.length = length := by
  cases h
  all_goals first | omega | rfl

theorem Contents.number_le {pages : CodePages} {number length : Nat} {o : List UInt8}
    {p : Primitive} (h : Contents pages number length o p) : number ≤ 12 := by
  cases h
  all_goals omega

/-- Null and booleans have no contents. -/
theorem Contents.nil_of_lt {pages : CodePages} {number length : Nat} {o : List UInt8}
    {p : Primitive} (h : Contents pages number length o p) (hnumber : number < 2) : o = [] := by
  cases h
  all_goals first | omega | rfl

/-- A value together with its encoding. -/
structure EncodedValue (pages : CodePages) where
  tag : List UInt8
  number : UInt8
  length : Nat
  contents : List UInt8
  value : Primitive
  tagged : TagOctets false tag number length
  meaning : Contents pages number.toNat length contents value

namespace EncodedValue

variable {pages : CodePages}

def octets (e : EncodedValue pages) : List UInt8 := e.tag ++ e.contents

end EncodedValue

/-- The `BACnetValue` that stands for a value. Dates and times have none, and the name of
an enumerated value is not part of its encoding. -/
inductive Represents : Primitive → BACnetValue → Prop
  | null : Represents .null .null
  | boolean (b : Bool) : Represents (.boolean b) (.bool b)
  | unsigned (n : UInt64) : Represents (.unsigned n.toNat) (.uint n)
  | signed (n : Int32) : Represents (.signed n.toInt) (.int n)
  | real (bits : UInt32) : Represents (.real bits.toNat) (.real bits)
  | double (bits : UInt64) : Represents (.double bits.toNat) (.double bits)
  | octetString (octets : List UInt8) : Represents (.octetString octets) (.bytes octets)
  | characterString (s : String) : Represents (.characterString s) (.string s)
  | bitString (bits : List Bool) : Represents (.bitString bits) (.bitString bits)
  | enumerated (n : UInt32) (name : Option String) :
      Represents (.enumerated n.toNat) (.enum n name)
  | objectId (objectType objectInstance : UInt32) :
      Represents (.objectId objectType.toNat objectInstance.toNat)
        (.objectId objectType objectInstance)

/-! ### One text at most -/

theorem wideOctets_inj {width : Nat} (hwidth : 0 < width) {text text' : List Char}
    (hlt : ∀ c ∈ text, c.val.toNat < 256 ^ width) (hlt' : ∀ c ∈ text', c.val.toNat < 256 ^ width)
    (h : wideOctets width text = wideOctets width text') : text = text' := by
  induction text generalizing text' with
  | nil =>
    have hlen := congrArg List.length h
    rw [length_wideOctets, length_wideOctets, List.length_nil, Nat.zero_mul] at hlen
    have hzero : text'.length = 0 :=
      (Nat.mul_eq_zero.mp hlen.symm).resolve_right (Nat.ne_of_gt hwidth)
    exact (List.eq_nil_of_length_eq_zero hzero).symm
  | cons c text ih =>
    cases text' with
    | nil =>
      have hlen := congrArg List.length h
      rw [length_wideOctets, length_wideOctets, List.length_nil, Nat.zero_mul] at hlen
      have hzero := (Nat.mul_eq_zero.mp hlen).resolve_right (Nat.ne_of_gt hwidth)
      simp at hzero
    | cons c' text' =>
      rw [wideOctets, wideOctets, List.flatMap_cons, List.flatMap_cons] at h
      obtain ⟨hhead, htail⟩ := List.append_inj h (by simp)
      have hval : c.val.toNat = c'.val.toNat := by
        rw [← ofBe_toBe (hlt c (by simp)), hhead, ofBe_toBe (hlt' c' (by simp))]
      rw [Char.ext (UInt32.toNat_inj.mp hval),
        ih (fun d hd => hlt d (by simp [hd])) (fun d hd => hlt' d (by simp [hd])) htail]

theorem TextIn.unique {pages : CodePages} {encoding : UInt8} {octets : List UInt8} {s s' : String}
    (h : TextIn pages encoding s octets) (h' : TextIn pages encoding s' octets) : s = s' := by
  have hscalar : ∀ text : List Char, ∀ c ∈ text, c.val.toNat < 256 ^ 4 := fun _ c _ => by
    have hc := char_bounds c
    omega
  unfold TextIn at h h'
  split at h
  all_goals
    rename_i hset
    simp only [hset] at h'
  · rw [← String.toList_inj, ← lossy_utf8Octets s.toList, ← lossy_utf8Octets s'.toList]
    exact congrArg lossy (h.symm.trans h')
  · exact Option.some.inj (h.symm.trans h')
  · exact Option.some.inj (h.symm.trans h')
  · exact String.toList_inj.mp
      (wideOctets_inj (by decide) (hscalar _) (hscalar _) (h.symm.trans h'))
  · exact String.toList_inj.mp (wideOctets_inj (by decide) h.1 h'.1 (h.2.symm.trans h'.2))
  · exact String.toList_inj.mp (wideOctets_inj (by decide) h.1 h'.1 (h.2.symm.trans h'.2))

/-! ### What `cstr` reads -/

/-- `cstr` yields the text that the octets are in their character set exactly for the
readable ones. -/
theorem textIn_cstr_iff (pages : CodePages) (encoding : UInt8) (octets : List UInt8) :
    TextIn pages encoding (cstr octets) octets ↔ ReadsAsUtf8 pages encoding octets := by
  have hself : String.ofList (cstr octets).toList = cstr octets := String.ofList_toList
  unfold TextIn ReadsAsUtf8
  split
  · constructor
    · intro h
      refine ⟨(cstr octets).toList, h, (cstr_utf8Octets_iff _).mp ?_⟩
      rw [← h, hself]
    · rintro ⟨text, rfl, hnul⟩
      rw [(cstr_utf8Octets_iff text).mpr hnul, String.toList_ofList]
  · rfl
  · rfl
  · constructor
    · intro h
      have hnil := (cstr_ucs4_iff (cstr octets).toList).mp (by rw [← h, hself])
      rw [h, hnil]
      rfl
    · rintro rfl
      rfl
  · constructor
    · rintro ⟨hlt, h⟩
      have hnil := (cstr_ucs2_iff hlt).mp (by rw [← h, hself])
      rw [h, hnil]
      rfl
    · rintro rfl
      exact ⟨fun c hc => by simp [cstr, lossyChars] at hc, rfl⟩
  · constructor
    · rintro ⟨hlt, h⟩
      have hascii := (cstr_latin_iff hlt).mp (by rw [← h, hself])
      rwa [← h] at hascii
    · intro h
      have hval : ∀ b : UInt8, (Char.ofNat b.toNat).val.toNat = b.toNat := fun b =>
        ((ofNat_eq_iff (Or.inl (by have := b.toNat_lt; omega))).mp rfl).symm
      have hlatin : wideOctets 1 (octets.map fun b => Char.ofNat b.toNat) = octets := by
        rw [wideOctets, List.flatMap_map]
        simp [toBe, hval]
      have hlt : ∀ c ∈ octets.map fun b => Char.ofNat b.toNat, c.val.toNat < 256 := by
        intro c hc
        obtain ⟨b, -, rfl⟩ := List.mem_map.mp hc
        rw [hval]
        exact b.toNat_lt
      have hread := (cstr_latin_iff hlt).mpr (by rwa [hlatin])
      rw [hlatin] at hread
      rw [hread, String.toList_ofList]
      exact ⟨hlt, hlatin.symm⟩
  · rfl

end Bacnet
