import Bacnet.Lib.Octets
import Bacnet.Value
import Mathlib.Data.List.TakeWhile

/-!
# Bacnet.CString

What `cstr` makes of the octets of a character string.

The octets of a text in UTF-8 are read back as that text when there is no NUL among its
characters, and only then; `cstr` converts as if every text were in UTF-8, so in the
other character sets the octets are read back for plain ASCII at most.
-/

namespace Bacnet

open Bacnet.Lib

/-- The UTF-8 octets of a text. -/
def utf8Octets (text : List Char) : List UInt8 := text.flatMap String.utf8EncodeChar

/-! ### One character -/

set_option maxRecDepth 4096 in
theorem isContinuation_iff (b : UInt8) :
    isContinuation b = true ↔ 128 ≤ b.toNat ∧ b.toNat ≤ 191 :=
  forall_octet (P := fun b => isContinuation b = true ↔ 128 ≤ b.toNat ∧ b.toNat ≤ 191)
    (by decide) b

theorem threeOctetSecond_iff (b b₁ : UInt8) :
    threeOctetSecond b b₁ = true ↔
      128 ≤ b₁.toNat ∧ b₁.toNat ≤ 191 ∧ (b.toNat = 0xE0 → 160 ≤ b₁.toNat) ∧
        (b.toNat = 0xED → b₁.toNat ≤ 159) := by
  simp only [threeOctetSecond, ← UInt8.toNat_inj, UInt8.le_iff_toNat_le, UInt8.reduceToNat]
  split
  · simp only [decide_eq_true_eq]
    omega
  · split
    all_goals simp only [decide_eq_true_eq]; omega

theorem fourOctetSecond_iff (b b₁ : UInt8) :
    fourOctetSecond b b₁ = true ↔
      128 ≤ b₁.toNat ∧ b₁.toNat ≤ 191 ∧ (b.toNat = 0xF0 → 144 ≤ b₁.toNat) ∧
        (b.toNat = 0xF4 → b₁.toNat ≤ 143) := by
  simp only [fourOctetSecond, ← UInt8.toNat_inj, UInt8.le_iff_toNat_le, UInt8.reduceToNat]
  split
  · simp only [decide_eq_true_eq]
    omega
  · split
    all_goals simp only [decide_eq_true_eq]; omega

theorem lossyChar_one {b : UInt8} {rest : List UInt8} (h : b.toNat < 128) :
    lossyChar b rest = (Char.ofNat b.toNat, 0) := by
  have hb : b < 0x80 := UInt8.lt_iff_toNat_lt.mpr h
  simp [lossyChar, hb]

theorem lossyChar_two {b b₁ : UInt8} {rest : List UInt8} (h : 0xC2 ≤ b.toNat ∧ b.toNat ≤ 0xDF)
    (h₁ : 128 ≤ b₁.toNat ∧ b₁.toNat ≤ 191) :
    lossyChar b (b₁ :: rest) = (Char.ofNat (b.toNat % 32 * 64 + b₁.toNat % 64), 1) := by
  have hb : ¬ b < 0x80 := by
    simp only [UInt8.lt_iff_toNat_lt, UInt8.reduceToNat]
    omega
  have hb' : 0xC2 ≤ b ∧ b ≤ 0xDF := h
  simp [lossyChar, hb, hb', (isContinuation_iff b₁).mpr h₁]

theorem lossyChar_three {b b₁ b₂ : UInt8} {rest : List UInt8}
    (h : 0xE0 ≤ b.toNat ∧ b.toNat ≤ 0xEF) (h₁ : threeOctetSecond b b₁ = true)
    (h₂ : 128 ≤ b₂.toNat ∧ b₂.toNat ≤ 191) :
    lossyChar b (b₁ :: b₂ :: rest) =
      (Char.ofNat (b.toNat % 16 * 4096 + b₁.toNat % 64 * 64 + b₂.toNat % 64), 2) := by
  have hb : ¬ b < 0x80 := by
    simp only [UInt8.lt_iff_toNat_lt, UInt8.reduceToNat]
    omega
  have hb' : ¬ (0xC2 ≤ b ∧ b ≤ 0xDF) := by
    simp only [UInt8.le_iff_toNat_le, UInt8.reduceToNat]
    omega
  have hb'' : 0xE0 ≤ b ∧ b ≤ 0xEF := h
  simp [lossyChar, hb, hb', hb'', h₁, (isContinuation_iff b₂).mpr h₂]

theorem lossyChar_four {b b₁ b₂ b₃ : UInt8} {rest : List UInt8}
    (h : 0xF0 ≤ b.toNat ∧ b.toNat ≤ 0xF4) (h₁ : fourOctetSecond b b₁ = true)
    (h₂ : 128 ≤ b₂.toNat ∧ b₂.toNat ≤ 191) (h₃ : 128 ≤ b₃.toNat ∧ b₃.toNat ≤ 191) :
    lossyChar b (b₁ :: b₂ :: b₃ :: rest) =
      (Char.ofNat (b.toNat % 8 * 262144 + b₁.toNat % 64 * 4096 + b₂.toNat % 64 * 64
        + b₃.toNat % 64), 3) := by
  have hb : ¬ b < 0x80 := by
    simp only [UInt8.lt_iff_toNat_lt, UInt8.reduceToNat]
    omega
  have hb' : ¬ (0xC2 ≤ b ∧ b ≤ 0xDF) := by
    simp only [UInt8.le_iff_toNat_le, UInt8.reduceToNat]
    omega
  have hb'' : ¬ (0xE0 ≤ b ∧ b ≤ 0xEF) := by
    simp only [UInt8.le_iff_toNat_le, UInt8.reduceToNat]
    omega
  have hb''' : 0xF0 ≤ b ∧ b ≤ 0xF4 := h
  simp [lossyChar, hb, hb', hb'', hb''', h₁, (isContinuation_iff b₂).mpr h₂,
    (isContinuation_iff b₃).mpr h₃]

/-- The code point of a character: it is not a surrogate. -/
theorem char_bounds (c : Char) :
    c.val.toNat < 0xD800 ∨ 0xDFFF < c.val.toNat ∧ c.val.toNat < 0x110000 := c.valid

theorem ofNat_eq_iff {c : Char} {n : Nat} (h : n.isValidChar) :
    Char.ofNat n = c ↔ n = c.val.toNat := by
  constructor
  · rintro rfl
    rw [Char.ofNat, dif_pos h]
    rfl
  · intro hn
    rw [hn]
    exact Char.ofNat_toNat c

/-- A character's octets are converted back to it, whatever follows. -/
theorem lossyChar_utf8 (c : Char) (rest : List UInt8) :
    ∃ b tail, String.utf8EncodeChar c = b :: tail ∧
      lossyChar b (tail ++ rest) = (c, tail.length) := by
  have hc := char_bounds c
  have hof : ∀ n, n = c.val.toNat → Char.ofNat n = c := fun n hn => hn ▸ Char.ofNat_toNat c
  unfold String.utf8EncodeChar
  simp only
  split
  · refine ⟨_, _, rfl, ?_⟩
    have hval : (UInt8.ofNat c.val.toNat).toNat = c.val.toNat := by
      rw [UInt8.toNat_ofNat']; omega
    rw [lossyChar_one (by omega), hof _ hval]
    rfl
  · split
    · refine ⟨_, _, rfl, ?_⟩
      rw [List.singleton_append, lossyChar_two]
      · simp only [UInt8.toNat_ofNat']
        rw [hof _ (by omega)]
        rfl
      all_goals simp only [UInt8.toNat_ofNat']; omega
    · split
      · refine ⟨_, _, rfl, ?_⟩
        rw [List.cons_append, List.singleton_append, lossyChar_three]
        · simp only [UInt8.toNat_ofNat']
          rw [hof _ (by omega)]
          rfl
        · simp only [UInt8.toNat_ofNat']; omega
        · rw [threeOctetSecond_iff]
          simp only [UInt8.toNat_ofNat']; omega
        · simp only [UInt8.toNat_ofNat']; omega
      · refine ⟨_, _, rfl, ?_⟩
        rw [List.cons_append, List.cons_append, List.singleton_append, lossyChar_four]
        · simp only [UInt8.toNat_ofNat']
          rw [hof _ (by omega)]
          rfl
        · simp only [UInt8.toNat_ofNat']; omega
        · rw [fourOctetSecond_iff]
          simp only [UInt8.toNat_ofNat']; omega
        · simp only [UInt8.toNat_ofNat']; omega
        · simp only [UInt8.toNat_ofNat']; omega

/-- What a character of a lossy conversion can be: the replacement character for an octet
of 128 or more, or what a well-formed sequence stands for. -/
theorem lossyChar_cases (b : UInt8) (rest : List UInt8) :
    (b.toNat < 128 ∧ lossyChar b rest = (Char.ofNat b.toNat, 0)) ∨
    (128 ≤ b.toNat ∧ (lossyChar b rest).1 = Char.ofNat 0xFFFD) ∨
    (∃ b₁ tail, rest = b₁ :: tail ∧ 0xC2 ≤ b.toNat ∧ b.toNat ≤ 0xDF ∧
      lossyChar b rest = (Char.ofNat (b.toNat % 32 * 64 + b₁.toNat % 64), 1)) ∨
    (∃ b₁ b₂ tail, rest = b₁ :: b₂ :: tail ∧ 0xE0 ≤ b.toNat ∧ b.toNat ≤ 0xEF ∧
      threeOctetSecond b b₁ = true ∧ isContinuation b₂ = true ∧
      lossyChar b rest =
        (Char.ofNat (b.toNat % 16 * 4096 + b₁.toNat % 64 * 64 + b₂.toNat % 64), 2)) ∨
    0x10000 ≤ (lossyChar b rest).1.val.toNat := by
  -- past the end an octet reads as 0, which continues no sequence
  have hcons : ∀ {l : List UInt8}, 128 ≤ (l.getD 0 0).toNat →
      ∃ c tail, l = c :: tail ∧ l.getD 0 0 = c := by
    intro l hl
    cases l with
    | nil => simp at hl
    | cons c tail => exact ⟨c, tail, rfl, rfl⟩
  by_cases hb : b < 0x80
  · have hlt : b.toNat < 128 := UInt8.lt_iff_toNat_lt.mp hb
    exact Or.inl ⟨hlt, lossyChar_one hlt⟩
  · have hge : 128 ≤ b.toNat := by
      simp only [UInt8.lt_iff_toNat_lt, UInt8.reduceToNat] at hb
      omega
    refine Or.inr ?_
    unfold lossyChar
    simp only [hb, if_false]
    by_cases h2 : 0xC2 ≤ b ∧ b ≤ 0xDF
    · simp only [h2, and_self, if_true]
      by_cases hc : isContinuation (rest.getD 0 0) = true
      · obtain ⟨b₁, tail, rfl, hb₁⟩ := hcons ((isContinuation_iff _).mp hc).1
        rw [hb₁] at hc ⊢
        exact Or.inr (Or.inl ⟨b₁, tail, rfl, h2.1, h2.2, by rw [if_pos hc]⟩)
      · exact Or.inl ⟨hge, by rw [if_neg hc]⟩
    · by_cases h3 : 0xE0 ≤ b ∧ b ≤ 0xEF
      · simp only [h2, h3, and_self, if_true, if_false]
        by_cases hs : threeOctetSecond b (rest.getD 0 0) = true
        · obtain ⟨b₁, tail, rfl, hb₁⟩ := hcons ((threeOctetSecond_iff _ _).mp hs).1
          rw [hb₁] at hs ⊢
          have htail : (b₁ :: tail).getD 1 0 = tail.getD 0 0 := by simp
          rw [htail]
          by_cases hc : isContinuation (tail.getD 0 0) = true
          · obtain ⟨b₂, tail, rfl, hb₂⟩ := hcons ((isContinuation_iff _).mp hc).1
            rw [hb₂] at hc ⊢
            exact Or.inr (Or.inr (Or.inl ⟨b₁, b₂, tail, rfl, h3.1, h3.2, hs, hc,
              by rw [if_neg (not_not_intro hs), if_neg (not_not_intro hc)]⟩))
          · exact Or.inl ⟨hge, by rw [if_neg (not_not_intro hs), if_pos hc]⟩
        · exact Or.inl ⟨hge, by rw [if_pos hs]⟩
      · by_cases h4 : 0xF0 ≤ b ∧ b ≤ 0xF4
        · simp only [h2, h3, h4, and_self, if_true, if_false]
          by_cases hs : fourOctetSecond b (rest.getD 0 0) = true
          · by_cases hc : isContinuation (rest.getD 1 0) = true
            · by_cases hd : isContinuation (rest.getD 2 0) = true
              · refine Or.inr (Or.inr (Or.inr ?_))
                rw [if_neg (not_not_intro hs), if_neg (not_not_intro hc),
                  if_neg (not_not_intro hd)]
                obtain ⟨hs₁, hs₂, hF0, hF4⟩ := (fourOctetSecond_iff _ _).mp hs
                have hb' : 0xF0 ≤ b.toNat ∧ b.toNat ≤ 0xF4 := h4
                simp only
                rw [← (ofNat_eq_iff (Or.inr ⟨by omega, by omega⟩)).mp rfl]
                omega
              · exact Or.inl ⟨hge, by
                  rw [if_neg (not_not_intro hs), if_neg (not_not_intro hc), if_pos hd]⟩
            · exact Or.inl ⟨hge, by rw [if_neg (not_not_intro hs), if_pos hc]⟩
          · exact Or.inl ⟨hge, by rw [if_pos hs]⟩
        · simp only [h2, h3, h4, if_false]
          exact Or.inl ⟨hge, trivial⟩

/-! ### A text -/

/-- A lossy conversion with as much fuel as it needs. -/
def lossy (octets : List UInt8) : List Char := lossyChars octets.length octets

theorem lossyChars_eq {fuel : Nat} {octets : List UInt8} (h : octets.length ≤ fuel) :
    lossyChars fuel octets = lossy octets := by
  -- any two amounts of fuel that suffice give the same
  have hany : ∀ n f g (l : List UInt8), l.length ≤ n → l.length ≤ f → l.length ≤ g →
      lossyChars f l = lossyChars g l := by
    intro n
    induction n with
    | zero =>
      intro f g l hn hf hg
      obtain rfl : l = [] := List.eq_nil_of_length_eq_zero (by omega)
      cases f <;> cases g <;> rfl
    | succ n ih =>
      intro f g l hn hf hg
      cases l with
      | nil => cases f <;> cases g <;> rfl
      | cons b rest =>
        simp only [List.length_cons] at hn hf hg
        obtain ⟨f, rfl⟩ : ∃ k, f = k + 1 := ⟨f - 1, by omega⟩
        obtain ⟨g, rfl⟩ : ∃ k, g = k + 1 := ⟨g - 1, by omega⟩
        have hlen := List.length_drop (i := (lossyChar b rest).2) (l := rest)
        rw [lossyChars, lossyChars, ih f g _ (by omega) (by omega) (by omega)]
  exact hany _ _ _ octets (Nat.le_refl _) h (Nat.le_refl _)

theorem lossy_nil : lossy [] = [] := rfl

theorem lossy_cons (b : UInt8) (rest : List UInt8) :
    lossy (b :: rest) = (lossyChar b rest).1 :: lossy (rest.drop (lossyChar b rest).2) := by
  rw [lossy, List.length_cons, lossyChars, lossyChars_eq]
  simp

theorem length_lossy_le (octets : List UInt8) : (lossy octets).length ≤ octets.length := by
  induction h : octets.length using Nat.strongRecOn generalizing octets with
  | _ n ih =>
    cases octets with
    | nil => simp [lossy_nil]
    | cons b rest =>
      have hlen := List.length_drop (i := (lossyChar b rest).2) (l := rest)
      rw [List.length_cons] at h
      have hrest := ih _ (by omega) (rest.drop (lossyChar b rest).2) rfl
      rw [lossy_cons, List.length_cons]
      omega

theorem cstr_eq (octets : List UInt8) :
    cstr octets = String.ofList (lossy (octets.takeWhile (· ≠ 0))) := by
  rw [cstr, lossyChars_eq]
  exact (List.takeWhile_prefix _).length_le

/-- A text in UTF-8 is converted back to it. -/
theorem lossy_utf8Octets (text : List Char) : lossy (utf8Octets text) = text := by
  induction text with
  | nil => rfl
  | cons c text ih =>
    obtain ⟨b, tail, hoctets, hchar⟩ := lossyChar_utf8 c (utf8Octets text)
    have hcons : utf8Octets (c :: text) = b :: (tail ++ utf8Octets text) := by
      rw [utf8Octets, List.flatMap_cons, hoctets]
      rfl
    rw [hcons, lossy_cons, hchar, List.drop_left, ih]

theorem zero_mem_utf8EncodeChar {c : Char} (h : 0 ∈ String.utf8EncodeChar c) : c = Char.ofNat 0 := by
  have hc := char_bounds c
  have hne : ∀ n, 0 < n → n < 256 → UInt8.ofNat n ≠ 0 := by
    intro n hpos hlt h0
    have hn := congrArg UInt8.toNat h0
    rw [UInt8.toNat_ofNat'] at hn
    simp at hn
    omega
  unfold String.utf8EncodeChar at h
  simp only at h
  split at h
  · have h0 : UInt8.ofNat c.val.toNat = 0 := (List.mem_singleton.mp h).symm
    have hval : c.val.toNat = 0 := by
      by_contra hpos
      exact hne _ (Nat.pos_of_ne_zero hpos) (by omega) h0
    rw [← hval]
    exact (Char.ofNat_toNat c).symm
  · exfalso
    split at h
    · simp only [List.mem_cons, List.not_mem_nil, or_false] at h
      rcases h with h | h
      all_goals exact hne _ (by omega) (by omega) h.symm
    · split at h
      · simp only [List.mem_cons, List.not_mem_nil, or_false] at h
        rcases h with h | h | h
        all_goals exact hne _ (by omega) (by omega) h.symm
      · simp only [List.mem_cons, List.not_mem_nil, or_false] at h
        rcases h with h | h | h | h
        all_goals exact hne _ (by omega) (by omega) h.symm

/-- The octets before the first NUL are those of the characters before it. -/
theorem takeWhile_utf8Octets (text : List Char) :
    (utf8Octets text).takeWhile (· ≠ 0) = utf8Octets (text.takeWhile (· ≠ Char.ofNat 0)) := by
  induction text with
  | nil => rfl
  | cons c text ih =>
    by_cases hc : c = Char.ofNat 0
    · subst hc
      rfl
    · have hnonzero : ∀ b ∈ String.utf8EncodeChar c, decide (b ≠ 0) = true := by
        intro b hb
        refine decide_eq_true fun h0 => hc (zero_mem_utf8EncodeChar (h0 ▸ hb))
      have htake : (c :: text).takeWhile (· ≠ Char.ofNat 0) =
          c :: text.takeWhile (· ≠ Char.ofNat 0) :=
        List.takeWhile_cons_of_pos (decide_eq_true hc)
      rw [htake, utf8Octets, List.flatMap_cons, List.takeWhile_append_of_pos hnonzero]
      exact congrArg (String.utf8EncodeChar c ++ ·) ih

theorem cstr_utf8Octets (text : List Char) :
    cstr (utf8Octets text) = String.ofList (text.takeWhile (· ≠ Char.ofNat 0)) := by
  rw [cstr_eq, takeWhile_utf8Octets, lossy_utf8Octets]

/-- A text without a NUL is read back from its octets, and one with a NUL is not. -/
theorem cstr_utf8Octets_iff (text : List Char) :
    cstr (utf8Octets text) = String.ofList text ↔ Char.ofNat 0 ∉ text := by
  rw [cstr_utf8Octets, String.ofList_inj, List.takeWhile_eq_self_iff]
  constructor
  · intro h hmem
    simpa using h _ hmem
  · intro h c hc
    exact decide_eq_true fun h0 => h (h0 ▸ hc)

/-! ### The other character sets -/

/-- The octets of a text with every character in `width` octets, the first the most
significant: ISO 8859-1, UCS-2 and UCS-4. -/
def wideOctets (width : Nat) (text : List Char) : List UInt8 :=
  text.flatMap fun c => toBe width c.val.toNat

theorem length_wideOctets (width : Nat) (text : List Char) :
    (wideOctets width text).length = text.length * width := by
  induction text with
  | nil => simp [wideOctets]
  | cons c text ih =>
    rw [wideOctets, List.flatMap_cons, List.length_append, length_toBe]
    have hrest : (text.flatMap fun c => toBe width c.val.toNat).length = text.length * width := ih
    rw [hrest, List.length_cons, Nat.succ_mul, Nat.add_comm]

/-- An octet that is converted to a character below 256 on its own is plain ASCII. -/
theorem ascii_of_lossy_latin {text : List Char} (hlt : ∀ c ∈ text, c.val.toNat < 256)
    (h : lossy (wideOctets 1 text) = text) : ∀ c ∈ text, c.val.toNat < 128 := by
  induction text with
  | nil => simp
  | cons c text ih =>
    have hc : c.val.toNat < 256 := hlt c (by simp)
    have hoctets : wideOctets 1 (c :: text) = UInt8.ofNat c.val.toNat :: wideOctets 1 text := rfl
    have hval : (UInt8.ofNat c.val.toNat).toNat = c.val.toNat := by
      rw [UInt8.toNat_ofNat']
      omega
    rw [hoctets, lossy_cons, List.cons.injEq] at h
    obtain ⟨hhead, htail⟩ := h
    have hlen := congrArg List.length htail
    have hle := length_lossy_le
      ((wideOctets 1 text).drop (lossyChar (UInt8.ofNat c.val.toNat) (wideOctets 1 text)).2)
    rw [List.length_drop, length_wideOctets] at hle
    -- a malformed sequence gives the replacement character, a longer one a character too few
    rcases lossyChar_cases (UInt8.ofNat c.val.toNat) (wideOctets 1 text) with
      ⟨hb, hchar⟩ | ⟨-, hchar⟩ | ⟨b₁, tail, hrest, -, -, hchar⟩ |
        ⟨b₁, b₂, tail, hrest, -, -, -, -, hchar⟩ | hbig
    · rw [hchar] at htail
      intro d hd
      rcases List.mem_cons.mp hd with rfl | hd
      · omega
      · exact ih (fun d hd => hlt d (by simp [hd])) (by simpa using htail) d hd
    · rw [hchar, ofNat_eq_iff (by decide)] at hhead
      omega
    · rw [hchar] at hle hlen
      have hne := congrArg List.length hrest
      rw [length_wideOctets, List.length_cons] at hne
      simp only at hle hlen
      omega
    · rw [hchar] at hle hlen
      have hne := congrArg List.length hrest
      rw [length_wideOctets, List.length_cons, List.length_cons] at hne
      simp only at hle hlen
      omega
    · rw [hhead] at hbig
      omega

/-- A text in ISO 8859-1 is read back when it is plain ASCII without a NUL. -/
theorem cstr_latin_iff {text : List Char} (hlt : ∀ c ∈ text, c.val.toNat < 256) :
    cstr (wideOctets 1 text) = String.ofList text ↔
      ∀ b ∈ wideOctets 1 text, 0 < b.toNat ∧ b.toNat < 128 := by
  have hmem : ∀ {b}, b ∈ wideOctets 1 text → ∃ c ∈ text, b = UInt8.ofNat c.val.toNat := by
    intro b hb
    obtain ⟨c, hc, hbc⟩ := List.mem_flatMap.mp hb
    exact ⟨c, hc, by simpa [toBe] using hbc⟩
  have hval : ∀ {c}, c ∈ text → (UInt8.ofNat c.val.toNat).toNat = c.val.toNat := by
    intro c hc
    have := hlt c hc
    rw [UInt8.toNat_ofNat']
    omega
  constructor
  · intro h
    rw [cstr_eq, String.ofList_inj] at h
    have hlen := congrArg List.length h
    have hle := length_lossy_le ((wideOctets 1 text).takeWhile (· ≠ 0))
    have hbegins := List.takeWhile_prefix (l := wideOctets 1 text) (· ≠ 0)
    have hall := hbegins.eq_of_length_le (by rw [length_wideOctets]; omega)
    rw [hall] at h
    intro b hb
    have hpos : decide (b ≠ 0) = true := List.takeWhile_eq_self_iff.mp hall b hb
    obtain ⟨c, hc, rfl⟩ := hmem hb
    refine ⟨?_, ?_⟩
    · rw [Nat.pos_iff_ne_zero]
      intro h0
      exact of_decide_eq_true hpos (UInt8.toNat_inj.mp h0)
    · rw [hval hc]
      exact ascii_of_lossy_latin hlt h c hc
  · intro h
    have hascii : ∀ c ∈ text, 0 < c.val.toNat ∧ c.val.toNat < 128 := by
      intro c hc
      have hb := h (UInt8.ofNat c.val.toNat) (List.mem_flatMap.mpr ⟨c, hc, by simp [toBe]⟩)
      rwa [hval hc] at hb
    have hutf8 : wideOctets 1 text = utf8Octets text := by
      refine List.flatMap_congr fun c hc => ?_
      rw [String.utf8EncodeChar, if_pos (Nat.le_of_lt_succ (hascii c hc).2)]
      rfl
    rw [hutf8, cstr_utf8Octets_iff]
    intro h0
    exact absurd (hascii _ h0).1 (by decide)

/-- A text in UCS-4 starts with a zero octet, so only the empty one is read back. -/
theorem cstr_ucs4_iff (text : List Char) :
    cstr (wideOctets 4 text) = String.ofList text ↔ text = [] := by
  constructor
  · intro h
    cases text with
    | nil => rfl
    | cons c text =>
      have hc := char_bounds c
      have hfirst : UInt8.ofNat (c.val.toNat / 256 / 256 / 256) = 0 := by
        rw [Nat.div_eq_of_lt (by omega)]
        rfl
      have hoctets : wideOctets 4 (c :: text) =
          UInt8.ofNat (c.val.toNat / 256 / 256 / 256) ::
            (toBe 3 c.val.toNat ++ wideOctets 4 text) := rfl
      rw [cstr_eq, hoctets, hfirst, String.ofList_inj] at h
      simp [lossy_nil] at h
  · rintro rfl
    rfl

/-- `U+FFFD` takes two octets in UCS-2, and each of them is converted to a `U+FFFD`. -/
theorem lossy_ucs2_replacement (k : Nat) (text : List Char) :
    lossy ((wideOctets 2 (List.replicate k (Char.ofNat 0xFFFD) ++ text)).takeWhile (· ≠ 0)) =
      List.replicate (2 * k) (Char.ofNat 0xFFFD) ++
        lossy ((wideOctets 2 text).takeWhile (· ≠ 0)) := by
  induction k with
  | zero => simp
  | succ k ih =>
    have hoctets : ∀ t, (wideOctets 2 (Char.ofNat 0xFFFD :: t)).takeWhile (· ≠ 0) =
        0xFF :: 0xFD :: (wideOctets 2 t).takeWhile (· ≠ 0) := fun t => rfl
    have hfirst : ∀ rest, lossyChar 0xFF rest = (Char.ofNat 0xFFFD, 0) := fun rest => rfl
    have hsecond : ∀ rest, lossyChar 0xFD rest = (Char.ofNat 0xFFFD, 0) := fun rest => rfl
    rw [List.replicate_succ, List.cons_append, hoctets, lossy_cons, hfirst, List.drop_zero,
      lossy_cons, hsecond, List.drop_zero, ih, Nat.mul_succ, List.replicate_succ,
      List.replicate_succ]
    rfl

/-- No UCS-2 text that starts with `U+FFFD` is read back: twice as many characters come
out as go in. -/
theorem not_lossy_replacement {text : List Char}
    (h : lossy ((wideOctets 2 (Char.ofNat 0xFFFD :: text)).takeWhile (· ≠ 0)) =
      Char.ofNat 0xFFFD :: text) : False := by
  have hbegins : ∀ k, List.replicate (k + 1) (Char.ofNat 0xFFFD) <+:
      Char.ofNat 0xFFFD :: text := by
    intro k
    induction k with
    | zero => exact ⟨text, rfl⟩
    | succ k ih =>
      obtain ⟨t, ht⟩ := ih
      rw [← ht, lossy_ucs2_replacement, ht] at h
      have hsplit : 2 * (k + 1) = k + 1 + 1 + k := by omega
      rw [hsplit, List.replicate_add, List.append_assoc] at h
      exact ⟨_, h⟩
  have hle := (hbegins (text.length + 1)).length_le
  rw [List.length_replicate, List.length_cons] at hle
  omega

/-- One step through a UCS-2 text that is read back: a character of three UTF-8 octets
uses up three octets, all of them in the range that such octets have. -/
theorem lossy_three {c : Char} {octets : List UInt8} {text : List Char}
    (hc : 0x800 ≤ c.val.toNat ∧ c.val.toNat < 0x10000) (hne : c ≠ Char.ofNat 0xFFFD)
    (h : lossy octets = c :: text) :
    ∃ b b₁ b₂ rest, octets = b :: b₁ :: b₂ :: rest ∧ lossy rest = text ∧
      ∀ x ∈ [b, b₁, b₂], 0x80 ≤ x.toNat ∧ x.toNat < 0xF0 := by
  cases octets with
  | nil => simp [lossy_nil] at h
  | cons b rest =>
    rw [lossy_cons, List.cons.injEq] at h
    obtain ⟨hhead, htail⟩ := h
    rcases lossyChar_cases b rest with
      ⟨hb, hchar⟩ | ⟨-, hchar⟩ | ⟨b₁, tail, -, hb, hb', hchar⟩ |
        ⟨b₁, b₂, tail, rfl, hb, hb', hs, hcont, hchar⟩ | hbig
    · rw [hchar, ofNat_eq_iff (Or.inl (by omega))] at hhead
      omega
    · exact absurd (hhead.symm.trans hchar) hne
    · rw [hchar, ofNat_eq_iff (Or.inl (by omega))] at hhead
      omega
    · refine ⟨b, b₁, b₂, tail, rfl, ?_, ?_⟩
      · rw [hchar] at htail
        exact htail
      · have h₁ := (threeOctetSecond_iff b b₁).mp hs
        have h₂ := (isContinuation_iff b₂).mp hcont
        intro x hx
        simp only [List.mem_cons, List.not_mem_nil, or_false] at hx
        rcases hx with rfl | rfl | rfl
        all_goals omega
    · rw [hhead] at hbig
      omega

theorem wideOctets_two_cons (c : Char) (text : List Char) :
    wideOctets 2 (c :: text) =
      UInt8.ofNat (c.val.toNat / 256) :: UInt8.ofNat c.val.toNat :: wideOctets 2 text := rfl

/-- The octet at an even position of a UCS-2 text is the upper one of a character. -/
theorem mem_take_ucs2 {text : List Char} {c : Char} {n m : Nat} {tail : List Char}
    (h : text.drop n = c :: tail) (hn : 2 * n < m) :
    UInt8.ofNat (c.val.toNat / 256) ∈ (wideOctets 2 text).take m := by
  have hlt : n < text.length := by
    by_contra hge
    rw [List.drop_eq_nil_of_le (Nat.le_of_not_lt hge)] at h
    simp at h
  have hsplit : wideOctets 2 text = wideOctets 2 (text.take n) ++ wideOctets 2 (c :: tail) := by
    rw [← h, wideOctets, wideOctets, wideOctets, ← List.flatMap_append, List.take_append_drop]
  have hlen : (wideOctets 2 (text.take n)).length = 2 * n := by
    rw [length_wideOctets, List.length_take]
    omega
  obtain ⟨k, hk⟩ : ∃ k, m = (wideOctets 2 (text.take n)).length + (k + 1) :=
    ⟨m - 2 * n - 1, by omega⟩
  rw [hsplit, wideOctets_two_cons, hk, List.take_length_add_append, List.take_succ_cons]
  simp

theorem upper_octet {c : Char} (h : c.val.toNat < 0x10000) :
    (UInt8.ofNat (c.val.toNat / 256)).toNat = c.val.toNat / 256 := by
  rw [UInt8.toNat_ofNat']
  omega

/-- A UCS-2 text that is read back is read three octets at a time: the octets read so far
hold the upper octet of the next character, which puts it in the same range. -/
theorem ucs2_chain {text : List Char} (hlt : ∀ c ∈ text, c.val.toNat < 0x10000)
    (h : lossy ((wideOctets 2 text).takeWhile (· ≠ 0)) = text)
    (hfirst : ∀ c, text.head? = some c → 0x800 ≤ c.val.toNat ∧ c ≠ Char.ofNat 0xFFFD) :
    ∀ n, n < text.length → ∃ used rest,
      (wideOctets 2 text).takeWhile (· ≠ 0) = used ++ rest ∧ used.length = 3 * (n + 1) ∧
        lossy rest = text.drop (n + 1) ∧ ∀ x ∈ used, 0x80 ≤ x.toNat ∧ x.toNat < 0xF0 := by
  intro n
  induction n with
  | zero =>
    intro hn
    cases hcase : text with
    | nil =>
      rw [hcase] at hn
      simp at hn
    | cons c tail =>
      obtain ⟨hge, hne⟩ := hfirst c (by simp [hcase])
      have hc := hlt c (by simp [hcase])
      rw [hcase] at h
      obtain ⟨b, b₁, b₂, rest, hoctets, hrest, hrange⟩ := lossy_three ⟨hge, hc⟩ hne h
      exact ⟨[b, b₁, b₂], rest, hoctets, rfl, hrest, hrange⟩
  | succ n ih =>
    intro hn
    obtain ⟨used, rest, hoctets, hlen, hrest, hrange⟩ := ih (by omega)
    have hdrop : text.drop (n + 1) = text[n + 1] :: text.drop (n + 2) :=
      List.drop_eq_getElem_cons hn
    have hc : text[n + 1].val.toNat < 0x10000 := hlt _ (List.getElem_mem hn)
    have hupper : UInt8.ofNat (text[n + 1].val.toNat / 256) ∈ used := by
      obtain ⟨more, hmore⟩ := List.takeWhile_prefix (l := wideOctets 2 text) (· ≠ 0)
      have htake : (wideOctets 2 text).take (3 * (n + 1)) = used := by
        rw [← hmore, hoctets, List.append_assoc, ← hlen, List.take_append_length]
      rw [← htake]
      exact mem_take_ucs2 hdrop (by omega)
    have hbound := hrange _ hupper
    rw [upper_octet hc] at hbound
    have hne : text[n + 1] ≠ Char.ofNat 0xFFFD := by
      intro heq
      have hval := (ofNat_eq_iff (c := text[n + 1]) (n := 0xFFFD) (by decide)).mp heq.symm
      omega
    obtain ⟨b, b₁, b₂, rest', hsplit, hrest', hrange'⟩ :=
      lossy_three ⟨by omega, hc⟩ hne (hrest.trans hdrop)
    refine ⟨used ++ [b, b₁, b₂], rest', ?_, ?_, hrest', ?_⟩
    · rw [hoctets, hsplit]
      simp
    · rw [List.length_append, hlen]
      rfl
    · intro x hx
      rcases List.mem_append.mp hx with hx | hx
      · exact hrange x hx
      · exact hrange' x hx

/-- Only the empty UCS-2 text is read back: reading takes three octets a character where
there are two. -/
theorem cstr_ucs2_iff {text : List Char} (hlt : ∀ c ∈ text, c.val.toNat < 0x10000) :
    cstr (wideOctets 2 text) = String.ofList text ↔ text = [] := by
  constructor
  · intro h
    rw [cstr_eq, String.ofList_inj] at h
    cases hcase : text with
    | nil => rfl
    | cons c tail =>
      exfalso
      have hc := hlt c (by simp [hcase])
      have hge : 0x800 ≤ c.val.toNat := by
        rw [hcase, wideOctets_two_cons] at h
        by_cases hzero : UInt8.ofNat (c.val.toNat / 256) = 0
        · rw [hzero] at h
          simp [lossy_nil] at h
        · rw [List.takeWhile_cons, if_pos (decide_eq_true hzero), lossy_cons,
            List.cons.injEq] at h
          by_contra hsmall
          have hupper := upper_octet hc
          rw [lossyChar_one (by omega), ofNat_eq_iff (Or.inl (by omega)), hupper] at h
          refine hzero (UInt8.toNat_inj.mp ?_)
          rw [hupper]
          have hself := h.1
          change c.val.toNat / 256 = 0
          omega
      have hne : c ≠ Char.ofNat 0xFFFD := by
        rintro rfl
        rw [hcase] at h
        exact not_lossy_replacement h
      have hpos : 0 < text.length := by simp [hcase]
      have hfirst : ∀ d, text.head? = some d → 0x800 ≤ d.val.toNat ∧ d ≠ Char.ofNat 0xFFFD := by
        intro d hd
        rw [hcase, List.head?_cons, Option.some.injEq] at hd
        exact hd ▸ ⟨hge, hne⟩
      obtain ⟨used, rest, hoctets, hlen, -, -⟩ :=
        ucs2_chain hlt h hfirst (text.length - 1) (by omega)
      have hle := (List.takeWhile_prefix (l := wideOctets 2 text) (· ≠ 0)).length_le
      rw [hoctets, List.length_append, hlen, length_wideOctets] at hle
      omega
  · rintro rfl
    rfl

end Bacnet
