import Mathlib.Data.List.Nodup
import Mathlib.Data.Nat.Bitwise

/-!
# Bacnet.Lib.Bits

A list of numbers as the bits of one number, so that long lists can be searched and checked for
duplicates by evaluation.
-/

namespace Bacnet.Lib

/-- The number with the bits of the list. -/
def bitSet (ns : List Nat) : Nat :=
  ns.foldr (fun n bits => 2 ^ n ||| bits) 0

/-- The numbers of the list differ from each other, and are not bits of `seen`. -/
def distinct (seen : Nat) : List Nat → Bool
  | [] => true
  | n :: ns => !seen.testBit n && distinct (2 ^ n ||| seen) ns

theorem testBit_two_pow_or (n bits m : Nat) :
    (2 ^ n ||| bits).testBit m = true ↔ m = n ∨ bits.testBit m = true := by
  rw [Nat.testBit_or, Bool.or_eq_true, Nat.testBit_two_pow, decide_eq_true_eq, eq_comm]

theorem testBit_bitSet (ns : List Nat) (m : Nat) : (bitSet ns).testBit m = true ↔ m ∈ ns := by
  induction ns with
  | nil => simp [bitSet]
  | cons n ns ih =>
    have hcons : bitSet (n :: ns) = 2 ^ n ||| bitSet ns := rfl
    rw [hcons, testBit_two_pow_or, ih, List.mem_cons]

theorem nodup_of_distinct {seen : Nat} {ns : List Nat} (h : distinct seen ns = true) :
    ns.Nodup ∧ ∀ m ∈ ns, seen.testBit m = false := by
  induction ns generalizing seen with
  | nil => simp
  | cons n ns ih =>
    simp only [distinct, Bool.and_eq_true, Bool.not_eq_true'] at h
    obtain ⟨hn, hns⟩ := h
    obtain ⟨hnodup, hunseen⟩ := ih hns
    have hmem : ∀ m ∈ ns, m ≠ n ∧ seen.testBit m = false := by
      intro m hm
      have := hunseen m hm
      rw [← Bool.not_eq_true, testBit_two_pow_or] at this
      simpa using this
    constructor
    · rw [List.nodup_cons]
      exact ⟨fun hin => (hmem n hin).1 rfl, hnodup⟩
    · intro m hm
      rcases List.mem_cons.mp hm with rfl | hm
      · exact hn
      · exact (hmem m hm).2

end Bacnet.Lib
