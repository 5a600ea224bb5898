import Mathlib.Data.List.Induction
import Mathlib.Algebra.Group.Nat.Defs
import Mathlib.Algebra.Group.Int.Defs

/-!
# Bacnet.Lib.Octets

Memory as C code sees it through a `uint8_t *`: an octet at every offset, with no
length. What lies past the end of a message is whatever the memory holds there, so a
decoder that reads too far is modelled by the octets it really reads.

* `Mem.shift` is pointer arithmetic (`&apdu[n]`);
* `Mem.be` is a big-endian number, `toBe` its encoding;
* `Mem.Holds` says which octets stand at the start of the memory. What a decoder does is
  stated over it: the octets behind the ones it holds are unknown;
* `Mem.Agree` compares two memories up to a length. A decoder that gives the same on any
  two that agree reads no further;
* `ofBe` and `ofBeSigned` read a list of octets as a number.
-/

namespace Bacnet.Lib

/-- The octets a pointer can reach. -/
abbrev Mem := Nat → UInt8

namespace Mem

/-- `&m[off]`. -/
def shift (m : Mem) (off : Nat) : Mem := fun i => m (off + i)

/-- The first `n` octets. -/
def slice (m : Mem) (n : Nat) : List UInt8 := (List.range n).map m

/-- `l` at the start of the memory, `m` after it. -/
def overlay (l : List UInt8) (m : Mem) : Mem := fun i => l.getD i (m i)

/-- The big-endian number in the first `n` octets. -/
def be (m : Mem) : Nat → Nat
  | 0 => 0
  | n + 1 => be m n * 256 + (m n).toNat

end Mem

/-- The `n` octets of a number, most significant first. -/
def toBe : Nat → Nat → List UInt8
  | 0, _ => []
  | n + 1, v => toBe n (v / 256) ++ [UInt8.ofNat v]

@[simp] theorem length_toBe (n v : Nat) : (toBe n v).length = n := by
  induction n generalizing v with
  | zero => rfl
  | succ n ih => simp [toBe, ih]

/-- A property of every octet, from its 256 values. -/
theorem forall_octet {P : UInt8 → Prop} (h : ∀ n : Fin 256, P (UInt8.ofNat n.val)) (b : UInt8) :
    P b := by
  have hb := h ⟨b.toNat, b.toNat_lt⟩
  rwa [UInt8.ofNat_toNat] at hb

/-! ### Octets as numbers -/

/-- The big-endian number a list of octets stands for. -/
def ofBe (l : List UInt8) : Nat := l.foldl (fun n b => n * 256 + b.toNat) 0

/-- The same in two's complement. -/
def ofBeSigned (l : List UInt8) : Int := Int.bmod (ofBe l) (256 ^ l.length)

@[simp] theorem ofBe_nil : ofBe [] = 0 := rfl

theorem ofBe_concat (l : List UInt8) (b : UInt8) : ofBe (l ++ [b]) = ofBe l * 256 + b.toNat := by
  simp [ofBe]

theorem ofBe_cons (b : UInt8) (l : List UInt8) :
    ofBe (b :: l) = b.toNat * 256 ^ l.length + ofBe l := by
  induction l using List.reverseRecOn with
  | nil => simp [ofBe]
  | append_singleton l c ih =>
    have hassoc : b :: (l ++ [c]) = (b :: l) ++ [c] := rfl
    rw [hassoc, ofBe_concat, ofBe_concat, ih, List.length_append, List.length_singleton,
      Nat.pow_succ, Nat.add_mul, Nat.mul_assoc, Nat.add_assoc]

theorem ofBe_lt (l : List UInt8) : ofBe l < 256 ^ l.length := by
  induction l using List.reverseRecOn with
  | nil => simp
  | append_singleton l b ih =>
    have hb := b.toNat_lt
    rw [ofBe_concat, List.length_append, List.length_singleton, Nat.pow_succ]
    omega

theorem ofBe_toBe {n v : Nat} (h : v < 256 ^ n) : ofBe (toBe n v) = v := by
  induction n generalizing v with
  | zero =>
    have h0 : v = 0 := by simpa using h
    rw [h0]
    rfl
  | succ n ih =>
    have hdiv : v / 256 < 256 ^ n := by
      rw [Nat.pow_succ] at h
      exact Nat.div_lt_of_lt_mul (by omega)
    rw [toBe, ofBe_concat, ih hdiv, UInt8.toNat_ofNat']
    have hsize : 2 ^ 8 = 256 := rfl
    omega

/-! ### What stands in memory -/

namespace Mem

/-- The octets `l` stand at the start of the memory. -/
def Holds (m : Mem) (l : List UInt8) : Prop := ∀ i (h : i < l.length), m i = l[i]

@[simp] theorem shift_apply (m : Mem) (off i : Nat) : m.shift off i = m (off + i) := rfl

@[simp] theorem shift_zero (m : Mem) : m.shift 0 = m := by
  funext i
  simp

@[simp] theorem shift_shift (m : Mem) (a b : Nat) : (m.shift a).shift b = m.shift (a + b) := by
  funext i
  simp [Nat.add_assoc]

@[simp] theorem length_slice (m : Mem) (n : Nat) : (m.slice n).length = n := by
  simp [slice]

theorem slice_succ (m : Mem) (n : Nat) : m.slice (n + 1) = m.slice n ++ [m n] := by
  simp [slice, List.range_succ]

theorem be_eq (m : Mem) (n : Nat) : m.be n = ofBe (m.slice n) := by
  induction n with
  | zero => rfl
  | succ n ih => rw [be, slice_succ, ofBe_concat, ih]

theorem holds_nil (m : Mem) : m.Holds [] := by
  intro i h
  simp at h

theorem holds_append {m : Mem} {a b : List UInt8} :
    m.Holds (a ++ b) ↔ m.Holds a ∧ (m.shift a.length).Holds b := by
  constructor
  · intro h
    refine ⟨fun i hi => ?_, fun i hi => ?_⟩
    · rw [h i (by simp; omega), List.getElem_append_left hi]
    · rw [shift_apply, h (a.length + i) (by simp; omega),
        List.getElem_append_right (Nat.le_add_right _ _)]
      simp
  · rintro ⟨ha, hb⟩ i hi
    by_cases hlt : i < a.length
    · rw [List.getElem_append_left hlt]
      exact ha i hlt
    · have hrest := hb (i - a.length) (by simp at hi; omega)
      rw [List.getElem_append_right (Nat.le_of_not_lt hlt), ← hrest, shift_apply,
        Nat.add_sub_cancel' (Nat.le_of_not_lt hlt)]

theorem holds_cons {m : Mem} {b : UInt8} {l : List UInt8} :
    m.Holds (b :: l) ↔ m 0 = b ∧ (m.shift 1).Holds l := by
  have hsplit : b :: l = [b] ++ l := rfl
  rw [hsplit, holds_append]
  simp [Holds]

theorem holds_slice (m : Mem) (n : Nat) : m.Holds (m.slice n) := by
  intro i h
  simp [slice]

theorem holds_overlay (l : List UInt8) (m : Mem) : (overlay l m).Holds l := by
  intro i h
  simp [overlay, List.getD_eq_getElem?_getD, h]

/-- The octets held, read back. -/
theorem Holds.slice_eq {m : Mem} {l : List UInt8} (h : m.Holds l) : m.slice l.length = l := by
  refine List.ext_getElem (by simp) fun i hi hl => ?_
  rw [← h i hl]
  simp [slice]

theorem Holds.left {m : Mem} {a b : List UInt8} (h : m.Holds (a ++ b)) : m.Holds a :=
  (holds_append.mp h).1

theorem Holds.right {m : Mem} {a b : List UInt8} (h : m.Holds (a ++ b)) :
    (m.shift a.length).Holds b :=
  (holds_append.mp h).2

theorem Holds.be_eq {m : Mem} {l : List UInt8} (h : m.Holds l) : m.be l.length = ofBe l := by
  rw [Mem.be_eq, h.slice_eq]

theorem slice_add (m : Mem) (a b : Nat) : m.slice (a + b) = m.slice a ++ (m.shift a).slice b := by
  simp only [slice, List.range_add, List.map_append, List.map_map]
  rfl

/-- The first `n` octets begin with `l` when the memory does and `l` is not longer. -/
theorem prefix_slice_iff {m : Mem} {l : List UInt8} {n : Nat} :
    l <+: m.slice n ↔ m.Holds l ∧ l.length ≤ n := by
  constructor
  · rintro ⟨rest, h⟩
    have hlen := congrArg List.length h
    rw [List.length_append, length_slice] at hlen
    exact ⟨(h.symm ▸ holds_slice m n : m.Holds (l ++ rest)).left, by omega⟩
  · rintro ⟨hm, hle⟩
    refine ⟨(m.shift l.length).slice (n - l.length), ?_⟩
    have hsplit := slice_add m l.length (n - l.length)
    rw [hm.slice_eq, Nat.add_sub_cancel' hle] at hsplit
    exact hsplit.symm

/-! ### Two memories -/

/-- The first `n` octets are the same. -/
def Agree (n : Nat) (m m' : Mem) : Prop := ∀ i < n, m i = m' i

variable {m m' : Mem}

theorem Agree.mono {n k : Nat} (h : Agree n m m') (hk : k ≤ n) : Agree k m m' :=
  fun i hi => h i (Nat.lt_of_lt_of_le hi hk)

theorem Agree.shift {n p : Nat} (h : Agree (p + n) m m') : Agree n (m.shift p) (m'.shift p) :=
  fun i hi => h (p + i) (Nat.add_lt_add_left hi p)

theorem Agree.slice_eq {n : Nat} (h : Agree n m m') : m.slice n = m'.slice n :=
  List.map_congr_left fun i hi => h i (List.mem_range.mp hi)

theorem Agree.be_eq {n : Nat} (h : Agree n m m') : m.be n = m'.be n := by
  rw [Mem.be_eq, Mem.be_eq, h.slice_eq]

end Mem

end Bacnet.Lib
