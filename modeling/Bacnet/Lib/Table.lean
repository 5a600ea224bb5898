import Mathlib.Data.Fintype.Basic
import Mathlib.Data.Fintype.Card
import Mathlib.Data.List.FinRange

/-!
# Bacnet.Lib.Table

A **fixed-size table**, as C declares a static array of records, with the two things
such code does to it: search for the first record that satisfies a test, and update a
record in place. The size is a field, so a position found by a search is a `Fin` and
needs no bounds check.
-/

namespace Bacnet.Lib

universe u

/-- A table of exactly `n` records. -/
structure Table (n : Nat) (α : Type u) where
  cells : List α
  size : cells.length = n
  deriving DecidableEq

namespace Table

variable {n : Nat} {α : Type u}

/-- The table whose records are all `a`. -/
def replicate (n : Nat) (a : α) : Table n α := ⟨List.replicate n a, List.length_replicate⟩

/-- The record at a position. -/
def get (t : Table n α) (i : Fin n) : α := t.cells.get ⟨i.val, t.size.symm ▸ i.isLt⟩

/-- Overwrite the record at a position. -/
def set (t : Table n α) (i : Fin n) (a : α) : Table n α :=
  ⟨t.cells.set i a, by rw [List.length_set, t.size]⟩

/-- Update every record. -/
def map (t : Table n α) (f : α → α) : Table n α :=
  ⟨t.cells.map f, by rw [List.length_map, t.size]⟩

/-- What can be seen of the records, as a table. -/
def view {β : Type u} (t : Table n α) (f : α → β) : Table n β :=
  ⟨t.cells.map f, by rw [List.length_map, t.size]⟩

/-- The position of the first record that satisfies the test. -/
def find? (t : Table n α) (p : α → Bool) : Option (Fin n) :=
  (t.cells.findFinIdx? p).map (Fin.cast t.size)

/-- The number of records that satisfy the test. -/
def count (t : Table n α) (p : α → Bool) : Nat := t.cells.countP p

@[simp] theorem get_replicate (a : α) (i : Fin n) : (replicate n a).get i = a := by
  simp [get, replicate]

theorem get_set (t : Table n α) (i j : Fin n) (a : α) :
    (t.set i a).get j = if i = j then a else t.get j := by
  simp only [get, set, List.get_eq_getElem, List.getElem_set, Fin.ext_iff]

@[simp] theorem get_set_self (t : Table n α) (i : Fin n) (a : α) : (t.set i a).get i = a := by
  simp [get_set]

theorem get_set_ne (t : Table n α) {i j : Fin n} (h : i ≠ j) (a : α) :
    (t.set i a).get j = t.get j := by
  simp [get_set, h]

@[simp] theorem get_map (t : Table n α) (f : α → α) (i : Fin n) :
    (t.map f).get i = f (t.get i) := by
  simp [get, map]

@[simp] theorem get_view {β : Type u} (t : Table n α) (f : α → β) (i : Fin n) :
    (t.view f).get i = f (t.get i) := by
  simp [get, view]

theorem get_mem (t : Table n α) (i : Fin n) : t.get i ∈ t.cells := List.get_mem _ _

theorem exists_get_of_mem {t : Table n α} {a : α} (h : a ∈ t.cells) : ∃ i, t.get i = a := by
  obtain ⟨k, hk, rfl⟩ := List.mem_iff_getElem.mp h
  exact ⟨⟨k, t.size ▸ hk⟩, rfl⟩

theorem ext_get {t t' : Table n α} (h : ∀ i, t.get i = t'.get i) : t = t' := by
  obtain ⟨l, hl⟩ := t
  obtain ⟨l', hl'⟩ := t'
  have : l = l' := by
    refine List.ext_getElem (hl.trans hl'.symm) fun k hk hk' => ?_
    simpa [get] using h ⟨k, hl ▸ hk⟩
  subst this
  rfl

theorem set_set (t : Table n α) (i : Fin n) (a b : α) : (t.set i a).set i b = t.set i b := by
  refine ext_get fun j => ?_
  rw [get_set, get_set, get_set]
  split <;> rfl

theorem set_get (t : Table n α) (i : Fin n) : t.set i (t.get i) = t := by
  refine ext_get fun j => ?_
  rw [get_set]
  split
  · rename_i h
    rw [h]
  · rfl

/-- A failed search: no record satisfies the test. -/
theorem find?_eq_none {t : Table n α} {p : α → Bool} :
    t.find? p = none ↔ ∀ i, p (t.get i) = false := by
  rw [find?, Option.map_eq_none_iff, List.findFinIdx?_eq_none_iff]
  constructor
  · intro h i
    exact Bool.eq_false_iff.mpr (h _ (List.get_mem t.cells ⟨i.val, t.size.symm ▸ i.isLt⟩))
  · intro h x hx
    obtain ⟨k, hk, rfl⟩ := List.mem_iff_getElem.mp hx
    simpa [get] using h ⟨k, t.size ▸ hk⟩

/-- A successful search finds a record that satisfies the test, and none before it
does. -/
theorem find?_eq_some {t : Table n α} {p : α → Bool} {i : Fin n} :
    t.find? p = some i ↔ p (t.get i) = true ∧ ∀ j, j < i → p (t.get j) = false := by
  rw [find?, Option.map_eq_some_iff]
  constructor
  · rintro ⟨k, hk, rfl⟩
    rw [List.findFinIdx?_eq_some_iff] at hk
    refine ⟨hk.1, fun j hj => ?_⟩
    simpa [get] using hk.2 (j.cast t.size.symm) (by simpa [Fin.lt_def] using hj)
  · rintro ⟨hi, hj⟩
    refine ⟨i.cast t.size.symm, ?_, by simp⟩
    rw [List.findFinIdx?_eq_some_iff]
    refine ⟨hi, fun j hlt => ?_⟩
    have := hj (j.cast t.size) (by simpa [Fin.lt_def] using hlt)
    simpa [get] using this

theorem find?_sat {t : Table n α} {p : α → Bool} {i : Fin n} (h : t.find? p = some i) :
    p (t.get i) = true :=
  (find?_eq_some.mp h).1

/-- Searching what can be seen. -/
theorem find?_view {β : Type u} (t : Table n α) (f : α → β) (p : β → Bool) :
    (t.view f).find? p = t.find? fun a => p (f a) := by
  cases hf : t.find? fun a => p (f a) with
  | none =>
      refine find?_eq_none.mpr fun i => ?_
      rw [get_view]
      exact find?_eq_none.mp hf i
  | some i =>
      obtain ⟨hi, hbefore⟩ := find?_eq_some.mp hf
      refine find?_eq_some.mpr ⟨by rw [get_view, hi], fun j hj => ?_⟩
      rw [get_view]
      exact hbefore j hj

theorem view_set {β : Type u} (t : Table n α) (f : α → β) (i : Fin n) (a : α) :
    (t.set i a).view f = (t.view f).set i (f a) := by
  refine ext_get fun j => ?_
  rw [get_view, get_set, get_set, get_view]
  split
  · rfl
  · rfl

/-- The record at the position that is found. -/
theorem map_get_find? (t : Table n α) (p : α → Bool) :
    (t.find? p).map t.get = t.cells.find? p := by
  cases hf : t.find? p with
  | none =>
      refine (List.find?_eq_none.mpr fun a ha => ?_).symm
      obtain ⟨i, rfl⟩ := exists_get_of_mem ha
      simpa using find?_eq_none.mp hf i
  | some i =>
      obtain ⟨hi, hbefore⟩ := find?_eq_some.mp hf
      refine (List.find?_eq_some_iff_getElem.mpr
        ⟨hi, i.val, t.size.symm ▸ i.isLt, rfl, fun j hj => ?_⟩).symm
      have hj' := hbefore ⟨j, Nat.lt_trans hj i.isLt⟩ hj
      simpa [get] using hj'

theorem exists_find? {t : Table n α} {p : α → Bool} {i : Fin n} (h : p (t.get i) = true) :
    ∃ j, t.find? p = some j := by
  cases hf : t.find? p with
  | some j => exact ⟨j, rfl⟩
  | none => exact absurd (find?_eq_none.mp hf i) (by simp [h])

/-- Overwriting a record that fails the test by one that fails it too does not change what
is found. -/
theorem find?_set_of_not {t : Table n α} {p : α → Bool} {i : Fin n} {a : α}
    (hold : p (t.get i) = false) (hnew : p a = false) : (t.set i a).find? p = t.find? p := by
  have hget : ∀ j, p ((t.set i a).get j) = p (t.get j) := by
    intro j
    rw [get_set]
    split
    · rename_i hij
      rw [hnew, ← hij, hold]
    · rfl
  cases hf : t.find? p with
  | none => exact find?_eq_none.mpr fun j => (hget j).trans (find?_eq_none.mp hf j)
  | some k =>
      obtain ⟨hk, hlt⟩ := find?_eq_some.mp hf
      exact find?_eq_some.mpr ⟨(hget k).trans hk, fun j hj => (hget j).trans (hlt j hj)⟩

/-- Overwriting the record that is found by one that passes the test. -/
theorem find?_set_found {t : Table n α} {p : α → Bool} {i : Fin n} {a : α}
    (hf : t.find? p = some i) (hnew : p a = true) : (t.set i a).find? p = some i := by
  refine find?_eq_some.mpr ⟨by rw [get_set_self, hnew], fun j hj => ?_⟩
  rw [get_set_ne _ (ne_of_gt hj)]
  exact (find?_eq_some.mp hf).2 j hj

/-- A record that passes the test, written to a table without one, is found. -/
theorem find?_set_new {t : Table n α} {p : α → Bool} {i : Fin n} {a : α}
    (hf : t.find? p = none) (hnew : p a = true) : (t.set i a).find? p = some i := by
  refine find?_eq_some.mpr ⟨by rw [get_set_self, hnew], fun j hj => ?_⟩
  rw [get_set_ne _ (ne_of_gt hj)]
  exact find?_eq_none.mp hf j

/-- A list made of the records, when only one of them contributes. -/
theorem flatMap_eq_single {β : Type u} {t : Table n α} {f : α → List β} {i : Fin n}
    (h : ∀ j, j ≠ i → f (t.get j) = []) : t.cells.flatMap f = f (t.get i) := by
  have hi : i.val < t.cells.length := t.size.symm ▸ i.isLt
  have hsplit : t.cells = t.cells.take i ++ t.get i :: t.cells.drop (i + 1) := by
    conv_lhs => rw [← List.take_append_drop i t.cells, List.drop_eq_getElem_cons hi]
    rfl
  have hother : ∀ k (hk : k < t.cells.length), k ≠ i → f t.cells[k] = [] := by
    intro k hk hne
    exact h ⟨k, t.size ▸ hk⟩ fun heq => hne (congrArg Fin.val heq)
  have hbefore : (t.cells.take i).flatMap f = [] := by
    rw [List.flatMap_eq_nil_iff]
    intro a ha
    obtain ⟨k, hk, rfl⟩ := List.mem_take_iff_getElem.mp ha
    exact hother k (by omega) (by omega)
  have hbehind : (t.cells.drop (i + 1)).flatMap f = [] := by
    rw [List.flatMap_eq_nil_iff]
    intro a ha
    obtain ⟨k, hk, rfl⟩ := List.mem_drop_iff_getElem.mp ha
    exact hother (i + 1 + k) (by omega) (by omega)
  rw [hsplit, List.flatMap_append, List.flatMap_cons, hbefore, hbehind]
  simp

/-- Counting the records is counting their positions. -/
theorem count_eq_card (t : Table n α) (p : α → Bool) :
    t.count p = (Finset.univ.filter fun i => p (t.get i) = true).card := by
  obtain ⟨cells, rfl⟩ := t
  have hcells : cells = (List.finRange cells.length).map cells.get := by simp
  calc cells.countP p
      = ((List.finRange cells.length).map cells.get).countP p := by rw [← hcells]
    _ = ((List.finRange cells.length).filter fun i => p (cells.get i)).length := by
        rw [List.countP_map, List.countP_eq_length_filter]
        rfl
    _ = _ := by
        rw [← List.toFinset_card_of_nodup ((List.nodup_finRange _).filter _)]
        congr 1
        ext i
        rw [List.mem_toFinset, List.mem_filter, Finset.mem_filter]
        exact ⟨fun h => ⟨Finset.mem_univ i, h.2⟩, fun h => ⟨List.mem_finRange i, h.2⟩⟩

/-- Every record counts. -/
theorem count_eq_size {t : Table n α} {p : α → Bool} :
    t.count p = n ↔ ∀ i, p (t.get i) = true := by
  calc t.count p = n
      ↔ (Finset.univ.filter fun i => p (t.get i) = true).card =
          (Finset.univ : Finset (Fin n)).card := by
        rw [count_eq_card, Finset.card_univ, Fintype.card_fin]
    _ ↔ ∀ i, p (t.get i) = true := by
        rw [Finset.card_filter_eq_iff]
        exact ⟨fun h i => h i (Finset.mem_univ i), fun h i _ => h i⟩

/-- No record counts. -/
theorem count_eq_zero {t : Table n α} {p : α → Bool} :
    t.count p = 0 ↔ ∀ i, p (t.get i) = false := by
  rw [count_eq_card, Finset.card_eq_zero, Finset.filter_eq_empty_iff]
  simp

/-- Overwriting a record by one that counts as it does. -/
theorem count_set_same {t : Table n α} {p : α → Bool} {i : Fin n} {a : α}
    (h : p (t.get i) = p a) : (t.set i a).count p = t.count p := by
  have hget : ∀ j, p ((t.set i a).get j) = p (t.get j) := by
    intro j
    rw [get_set]
    split
    · rename_i hij
      rw [← hij, h]
    · rfl
  rw [count_eq_card, count_eq_card]
  simp only [hget]

/-- Overwriting a record that does not count by one that does. -/
theorem count_set_new {t : Table n α} {p : α → Bool} {i : Fin n} {a : α}
    (hold : p (t.get i) = false) (hnew : p a = true) : (t.set i a).count p = t.count p + 1 := by
  have hfilter : (Finset.univ.filter fun j => p ((t.set i a).get j) = true) =
      insert i (Finset.univ.filter fun j => p (t.get j) = true) := by
    ext j
    rw [Finset.mem_insert, Finset.mem_filter, Finset.mem_filter, get_set]
    by_cases hij : i = j
    · simp [hij, hnew]
    · simp [hij, Ne.symm hij]
  rw [count_eq_card, count_eq_card, hfilter, Finset.card_insert_of_notMem]
  simp [hold]

end Table

end Bacnet.Lib
