import Mathlib.Logic.Function.Iterate
import Mathlib.Data.Nat.Find

/-!
# Bacnet.Lib.Probe

**Probing**: follow a successor function until a test fails, as a counter does that
skips the values in use. The search is bounded by fuel; `probe_spec` says that it stops
at the first value that fails the test as soon as the fuel reaches one.

`loop` is a loop whose turns may do anything, with the number of its turns bounded. A loop
terminates when some bound gives a result, which every larger bound then gives too.
-/

namespace Bacnet.Lib

universe u v

variable {α : Type u} {β : Type v} {next : α → α} {p : α → Bool}

/-- Follow `next` from `a` while `p` holds, for at most `fuel` steps. -/
def probe (next : α → α) (p : α → Bool) : Nat → α → α
  | 0, a => a
  | fuel + 1, a => if p a then probe next p fuel (next a) else a

/-- `b` is the first value from `a` on that fails the test. -/
def FirstFailing (next : α → α) (p : α → Bool) (a b : α) : Prop :=
  ∃ k, b = next^[k] a ∧ p b = false ∧ ∀ j, j < k → p (next^[j] a) = true

theorem FirstFailing.head {a : α} (h : p a = false) : FirstFailing next p a a :=
  ⟨0, rfl, h, by intro j hj; omega⟩

theorem FirstFailing.step {a b : α} (ha : p a = true) (h : FirstFailing next p (next a) b) :
    FirstFailing next p a b := by
  obtain ⟨k, hb, hp, hj⟩ := h
  refine ⟨k + 1, hb, hp, ?_⟩
  intro j hlt
  cases j with
  | zero => exact ha
  | succ j => exact hj j (by omega)

/-- Enough fuel finds the first failing value. -/
theorem probe_spec {fuel : Nat} {a : α} (h : ∃ k, k < fuel ∧ p (next^[k] a) = false) :
    FirstFailing next p a (probe next p fuel a) := by
  induction fuel generalizing a with
  | zero =>
      obtain ⟨k, hk, -⟩ := h
      omega
  | succ fuel ih =>
      rw [probe]
      split
      · rename_i ha
        refine FirstFailing.step ha (ih ?_)
        obtain ⟨k, hk, hp⟩ := h
        cases k with
        | zero =>
            rw [Function.iterate_zero_apply, ha] at hp
            exact absurd hp (by decide)
        | succ k => exact ⟨k, by omega, hp⟩
      · rename_i ha
        exact FirstFailing.head (Bool.eq_false_iff.mpr ha)

/-! ### Loops -/

/-- Run `body` from `a` until it ends with a result, for at most `turns` turns. -/
def loop (body : α → α ⊕ β) : Nat → α → Option β
  | 0, _ => none
  | turns + 1, a =>
    match body a with
    | .inl a' => loop body turns a'
    | .inr b => some b

theorem loop_mono {body : α → α ⊕ β} {n m : Nat} {a : α} {b : β} (h : loop body n a = some b)
    (hle : n ≤ m) : loop body m a = some b := by
  induction n generalizing m a with
  | zero => cases h
  | succ n ih =>
      obtain ⟨m, rfl⟩ : ∃ k, m = k + 1 := ⟨m - 1, by omega⟩
      rw [loop] at h ⊢
      cases hbody : body a with
      | inl a' =>
          rw [hbody] at h
          exact ih h (by omega)
      | inr b' =>
          rw [hbody] at h
          exact h

/-- Turns that go on along `f`, up to one that ends the loop. -/
theorem loop_eq_some {body : α → α ⊕ β} {f : Nat → α} {k : Nat} {b : β}
    (hgo : ∀ j, j < k → body (f j) = .inl (f (j + 1))) (hend : body (f k) = .inr b) :
    loop body (k + 1) (f 0) = some b := by
  induction k generalizing f with
  | zero => rw [loop, hend]
  | succ k ih =>
      rw [loop, hgo 0 (by omega)]
      exact ih (fun j hj => hgo (j + 1) (by omega)) hend

end Bacnet.Lib
