import Mathlib.Data.List.Induction
import Mathlib.Logic.Function.Basic

/-!
# Bacnet.Lib.Lease

**Leases**: what each key has left of the time it was granted. A grant starts the time of
its key anew, a release ends it, and elapsing time runs against every key at once.

The state after a history of such operations is a fact about the history alone
(`Leases.run_pos_iff`): a key holds a lease exactly when it was granted one that nothing
touched since, and less time has elapsed since than was granted. A program that keeps a
table of leases is connected to it operation by operation.
-/

namespace Bacnet.Lib

universe u

/-- What can happen to the leases of the keys `κ`. -/
inductive LeaseOp (κ : Type u)
  | grant (k : κ) (term : Nat)
  | release (k : κ)
  | elapse (ticks : Nat)

namespace LeaseOp

variable {κ : Type u}

/-- The time that passes. -/
def ticks : LeaseOp κ → Nat
  | elapse t => t
  | _ => 0

/-- The operation is a grant or a release of this key. -/
def Concerns (k : κ) : LeaseOp κ → Prop
  | grant k' _ => k' = k
  | release k' => k' = k
  | elapse _ => False

/-- The time that passes over a history. -/
def elapsed : List (LeaseOp κ) → Nat
  | [] => 0
  | op :: ops => op.ticks + elapsed ops

theorem elapsed_append (ops ops' : List (LeaseOp κ)) :
    elapsed (ops ++ ops') = elapsed ops + elapsed ops' := by
  induction ops with
  | nil => simp [elapsed]
  | cons op ops ih => simp only [List.cons_append, elapsed, ih, Nat.add_assoc]

end LeaseOp

/-- What each key has left; 0 when it holds no lease. -/
abbrev Leases (κ : Type u) := κ → Nat

namespace Leases

variable {κ : Type u} [DecidableEq κ]

/-- Nobody holds a lease. -/
def empty : Leases κ := fun _ => 0

def apply (L : Leases κ) : LeaseOp κ → Leases κ
  | .grant k term => Function.update L k term
  | .release k => Function.update L k 0
  | .elapse ticks => fun k => L k - ticks

/-- The leases after a history. -/
def run (L : Leases κ) (ops : List (LeaseOp κ)) : Leases κ := ops.foldl apply L

@[simp] theorem run_nil (L : Leases κ) : run L [] = L := rfl

theorem run_append (L : Leases κ) (ops ops' : List (LeaseOp κ)) :
    run L (ops ++ ops') = run (run L ops) ops' := by
  simp [run]

theorem run_cons (L : Leases κ) (op : LeaseOp κ) (ops : List (LeaseOp κ)) :
    run L (op :: ops) = run (L.apply op) ops := rfl

@[simp] theorem apply_grant_self (L : Leases κ) (k : κ) (term : Nat) :
    L.apply (.grant k term) k = term := by
  simp [apply]

@[simp] theorem apply_release_self (L : Leases κ) (k : κ) : L.apply (.release k) k = 0 := by
  simp [apply]

theorem apply_grant_of_ne (L : Leases κ) {k k' : κ} (h : k' ≠ k) (term : Nat) :
    L.apply (.grant k term) k' = L k' := by
  rw [apply, Function.update_of_ne h]

theorem apply_release_of_ne (L : Leases κ) {k k' : κ} (h : k' ≠ k) :
    L.apply (.release k) k' = L k' := by
  rw [apply, Function.update_of_ne h]

@[simp] theorem apply_elapse (L : Leases κ) (t : Nat) (k : κ) :
    L.apply (.elapse t) k = L k - t := rfl

/-- An operation that is not about a key only takes time from it. -/
theorem apply_of_not_concerns (L : Leases κ) {k : κ} {op : LeaseOp κ} (h : ¬ op.Concerns k) :
    L.apply op k = L k - op.ticks := by
  cases op with
  | grant k' term => exact apply_grant_of_ne L (Ne.symm h) term
  | release k' => exact apply_release_of_ne L (Ne.symm h)
  | elapse t => rfl

/-- A history that is not about a key only takes time from it. -/
theorem run_of_not_concerns {k : κ} {ops : List (LeaseOp κ)} (h : ∀ op ∈ ops, ¬ op.Concerns k)
    (L : Leases κ) : run L ops k = L k - LeaseOp.elapsed ops := by
  induction ops generalizing L with
  | nil => simp [LeaseOp.elapsed]
  | cons op ops ih =>
      rw [run_cons, ih (fun o ho => h o (List.mem_cons_of_mem op ho)),
        apply_of_not_concerns L (h op List.mem_cons_self), LeaseOp.elapsed, Nat.sub_sub]

/-- What is left of a grant that nothing touched since. -/
theorem run_grant {k : κ} {post : List (LeaseOp κ)} (h : ∀ op ∈ post, ¬ op.Concerns k)
    (L : Leases κ) (pre : List (LeaseOp κ)) (term : Nat) :
    run L (pre ++ .grant k term :: post) k = term - LeaseOp.elapsed post := by
  rw [run_append, run_cons, run_of_not_concerns h, apply_grant_self]

/-- **Who holds a lease.** A key has time left after a history exactly when the last thing
the history did to it was a grant, of that time and of what has elapsed since. -/
theorem run_empty_iff {k : κ} {ops : List (LeaseOp κ)} {r : Nat} (hr : 0 < r) :
    run empty ops k = r ↔
      ∃ pre post, ops = pre ++ .grant k (LeaseOp.elapsed post + r) :: post ∧
        ∀ op ∈ post, ¬ op.Concerns k := by
  constructor
  · intro h
    induction ops using List.reverseRecOn generalizing r with
    | nil => exact absurd h.symm (Nat.ne_of_gt hr)
    | append_singleton ops op ih =>
        rw [run_append, run_cons, run_nil] at h
        by_cases hk : op.Concerns k
        · cases op with
          | grant k' term =>
              obtain rfl : k' = k := hk
              rw [apply_grant_self] at h
              exact ⟨ops, [], by simp [LeaseOp.elapsed, h], by simp⟩
          | release k' =>
              obtain rfl : k' = k := hk
              rw [apply_release_self] at h
              exact absurd h.symm (Nat.ne_of_gt hr)
          | elapse t => exact absurd hk not_false
        · rw [apply_of_not_concerns _ hk] at h
          obtain ⟨pre, post, hops, hpost⟩ := ih (r := r + op.ticks) (by omega) (by omega)
          have hterm : LeaseOp.elapsed (post ++ [op]) + r =
              LeaseOp.elapsed post + (r + op.ticks) := by
            rw [LeaseOp.elapsed_append, LeaseOp.elapsed, LeaseOp.elapsed]
            omega
          refine ⟨pre, post ++ [op], by rw [hterm, hops]; simp, fun o ho => ?_⟩
          rcases List.mem_append.mp ho with ho | ho
          · exact hpost o ho
          · rw [List.mem_singleton.mp ho]
            exact hk
  · intro h
    obtain ⟨pre, post, hops, hpost⟩ := h
    rw [hops, run_grant hpost, Nat.add_sub_cancel_left]

/-- The same for a history of events, of which `f` tells what they do to the leases. -/
theorem run_filterMap_iff {α : Type*} {f : α → Option (LeaseOp κ)} {k : κ} {es : List α} {r : Nat}
    (hr : 0 < r) :
    run empty (es.filterMap f) k = r ↔
      ∃ pre e post, es = pre ++ e :: post ∧
        f e = some (.grant k (LeaseOp.elapsed (post.filterMap f) + r)) ∧
        ∀ e' ∈ post, ∀ op, f e' = some op → ¬ op.Concerns k := by
  rw [run_empty_iff hr]
  constructor
  · intro h
    obtain ⟨pre, post, hops, hpost⟩ := h
    obtain ⟨pre', rest, rfl, -, hrest⟩ := List.filterMap_eq_append_iff.mp hops
    obtain ⟨skipped, e, post', rfl, -, he, rfl⟩ := List.filterMap_eq_cons_iff.mp hrest
    exact ⟨pre' ++ skipped, e, post', by simp, he, fun e' he' op hop =>
      hpost op (List.mem_filterMap.mpr ⟨e', he', hop⟩)⟩
  · intro h
    obtain ⟨pre, e, post, rfl, he, hpost⟩ := h
    refine ⟨pre.filterMap f, post.filterMap f, by simp [he], fun op hop => ?_⟩
    obtain ⟨e', he', hop'⟩ := List.mem_filterMap.mp hop
    exact hpost e' he' op hop'

end Leases

end Bacnet.Lib
