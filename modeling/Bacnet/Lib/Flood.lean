import Bacnet.Lib.Machine
import Mathlib.Algebra.Group.Nat.Defs

/-!
# Bacnet.Lib.Flood

**Messages that beget messages.** Handling a message can put others in flight, and handling
those yet others. When each message begets at most `fanOut` messages and only ones of lower
rank, this comes to an end: the messages in flight have a `potential` that every handling
lowers (`potential_beget`).

`Machine.run_countP_le` turns such a potential into a bound for whole runs, in which other
events may raise it: the number of messages handled is paid for by the messages originated.
-/

namespace Bacnet.Lib

universe u v w

section Potential

variable {α : Type u} (fanOut : Nat) (rank : α → Nat)

/-- What the messages in flight can still cause. -/
def potential : List α → Nat
  | [] => 0
  | a :: as => (fanOut + 1) ^ rank a + potential as

theorem potential_append (as bs : List α) :
    potential fanOut rank (as ++ bs) = potential fanOut rank as + potential fanOut rank bs := by
  induction as with
  | nil => simp [potential]
  | cons a as ih => simp only [List.cons_append, potential, ih, Nat.add_assoc]

theorem potential_le {as : List α} {r : Nat} (h : ∀ a ∈ as, rank a ≤ r) :
    potential fanOut rank as ≤ as.length * (fanOut + 1) ^ r := by
  induction as with
  | nil => simp [potential]
  | cons a as ih =>
      have hhead : (fanOut + 1) ^ rank a ≤ (fanOut + 1) ^ r :=
        Nat.pow_le_pow_right (Nat.succ_pos fanOut) (h a List.mem_cons_self)
      have htail := ih fun b hb => h b (List.mem_cons_of_mem a hb)
      rw [potential, List.length_cons, Nat.add_mul, Nat.one_mul]
      omega

/-- One message taken out. -/
theorem potential_eraseIdx {as : List α} {k : Nat} {a : α} (h : as[k]? = some a) :
    potential fanOut rank (as.eraseIdx k) + (fanOut + 1) ^ rank a = potential fanOut rank as := by
  induction as generalizing k with
  | nil => simp at h
  | cons b as ih =>
      cases k with
      | zero =>
          obtain rfl : b = a := by simpa using h
          rw [List.eraseIdx_cons_zero, potential, Nat.add_comm]
      | succ k =>
          rw [List.eraseIdx_cons_succ, potential, potential,
            ← ih (by simpa using h), Nat.add_assoc]

/-- **A message is worth more than all it begets.** -/
theorem potential_beget {as : List α} {r : Nat} (hlow : ∀ a ∈ as, rank a < r)
    (hfew : as.length ≤ fanOut) : potential fanOut rank as + 1 ≤ (fanOut + 1) ^ r := by
  cases r with
  | zero =>
      have hnone : as = [] := List.eq_nil_iff_forall_not_mem.mpr fun a ha =>
        Nat.not_lt_zero _ (hlow a ha)
      rw [hnone]
      simp [potential]
  | succ r =>
      have hsum := potential_le fanOut rank fun a ha => Nat.lt_succ_iff.mp (hlow a ha)
      have hpos : 0 < (fanOut + 1) ^ r := Nat.pow_pos (Nat.succ_pos fanOut)
      calc potential fanOut rank as + 1
          ≤ fanOut * (fanOut + 1) ^ r + (fanOut + 1) ^ r :=
            Nat.add_le_add (Nat.le_trans hsum (Nat.mul_le_mul_right _ hfew)) hpos
        _ = (fanOut + 1) ^ (r + 1) := by rw [Nat.pow_succ, Nat.mul_comm _ (fanOut + 1), Nat.add_mul,
            Nat.one_mul]

end Potential

/-- **Paying from a potential.** When every event that is handled lowers the potential and
the others raise it by at most `gain` if they originate something, a run handles no more
events than the potential it starts with and the originations pay for. -/
theorem Machine.run_countP_le {σ : Type u} {ε : Type v} {ω : Type w} {M : Machine σ ε ω}
    {P : σ → ε → Prop} {handles originates : ε → Bool} {gain : Nat} {Φ : σ → Nat}
    (hstep : ∀ s e s' o, P s e → M.step s e = some (s', o) →
      (if handles e then 1 else 0) + Φ s' ≤ Φ s + if originates e then gain else 0)
    {es : List ε} {os : List ω} {s s' : σ} (hall : M.All P s es)
    (hrun : M.run s es = some (s', os)) :
    es.countP handles + Φ s' ≤ Φ s + es.countP originates * gain := by
  induction es generalizing s os with
  | nil =>
      obtain ⟨rfl, -⟩ := Prod.mk.inj (Option.some.inj hrun)
      simp
  | cons e es ih =>
      obtain ⟨r, hr, os', hos', -⟩ := (M.run_cons).mp hrun
      have htail := ih (hall.2 r hr) hos'
      have hhead := hstep s e r.1 r.2 hall.1 hr
      rw [List.countP_cons, List.countP_cons, Nat.add_mul]
      have hgain : (if originates e = true then 1 else 0) * gain =
          if originates e = true then gain else 0 := by
        split <;> simp
      rw [hgain]
      omega

end Bacnet.Lib
