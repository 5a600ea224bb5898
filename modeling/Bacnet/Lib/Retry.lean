/-!
# Bacnet.Lib.Retry

**Sending until it is answered.** An attempt waits for a timeout. When that has run out
the message is sent again, and when it has been sent again often enough the attempt has
failed. Time passes in ticks of any length; what a tick is longer than what was left of
the timeout is not made up for.

So an attempt never fails early (`Policy.total_of_failed`), and if no tick is longer than
`M` it has failed after `M - 1` more for each time the message is sent again
(`Policy.failed_of_total`).
-/

namespace Bacnet.Lib

/-- How long to wait, and how often to send again. -/
structure Policy where
  timeout : Nat
  retries : Nat

/-- An attempt: what is left of the timeout and how often the message was sent again. -/
inductive Attempt
  | waiting (left used : Nat)
  | failed
  deriving DecidableEq

namespace Policy

variable (p : Policy)

def start : Attempt := .waiting p.timeout 0

/-- A tick of the clock. -/
def tick (time : Nat) : Attempt → Attempt
  | .waiting left used =>
    if time < left then .waiting (left - time) used
    else if used < p.retries then .waiting p.timeout (used + 1)
    else .failed
  | .failed => .failed

/-- An attempt after ticks of the clock. -/
def after : Attempt → List Nat → Attempt
  | a, [] => a
  | a, time :: times => after (p.tick time a) times

/-- How often the message was sent again. -/
def resent : Attempt → Nat
  | .waiting _ used => used
  | .failed => p.retries

/-- The time that has passed. -/
def total : List Nat → Nat
  | [] => 0
  | time :: times => time + total times

variable {p}

theorem after_append (a : Attempt) (ts us : List Nat) :
    p.after a (ts ++ us) = p.after (p.after a ts) us := by
  induction ts generalizing a with
  | nil => rfl
  | cons time ts ih => exact ih _

@[simp] theorem after_failed (ts : List Nat) : p.after .failed ts = .failed := by
  induction ts with
  | nil => rfl
  | cons time ts ih => exact ih

theorem after_waiting_cons (left used time : Nat) (ts : List Nat) :
    p.after (.waiting left used) (time :: ts) =
      if time < left then p.after (.waiting (left - time) used) ts
      else if used < p.retries then p.after (.waiting p.timeout (used + 1)) ts
      else .failed := by
  rw [after, tick]
  split
  · rfl
  · split
    · rfl
    · exact after_failed ts

theorem resent_le {ts : List Nat} {left used : Nat} (h : used ≤ p.retries) :
    p.resent (p.after (.waiting left used) ts) ≤ p.retries := by
  induction ts generalizing left used with
  | nil => exact h
  | cons time ts ih =>
      rw [after_waiting_cons]
      split
      · exact ih h
      · split
        · exact ih ‹_›
        · exact Nat.le_refl _

/-- **No attempt fails early.** -/
theorem total_of_failed {ts : List Nat} {left used : Nat} (hused : used ≤ p.retries)
    (h : p.after (.waiting left used) ts = .failed) :
    p.retries * p.timeout + left ≤ used * p.timeout + total ts := by
  induction ts generalizing left used with
  | nil => cases h
  | cons time ts ih =>
      rw [after_waiting_cons] at h
      rw [total]
      split at h
      · have htail := ih hused h
        omega
      · split at h
        · have htail := ih (Nat.succ_le_of_lt ‹_›) h
          rw [Nat.succ_mul] at htail
          omega
        · obtain rfl : used = p.retries := by omega
          omega

/-- A tick is at most `M - 1` longer than what was left. -/
theorem total_le_of_waiting {M : Nat} (htimeout : 0 < p.timeout) {ts : List Nat}
    (hticks : ∀ time ∈ ts, time ≤ M) {left used left' used' : Nat} (hleft : 0 < left)
    (h : p.after (.waiting left used) ts = .waiting left' used') :
    0 < left' ∧ used * (p.timeout + (M - 1)) + total ts + left' ≤
      used' * (p.timeout + (M - 1)) + left := by
  induction ts generalizing left used with
  | nil =>
      injection h with hleft' hused
      simp only [← hleft', ← hused, total]
      omega
  | cons time ts ih =>
      have htime := hticks time List.mem_cons_self
      have hrest : ∀ time ∈ ts, time ≤ M := fun t ht => hticks t (List.mem_cons_of_mem _ ht)
      rw [after_waiting_cons] at h
      rw [total]
      split at h
      · have htail := ih hrest (by omega) h
        omega
      · split at h
        · have htail := ih hrest htimeout h
          rw [Nat.succ_mul] at htail
          omega
        · cases h

/-- **Every attempt fails in time.** -/
theorem failed_of_total {M : Nat} (htimeout : 0 < p.timeout) {ts : List Nat}
    (hticks : ∀ time ∈ ts, time ≤ M)
    (htotal : p.timeout + p.retries * (p.timeout + (M - 1)) ≤ total ts) :
    p.after p.start ts = .failed := by
  cases h : p.after p.start ts with
  | failed => rfl
  | waiting left used =>
      obtain ⟨hleft, hle⟩ := total_le_of_waiting htimeout hticks htimeout h
      have hused : used ≤ p.retries := by
        have hresent := @resent_le p ts p.timeout 0 (Nat.zero_le p.retries)
        rwa [← start, h] at hresent
      have hmul := Nat.mul_le_mul_right (p.timeout + (M - 1)) hused
      omega

/-! ### Reports -/

/-- No more retries than there are. -/
def Within (p : Policy) : Attempt → Prop
  | .waiting _ used => used ≤ p.retries
  | .failed => True

theorem within_start : p.Within p.start := Nat.zero_le _

theorem within_after {a : Attempt} (h : p.Within a) (ts : List Nat) : p.Within (p.after a ts) := by
  induction ts generalizing a with
  | nil => exact h
  | cons time ts ih =>
      refine ih ?_
      cases a with
      | failed => trivial
      | waiting left used =>
          rw [tick]
          split
          · exact h
          · split
            · exact Nat.succ_le_of_lt ‹_›
            · trivial

theorem resent_le_after {a : Attempt} (h : p.Within a) (ts : List Nat) :
    p.resent a ≤ p.resent (p.after a ts) := by
  induction ts generalizing a with
  | nil => exact Nat.le_refl _
  | cons time ts ih =>
      refine Nat.le_trans ?_ (ih (within_after h [time]))
      cases a with
      | failed => exact Nat.le_refl _
      | waiting left used =>
          simp only [tick]
          split
          · exact Nat.le_refl _
          · split
            · exact Nat.le_succ used
            · exact h

variable {β : Type _}

/-- What there is to report between two states of an attempt: each time the message is sent
`again`, and that it is `gone` for good. -/
def reports (p : Policy) (again gone : β) (a a' : Attempt) : List β :=
  List.replicate (p.resent a' - p.resent a) again ++ if a ≠ a' ∧ a' = .failed then [gone] else []

theorem reports_self (again gone : β) (a : Attempt) : p.reports again gone a a = [] := by
  simp [reports]

/-- What is reported of an attempt from its start. -/
theorem reports_start (again gone : β) (a : Attempt) :
    p.reports again gone p.start a =
      List.replicate (p.resent a) again ++ if a = .failed then [gone] else [] := by
  have hfailed : (p.start ≠ a ∧ a = .failed) ↔ a = .failed := by
    constructor
    · exact And.right
    · intro hgone
      refine ⟨?_, hgone⟩
      rw [hgone]
      exact Attempt.noConfusion
  simp only [reports, hfailed]
  rfl

/-- Reports are added up. -/
theorem reports_after {again gone : β} {a : Attempt} (h : p.Within a) (ts us : List Nat) :
    p.reports again gone a (p.after a ts) ++
        p.reports again gone (p.after a ts) (p.after a (ts ++ us)) =
      p.reports again gone a (p.after a (ts ++ us)) := by
  have hfirst := resent_le_after h ts
  have hsecond := resent_le_after (within_after h ts) us
  rw [after_append]
  cases ha : p.after a ts with
  | failed => simp [reports]
  | waiting left used =>
      rw [ha] at hfirst hsecond
      have hne : ∀ x : Attempt, (x ≠ Attempt.waiting left used ∧
          Attempt.waiting left used = .failed) ↔ False := by simp
      have hfailed : (a ≠ p.after (.waiting left used) us ∧
          p.after (.waiting left used) us = .failed) ↔
          (Attempt.waiting left used ≠ p.after (.waiting left used) us ∧
            p.after (.waiting left used) us = .failed) := by
        have hstart : p.after (.waiting left used) us = .failed → a ≠ .failed := by
          intro _ hfailed
          rw [hfailed, after_failed] at ha
          cases ha
        constructor
        · intro hboth
          rw [hboth.2]
          exact ⟨Attempt.noConfusion, rfl⟩
        · intro hboth
          rw [hboth.2]
          exact ⟨hstart hboth.2, rfl⟩
      simp only [reports, hne, if_false, List.append_nil]
      rw [← List.append_assoc, List.replicate_append_replicate]
      simp only [hfailed]
      congr 2
      omega

end Policy

end Bacnet.Lib
