import Mathlib.Data.List.Induction
import Mathlib.Data.Option.Basic

/-!
# Bacnet.Lib.Machine

A **labelled machine**: a partial step function from a state and an event to the
next state and an output. The environment's choices (which thread moves, which
packet arrives) are in the event, so a run is fixed by its list of events.

Safety facts are proved in one of three ways:

* `Machine.run_invariant` — an invariant kept by every step that meets a side
  condition holds after every run whose steps all meet it (`Machine.All`);
* `Machine.run_history` — the same for a property of the state *and* of the events
  and outputs so far;
* `Machine.all_iff_invariant` — where a step that does not meet the condition breaks the
  invariant, it holds all along a run exactly when all steps meet the condition.

`Machine.At` names a step of a run by its position, and `Machine.Latest` the last step of
a kind, so that a history property can say *which* earlier step a state goes back to.
-/

namespace Bacnet.Lib

universe u v w

/-- A deterministic machine driven by events. `step s e = none` says that `e`
cannot happen in `s`. -/
structure Machine (σ : Type u) (ε : Type v) (ω : Type w) where
  step : σ → ε → Option (σ × ω)

namespace Machine

variable {σ : Type u} {ε : Type v} {ω : Type w} (M : Machine σ ε ω)

/-- Drive the machine through a list of events, collecting the outputs. -/
def run : σ → List ε → Option (σ × List ω)
  | s, [] => some (s, [])
  | s, e :: es =>
    (M.step s e).bind fun r => (run r.1 es).map fun q => (q.1, r.2 :: q.2)

/-- `P` holds of every event of the run, in the state the event happens in. -/
def All (P : σ → ε → Prop) : σ → List ε → Prop
  | _, [] => True
  | s, e :: es => P s e ∧ ∀ r, M.step s e = some r → All P r.1 es

/-- What `f` picks out of the steps of a run, in order. -/
def collect {α : Type*} (f : σ → ε → Option α) : σ → List ε → List α
  | _, [] => []
  | s, e :: es =>
    (f s e).toList ++
      match M.step s e with
      | some r => collect f r.1 es
      | none => []

instance decidableAll {P : σ → ε → Prop} [∀ s e, Decidable (P s e)] :
    ∀ s es, Decidable (M.All P s es)
  | _, [] => isTrue trivial
  | s, e :: es =>
    haveI : Decidable (∀ r, M.step s e = some r → M.All P r.1 es) :=
      match h : M.step s e with
      | none => isTrue fun _ hr => nomatch hr
      | some r =>
        haveI := decidableAll (P := P) r.1 es
        decidable_of_iff (M.All P r.1 es) (by simp)
    inferInstanceAs (Decidable (P s e ∧ _))

@[simp] theorem run_nil (s : σ) : M.run s [] = some (s, []) := rfl

theorem run_cons {s : σ} {e : ε} {es : List ε} {q : σ × List ω} :
    M.run s (e :: es) = some q ↔
      ∃ r, M.step s e = some r ∧ ∃ os, M.run r.1 es = some (q.1, os) ∧ q.2 = r.2 :: os := by
  obtain ⟨s', os'⟩ := q
  simp only [run, Option.bind_eq_some_iff, Option.map_eq_some_iff, Prod.mk.injEq]
  constructor
  · rintro ⟨r, hr, p, hp, rfl, rfl⟩
    exact ⟨r, hr, p.2, hp, rfl⟩
  · rintro ⟨r, hr, os, hos, rfl⟩
    exact ⟨r, hr, (s', os), hos, rfl, rfl⟩

/-- Split a run in two. -/
theorem run_append {es₁ es₂ : List ε} {s : σ} {q : σ × List ω} :
    M.run s (es₁ ++ es₂) = some q ↔
      ∃ m, M.run s es₁ = some m ∧ ∃ os, M.run m.1 es₂ = some (q.1, os) ∧ q.2 = m.2 ++ os := by
  induction es₁ generalizing s q with
  | nil =>
      obtain ⟨s', os'⟩ := q
      simp
  | cons e es ih =>
      rw [List.cons_append, run_cons]
      constructor
      · rintro ⟨r, hr, os, hos, hq⟩
        obtain ⟨m, hm, os₂, h₂, hos₂⟩ := ih.mp hos
        refine ⟨(m.1, r.2 :: m.2), (M.run_cons).mpr ⟨r, hr, m.2, hm, rfl⟩, os₂, h₂, ?_⟩
        rw [hq]
        exact congrArg (r.2 :: ·) hos₂
      · rintro ⟨m, hm, os₂, h₂, hq⟩
        obtain ⟨r, hr, os, hos, hm2⟩ := (M.run_cons).mp hm
        refine ⟨r, hr, os ++ os₂, ih.mpr ⟨(m.1, os), hos, os₂, h₂, rfl⟩, ?_⟩
        rw [hq, hm2, List.cons_append]

theorem collect_cons {α : Type*} {f : σ → ε → Option α} {s : σ} {e : ε} {es : List ε} {r : σ × ω}
    (h : M.step s e = some r) :
    M.collect f s (e :: es) = (f s e).toList ++ M.collect f r.1 es := by
  simp only [collect, h]

theorem collect_append {α : Type*} {f : σ → ε → Option α} {es₁ es₂ : List ε} {s : σ}
    {m : σ × List ω} (h : M.run s es₁ = some m) :
    M.collect f s (es₁ ++ es₂) = M.collect f s es₁ ++ M.collect f m.1 es₂ := by
  induction es₁ generalizing s m with
  | nil =>
      rw [run_nil, Option.some.injEq] at h
      rw [← h]
      rfl
  | cons e es ih =>
      obtain ⟨r, hr, os, hos, -⟩ := (M.run_cons).mp h
      rw [List.cons_append, M.collect_cons hr, M.collect_cons hr, ih hos, List.append_assoc]

/-- The last step of a run. -/
theorem run_concat {es : List ε} {e : ε} {s : σ} {q : σ × List ω} :
    M.run s (es ++ [e]) = some q ↔
      ∃ m, M.run s es = some m ∧ ∃ o, M.step m.1 e = some (q.1, o) ∧ q.2 = m.2 ++ [o] := by
  rw [run_append]
  refine exists_congr fun m => and_congr_right fun _ => ?_
  constructor
  · rintro ⟨os, hos, hq⟩
    obtain ⟨r, hr, os', hos', rfl⟩ := (M.run_cons).mp hos
    rw [run_nil, Option.some.injEq, Prod.mk.injEq] at hos'
    obtain ⟨h1, rfl⟩ := hos'
    exact ⟨r.2, by rw [hr, ← h1], hq⟩
  · rintro ⟨o, ho, hq⟩
    exact ⟨[o], (M.run_cons).mpr ⟨(q.1, o), ho, [], rfl, rfl⟩, hq⟩

variable {M}

/-- Every event has an output. -/
theorem length_run {s : σ} {es : List ε} {q : σ × List ω} (h : M.run s es = some q) :
    q.2.length = es.length := by
  induction es generalizing s q with
  | nil =>
      rw [run_nil, Option.some.injEq] at h
      rw [← h]
      rfl
  | cons e es ih =>
      obtain ⟨r, -, os, hos, hq⟩ := (M.run_cons).mp h
      rw [hq, List.length_cons, List.length_cons, ih hos]

/-- A run that a test passes on. -/
theorem exists_run {s : σ} {es : List ε} {p : σ × List ω → Bool}
    (h : (M.run s es).any p = true) : ∃ s' os, M.run s es = some (s', os) ∧ p (s', os) = true := by
  obtain ⟨r, hr, hp⟩ := (Option.any_eq_true _ _).mp h
  exact ⟨r.1, r.2, hr, hp⟩

theorem All.append_left {P : σ → ε → Prop} {es₁ es₂ : List ε} {s : σ}
    (h : M.All P s (es₁ ++ es₂)) : M.All P s es₁ := by
  induction es₁ generalizing s with
  | nil => trivial
  | cons e es ih => exact ⟨h.1, fun r hr => ih (h.2 r hr)⟩

theorem All.append_right {P : σ → ε → Prop} {es₁ es₂ : List ε} {s : σ} {m : σ × List ω}
    (h : M.All P s (es₁ ++ es₂)) (hrun : M.run s es₁ = some m) : M.All P m.1 es₂ := by
  induction es₁ generalizing s m with
  | nil =>
      rw [run_nil, Option.some.injEq] at hrun
      rw [← hrun]
      exact h
  | cons e es ih =>
      obtain ⟨r, hr, os, hos, -⟩ := (M.run_cons).mp hrun
      exact ih (m := (m.1, os)) (h.2 r hr) hos

/-- A condition on all the steps of a run holds at each of them. -/
theorem All.at {P : σ → ε → Prop} {es₁ es₂ : List ε} {e : ε} {s : σ} {m : σ × List ω}
    (h : M.All P s (es₁ ++ e :: es₂)) (hrun : M.run s es₁ = some m) : P m.1 e :=
  (h.append_right hrun).1

/-- A condition on all the steps of a run, spelled out. -/
theorem all_iff {P : σ → ε → Prop} {es : List ε} {s : σ} :
    M.All P s es ↔ ∀ es₁ e es₂ m, es = es₁ ++ e :: es₂ → M.run s es₁ = some m → P m.1 e := by
  constructor
  · intro h es₁ e es₂ m hes hrun
    rw [hes] at h
    exact h.at hrun
  · intro h
    induction es generalizing s with
    | nil => trivial
    | cons e es ih =>
        refine ⟨h [] e es (s, []) rfl rfl, fun r hr => ih ?_⟩
        intro es₁ f es₂ m hes hrun
        refine h (e :: es₁) f es₂ (m.1, r.2 :: m.2) (by rw [hes, List.cons_append]) ?_
        exact (M.run_cons).mpr ⟨r, hr, m.2, hrun, rfl⟩

/-- A condition on the steps of a run can use what is known of the states they are
taken in. -/
theorem All.imp_run {P Q : σ → ε → Prop} {es : List ε} {s : σ} (hall : M.All P s es)
    (h : ∀ es₁ es₂ e t os, es = es₁ ++ e :: es₂ → M.run s es₁ = some (t, os) → P t e → Q t e) :
    M.All Q s es :=
  all_iff.mpr fun es₁ e es₂ m hes hrun =>
    h es₁ es₂ e m.1 m.2 hes hrun (all_iff.mp hall es₁ e es₂ m hes hrun)

theorem All.mono {P Q : σ → ε → Prop} (hPQ : ∀ s e, P s e → Q s e) {es : List ε} {s : σ}
    (h : M.All P s es) : M.All Q s es := by
  induction es generalizing s with
  | nil => trivial
  | cons e es ih => exact ⟨hPQ s e h.1, fun r hr => ih (h.2 r hr)⟩

/-- **Run induction.** A property of the past (events and outputs) and the present
state that each step extends holds after every run. `P` is the side condition the
run's steps are known to meet. -/
theorem run_history {P : σ → ε → Prop} {motive : List ε → List ω → σ → Prop} {s₀ : σ}
    (nil : motive [] [] s₀)
    (step : ∀ es os s e s' o, M.run s₀ es = some (s, os) → motive es os s → P s e →
      M.step s e = some (s', o) → motive (es ++ [e]) (os ++ [o]) s')
    {es : List ε} {os : List ω} {s : σ} (hall : M.All P s₀ es)
    (hrun : M.run s₀ es = some (s, os)) : motive es os s := by
  induction es using List.reverseRecOn generalizing os s with
  | nil =>
      rw [run_nil, Option.some.injEq, Prod.mk.injEq] at hrun
      obtain ⟨rfl, rfl⟩ := hrun
      exact nil
  | append_singleton es e ih =>
      obtain ⟨m, hm, o, ho, hos⟩ := (M.run_concat).mp hrun
      obtain rfl : os = m.2 ++ [o] := hos
      exact step es m.2 m.1 e s o hm (ih hall.append_left hm) (hall.at hm) ho

/-- **Invariant rule.** An invariant kept by the steps that meet `P` holds after
every run whose steps all meet `P`. -/
theorem run_invariant {P : σ → ε → Prop} {I : σ → Prop}
    (hstep : ∀ s e s' o, I s → P s e → M.step s e = some (s', o) → I s')
    {es : List ε} {os : List ω} {s₀ s : σ} (h₀ : I s₀) (hall : M.All P s₀ es)
    (hrun : M.run s₀ es = some (s, os)) : I s :=
  run_history (motive := fun _ _ s => I s) h₀
    (fun _ _ s e s' o _ hi hP hs => hstep s e s' o hi hP hs) hall hrun

/-- **Exact invariant rule.** Where a step keeps `I` if and only if it meets `P`, `I` holds in
every state of a run if and only if all its steps meet `P`. What the steps keep anyway is in
`J`. -/
theorem all_iff_invariant {P : σ → ε → Prop} {I J : σ → Prop}
    (hkeep : ∀ s e s' o, J s → M.step s e = some (s', o) → J s')
    (hstep : ∀ s e s' o, J s → I s → M.step s e = some (s', o) → (P s e ↔ I s'))
    {es : List ε} {os : List ω} {s₀ s : σ} (hJ : J s₀) (hI : I s₀)
    (hrun : M.run s₀ es = some (s, os)) :
    M.All P s₀ es ↔ ∀ n u us, M.run s₀ (es.take n) = some (u, us) → I u := by
  induction es generalizing s₀ os with
  | nil =>
      refine ⟨fun _ n u us hu => ?_, fun _ => trivial⟩
      rw [List.take_nil, run_nil, Option.some.injEq, Prod.mk.injEq] at hu
      rw [← hu.1]
      exact hI
  | cons e es ih =>
      obtain ⟨⟨s₁, o⟩, hr, os', hrest, -⟩ := (M.run_cons).mp hrun
      have hJ₁ := hkeep s₀ e s₁ o hJ hr
      have hafter : ∀ n u us, M.run s₁ (es.take n) = some (u, us) →
          M.run s₀ ((e :: es).take (n + 1)) = some (u, o :: us) := by
        intro n u us hu
        rw [List.take_succ_cons]
        exact (M.run_cons).mpr ⟨_, hr, us, hu, rfl⟩
      constructor
      · rintro ⟨hP, hall⟩ n u us hu
        have hI₁ := (hstep s₀ e s₁ o hJ hI hr).mp hP
        cases n with
        | zero =>
            rw [List.take_zero, run_nil, Option.some.injEq, Prod.mk.injEq] at hu
            rw [← hu.1]
            exact hI
        | succ n =>
            rw [List.take_succ_cons] at hu
            obtain ⟨r, hr', us', hu', -⟩ := (M.run_cons).mp hu
            cases hr.symm.trans hr'
            exact (ih hJ₁ hI₁ hrest).mp (hall _ hr) n u us' hu'
      · intro hreached
        have hI₁ : I s₁ := hreached 1 s₁ [o] (hafter 0 s₁ [] rfl)
        refine ⟨(hstep s₀ e s₁ o hJ hI hr).mpr hI₁, ?_⟩
        intro r hr'
        cases hr.symm.trans hr'
        exact (ih hJ₁ hI₁ hrest).mpr fun n u us hu => hreached (n + 1) u _ (hafter n u us hu)

theorem All.and {P Q : σ → ε → Prop} {es : List ε} {s : σ} (hP : M.All P s es)
    (hQ : M.All Q s es) : M.All (fun s e => P s e ∧ Q s e) s es := by
  induction es generalizing s with
  | nil => trivial
  | cons e es ih => exact ⟨⟨hP.1, hQ.1⟩, fun r hr => ih (hP.2 r hr) (hQ.2 r hr)⟩

theorem All.of_mem {P : ε → Prop} {es : List ε} (h : ∀ e ∈ es, P e) (s : σ) :
    M.All (fun _ e => P e) s es := by
  induction es generalizing s with
  | nil => trivial
  | cons e es ih =>
      exact ⟨h e List.mem_cons_self,
        fun r _ => ih (fun e' he' => h e' (List.mem_cons_of_mem e he')) r.1⟩

theorem All.of_forall {P : σ → ε → Prop} (h : ∀ s e, P s e) (s : σ) (es : List ε) :
    M.All P s es := by
  induction es generalizing s with
  | nil => trivial
  | cons e es ih => exact ⟨h s e, fun r _ => ih r.1⟩

/-! ### The steps of a run by position -/

variable (M)

/-- The run over `es` from `s₀` takes, at position `i`, the step from `s` to `s'` with
event `e` and output `o`. -/
structure At (s₀ : σ) (es : List ε) (i : Nat) (s : σ) (e : ε) (o : ω) (s' : σ) : Prop where
  event : es[i]? = some e
  before : ∃ os, M.run s₀ (es.take i) = some (s, os)
  step : M.step s e = some (s', o)

variable {M}

theorem At.lt {s₀ : σ} {es : List ε} {i : Nat} {s : σ} {e : ε} {o : ω} {s' : σ}
    (h : M.At s₀ es i s e o s') : i < es.length :=
  (List.getElem?_eq_some_iff.mp h.event).1

theorem At.append {s₀ : σ} {es : List ε} {i : Nat} {s : σ} {e : ε} {o : ω} {s' : σ}
    (h : M.At s₀ es i s e o s') (es' : List ε) : M.At s₀ (es ++ es') i s e o s' where
  event := by
    rw [List.getElem?_append_left h.lt]
    exact h.event
  before := by
    rw [List.take_append_of_le_length (Nat.le_of_lt h.lt)]
    exact h.before
  step := h.step

theorem At.of_append {s₀ : σ} {es es' : List ε} {i : Nat} {s : σ} {e : ε} {o : ω} {s' : σ}
    (h : M.At s₀ (es ++ es') i s e o s') (hi : i < es.length) : M.At s₀ es i s e o s' where
  event := by
    rw [← List.getElem?_append_left hi]
    exact h.event
  before := by
    rw [← List.take_append_of_le_length (Nat.le_of_lt hi)]
    exact h.before
  step := h.step

/-- The step that ends a run is at its last position. -/
theorem At.last {s₀ : σ} {es : List ε} {os : List ω} {s : σ} {e : ε} {o : ω} {s' : σ}
    (hrun : M.run s₀ es = some (s, os)) (hs : M.step s e = some (s', o)) :
    M.At s₀ (es ++ [e]) es.length s e o s' where
  event := by simp
  before := ⟨os, by rw [List.take_left]; exact hrun⟩
  step := hs

theorem At.unique {s₀ : σ} {es : List ε} {i : Nat} {s t : σ} {e f : ε} {o p : ω} {s' t' : σ}
    (h : M.At s₀ es i s e o s') (h' : M.At s₀ es i t f p t') :
    s = t ∧ e = f ∧ o = p ∧ s' = t' := by
  have he : e = f := Option.some.inj (h.event.symm.trans h'.event)
  obtain ⟨os, hos⟩ := h.before
  obtain ⟨ps, hps⟩ := h'.before
  have hst : s = t := congrArg Prod.fst (Option.some.inj (hos.symm.trans hps))
  have hstep := h.step
  rw [he, hst, h'.step, Option.some.injEq, Prod.mk.injEq] at hstep
  exact ⟨hst, he, hstep.2.symm, hstep.1.symm⟩

/-- What a test says of the state a step is taken in. -/
theorem At.of_any {s₀ : σ} {es : List ε} {i : Nat} {s : σ} {e : ε} {o : ω} {s' : σ}
    (h : M.At s₀ es i s e o s') {p : σ → Bool}
    (hp : (M.run s₀ (es.take i)).any (fun r => p r.1) = true) : p s = true := by
  obtain ⟨os, hos⟩ := h.before
  rw [hos] at hp
  exact hp

/-- The step a run ends with, when a test passes on its output. -/
theorem exists_at {s₀ : σ} {es : List ε} {e : ε} {q : ω → Bool}
    (h : (M.run s₀ (es ++ [e])).any (fun r => r.2.getLast?.any q) = true) :
    ∃ s o s', M.At s₀ (es ++ [e]) es.length s e o s' ∧ q o = true := by
  obtain ⟨s', os, hrun, hq⟩ := exists_run h
  obtain ⟨m, hm, o, ho, hos⟩ := (M.run_concat).mp hrun
  replace hos : os = m.2 ++ [o] := hos
  rw [show (s', os).2 = os from rfl, hos, List.getLast?_concat] at hq
  exact ⟨m.1, o, s', At.last hm ho, hq⟩

/-- A step of a run that goes one step further is an old one or the new one. -/
theorem At.cases_concat {s₀ : σ} {es : List ε} {os : List ω} {i : Nat} {s t : σ} {e f : ε}
    {o p : ω} {s' t' : σ} (hrun : M.run s₀ es = some (s, os)) (hs : M.step s e = some (s', o))
    (h : M.At s₀ (es ++ [e]) i t f p t') :
    M.At s₀ es i t f p t' ∨ (i = es.length ∧ t = s ∧ f = e ∧ p = o ∧ t' = s') := by
  have hlt := h.lt
  rw [List.length_append, List.length_singleton] at hlt
  rcases Nat.lt_succ_iff_lt_or_eq.mp hlt with hi | rfl
  · exact Or.inl (h.of_append hi)
  · exact Or.inr ⟨rfl, h.unique (At.last hrun hs)⟩

theorem All.at_step {P : σ → ε → Prop} {s₀ : σ} {es : List ε} {i : Nat} {s : σ} {e : ε} {o : ω}
    {s' : σ} (hall : M.All P s₀ es) (h : M.At s₀ es i s e o s') : P s e := by
  obtain ⟨os, hos⟩ := h.before
  obtain ⟨hi, he⟩ := List.getElem?_eq_some_iff.mp h.event
  have hsplit : es = es.take i ++ e :: es.drop (i + 1) := by
    rw [← he, ← List.drop_eq_getElem_cons hi, List.take_append_drop]
  rw [hsplit] at hall
  exact hall.at hos

variable (M)

/-- Position `i` is that of the last step of the run that `Q` holds of. -/
structure Latest (Q : ε → ω → Prop) (s₀ : σ) (es : List ε) (i : Nat) (s : σ) (e : ε) (o : ω)
    (s' : σ) : Prop extends M.At s₀ es i s e o s' where
  holds : Q e o
  none_later : ∀ j t f p t', i < j → M.At s₀ es j t f p t' → ¬ Q f p

variable {M} {Q : ε → ω → Prop}

/-- A step that `Q` does not hold of leaves the last one where it was. -/
theorem Latest.keep {s₀ : σ} {es : List ε} {os : List ω} {i : Nat} {s t : σ} {e f : ε} {o p : ω}
    {s' t' : σ} (h : M.Latest Q s₀ es i t f p t') (hrun : M.run s₀ es = some (s, os))
    (hs : M.step s e = some (s', o)) (hQ : ¬ Q e o) :
    M.Latest Q s₀ (es ++ [e]) i t f p t' where
  toAt := h.toAt.append [e]
  holds := h.holds
  none_later j u g q u' hj hat := by
    rcases hat.cases_concat hrun hs with hold | ⟨-, -, rfl, rfl, -⟩
    · exact h.none_later j u g q u' hj hold
    · exact hQ

/-- A step that `Q` holds of becomes the last one. -/
theorem Latest.new {s₀ : σ} {es : List ε} {os : List ω} {s : σ} {e : ε} {o : ω} {s' : σ}
    (hrun : M.run s₀ es = some (s, os)) (hs : M.step s e = some (s', o)) (hQ : Q e o) :
    M.Latest Q s₀ (es ++ [e]) es.length s e o s' where
  toAt := At.last hrun hs
  holds := hQ
  none_later j u g q u' hj hat := by
    have hlt := hat.lt
    rw [List.length_append, List.length_singleton] at hlt
    omega

/-- The last step of a run that goes one step further is that step, or `Q` does not hold of
it. -/
theorem Latest.cases_concat {s₀ : σ} {es : List ε} {os : List ω} {i : Nat} {s t : σ} {e f : ε}
    {o p : ω} {s' t' : σ} (hrun : M.run s₀ es = some (s, os)) (hs : M.step s e = some (s', o))
    (h : M.Latest Q s₀ (es ++ [e]) i t f p t') :
    (M.Latest Q s₀ es i t f p t' ∧ ¬ Q e o) ∨ (t = s ∧ f = e ∧ p = o ∧ t' = s') := by
  rcases h.toAt.cases_concat hrun hs with hold | ⟨-, hnew⟩
  · refine Or.inl ⟨⟨hold, h.holds, fun j u g q u' hj hat => ?_⟩, ?_⟩
    · exact h.none_later j u g q u' hj (hat.append [e])
    · exact h.none_later es.length s e o s' hold.lt (At.last hrun hs)
  · exact Or.inr hnew

theorem Latest.unique {s₀ : σ} {es : List ε} {i j : Nat} {s t : σ} {e f : ε} {o p : ω} {s' t' : σ}
    (h : M.Latest Q s₀ es i s e o s') (h' : M.Latest Q s₀ es j t f p t') : i = j := by
  rcases Nat.lt_trichotomy i j with hij | hij | hij
  · exact absurd h'.holds (h.none_later _ _ _ _ _ hij h'.toAt)
  · exact hij
  · exact absurd h.holds (h'.none_later _ _ _ _ _ hij h.toAt)

end Machine

end Bacnet.Lib
