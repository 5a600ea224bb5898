import Bacnet.Epics
import Bacnet.Reconnection

/-!
# Bacnet.Disconnection

A device between its `disconnect` and its next `connect`. It stays tracked if it was: a read of
it is refused before anything is sent only when it was not, and so is `epics`, which is made of
reads.
-/

namespace Bacnet

open Bacnet.Lib

variable {env : Env} {s s' : Sys} {e : Event} {o : Output} {es : List Event} {os : List Output}

/-! ### One thread among others -/

/-- What happens around a call of `read_prop_at`: the steps of the other threads before it,
and, if it sends, all the steps from there to its return. -/
structure Turn where
  before : List Event
  during : List Event

/-- The steps of the others, when no call sends. -/
def interludes (script : List Turn) : List Event := script.flatMap Turn.before

/-- Run on until thread `t` returns from its read. -/
def awaitReturn (env : Env) (t : Nat) : Sys → List Event → Option (Result BACnetValue × Sys)
  | _, [] => none
  | s, e :: es => do
    let (s, o) ← step env s e
    match o with
    | .returned r => if e.thread = t then some (r, s) else awaitReturn env t s es
    | _ => awaitReturn env t s es

/-- A call of `read_prop_at` by thread `t`, which takes the next turn. Without one the others
do nothing. -/
def readPropAt (env : Env) (t : Nat) (deviceId : DeviceId) (args : ReadArgs) :
    Reads (Sys × List Turn) (Result BACnetValue) := fun (s, script) => do
  let turn := script.headD ⟨[], []⟩
  let (s, _) ← (client env).run s turn.before
  let (s, o) ← step env s (.send t deviceId args)
  match o with
  | .returned r => some (r, s, script.tail)
  | .sent _ _ => (awaitReturn env t s turn.during).map fun r => (r.1, r.2, script.tail)
  | _ => none

/-- A call that returns at once. -/
theorem readPropAt_returned {t : Nat} {d : DeviceId} {args : ReadArgs} {script : List Turn}
    {u : Sys} {r : Result BACnetValue}
    (hrun : (client env).run s (script.headD ⟨[], []⟩).before = some (u, os))
    (hs : (client env).step u (.send t d args) = some (s', .returned r)) :
    (readPropAt env t d args).run (s, script) = some (r, (s', script.tail)) := by
  have hstep : step env u (.send t d args) = some (s', .returned r) := hs
  simp only [readPropAt, StateT.run, hrun, hstep, Option.bind_eq_bind, Option.bind_some]

theorem interludes_append (script script' : List Turn) :
    interludes (script ++ script') = interludes script ++ interludes script' :=
  List.flatMap_append

/-- The lock stays poisoned. -/
theorem poisoned_step (hp : s.stack.poisoned = true) (hs : Step env s e s' o) :
    s'.stack.poisoned = true := by
  have hstack := stack_cases hs
  generalize s'.stack = stack' at hstack
  cases hstack with
  | same _ _ _ => exact hp
  | connect t b stack _ hc =>
    cases hc with
    | ok m addr cache hp' _ =>
      rw [hp] at hp'
      cases hp'
    | failed cache _ => exact (stackInit_poisoned env s.stack).trans hp
    | panicked cache _ _ => exact (stackInit_poisoned env s.stack).trans hp
  | disconnect t d _ _ => exact hp
  | send t d args tgt stack id frame _ _ _ hs => cases hs <;> exact hp
  | apdu t arrival src a stack _ _ _ he =>
    cases he with
    | binding i _ _ _ => exact hp
    | none _ => exact hp
    | discovery device _ _ => exact hp
    | released id _ _ => exact hp
    | taken id _ f _ d tgt _ _ _ => exact hp
  | extract t call stack _ _ _ hx =>
    cases hx with
    | poisoned _ => exact hp
    | missing _ _ => rfl
    | noRequest _ _ _ _ => rfl
    | ongoing _ _ _ _ _ => rfl
    | done _ _ _ _ _ => exact hp
    | error _ _ _ _ _ _ => exact hp
  | whoisStart t subnet _ _ => exact hp
  | whoisClose t _ _ => exact hp
  | whoisDrain t _ _ => exact hp

/-- What is sound after a run was sound before it. -/
theorem not_poisoned_of_run (hwf : s.Wf) (hrun : (client env).run s es = some (s', os))
    (hp : s'.stack.poisoned = false) : s.stack.poisoned = false := by
  cases hp₀ : s.stack.poisoned with
  | false => rfl
  | true =>
    have hp' := (invariant_run (I := fun s => s.stack.poisoned = true) hwf hp₀ (all_true es) hrun
      fun _ _ _ _ _ hp _ hs => poisoned_step hp hs).2
    rw [hp] at hp'
    cases hp'

theorem not_aborted_of_run (hrun : (client env).run s es = some (s', os))
    (ha : s'.aborted = false) : s.aborted = false := by
  cases es with
  | nil =>
    rw [Machine.run_nil, Option.some.injEq, Prod.mk.injEq] at hrun
    rw [hrun.1]
    exact ha
  | cons e es =>
    obtain ⟨r, hr, -⟩ := (Machine.run_cons _).mp hrun
    exact not_aborted_of_step hr

/-- The others leave an idle thread idle. -/
theorem idle_of_others {t : Nat} (hwf : s.Wf) (hrun : (client env).run s es = some (s', os))
    (hothers : ∀ e ∈ es, e.thread ≠ t) (hidle : s.threads t = .idle) : s'.threads t = .idle :=
  (invariant_run (I := fun s => s.threads t = .idle) hwf hidle (Machine.All.of_mem hothers s) hrun
    fun _ _ _ _ _ hidle hne hs => (threads_of_ne hs (Ne.symm hne)).trans hidle).2

/-! ### The reads of a device that is not tracked -/

/-- A read of a device that is not tracked returns at once, and changes nothing. -/
theorem step_send_untracked (env : Env) {t : Nat} {d : DeviceId} (args : ReadArgs)
    (hrun : s.aborted = false) (hidle : s.threads t = .idle) (hp : s.stack.poisoned = false)
    (hl : s.stack.targets.lookup d = none) :
    (client env).step s (.send t d args) =
      some (s, .returned (.error (.notConnectedToDevice d))) := by
  simp only [client, step, hrun, Bool.false_eq_true, if_false,
    show (Event.send t d args).thread = t from rfl, hidle, sendStep, hp, hl]
  rw [← hidle, Sys.setThread_self]

/-- No other read is refused like that: with the lock poisoned it panics, and it is sent to a
device that is tracked. -/
theorem refused_iff (env : Env) {t : Nat} {d : DeviceId} (args : ReadArgs)
    (hrun : s.aborted = false) (hidle : s.threads t = .idle) :
    (client env).step s (.send t d args) =
        some (s, .returned (.error (.notConnectedToDevice d))) ↔
      s.stack.poisoned = false ∧ s.stack.targets.lookup d = none := by
  constructor
  · intro hstep
    simp only [client, step, hrun, Bool.false_eq_true, if_false,
      show (Event.send t d args).thread = t from rfl, hidle, sendStep] at hstep
    cases hp : s.stack.poisoned with
    | true => simp [hp] at hstep
    | false =>
      cases hl : s.stack.targets.lookup d with
      | none => exact ⟨rfl, rfl⟩
      | some tgt => simp [hp, hl] at hstep
  · rintro ⟨hp, hl⟩
    exact step_send_untracked env args hrun hidle hp hl

/-- Thread `t` reads `d` and nothing else, the others take the turns of the script, and all the
while `d` is disconnected: the run so far is over `es`, and ended in `s`. -/
structure WhileDisconnected (env : Env) (es : List Event) (s : Sys) (t : Nat) (d : DeviceId)
    (script : List Turn) : Prop where
  others : ∀ e ∈ interludes script, e.thread ≠ t
  disconnected : ∀ pre, pre <+: interludes script → ∃ u, DisconnectedIn env (es ++ pre) d u
  ends : ∃ s' os, (client env).run s (interludes script) = some (s', os) ∧ s'.aborted = false ∧
    s'.stack.poisoned = false

/-- What the others do does not track the device. -/
theorem WhileDisconnected.untracked {t : Nat} {d : DeviceId} {script : List Turn}
    (h : WhileDisconnected env es s t d script) (hrun : (client env).run .init es = some (s, os))
    (hl : s.stack.targets.lookup d = none) {pre : List Event} (hpre : pre <+: interludes script)
    {u : Sys} {ps : List Output} (hu : (client env).run s pre = some (u, ps)) :
    u.stack.targets.lookup d = none := by
  induction pre using List.reverseRecOn generalizing u ps with
  | nil =>
    rw [Machine.run_nil, Option.some.injEq, Prod.mk.injEq] at hu
    rw [← hu.1, hl]
  | append_singleton pre e ih =>
    obtain ⟨⟨v, qs⟩, hv, o, hs, -⟩ := (Machine.run_concat _).mp hu
    have hbefore := ih ((List.prefix_append _ _).trans hpre) hv
    have hrun' : (client env).run .init (es ++ pre) = some (v, os ++ qs) :=
      (Machine.run_append _).mpr ⟨_, hrun, qs, hv, rfl⟩
    obtain ⟨w, hdisc⟩ := h.disconnected _ hpre
    rw [← List.append_assoc] at hdisc
    have hsame := (isSome_lookup_disconnected hrun' hs hdisc).1
    rw [hbefore] at hsame
    exact Option.not_isSome_iff_eq_none.mp (Bool.eq_false_iff.mp hsame)

/-- Between the turns of the others, a read is refused. -/
theorem WhileDisconnected.refused {t : Nat} {d : DeviceId} {script done rest : List Turn}
    (h : WhileDisconnected env es s t d script) (hrun : (client env).run .init es = some (s, os))
    (hidle : s.threads t = .idle) (hl : s.stack.targets.lookup d = none)
    (hscript : script = done ++ rest) (args : ReadArgs) :
    ∃ u ps, (client env).run s (interludes done) = some (u, ps) ∧
      (client env).step u (.send t d args) =
        some (u, .returned (.error (.notConnectedToDevice d))) := by
  obtain ⟨s', ps, hends, habort, hp⟩ := h.ends
  have hsplit : interludes script = interludes done ++ interludes rest := by
    rw [hscript, interludes_append]
  rw [hsplit] at hends
  obtain ⟨⟨u, qs⟩, hdone, rs, hrest, -⟩ := (Machine.run_append _).mp hends
  have hwf : u.Wf := wf_of_run (wf_run hrun) hdone
  have huntracked := h.untracked hrun hl (hsplit ▸ List.prefix_append _ _) hdone
  have hothers : ∀ e ∈ interludes done, e.thread ≠ t := by
    intro e he
    exact h.others e (hsplit ▸ List.mem_append_left _ he)
  exact ⟨u, qs, hdone, step_send_untracked env args (not_aborted_of_run hrest habort)
    (idle_of_others (wf_run hrun) hdone hothers hidle) (not_poisoned_of_run hwf hrest hp)
    huntracked⟩

/-- So is `epics`, after some of the turns of the others. What they leave is what it leaves. -/
theorem WhileDisconnected.epics {t : Nat} {d : DeviceId} {script : List Turn}
    (h : WhileDisconnected env es s t d script) (hrun : (client env).run .init es = some (s, os))
    (hidle : s.threads t = .idle) (hl : s.stack.targets.lookup d = none)
    {scan : Scan (Sys × List Turn)} (hscan : scan.readPropAt = readPropAt env t d) :
    ∃ done rest u ps, script = done ++ rest ∧
      (client env).run s (interludes done) = some (u, ps) ∧
      (scan.epics d).run.run (s, script) = some (.error (.notConnectedToDevice d), (u, rest)) := by
  let I : Sys × List Turn → Prop := fun p => ∃ done, script = done ++ p.2 ∧
    ∃ ps, (client env).run s (interludes done) = some (p.1, ps)
  have hread : ∀ args, ReturnsKeeping I (scan.readPropAt args)
      (.error (.notConnectedToDevice d)) := by
    rintro args ⟨u, rest⟩ ⟨done, hscript, ps, hdone⟩
    -- the turn that the read takes, if there is one left
    obtain ⟨done', hscript', hturn⟩ : ∃ done', script = done' ++ rest.tail ∧
        interludes done' = interludes done ++ (rest.headD ⟨[], []⟩).before := by
      cases rest with
      | nil => exact ⟨done, hscript, (List.append_nil _).symm⟩
      | cons turn rest =>
        refine ⟨done ++ [turn], by rw [hscript, List.append_assoc]; rfl, ?_⟩
        rw [interludes_append]
        exact congrArg _ (List.append_nil _)
    obtain ⟨v, qs, hrun', hrefused⟩ := h.refused hrun hidle hl hscript' args
    rw [hturn] at hrun'
    obtain ⟨⟨u', ps'⟩, hdone', rs, hbefore, -⟩ := (Machine.run_append _).mp hrun'
    cases hdone.symm.trans hdone'
    refine ⟨(v, rest.tail), ?_, done', hscript', qs, ?_⟩
    · rw [hscan]
      exact readPropAt_returned hbefore hrefused
    · rw [hturn]
      exact hrun'
  obtain ⟨⟨u, rest⟩, heq, done, hscript, ps, hdone⟩ :=
    epics_of_error hread (fun _ _ herr => by cases herr) d (s, script) ⟨[], rfl, [], rfl⟩
  exact ⟨done, rest, u, ps, hscript, hdone, heq⟩

/-! ### The two records, and what follows for the calls -/

/-- What connecting, disconnecting and connecting the device of `b` does, by comparison with
connecting it: the cache can hold its entries elsewhere and with other ages, if the device had
an entry before. -/
def ReconnectsAlike (env : Env) (s : Sys) (t : Nat) (b : BACnetDeviceBuilder) : Prop :=
  ∃ s₁ o cache, (client env).run s [.connect t b] = some (s₁, [o]) ∧
    (client env).run s [.connect t b, .disconnect t b.deviceId, .connect t b] =
      some ({ s₁ with stack := { s₁.stack with cache } }, [o, .silent, o]) ∧
    (∀ d, cache.addressGetByDevice d = s₁.stack.cache.addressGetByDevice d) ∧
    (¬ s.stack.cache.Cached b.deviceId → cache = s₁.stack.cache)

theorem reconnectsAlike (env : Env) {t : Nat} (hsound : s.stack.cache.Sound)
    (hsettled : s.stack.cache.Settled) (hrun : s.aborted = false) (hidle : s.threads t = .idle)
    (b : BACnetDeviceBuilder) : ReconnectsAlike env s t b := by
  obtain ⟨cache, heq, hget, hsame⟩ := connect_again env hsound hsettled b
  have hstep : ∀ stack, (client env).step { s with stack } (.connect t b) =
      some ({ s with stack := (connect env stack b).1 }, (connect env stack b).2) := by
    intro stack
    simp only [client, step, hrun, Bool.false_eq_true, if_false,
      show (Event.connect t b).thread = t from rfl, hidle]
  have hdisconnect : ∀ stack, (client env).step { s with stack } (.disconnect t b.deviceId) =
      some ({ s with stack := disconnect stack b.deviceId }, .silent) := by
    intro stack
    simp only [client, step, hrun, Bool.false_eq_true, if_false,
      show (Event.disconnect t b.deviceId).thread = t from rfl, hidle]
  refine ⟨{ s with stack := (connect env s.stack b).1 }, (connect env s.stack b).2, cache, ?_, ?_,
    hget, hsame⟩
  · exact (Machine.run_cons _).mpr ⟨_, hstep s.stack, [], rfl, rfl⟩
  · refine (Machine.run_cons _).mpr ⟨_, hstep s.stack, [.silent, _], ?_, rfl⟩
    refine (Machine.run_cons _).mpr ⟨_, hdisconnect _, [_], ?_, rfl⟩
    refine (Machine.run_cons _).mpr ⟨_, hstep _, [], ?_, ?_⟩
    · rw [heq]
      rfl
    · rw [heq]

/-- A device is tracked exactly when it is bound, all along a run, if and only if all its steps
keep to both records of it. From a `disconnect` on, its reads are refused with the state as it was
if and only if the `disconnect` found it untracked, unless the lock is poisoned; and `epics` is
refused its scan then. Connecting, disconnecting and connecting a device comes to connecting
it. -/
theorem consistent_iff_keepsBoth (hrun : (client env).run .init es = some (s, os)) :
    (∀ d, (client env).All (KeepsBoth env d) .init es ↔
      ∀ n u us, (client env).run .init (es.take n) = some (u, us) → ConsistentAt d u.stack) ∧
    ∀ t, s.aborted = false → s.threads t = .idle →
      (∀ d u, DisconnectedIn env es d u →
        (∀ args, (client env).step s (.send t d args) =
            some (s, .returned (.error (.notConnectedToDevice d))) ↔
          s.stack.poisoned = false ∧ u.stack.targets.lookup d = none) ∧
        ∀ (scan : Scan (Sys × List Turn)) (script : List Turn),
          scan.readPropAt = readPropAt env t d → WhileDisconnected env es s t d script →
          u.stack.targets.lookup d = none →
            ∃ done rest v ps, script = done ++ rest ∧
              (client env).run s (interludes done) = some (v, ps) ∧
              (scan.epics d).run.run (s, script) =
                some (.error (.notConnectedToDevice d), (v, rest))) ∧
      ∀ b, ReconnectsAlike env s t b := by
  refine ⟨fun d => consistentAt_run_iff hrun, fun t habort hidle => ⟨fun d u hdisc => ?_, ?_⟩⟩
  · have hsame := isSome_lookup_of_disconnected hrun hdisc
    have huntracked : s.stack.targets.lookup d = none ↔ u.stack.targets.lookup d = none := by
      rw [← Option.not_isSome_iff_eq_none, ← Option.not_isSome_iff_eq_none, hsame]
    refine ⟨fun args => ?_, fun scan script hscan hwhile hl => ?_⟩
    · rw [refused_iff env args habort hidle, huntracked]
    · exact hwhile.epics hrun hidle (huntracked.mpr hl) hscan
  · exact reconnectsAlike env (sound_run hrun) (settled_run hrun) habort hidle

/-- The client with a cache file that names device 9. -/
def lanWithFile : Env := { lan with cacheFile := [⟨9, 1476, (lanDevice 9 3).build⟩] }

/-- Device 7 is disconnected, and the discovery of thread 2 leaves device 9 in the cache. -/
def betweenReads : List Event :=
  [.connect 0 (lanDevice 7 2), .connect 0 (lanDevice 9 3), .disconnect 1 7, .whoisStart 2 none]

theorem consistent_iff_keepsBoth_discovery :
    ∃ s os, (client lanWithFile).run .init (betweenReads ++ [.disconnect 1 8]) = some (s, os) ∧
      (∀ n u us, (client lanWithFile).run .init (List.take n (betweenReads ++ [.disconnect 1 8])) =
        some (u, us) → ConsistentAt 9 u.stack) ∧
      (¬ ∀ n u us, (client lanWithFile).run .init (List.take n (betweenReads ++ [.disconnect 1 8])) =
        some (u, us) → ConsistentAt 7 u.stack) ∧
      ∀ args, (client lanWithFile).step s (.send 3 8 args) =
        some (s, .returned (.error (.notConnectedToDevice 8))) := by
  have hends : ((client lanWithFile).run .init (betweenReads ++ [.disconnect 1 8])).any
      (fun r => ! r.1.stack.poisoned && ! r.1.aborted) = true := by
    decide +kernel
  have huntracked : ((client lanWithFile).run .init betweenReads).any
      (fun r => (r.1.stack.targets.lookup 8).isNone) = true := by
    decide +kernel
  have hkeeps : (client lanWithFile).All (KeepsBoth lanWithFile 9) .init
      (betweenReads ++ [.disconnect 1 8]) := by
    decide +kernel
  have hbreaks : ¬ (client lanWithFile).All (KeepsBoth lanWithFile 7) .init
      (betweenReads ++ [.disconnect 1 8]) := by
    decide +kernel
  obtain ⟨s, os, hrun, hends⟩ := Machine.exists_run hends
  obtain ⟨m, hm, o, hs, -⟩ := (Machine.run_concat _).mp hrun
  simp only [Bool.and_eq_true, Bool.not_eq_true'] at hends
  rw [hm] at huntracked
  have hidle : s.threads 3 = .idle := idle_run (n := 3) (by decide) hrun (Nat.le_refl 3)
  obtain ⟨hrecords, hcalls⟩ := consistent_iff_keepsBoth hrun
  have hrefused := ((hcalls 3 hends.2 hidle).1 8 m.1 (disconnected_concat hm hs)).1
  exact ⟨s, os, hrun, (hrecords 9).mp hkeeps, (hrecords 7).not.mp hbreaks,
    fun args => (hrefused args).mpr ⟨hends.1, Option.isNone_iff_eq_none.mp huntracked⟩⟩

/-- A read of a tracked device is not refused. It enters its request. -/
theorem step_send_tracked (env : Env) {t : Nat} {d : DeviceId} (args : ReadArgs)
    {tgt : TargetDevice} (hrun : s.aborted = false) (hidle : s.threads t = .idle)
    (hp : s.stack.poisoned = false) (hl : s.stack.targets.lookup d = some tgt) :
    ∃ s' id frame, (client env).step s (.send t d args) = some (s', .sent id frame) ∧
      (s'.stack.targets.lookup d).bind (·.request) = some (id, .ongoing) := by
  cases hsend : sendReadPropertyRequest env s.stack d args with
  | mk stack rest =>
    obtain ⟨id, frame⟩ := rest
    refine ⟨{ s.setThread t (.reading ⟨d, args, id, .fresh, .receiving⟩) with
      stack := stack.setTarget d { tgt with request := some (id, .ongoing) } }, id, frame, ?_, ?_⟩
    · simp only [client, step, hrun, Bool.false_eq_true, if_false,
        show (Event.send t d args).thread = t from rfl, hidle, sendStep, hp, hl, hsend]
    · rw [Stack.lookup_setTarget_self]
      rfl

/-- A device that is connected and disconnected stays tracked: a read of it is not refused, and
enters its request. -/
theorem disconnect_keeps_tracked :
    ∃ s os s' id frame,
      (client lan).run .init ([.connect 0 (lanDevice 7 2)] ++ [.disconnect 0 7]) = some (s, os) ∧
      (∃ u, DisconnectedIn lan ([.connect 0 (lanDevice 7 2)] ++ [.disconnect 0 7]) 7 u) ∧
      ¬ ConsistentAt 7 s.stack ∧
      (client lan).step s (.send 1 7 presentValue) = some (s', .sent id frame) ∧
      (s.stack.targets.lookup 7).bind (·.request) = none ∧
      (s'.stack.targets.lookup 7).bind (·.request) = some (id, .ongoing) := by
  have hends : ((client lan).run .init ([.connect 0 (lanDevice 7 2)] ++ [.disconnect 0 7])).any
      (fun r => ! r.1.stack.poisoned && ! r.1.aborted && (r.1.stack.targets.lookup 7).isSome &&
        decide ((r.1.stack.targets.lookup 7).bind (·.request) = none) &&
        (r.1.stack.cache.addressGetByDevice 7).isNone) = true := by
    decide +kernel
  obtain ⟨s, os, hrun, hends⟩ := Machine.exists_run hends
  obtain ⟨m, hm, o, hs, -⟩ := (Machine.run_concat _).mp hrun
  simp only [Bool.and_eq_true, Bool.not_eq_true', decide_eq_true_eq] at hends
  obtain ⟨⟨⟨⟨hp, habort⟩, htracked⟩, hrequest⟩, hbound⟩ := hends
  have hidle : s.threads 1 = .idle := idle_run (n := 1) (by decide) hrun (Nat.le_refl 1)
  obtain ⟨tgt, hl⟩ := Option.isSome_iff_exists.mp htracked
  obtain ⟨s', id, frame, hsend, hentered⟩ := step_send_tracked lan presentValue habort hidle hp hl
  refine ⟨s, os, s', id, frame, hrun, ⟨m.1, disconnected_concat hm hs⟩, fun hboth => ?_, hsend,
    hrequest, hentered⟩
  rw [ConsistentAt, htracked, Option.isNone_iff_eq_none.mp hbound] at hboth
  cases hboth

end Bacnet
