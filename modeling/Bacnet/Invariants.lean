import Bacnet.Frame

/-!
# Bacnet.Invariants

What holds in every state the client reaches, whatever its threads do and whatever
arrives: the transaction table is well formed, the reply handlers are installed before a
device is tracked, a device stays tracked, and a request that is done has a value.
-/

namespace Bacnet

open Bacnet.Lib

variable {env : Env} {s s' : Sys} {e : Event} {o : Output}

/-- The invariant of the shared state. -/
structure Stack.Wf (s : Stack) : Prop where
  tsm : s.tsm.Ok
  installed : s.initDone = true → s.handlers.Replies
  tracked : ∀ d tgt, s.targets.lookup d = some tgt → s.initDone = true
  valued : ∀ d tgt id, s.targets.lookup d = some tgt → tgt.request = some (id, .done) →
    tgt.value.isSome

/-- The invariant of the client: a call is on a tracked device. -/
structure Sys.Wf (s : Sys) : Prop extends s.stack.Wf where
  reading : ∀ t call, s.threads t = .reading call →
    ∃ tgt, s.stack.targets.lookup call.deviceId = some tgt

theorem Sys.wf_init : Sys.init.Wf where
  tsm := Tsm.ok_init
  installed := nofun
  tracked d tgt h := by cases h
  valued d tgt id h := by cases h
  reading t call h := by cases h

/-! ### The transaction table and the handlers -/

theorem ok_dlenvInit {s : Stack} (ht : s.tsm.Ok) : (dlenvInit env s).tsm.Ok := by
  simp only [dlenvInit]
  cases env.invokeId with
  | none => exact ht
  | some id => exact Tsm.ok_invokeIdSet ht id

/-- The one-time initialisation installs the reply handlers. -/
theorem wf_stackInit (env : Env) {s : Stack} (h : s.Wf) :
    (stackInit env s).tsm.Ok ∧ (stackInit env s).initDone = true ∧
      (stackInit env s).handlers.Replies := by
  rw [stackInit]
  split
  · rename_i hdone
    exact ⟨h.tsm, hdone, h.installed hdone⟩
  · exact ⟨ok_dlenvInit (s := initServiceHandlers s) h.tsm, rfl, rfl, rfl, rfl, rfl⟩

/-- The parts of the invariant that are not about one entry. -/
structure Stack.Base (s s' : Stack) : Prop where
  tsm : s'.tsm.Ok
  installed : s'.initDone = true → s'.handlers.Replies
  init : s.initDone = true → s'.initDone = true

theorem base_of_eq {s s' : Stack} (h : s.Wf) (ht : s'.tsm.Ok) (hh : s'.handlers = s.handlers)
    (hi : s'.initDone = s.initDone) : Stack.Base s s' where
  tsm := ht
  installed := by
    rw [hh, hi]
    exact h.installed
  init := by
    rw [hi]
    exact id

theorem base_connect {s s' : Stack} {b : BACnetDeviceBuilder} {o : Output} (h : s.Wf)
    (hs : ConnectEffect env s b s' o) : Stack.Base s s' ∧ s'.initDone = true := by
  obtain ⟨ht, hi, hr⟩ := wf_stackInit env h
  cases hs with
  | ok m addr cache _ _ => exact ⟨⟨ht, fun _ => hr, fun _ => hi⟩, hi⟩
  | failed cache _ => exact ⟨⟨ht, fun _ => hr, fun _ => hi⟩, hi⟩
  | panicked cache _ => exact ⟨⟨ht, fun _ => hr, fun _ => hi⟩, hi⟩

theorem base_send {s s' : Stack} {d : DeviceId} {args : ReadArgs} {id : UInt8}
    {frame : Option (BacnetIpAddress × List UInt8)} (h : s.Wf)
    (hs : SendEffect env s d args s' id frame) : Stack.Base s s' := by
  cases hs with
  | failed tsm _ _ hok => exact base_of_eq h hok rfl rfl
  | sent m dest i hready _ _ =>
      have h0 := Tsm.nextUnused_ne_zero h.tsm hready.2.1
      have hfree := Tsm.nextUnused_free h.tsm hready.2.1
      exact base_of_eq h (Tsm.ok_reserveAt h.tsm h0 hfree) rfl rfl

theorem base_apdu {order : List DeviceId} {src : BacnetAddress} {a : Apdu} {s s' : Stack}
    (h : s.Wf) (hs : ApduEffect order src a s s') : Stack.Base s s' := by
  cases hs with
  | none _ => exact base_of_eq h h.tsm rfl rfl
  | binding i _ _ _ => exact base_of_eq h h.tsm rfl rfl
  | discovery device _ _ => exact base_of_eq h h.tsm rfl rfl
  | released id _ _ => exact base_of_eq h (Tsm.ok_freeInvokeId h.tsm id) rfl rfl
  | taken id _ f _ d t _ _ _ => exact base_of_eq h (Tsm.ok_freeInvokeId h.tsm id) rfl rfl

theorem base_extract {s s' : Stack} {d : DeviceId} {o : Output} (h : s.Wf)
    (hs : ExtractEffect s d s' o) : Stack.Base s s' := by
  cases hs <;> exact base_of_eq h h.tsm rfl rfl

theorem base_step (h : s.stack.Wf) (hs : Step env s e s' o) : Stack.Base s.stack s'.stack := by
  have hstack := stack_cases hs
  generalize s'.stack = stack' at hstack
  cases hstack with
  | same _ _ _ => exact base_of_eq h h.tsm rfl rfl
  | connect t b stack _ hc => exact (base_connect h hc).1
  | disconnect t d _ _ => exact base_of_eq h h.tsm rfl rfl
  | send t d args tgt stack id frame _ _ _ hs =>
      have hb := base_send h hs
      exact ⟨hb.tsm, hb.installed, hb.init⟩
  | apdu t arrival src a stack _ _ _ he => exact base_apdu h he
  | extract t call stack _ _ _ hx => exact base_extract h hx
  | whoisStart t subnet _ _ => exact ⟨ok_dlenvInit h.tsm, h.installed, id⟩
  | whoisClose t _ _ => exact base_of_eq h h.tsm rfl rfl
  | whoisDrain t _ _ => exact base_of_eq h h.tsm rfl rfl

/-- Communication stays enabled: the client has no handler for the service that disables
it. -/
theorem dcc_step (hs : Step env s e s' o) : s'.stack.dcc = s.stack.dcc := by
  have hinit : (stackInit env s.stack).dcc = s.stack.dcc := by
    rw [stackInit]
    split <;> rfl
  have hstack := stack_cases hs
  generalize s'.stack = stack' at hstack
  cases hstack with
  | same _ _ _ => rfl
  | connect t b stack _ hc => cases hc <;> exact hinit
  | disconnect t d _ _ => rfl
  | send t d args tgt stack id frame _ _ _ hs => cases hs <;> rfl
  | apdu t arrival src a stack _ _ _ he => cases he <;> rfl
  | extract t call stack _ _ _ hx => cases hx <;> rfl
  | whoisStart t subnet _ _ => rfl
  | whoisClose t _ _ => rfl
  | whoisDrain t _ _ => rfl

/-! ### The entries -/

/-- A tracked device stays tracked. -/
theorem tracked_step (hs : Step env s e s' o) {d : DeviceId} {tgt : TargetDevice}
    (hl : s.stack.targets.lookup d = some tgt) :
    ∃ tgt', s'.stack.targets.lookup d = some tgt' := by
  have heff := entry_cases hs d
  generalize s'.stack.targets.lookup d = entry at heff
  cases heff with
  | same entry h _ => exact ⟨tgt, h ▸ hl⟩
  | connected t b addr _ _ _ => exact ⟨_, rfl⟩
  | sent t args tgt id frame _ _ _ => exact ⟨_, rfl⟩
  | replied t arrival src a id f tgt _ _ _ _ _ _ => exact ⟨_, rfl⟩
  | taken t call tgt value _ _ _ _ _ => exact ⟨_, rfl⟩

/-- A device becomes tracked by a `connect`. -/
theorem tracked_of_step (h : s.stack.Wf) (hs : Step env s e s' o) {d : DeviceId}
    {tgt' : TargetDevice} (hl' : s'.stack.targets.lookup d = some tgt') :
    s'.stack.initDone = true := by
  have hbase := base_step h hs
  cases hl : s.stack.targets.lookup d with
  | some tgt => exact hbase.init (h.tracked d tgt hl)
  | none =>
      have heff := entry_cases hs d
      rw [hl'] at heff
      cases heff with
      | same entry hl₀ _ =>
          rw [hl] at hl₀
          cases hl₀
      | connected t b addr he _ _ =>
          subst he
          cases hs with
          | connect t b stack o hth hc => exact (base_connect h hc).2
      | sent t args tgt id frame _ _ hl₀ =>
          rw [hl] at hl₀
          cases hl₀
      | replied t arrival src a id f tgt _ _ _ _ _ hl₀ =>
          rw [hl] at hl₀
          cases hl₀
      | taken t call tgt value _ _ _ _ hl₀ =>
          rw [hl] at hl₀
          cases hl₀

theorem valued_step (h : s.stack.Wf) (hs : Step env s e s' o) {d : DeviceId}
    {tgt' : TargetDevice} {id : UInt8} (hl' : s'.stack.targets.lookup d = some tgt')
    (hr' : tgt'.request = some (id, .done)) : tgt'.value.isSome := by
  have heff := entry_cases hs d
  rw [hl'] at heff
  cases heff with
  | same entry hl _ => exact h.valued d tgt' id hl hr'
  | connected t b addr _ _ _ =>
      cases hr'
  | sent t args tgt id frame _ _ _ =>
      cases hr'
  | replied t arrival src a id₁ f tgt _ _ hrel hf _ _ =>
      obtain ⟨r, -, hans⟩ := answered_of_update hf hrel
      obtain ⟨status, hreq, -, hval⟩ := (hans tgt).request
      rw [hr'] at hreq
      cases hreq
      exact hval rfl
  | taken t call tgt value _ _ _ _ _ =>
      cases hr'

/-! ### Every reachable state -/

theorem not_aborted_of_step (h : (client env).step s e = some (s', o)) : s.aborted = false := by
  simp only [client, step] at h
  split at h
  · cases h
  · rename_i hrun
    exact Bool.eq_false_iff.mpr hrun

theorem wf_step (h : s.Wf) (hs : (client env).step s e = some (s', o)) : s'.Wf := by
  have hstep := step_cases h.tsm hs
  have hbase := base_step h.toWf hstep
  refine ⟨⟨hbase.tsm, hbase.installed, fun d tgt => tracked_of_step h.toWf hstep,
    fun d tgt id => valued_step h.toWf hstep⟩, fun t call hth' => ?_⟩
  have heff := call_cases hstep hth'
  cases heff with
  | same call hth _ =>
      obtain ⟨tgt, hl⟩ := h.reading t call hth
      exact tracked_step hstep hl
  | sent d args id frame he ho =>
      subst he ho
      cases hstep with
      | send t d args tgt stack id frame hth hp hl hse =>
          exact ⟨_, Stack.lookup_setTarget_self _ _ _⟩
  | received arrival call rx _ hth _ _ =>
      obtain ⟨tgt, hl⟩ := h.reading t call hth
      exact tracked_step hstep hl
  | again elapsed call _ hth _ _ _ =>
      obtain ⟨tgt, hl⟩ := h.reading t call hth
      exact tracked_step hstep hl
  | free elapsed call _ hth _ _ _ =>
      obtain ⟨tgt, hl⟩ := h.reading t call hth
      exact tracked_step hstep hl

/-- What the steps of a client keep in well-formed states, a run keeps. -/
theorem invariant_run {P : Sys → Event → Prop} {I : Sys → Prop} {s₀ : Sys} {es : List Event}
    {os : List Output} (hwf : s₀.Wf) (hI : I s₀) (hall : (client env).All P s₀ es)
    (hrun : (client env).run s₀ es = some (s, os))
    (hstep : ∀ s e s' o, s.Wf → I s → P s e → Step env s e s' o → I s') : s.Wf ∧ I s := by
  refine Machine.run_invariant (I := fun s => s.Wf ∧ I s) ?_ ⟨hwf, hI⟩ hall hrun
  intro s e s' o ⟨hwf, h⟩ hP hs
  exact ⟨wf_step hwf hs, hstep s e s' o hwf h hP (step_cases hwf.tsm hs)⟩

theorem all_true (es : List Event) : (client env).All (fun _ _ => True) s es :=
  Machine.All.of_forall (fun _ _ => trivial) _ _

theorem wf_of_run {s₀ : Sys} {es : List Event} {os : List Output} (hwf : s₀.Wf)
    (hrun : (client env).run s₀ es = some (s, os)) : s.Wf :=
  (invariant_run (I := fun _ => True) hwf trivial (all_true es) hrun
    fun _ _ _ _ _ _ _ _ => trivial).1

/-- Every reachable state is well formed. -/
theorem wf_run {es : List Event} {os : List Output}
    (hrun : (client env).run .init es = some (s, os)) : s.Wf :=
  wf_of_run Sys.wf_init hrun

/-- A thread that takes no step stays idle. -/
theorem idle_run {n : Nat} {es : List Event} {os : List Output} (hn : ∀ e ∈ es, e.thread < n)
    (hrun : (client env).run .init es = some (s, os)) {t : Nat} (ht : n ≤ t) :
    s.threads t = .idle := by
  refine (invariant_run (I := fun s => s.threads t = .idle) Sys.wf_init rfl
    (Machine.All.of_mem hn Sys.init) hrun ?_).2
  intro s e s' o _ hidle he hs
  rw [threads_of_ne hs (by omega), hidle]

theorem dcc_run {es : List Event} {os : List Output}
    (hrun : (client env).run .init es = some (s, os)) : s.stack.dcc = .enable :=
  (invariant_run (I := fun s => s.stack.dcc = .enable) Sys.wf_init rfl (all_true es) hrun
    fun _ _ _ _ _ hdcc _ hs => (dcc_step hs).trans hdcc).2

end Bacnet
