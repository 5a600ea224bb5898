import Bacnet.History

/-!
# Bacnet.UniqueMatch

Which entry a reply completes. The handlers take the first device, in an order nothing is
known of, whose address matches the source and whose request has the invoke id. There is at
most one as long as no request is sent with an id that a device at a matching address still
has in its entry.
-/

namespace Bacnet

open Bacnet.Lib

variable {env : Env} {s s' : Sys} {e : Event} {o : Output} {es : List Event} {os : List Output}

/-- At most one tracked device matches a source and an invoke id. -/
def UniqueMatch (targets : Targets) : Prop :=
  ∀ src id d₁ d₂ t₁ t₂, targets.lookup d₁ = some t₁ → targets.lookup d₂ = some t₂ →
    t₁.awaits src id = true → t₂.awaits src id = true → d₁ = d₂

/-- The device that is found is then the only one that matches. -/
theorem findMatchingDevice_of_unique {targets : Targets} (hu : UniqueMatch targets)
    (order : List DeviceId) {src : BacnetAddress} {id : UInt8} {d : DeviceId} {t : TargetDevice}
    (hl : targets.lookup d = some t) (ha : t.awaits src id = true) :
    findMatchingDevice order targets src id = some d := by
  cases hf : findMatchingDevice order targets src id with
  | none =>
      rw [findMatchingDevice_eq_none.mp hf d t hl] at ha
      cases ha
  | some d' =>
      obtain ⟨t', hl', ha'⟩ := findMatchingDevice_eq_some hf
      rw [hu src id d' d t' t hl' hl ha' ha]

/-- The order of the map's entries makes no difference. -/
theorem findMatchingDevice_order {targets : Targets} (hu : UniqueMatch targets)
    (order order' : List DeviceId) (src : BacnetAddress) (id : UInt8) :
    findMatchingDevice order targets src id = findMatchingDevice order' targets src id := by
  cases hf : findMatchingDevice order' targets src id with
  | none => exact findMatchingDevice_eq_none.mpr (findMatchingDevice_eq_none.mp hf)
  | some d =>
      obtain ⟨t, hl, ha⟩ := findMatchingDevice_eq_some hf
      exact findMatchingDevice_of_unique hu order hl ha

/-! ### The condition on a step -/

/-- The invoke id that a request to the device gets now: the next unused one, or 0 when the
request cannot go out. -/
def sendId (s : Stack) (d : DeviceId) (args : ReadArgs) : UInt8 :=
  if SendReady s d args then s.tsm.nextUnused else 0

theorem SendEffect.eq_sendId {s s' : Stack} {d : DeviceId} {args : ReadArgs} {id : UInt8}
    {frame : Option (BacnetIpAddress × List UInt8)} (h : SendEffect env s d args s' id frame) :
    id = sendId s d args := by
  cases h with
  | failed tsm hn _ _ => exact (if_neg hn).symm
  | sent m dest i hready _ _ => exact (if_pos hready).symm

/-- A request is sent with an id that no other device at a matching address has in its
entry. -/
def Distinguished (s : Sys) (e : Event) : Prop :=
  match e with
  | .send _ d args =>
    s.stack.poisoned = false →
      ∀ d' ∈ s.stack.targets.keys, d' ≠ d →
        ∀ t ∈ s.stack.targets.lookup d, ∀ t' ∈ s.stack.targets.lookup d',
          addressMatch t.addr t'.addr = true →
          t'.request.map Prod.fst ≠ some (sendId s.stack d args)
  | _ => True

instance (s : Sys) (e : Event) : Decidable (Distinguished s e) :=
  -- The keys are gone through one by one, not all the device ids there are.
  haveI := List.decidableBAll (α := DeviceId)
  match e with
  | .send _ d _ => inferInstanceAs (Decidable (_ → ∀ d' ∈ s.stack.targets.keys, d' ≠ d →
      ∀ t ∈ s.stack.targets.lookup d, ∀ t' ∈ s.stack.targets.lookup d', _ → _))
  | .connect .. | .disconnect .. | .receive .. | .poll .. | .extract .. | .whoisStart ..
  | .whoisClose .. | .whoisDrain .. => instDecidableTrue

/-! ### The invariant -/

/-- An entry that awaits something after a step awaited it before, or it is the one the step
sends a request to. -/
theorem awaits_cases (hs : Step env s e s' o) {d : DeviceId} {t' : TargetDevice}
    {src : BacnetAddress} {id : UInt8} (hl' : s'.stack.targets.lookup d = some t')
    (ha' : t'.awaits src id = true) :
    (∃ t, s.stack.targets.lookup d = some t ∧ t.awaits src id = true ∧ ¬ SentTo d e o) ∨
      ∃ u args frame t, e = .send u d args ∧ o = .sent id frame ∧
        s.stack.targets.lookup d = some t ∧ addressMatch t.addr src = true := by
  obtain ⟨hmatch, status, hreq⟩ := TargetDevice.awaits_iff.mp ha'
  have hentry := entry_cases hs d
  rw [hl'] at hentry
  cases hentry with
  | same entry hl hno => exact Or.inl ⟨t', hl, ha', hno⟩
  | connected u b addr he hd ho => cases hreq
  | sent u args t id' frame he ho hl =>
      cases hreq
      exact Or.inr ⟨u, args, frame, t, he, ho, hl, hmatch⟩
  | replied u arrival src' a id' f t he ha hr hf hm hl =>
      obtain ⟨t₁, hl₁, haw⟩ := findMatchingDevice_eq_some hm
      rw [hl] at hl₁
      cases hl₁
      obtain ⟨-, status₁, hr₁⟩ := TargetDevice.awaits_iff.mp haw
      obtain ⟨ans, -, hans⟩ := answered_of_update hf hr
      obtain ⟨status', hreq', -, -⟩ := (hans t).request
      rw [hreq] at hreq'
      cases hreq'
      rw [(hans t).addr] at hmatch
      refine Or.inl ⟨t, hl, TargetDevice.awaits_iff.mpr ⟨hmatch, status₁, hr₁⟩, fun hsent => ?_⟩
      obtain ⟨u', args, id', frame, he', -⟩ := hsent
      rw [he] at he'
      cases he'
  | taken u call t value he hth hpc hd hl => cases hreq

/-- No other device matches what the step sends a request for. -/
theorem not_awaits_of_distinguished (hP : Distinguished s e) (hs : Step env s e s' o) {u : Nat}
    {args : ReadArgs} {d d' : DeviceId} {id : UInt8}
    {frame : Option (BacnetIpAddress × List UInt8)} {t t' : TargetDevice} {src : BacnetAddress}
    (he : e = .send u d args) (ho : o = .sent id frame)
    (hl : s.stack.targets.lookup d = some t) (hmatch : addressMatch t.addr src = true)
    (hne : d' ≠ d) (hl' : s.stack.targets.lookup d' = some t') : t'.awaits src id = false := by
  subst he ho
  cases hs with
  | send _ _ _ tgt stack _ _ hth hp hl₀ h =>
      rw [h.eq_sendId]
      have hkey : d' ∈ s.stack.targets.keys :=
        AList.lookup_isSome.mp (by rw [hl']; rfl)
      by_contra haw
      rw [Bool.not_eq_false] at haw
      obtain ⟨hmatch', status, hreq⟩ := TargetDevice.awaits_iff.mp haw
      have hboth := addressMatch_trans hmatch (addressMatch_symm hmatch')
      refine hP hp d' hkey hne t hl t' hl' hboth ?_
      rw [hreq, Option.map_some]

theorem uniqueMatch_step (hu : UniqueMatch s.stack.targets) (hP : Distinguished s e)
    (hs : Step env s e s' o) : UniqueMatch s'.stack.targets := by
  intro src id d₁ d₂ t₁ t₂ hl₁ hl₂ ha₁ ha₂
  rcases awaits_cases hs hl₁ ha₁ with ⟨u₁, h₁, hw₁, -⟩ | ⟨u, args, frame, u₁, he, ho, h₁, hm₁⟩
  · rcases awaits_cases hs hl₂ ha₂ with ⟨u₂, h₂, hw₂, -⟩ | ⟨u, args, frame, u₂, he, ho, h₂, hm₂⟩
    · exact hu src id d₁ d₂ u₁ u₂ h₁ h₂ hw₁ hw₂
    · by_contra hne
      rw [not_awaits_of_distinguished hP hs he ho h₂ hm₂ hne h₁] at hw₁
      cases hw₁
  · rcases awaits_cases hs hl₂ ha₂ with ⟨u₂, h₂, hw₂, -⟩ | ⟨u', args', frame', u₂, he', ho', -, -⟩
    · by_contra hne
      rw [not_awaits_of_distinguished hP hs he ho h₁ hm₁ (Ne.symm hne) h₂] at hw₂
      cases hw₂
    · rw [he] at he'
      cases he'
      rfl

theorem uniqueMatch_init : UniqueMatch Sys.init.stack.targets :=
  fun _ _ _ _ _ _ h => by cases h

theorem uniqueMatch_run {s₀ : Sys} (hwf : s₀.Wf) (hu : UniqueMatch s₀.stack.targets)
    (hall : (client env).All Distinguished s₀ es)
    (hrun : (client env).run s₀ es = some (s, os)) : UniqueMatch s.stack.targets :=
  (invariant_run (I := fun s => UniqueMatch s.stack.targets) hwf hu hall hrun
    fun _ _ _ _ _ hu hP hs => uniqueMatch_step hu hP hs).2

/-! ### The device that is being read -/

/-- The entry of the device that the one thread reads has the request of its call. -/
def HoldsRequest (s : Sys) : Prop :=
  ∀ call, s.threads 0 = .reading call → ∃ t status,
    s.stack.targets.lookup call.deviceId = some t ∧
    t.request = some (call.requestInvokeId, status)

theorem holdsRequest_step (h : HoldsRequest s) (h0 : e.thread = 0) (hs : Step env s e s' o) :
    HoldsRequest s' := by
  intro call hth'
  rcases call_origin hs hth' with ⟨c, hc, hsame, -⟩ | ⟨frame, he, ho⟩
  · obtain ⟨t, status, hl, hr⟩ := h c hc
    have hth := hc
    rw [← h0] at hth
    have hevent := event_of_reading hs hth
    rw [hsame.1] at hl
    rw [hsame.2.2] at hr
    have hentry := entry_cases hs call.deviceId
    generalize hl' : s'.stack.targets.lookup call.deviceId = entry at hentry
    cases hentry with
    | same entry heq _ => exact ⟨t, status, by rw [← hl, heq], hr⟩
    | connected u b addr he _ _ =>
        subst he
        rcases hevent with ⟨_, he⟩ | ⟨_, he⟩ | he <;> cases he
    | sent u args tgt id frame he _ _ =>
        subst he
        rcases hevent with ⟨_, he⟩ | ⟨_, he⟩ | he <;> cases he
    | replied u arrival src a id f tgt he ha hrel hf hm hl₀ =>
        obtain ⟨t₁, hl₁, haw⟩ := findMatchingDevice_eq_some hm
        rw [hl] at hl₁
        cases hl₁
        rw [hl] at hl₀
        cases hl₀
        obtain ⟨-, status₁, hr₁⟩ := TargetDevice.awaits_iff.mp haw
        rw [hr, Option.some.injEq, Prod.mk.injEq] at hr₁
        obtain ⟨ans, -, hans⟩ := answered_of_update hf hrel
        obtain ⟨status', hr', -, -⟩ := (hans t).request
        exact ⟨_, status', rfl, by rw [hr', hr₁.1]⟩
    | taken u call' tgt value he hth₁ hpc hd hl₀ =>
        subst he
        replace h0 : u = 0 := h0
        subst h0
        rw [idle_of_extract hs] at hth'
        cases hth'
  · subst he ho
    cases hs with
    | send _ _ _ tgt stack _ _ hth hp hl h =>
        exact ⟨_, .ongoing, Stack.lookup_setTarget_self _ _ _, rfl⟩

theorem holdsRequest_run (hsolo : SingleThreaded es)
    (hrun : (client env).run .init es = some (s, os)) : HoldsRequest s :=
  (invariant_run (I := HoldsRequest) Sys.wf_init (fun call h => by cases h)
    (Machine.All.of_mem hsolo Sys.init) hrun
    fun _ _ _ _ _ h h0 hs => holdsRequest_step h h0 hs).2

/-! ### Unique correlation -/

/-- If every request is sent with an id that no other device at a matching address has in
its entry, at most one tracked device matches a source and an invoke id; the entry that a
reply completes does not depend on the order of the map; and in a client of one thread it is
the entry of the device being read, for a reply from there with the id of the call. -/
theorem uniqueMatch_of_distinguished (hall : (client env).All Distinguished .init es)
    (hrun : (client env).run .init es = some (s, os)) :
    UniqueMatch s.stack.targets ∧
    (∀ order order' src id, findMatchingDevice order s.stack.targets src id =
      findMatchingDevice order' s.stack.targets src id) ∧
    (SingleThreaded es → ∀ call t order src, s.threads 0 = .reading call →
      s.stack.targets.lookup call.deviceId = some t → addressMatch t.addr src = true →
      findMatchingDevice order s.stack.targets src call.requestInvokeId =
        some call.deviceId) := by
  have hu := uniqueMatch_run Sys.wf_init uniqueMatch_init hall hrun
  refine ⟨hu, findMatchingDevice_order hu, fun hsolo call t order src hth hl hmatch => ?_⟩
  obtain ⟨t', status, hl', hreq⟩ := holdsRequest_run hsolo hrun call hth
  rw [hl] at hl'
  cases hl'
  exact findMatchingDevice_of_unique hu order hl
    (TargetDevice.awaits_iff.mpr ⟨hmatch, status, hreq⟩)

/-- Two devices at one endpoint, one read after the other. -/
def twinReads : List Event :=
  [.connect 0 (lanDevice 7 2), .connect 0 (lanDevice 8 2), .send 0 7 presentValue,
    .receive 0 silence, .poll 0 true, .send 0 8 presentValue]

theorem uniqueMatch_twinReads :
    ∃ s os, (client lan).run .init twinReads = some (s, os) ∧ UniqueMatch s.stack.targets ∧
      (∀ order order' src id, findMatchingDevice order s.stack.targets src id =
        findMatchingDevice order' s.stack.targets src id) ∧
      (SingleThreaded twinReads → ∀ call t order src, s.threads 0 = .reading call →
        s.stack.targets.lookup call.deviceId = some t → addressMatch t.addr src = true →
        findMatchingDevice order s.stack.targets src call.requestInvokeId =
          some call.deviceId) := by
  have hsome : ((client lan).run .init twinReads).any (fun _ => true) = true := by
    decide +kernel
  obtain ⟨s, os, hrun, -⟩ := Machine.exists_run hsome
  exact ⟨s, os, hrun, uniqueMatch_of_distinguished (by decide +kernel) hrun⟩

/-- The same two devices, disconnected: neither read can send, and both leave a request
with the id 0. -/
def unsentReads : List Event :=
  [.connect 0 (lanDevice 7 2), .connect 0 (lanDevice 8 2), .disconnect 0 7, .disconnect 0 8,
    .send 0 7 presentValue, .receive 0 silence, .poll 0 false, .send 0 8 presentValue]

/-- Both devices match a reply with the id 0, and which one takes it is up to the order of
the map. -/
theorem unsentReads_ambiguous :
    ∃ s os, (client lan).run .init unsentReads = some (s, os) ∧
      ¬ UniqueMatch s.stack.targets ∧
      findMatchingDevice [7] s.stack.targets (lanDevice 7 2).build 0 = some 7 ∧
      findMatchingDevice [8] s.stack.targets (lanDevice 7 2).build 0 = some 8 := by
  have hboth : ((client lan).run .init unsentReads).any (fun r => decide
      (findMatchingDevice [7] r.1.stack.targets (lanDevice 7 2).build 0 = some 7 ∧
        findMatchingDevice [8] r.1.stack.targets (lanDevice 7 2).build 0 = some 8)) = true := by
    decide +kernel
  obtain ⟨s, os, hrun, hp⟩ := Machine.exists_run hboth
  obtain ⟨h7, h8⟩ := of_decide_eq_true hp
  refine ⟨s, os, hrun, fun hu => ?_, h7, h8⟩
  have heq := findMatchingDevice_order hu [7] [8] (lanDevice 7 2).build 0
  rw [show findMatchingDevice [7] s.stack.targets (lanDevice 7 2).build 0 = some 7 from h7,
    show findMatchingDevice [8] s.stack.targets (lanDevice 7 2).build 0 = some 8 from h8] at heq
  cases heq

end Bacnet
