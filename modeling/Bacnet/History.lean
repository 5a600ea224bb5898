import Bacnet.Invariants

/-!
# Bacnet.History

Where the results of reads come from. In every run, whatever the threads do and whatever
arrives:

* the request in an entry goes back to the last request sent to the device, and what the
  entry reports was said by a reply, later than that, with the id of the request and from
  the address tracked for the device (`requestAt_run`);
* a call whose device no request is sent to in the meantime goes back to the step that sent its
  own (`ownAt_run`).
-/

namespace Bacnet

open Bacnet.Lib

variable {env : Env} {s s' : Sys} {e : Event} {o : Output} {es : List Event} {os : List Output}

/-- The call of the thread was started at position `i`, and the thread has sent nothing
since. -/
def CallAt (env : Env) (es : List Event) (t : Nat) (call : ReadCall) (i : Nat) : Prop :=
  ∃ s frame s', (client env).Latest (SentBy t) .init es i s (.send t call.deviceId call.args)
    (.sent call.requestInvokeId frame) s'

/-- The last request to the device was sent at position `i`, with this id. -/
def RequestAt (env : Env) (es : List Event) (d : DeviceId) (id : UInt8) (i : Nat) : Prop :=
  ∃ s t args frame s', (client env).Latest (SentTo d) .init es i s (.send t d args)
    (.sent id frame) s'

/-- The reply `a` with this id arrives at position `j`, from the address tracked for the
device, and says `r`. -/
structure ReplyAt (env : Env) (es : List Event) (d : DeviceId) (id : UInt8)
    (r : Result BACnetValue) (j : Nat) (src : BacnetAddress) (a : Apdu) : Prop where
  arrives : ∃ s e o s' tgt, (client env).At .init es j s e o s' ∧
    arriving env s e = some (src, a) ∧ s.stack.targets.lookup d = some tgt ∧
    addressMatch tgt.addr src = true
  releases : a.releases = some id
  answer : a.answer = some r

theorem ReplyAt.append {d : DeviceId} {id : UInt8} {r : Result BACnetValue} {j : Nat}
    {src : BacnetAddress} {a : Apdu} (h : ReplyAt env es d id r j src a) (es' : List Event) :
    ReplyAt env (es ++ es') d id r j src a := by
  obtain ⟨⟨s, e, o, s', tgt, hat, harr, hl, hmatch⟩, hrel, hans⟩ := h
  exact ⟨⟨s, e, o, s', tgt, hat.append es', harr, hl, hmatch⟩, hrel, hans⟩

theorem ReplyAt.lt {d : DeviceId} {id : UInt8} {r : Result BACnetValue} {j : Nat}
    {src : BacnetAddress} {a : Apdu} (h : ReplyAt env es d id r j src a) : j < es.length := by
  obtain ⟨⟨s, e, o, s', tgt, hat, -⟩, -, -⟩ := h
  exact hat.lt

/-! ### Calls -/

theorem CallAt.keep {t : Nat} {call : ReadCall} {i : Nat} (h : CallAt env es t call i)
    (hrun : (client env).run .init es = some (s, os))
    (hs : (client env).step s e = some (s', o)) (hno : ¬ SentBy t e o) :
    CallAt env (es ++ [e]) t call i := by
  obtain ⟨s₁, frame, s₂, hlast⟩ := h
  exact ⟨s₁, frame, s₂, hlast.keep hrun hs hno⟩

theorem CallAt.congr {t : Nat} {c call : ReadCall} {i : Nat} (h : CallAt env es t c i)
    (hsame : c.Same call) : CallAt env es t call i := by
  obtain ⟨hd, ha, hid⟩ := hsame
  rw [CallAt, hd, ha, hid] at h
  exact h

theorem callAt_new (hrun : (client env).run .init es = some (s, os)) {t : Nat} {call : ReadCall}
    {frame : Option (BacnetIpAddress × List UInt8)}
    (hs : (client env).step s (.send t call.deviceId call.args) =
      some (s', .sent call.requestInvokeId frame)) :
    CallAt env (es ++ [.send t call.deviceId call.args]) t call es.length :=
  ⟨s, frame, s', Machine.Latest.new hrun hs ⟨_, _, _, frame, rfl, rfl⟩⟩

/-! ### Entries -/

/-- The request with this id goes back to the last one sent to the device, and what the
entry reports was said by a reply to it. -/
def Traced (env : Env) (es : List Event) (d : DeviceId) (tgt : TargetDevice) (id : UInt8) :
    Prop :=
  ∃ i, RequestAt env es d id i ∧ ∀ r, tgt.report = some r →
    ∃ j src a, i < j ∧ ReplyAt env es d id r j src a

theorem RequestAt.keep {d : DeviceId} {id : UInt8} {i : Nat} (h : RequestAt env es d id i)
    (hrun : (client env).run .init es = some (s, os))
    (hs : (client env).step s e = some (s', o)) (hno : ¬ SentTo d e o) :
    RequestAt env (es ++ [e]) d id i := by
  obtain ⟨s₁, t, args, frame, s₂, hlast⟩ := h
  exact ⟨s₁, t, args, frame, s₂, hlast.keep hrun hs hno⟩

theorem RequestAt.lt {d : DeviceId} {id : UInt8} {i : Nat} (h : RequestAt env es d id i) :
    i < es.length := by
  obtain ⟨s₁, t, args, frame, s₂, hlast⟩ := h
  exact hlast.lt

/-- The step lemma: what each step does to an entry keeps it traced. -/
theorem traced_step (hrun : (client env).run .init es = some (s, os))
    (ih : ∀ tgt id status, s.stack.targets.lookup d = some tgt →
      tgt.request = some (id, status) → Traced env es d tgt id)
    (hs : (client env).step s e = some (s', o)) {tgt' : TargetDevice} {id : UInt8}
    {status : RequestStatus} (hl' : s'.stack.targets.lookup d = some tgt')
    (hr' : tgt'.request = some (id, status)) : Traced env (es ++ [e]) d tgt' id := by
  have hentry := entry_cases (step_cases (wf_run hrun).tsm hs) d
  rw [hl'] at hentry
  cases hentry with
  | same entry hl hno =>
      obtain ⟨i, hreq, hans⟩ := ih tgt' id status hl hr'
      refine ⟨i, hreq.keep hrun hs hno, fun r hr => ?_⟩
      obtain ⟨j, src, a, hij, hreply⟩ := hans r hr
      exact ⟨j, src, a, hij, hreply.append [e]⟩
  | connected t b addr he hd ho => cases hr'
  | sent t args tgt id' frame he ho hl =>
      cases hr'
      subst he ho
      have hlast := Machine.Latest.new (Q := SentTo d) hrun hs ⟨t, args, id, frame, rfl, rfl⟩
      exact ⟨es.length, ⟨s, t, args, frame, s', hlast⟩, fun r hr => nomatch hr⟩
  | replied t arrival src a id' f tgt he ha hrel hf hm hl =>
      obtain ⟨tgt₁, hl₁, haw⟩ := findMatchingDevice_eq_some hm
      rw [hl] at hl₁
      cases hl₁
      obtain ⟨hmatch, status₁, hr₁⟩ := TargetDevice.awaits_iff.mp haw
      obtain ⟨ans, hanswer, hans⟩ := answered_of_update hf hrel
      obtain ⟨status', hreq', -, -⟩ := (hans tgt).request
      rw [hr'] at hreq'
      cases hreq'
      obtain ⟨i, hreq, -⟩ := ih tgt id status₁ hl hr₁
      refine ⟨i, hreq.keep hrun hs ?_, fun r hr => ?_⟩
      · intro hsent
        obtain ⟨t', args', id', frame', he', -⟩ := hsent
        rw [he] at he'
        cases he'
      · rw [(hans tgt).report] at hr
        cases hr
        have hat := Machine.At.last hrun hs
        exact ⟨es.length, src, a, hreq.lt, ⟨s, e, o, s', tgt, hat, ha, hl, hmatch⟩, hrel, hanswer⟩
  | taken t call tgt value he hth hpc hd hl => cases hr'

/-- In every reachable state the requests are traced. -/
theorem requestAt_run (hrun : (client env).run .init es = some (s, os)) {d : DeviceId}
    {tgt : TargetDevice} {id : UInt8} {status : RequestStatus}
    (hl : s.stack.targets.lookup d = some tgt) (hr : tgt.request = some (id, status)) :
    Traced env es d tgt id :=
  Machine.run_history
    (motive := fun es _ s => ∀ tgt id status, s.stack.targets.lookup d = some tgt →
      tgt.request = some (id, status) → Traced env es d tgt id)
    (P := fun _ _ => True) (fun _ _ _ h => by cases h)
    (fun _ _ _ _ _ _ hrun ih _ hs _ _ _ => traced_step hrun ih hs)
    (all_true es) hrun tgt id status hl hr

theorem RequestAt.unique {d : DeviceId} {id id' : UInt8} {i i' : Nat}
    (h : RequestAt env es d id i) (h' : RequestAt env es d id' i') : i = i' ∧ id = id' := by
  obtain ⟨s₁, t, args, frame, s₂, hlast⟩ := h
  obtain ⟨s₁', t', args', frame', s₂', hlast'⟩ := h'
  have hi := hlast.unique hlast'
  subst hi
  obtain ⟨-, -, ho, -⟩ := hlast.toAt.unique hlast'.toAt
  exact ⟨rfl, (Output.sent.inj ho).1⟩

/-! ### A call and the entry it reads -/

/-- No request is sent to a device that a running call reads. -/
def Exclusive (s : Sys) (e : Event) : Prop :=
  ∀ t call, s.threads t = .reading call → ∀ u args, e ≠ .send u call.deviceId args

/-- The call was started at position `i`, and no request went to its device since. -/
def OwnAt (env : Env) (es : List Event) (t : Nat) (call : ReadCall) (i : Nat) : Prop :=
  CallAt env es t call i ∧ RequestAt env es call.deviceId call.requestInvokeId i

theorem ownAt_run (hall : (client env).All Exclusive .init es)
    (hrun : (client env).run .init es = some (s, os)) {t : Nat} {call : ReadCall}
    (hth : s.threads t = .reading call) : ∃ i, OwnAt env es t call i := by
  refine Machine.run_history
    (motive := fun es _ s => ∀ call, s.threads t = .reading call → ∃ i, OwnAt env es t call i)
    (fun _ h => by cases h) ?_ hall hrun call hth
  intro es os s e s' o hrun ih hex hs call hth'
  rcases call_origin (step_cases (wf_run hrun).tsm hs) hth' with ⟨c, hc, hsame, hno⟩ | ⟨frame, he, ho⟩
  · obtain ⟨i, hcall, hreq⟩ := ih c hc
    have hnot : ¬ SentTo c.deviceId e o := by
      intro hsent
      obtain ⟨u, args, id, frame, he, -⟩ := hsent
      exact hex t c hc u args he
    have hreq' := hreq.keep hrun hs hnot
    rw [hsame.1, hsame.2.2] at hreq'
    exact ⟨i, (hcall.keep hrun hs hno).congr hsame, hreq'⟩
  · subst he ho
    refine ⟨es.length, callAt_new hrun hs, s, t, call.args, frame, s', ?_⟩
    exact Machine.Latest.new hrun hs ⟨_, _, _, _, rfl, rfl⟩

/-- With one thread no request is sent while a call is running. -/
theorem all_exclusive_of_solo (hsolo : SingleThreaded es)
    (hrun : (client env).run .init es = some (s, os)) :
    (client env).All Exclusive .init es := by
  refine Machine.all_iff.mpr fun es₁ e es₂ m hes hrun₁ t call hth u args he => ?_
  have hmem : ∀ f ∈ es₁, f.thread < 1 := by
    intro f hf
    rw [hsolo f (by rw [hes]; exact List.mem_append_left _ hf)]
    exact Nat.one_pos
  have hu : u = 0 := by
    have h0 := hsolo e (by rw [hes]; exact List.mem_append_right _ List.mem_cons_self)
    rw [he] at h0
    exact h0
  have ht : t = 0 := by
    by_contra hne
    rw [idle_run hmem hrun₁ (by omega)] at hth
    cases hth
  rw [hes] at hrun
  obtain ⟨m', hm', os', hrest, -⟩ := (Machine.run_append _).mp hrun
  obtain ⟨r, hr, -⟩ := (Machine.run_cons _).mp hrest
  rw [hrun₁, Option.some.injEq] at hm'
  subst hm' he hu ht
  exact not_reading_of_send (step_cases (wf_run hrun₁).tsm hr) hth

/-- **Provenance.** What a call that owns its entry extracts was said by a reply with the
call's invoke id, from the address tracked for its device, that arrived after the call's
request was sent. -/
theorem provenance (hrun : (client env).run .init es = some (s, os)) {t : Nat} {call : ReadCall}
    {i : Nat} (hown : OwnAt env es t call i) {tgt : TargetDevice} {r : Result BACnetValue}
    (hl : s.stack.targets.lookup call.deviceId = some tgt) (hr : tgt.report = some r) :
    ∃ j src a, i < j ∧ ReplyAt env es call.deviceId call.requestInvokeId r j src a := by
  have hsome : tgt.report.isSome = true := by rw [hr]; rfl
  obtain ⟨id, status, hreq, -⟩ := report_isSome_iff.mp hsome
  obtain ⟨i', hat, hans⟩ := requestAt_run hrun hl hreq
  obtain ⟨rfl, rfl⟩ := hown.2.unique hat
  exact hans r hr

end Bacnet
