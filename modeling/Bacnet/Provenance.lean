import Bacnet.History

/-!
# Bacnet.Provenance

What a value that `read_prop_at` returns was decoded from: an acknowledgement of
ReadProperty with the call's invoke id, from the address tracked for its device, that
arrived after the call's own request. Nothing of the acknowledgement's echo of the object,
the property and the index is compared with the request.
-/

namespace Bacnet

open Bacnet.Lib

variable {env : Env} {s s' : Sys} {e : Event} {o : Output} {es : List Event} {os : List Output}

/-- The errors of decoding an acknowledgement. -/
def Error.isDecoding : Error → Bool
  | .failedToDecodeData => true
  | .decodingError => true
  | .unhandledTypeTag _ _ => true
  | _ => false

/-- A value, or an error of decoding one. -/
def Decoded : Result BACnetValue → Prop
  | .ok _ => True
  | .error err => err.isDecoding = true

theorem decoded_decodeReply (request : Mem) (len : Nat) : Decoded (decodeReply request len) := by
  cases hr : decodeReply request len with
  | ok v => trivial
  | error err =>
      rcases decodeReply_error hr with rfl | rfl | ⟨name, tag, rfl⟩ <;> rfl

theorem not_decoded_bacnetError (err : BACnetErr) : ¬ Decoded (.error (.bacnetError err)) :=
  Bool.false_ne_true

/-- Only an acknowledgement says something decoded, and it never says
`NoValueWasExtracted`. -/
theorem ack_of_answer {a : Apdu} {r : Result BACnetValue} (h : a.answer = some r) :
    (Decoded r ∧ ∃ id request len, a = .complexAck id serviceConfirmedReadProperty request len ∧
      decodeReply request len = r) ∨ (¬ Decoded r ∧ ∃ err, r = .error (.bacnetError err)) := by
  cases a with
  | ignored => cases h
  | iAm request => cases h
  | simpleAck id => cases h
  | segmentAck => cases h
  | complexAck id service request len =>
      simp only [Apdu.answer] at h
      split at h
      · rename_i hs
        cases h
        exact Or.inl ⟨decoded_decodeReply request len, id, request, len, by rw [hs], rfl⟩
      · cases h
  | error id service cls code =>
      simp only [Apdu.answer] at h
      split at h
      · cases h
        exact Or.inr ⟨not_decoded_bacnetError _, _, rfl⟩
      · cases h
  | reject id reason =>
      cases h
      exact Or.inr ⟨not_decoded_bacnetError _, _, rfl⟩
  | abort id reason =>
      cases h
      exact Or.inr ⟨not_decoded_bacnetError _, _, rfl⟩

/-- What the running call `call` of thread `t` extracts after the events `es` was decoded
from an acknowledgement of its own request. -/
structure FromAck (env : Env) (es : List Event) (t : Nat) (call : ReadCall)
    (r : Result BACnetValue) (i j : Nat) (src : BacnetAddress) (request : Mem) (len : Nat) :
    Prop where
  started : CallAt env es t call i
  later : i < j
  reply : ReplyAt env es call.deviceId call.requestInvokeId r j src
    (.complexAck call.requestInvokeId serviceConfirmedReadProperty request len)
  decoded : decodeReply request len = r

theorem fromAck_of_extract (hex : (client env).All Exclusive .init es)
    (hrun : (client env).run .init es = some (s, os)) {t : Nat} {call : ReadCall}
    (hth : s.threads t = .reading call) {tgt : TargetDevice} {r : Result BACnetValue}
    (hl : s.stack.targets.lookup call.deviceId = some tgt) (hr : tgt.report = some r)
    (hdec : Decoded r) : ∃ i j src request len, FromAck env es t call r i j src request len := by
  obtain ⟨i, hown⟩ := ownAt_run hex hrun hth
  obtain ⟨j, src, a, hij, hreply⟩ := provenance hrun hown hl hr
  rcases ack_of_answer hreply.answer with ⟨-, id, request, len, rfl, hd⟩ | ⟨hno, -⟩
  · have hid : id = call.requestInvokeId := Option.some.inj hreply.releases
    subst hid
    exact ⟨i, j, src, request, len, hown.1, hij, hreply, hd⟩
  · exact absurd hdec hno

/-- Something decoded is returned by an extraction. -/
theorem extract_of_decoded {r : Result BACnetValue} (hs : Step env s e s' (.returned r))
    (hdec : Decoded r) : ∃ t call tgt, e = .extract t ∧ s.threads t = .reading call ∧
      s.stack.targets.lookup call.deviceId = some tgt ∧ tgt.report = some r := by
  cases return_cases hs with
  | unknown t d args he hl hr =>
      subst hr
      cases hdec
  | failed t elapsed call he hth hid hav hr =>
      subst hr
      cases hdec
  | elapsed t call he hth hres hr =>
      subst hr
      cases hdec
  | extracted t call tgt he hth hpc hl hr => exact ⟨t, call, tgt, he, hth, hl, hr⟩

theorem fromAck_at (hex : (client env).All Exclusive .init es) {k : Nat}
    {r : Result BACnetValue} (hat : (client env).At .init es k s e (.returned r) s')
    (hdec : Decoded r) : ∃ t call i j src request len, e = .extract t ∧
      s.threads t = .reading call ∧ FromAck env (es.take k) t call r i j src request len := by
  obtain ⟨os₁, hrun₁⟩ := hat.before
  obtain ⟨t, call, tgt, he, hth, hl, hr⟩ :=
    extract_of_decoded (step_cases (wf_run hrun₁).tsm hat.step) hdec
  rw [← List.take_append_drop k es] at hex
  obtain ⟨i, j, src, request, len, hack⟩ :=
    fromAck_of_extract hex.append_left hrun₁ hth hl hr hdec
  exact ⟨t, call, i, j, src, request, len, he, hth, hack⟩

/-! ### Values -/

/-- As long as no request is sent to a device that another call is reading, every value
that a call returns was decoded from an acknowledgement of ReadProperty that carries the
invoke id the call obtained, came from the address tracked for the device, and arrived
after the call's request was sent. -/
theorem ok_fromAck (hex : (client env).All Exclusive .init es) {k : Nat} {v : BACnetValue}
    (hat : (client env).At .init es k s e (.returned (.ok v)) s') :
    ∃ t call i j src request len data, e = .extract t ∧ s.threads t = .reading call ∧
      FromAck env (es.take k) t call (.ok v) i j src request len ∧
      rpAckDecodeServiceRequest request len = some data ∧ decodeData data = .ok v := by
  obtain ⟨t, call, i, j, src, request, len, he, hth, hack⟩ := fromAck_at hex hat trivial
  have hdec := hack.decoded
  unfold decodeReply at hdec
  cases hd : rpAckDecodeServiceRequest request len with
  | none =>
      rw [hd] at hdec
      cases hdec
  | some data =>
      rw [hd] at hdec
      exact ⟨t, call, i, j, src, request, len, data, he, hth, hack, hd, hdec⟩

/-- A call that returns a number with the last event of a run. -/
theorem at_of_isUint {t : Nat} {n : UInt64}
    (h : ((client env).run .init (es ++ [.extract t])).any
      (fun r => r.2.getLast?.any (Output.isUint n)) = true) :
    ∃ s s', (client env).At .init (es ++ [.extract t]) es.length s (.extract t)
      (.returned (.ok (.uint n))) s' := by
  obtain ⟨s, o, s', hat, ho⟩ := Machine.exists_at h
  rw [Output.isUint_iff] at ho
  subst ho
  exact ⟨s, s', hat⟩

/-- A read up to its last step: its device answers with `ack`. -/
def answeredWith (ack : List UInt8) : List Event :=
  [.connect 0 (lanDevice 7 2), .send 0 7 presentValue, .receive 0 (lanMessage 2 ack),
    .poll 0 false]

theorem ok_fromAck_answeredWith :
    ∃ s s', (client lan).At .init (answeredWith (presentValueAck 1 0 42) ++ [Event.extract 0]) 4
        s (.extract 0) (.returned (.ok (.uint 42))) s' ∧
      ∃ t call i j src request len data, Event.extract 0 = .extract t ∧
        s.threads t = .reading call ∧
        FromAck lan ((answeredWith (presentValueAck 1 0 42) ++ [Event.extract 0]).take 4) t call
          (.ok (.uint 42)) i j src request len ∧
        rpAckDecodeServiceRequest request len = some data ∧ decodeData data = .ok (.uint 42) := by
  have hreturns : ((client lan).run .init
      (answeredWith (presentValueAck 1 0 42) ++ [Event.extract 0])).any
      (fun r => r.2.getLast?.any (Output.isUint 42)) = true := by decide +kernel
  obtain ⟨s', os, hrun, -⟩ := Machine.exists_run hreturns
  obtain ⟨s, s', hat⟩ := at_of_isUint hreturns
  exact ⟨s, s', hat, ok_fromAck (all_exclusive_of_solo (by decide) hrun) hat⟩

/-- An acknowledgement for analog input 5, which says that it is a segment of a longer one. -/
def foreignAck : List UInt8 :=
  [0x38, 1, 0, 1, 12, 0x0c, 0, 0, 0, 5, 0x19, 85, 0x3e, 0x21, 42, 0x3f]

/-- The APDU is an acknowledgement that names this object. -/
def Apdu.echoes (objectInstance : UInt32) : Apdu → Bool
  | complexAck _ _ request len =>
    (rpAckDecodeServiceRequest request len).any (·.objectInstance == objectInstance)
  | _ => false

/-- The segment answers the read of object 0: its value is returned, and every
acknowledgement that it can come from names another object than was asked for. -/
theorem foreignAck_returned :
    ∃ s s', (client lan).At .init (answeredWith foreignAck ++ [Event.extract 0]) 4 s
        (.extract 0) (.returned (.ok (.uint 42))) s' ∧
      ∀ t call i j src request len data,
        FromAck lan (answeredWith foreignAck) t call (.ok (.uint 42)) i j src request len →
        rpAckDecodeServiceRequest request len = some data →
        data.objectInstance ≠ call.args.objectInstance := by
  have hreturns : ((client lan).run .init (answeredWith foreignAck ++ [Event.extract 0])).any
      (fun r => r.2.getLast?.any (Output.isUint 42)) = true := by decide +kernel
  have hechoes : (client lan).All (fun s e => ∀ r ∈ arriving lan s e, r.2.echoes 5 = true) .init
      (answeredWith foreignAck) := by decide +kernel
  obtain ⟨s, s', hat⟩ := at_of_isUint hreturns
  refine ⟨s, s', hat, fun t call i j src request len data hack hdata => ?_⟩
  obtain ⟨⟨s₁, e₁, o₁, s₁', tgt, hat₁, harr, -⟩, -, -⟩ := hack.reply
  have hobject := hechoes.at_step hat₁ _ harr
  rw [Apdu.echoes, hdata, Option.any_some, beq_iff_eq] at hobject
  obtain ⟨s₂, frame, s₂', hlast⟩ := hack.started
  have hargs : call.args = presentValue := by
    have hmem := List.mem_of_getElem? hlast.event
    simp only [answeredWith, List.mem_cons, List.not_mem_nil, or_false, reduceCtorEq, false_or,
      Event.send.injEq] at hmem
    exact hmem.2.2
  rw [hobject, hargs]
  decide

/-- Two threads read one device up to the extraction of the first, whose request the second
has overwritten. -/
def sharedAnswers : List Event :=
  [.connect 0 (lanDevice 7 2), .send 0 7 presentValue, .send 1 7 presentValue,
    .receive 0 (lanMessage 2 (presentValueAck 1 0 42)), .poll 0 false,
    .receive 1 (lanMessage 2 (presentValueAck 2 0 43))]

/-- The first thread returns what the second was told, which no acknowledgement with the
first one's invoke id said. -/
theorem sharedAnswers_returned :
    ∃ s s', (client lan).At .init (sharedAnswers ++ [Event.extract 0]) 6 s (.extract 0)
        (.returned (.ok (.uint 43))) s' ∧
      ∀ call i j src request len, s.threads 0 = .reading call →
        ¬ FromAck lan sharedAnswers 0 call (.ok (.uint 43)) i j src request len := by
  have hreturns : ((client lan).run .init (sharedAnswers ++ [Event.extract 0])).any
      (fun r => r.2.getLast?.any (Output.isUint 43)) = true := by decide +kernel
  have hid : ((client lan).run .init sharedAnswers).any
      (fun r => (r.1.threads 0).call?.any (·.requestInvokeId == 1)) = true := by decide +kernel
  have hsays : (client lan).All (fun s e => ∀ r ∈ arriving lan s e,
      r.2.releases = some 1 → r.2.answer.any (fun v => (Output.returned v).isUint 43) = false)
      .init sharedAnswers := by decide +kernel
  obtain ⟨s, s', hat⟩ := at_of_isUint hreturns
  refine ⟨s, s', hat, fun call i j src request len hth hack => ?_⟩
  obtain ⟨os₁, hbefore⟩ := hat.before
  obtain ⟨⟨s₁, e₁, o₁, s₁', tgt, hat₁, harr, -⟩, hrel, hans⟩ := hack.reply
  rw [List.take_left] at hbefore
  rw [hbefore, Option.any_some] at hid
  rw [show (s, os₁).1.threads 0 = .reading call from hth, Thread.call?, Option.any_some,
    beq_iff_eq] at hid
  have hnot := hsays.at_step hat₁ _ harr (by rw [hrel, hid])
  rw [hans] at hnot
  cases hnot

/-! ### Freshness -/

/-- No call returns `NoValueWasExtracted`: what an entry reports, a reply said. -/
theorem not_noValueWasExtracted {k : Nat}
    (hat : (client env).At .init es k s e (.returned (.error .noValueWasExtracted)) s') :
    False := by
  obtain ⟨os₁, hrun₁⟩ := hat.before
  cases return_cases (step_cases (wf_run hrun₁).tsm hat.step) with
  | unknown t d args he hl hr => cases hr
  | failed t elapsed call he hth hid hav hr => cases hr
  | elapsed t call he hth hres hr => cases hr
  | extracted t call tgt he hth hpc hl hr =>
      have hsome : tgt.report.isSome = true := by rw [hr]; rfl
      obtain ⟨id, status, hreq, -⟩ := report_isSome_iff.mp hsome
      obtain ⟨i, -, hans⟩ := requestAt_run hrun₁ hl hreq
      obtain ⟨j, src, a, -, hreply⟩ := hans _ hr
      rcases ack_of_answer hreply.answer with ⟨hdec, -⟩ | ⟨-, err, herr⟩
      · cases hdec
      · cases herr

/-- In a client of one thread every value and every decoding error that a call returns was
stored by an acknowledgement that arrived after the call's own request was sent. A request
that is done has a value, and no call returns `NoValueWasExtracted`. -/
theorem fresh_of_solo (hsolo : SingleThreaded es)
    (hrun : (client env).run .init es = some (s, os)) :
    (∀ k s₁ e r s₂, (client env).At .init es k s₁ e (.returned r) s₂ → Decoded r →
      ∃ t call i j src request len, e = .extract t ∧ s₁.threads t = .reading call ∧
        FromAck env (es.take k) t call r i j src request len) ∧
    (∀ d tgt id, s.stack.targets.lookup d = some tgt → tgt.request = some (id, .done) →
      tgt.value.isSome = true) ∧
    ∀ k s₁ e s₂, ¬ (client env).At .init es k s₁ e (.returned (.error .noValueWasExtracted)) s₂ :=
  ⟨fun _ _ _ _ _ hat hdec => fromAck_at (all_exclusive_of_solo hsolo hrun) hat hdec,
    (wf_run hrun).valued, fun _ _ _ _ hat => not_noValueWasExtracted hat⟩

/-- A read that times out, and a second one that takes in the late acknowledgement of the
first before its own. -/
def lateAckRead : List Event :=
  [.connect 0 (lanDevice 7 2), .send 0 7 presentValue, .receive 0 silence, .poll 0 true,
    .send 0 7 presentValue, .receive 0 (lanMessage 2 (presentValueAck 1 0 41)), .poll 0 false,
    .receive 0 (lanMessage 2 (presentValueAck 2 0 42)), .poll 0 false, .extract 0]

theorem fresh_lateAckRead :
    ∃ s os, (client lan).run .init lateAckRead = some (s, os) ∧
      os.getLast? = some (.returned (.ok (.uint 42))) ∧
      (∀ k s₁ e r s₂, (client lan).At .init lateAckRead k s₁ e (.returned r) s₂ → Decoded r →
        ∃ t call i j src request len, e = .extract t ∧ s₁.threads t = .reading call ∧
          FromAck lan (lateAckRead.take k) t call r i j src request len) ∧
      (∀ d tgt id, s.stack.targets.lookup d = some tgt → tgt.request = some (id, .done) →
        tgt.value.isSome = true) ∧
      ∀ k s₁ e s₂,
        ¬ (client lan).At .init lateAckRead k s₁ e (.returned (.error .noValueWasExtracted)) s₂ := by
  have hreturns : ((client lan).run .init lateAckRead).any
      (fun r => r.2.getLast?.any (Output.isUint 42)) = true := by decide +kernel
  obtain ⟨s, os, hrun, hos⟩ := Machine.exists_run hreturns
  obtain ⟨o, hlast, ho⟩ := (Option.any_eq_true _ _).mp hos
  rw [Output.isUint_iff] at ho
  subst ho
  exact ⟨s, os, hrun, hlast, fresh_of_solo (by decide) hrun⟩

end Bacnet
