import Bacnet.Correlation
import Bacnet.Tags

/-!
# Bacnet.NegativeReplies

Error, Reject and Abort PDUs, from the octets to what `read_prop_at` returns.

What such a PDU says is `Says`, with no reference to the decoder. `apdu_handler` decodes
the two enumerateds of an Error PDU without looking at their tags, and what the PDU is too
short for stays 0, so a call may return a class or a code that nobody sent.
-/

namespace Bacnet

open Bacnet.Lib

variable {env : Env} {s : Sys} {t u : Nat} {call : ReadCall} {tgt : TargetDevice}

/-! ### What the octets say -/

/-- What is negative in a reply, without the texts. -/
inductive Negative where
  | error (errorClass errorCode : UInt32)
  | rejected (reason : UInt8)
  | aborted (reason : UInt8)
  deriving DecidableEq

/-- The octets behind the service choice of an Error PDU: two enumerateds of at most 4
octets. -/
inductive ErrorBody : List UInt8 → UInt32 → UInt32 → Prop
  | mk {classOctets codeOctets : List UInt8} {errorClass errorCode : UInt32} (rest : List UInt8)
      (hclass : NumberField 9 4 classOctets errorClass.toNat)
      (hcode : NumberField 9 4 codeOctets errorCode.toNat) :
      ErrorBody (classOctets ++ (codeOctets ++ rest)) errorClass errorCode

/-- The octets are a negative reply with the invoke id, which says this. -/
inductive Says (id : UInt8) : List UInt8 → Negative → Prop
  | error {h : UInt8} {body : List UInt8} {errorClass errorCode : UInt32} (service : UInt8)
      (ht : h &&& 0xF0 = 0x50) (hbody : ErrorBody body errorClass errorCode) :
      Says id (h :: id :: service :: body) (.error errorClass errorCode)
  | reject {h : UInt8} (reason : UInt8) (rest : List UInt8) (ht : h &&& 0xF0 = 0x60) :
      Says id (h :: id :: reason :: rest) (.rejected reason)
  | abort {h : UInt8} (reason : UInt8) (rest : List UInt8) (ht : h &&& 0xF0 = 0x70) :
      Says id (h :: id :: reason :: rest) (.aborted reason)

/-- The octets of an Error, Reject or Abort PDU with the invoke id, whatever an Error PDU
has behind its service choice. -/
inductive NegativePdu (id : UInt8) : List UInt8 → Prop
  | error {h : UInt8} (service : UInt8) (body : List UInt8) (ht : h &&& 0xF0 = 0x50) :
      NegativePdu id (h :: id :: service :: body)
  | reject {h : UInt8} (reason : UInt8) (rest : List UInt8) (ht : h &&& 0xF0 = 0x60) :
      NegativePdu id (h :: id :: reason :: rest)
  | abort {h : UInt8} (reason : UInt8) (rest : List UInt8) (ht : h &&& 0xF0 = 0x70) :
      NegativePdu id (h :: id :: reason :: rest)

/-- What an error says, without the texts. -/
def BACnetErr.negative : BACnetErr → Negative
  | .rejected code => .rejected code
  | .aborted _ code => .aborted code
  | .error _ errorClass _ code => .error errorClass code

/-- The negative reply that a call has returned, if it has returned one. -/
def Output.negative : Output → Option Negative
  | returned (.error (.bacnetError e)) => some e.negative
  | _ => none

/-! ### What the decoder makes of them -/

/-- A class and a code that are there in full are decoded. -/
theorem ErrorBody.decode {body : List UInt8} {errorClass errorCode : UInt32}
    (h : ErrorBody body errorClass errorCode) {m : Mem} (hm : (m.shift 3).Holds body) :
    decodeErrorPair m (3 + body.length) serviceConfirmedReadProperty = (errorClass, errorCode) := by
  cases h with
  | @mk classOctets codeOctets _ _ rest hclass hcode =>
      obtain ⟨n, length, htag, hn, hvalue⟩ := hclass.decode (by decide) hm.left
      obtain ⟨n', length', htag', hn', hvalue'⟩ := hcode.decode (by decide) hm.right.left
      rw [Mem.shift_shift] at hvalue htag' hvalue'
      rw [Mem.shift_shift, ← Nat.add_assoc] at hvalue'
      have hclassEnd : 3 + n + (classOctets.length - n) = 3 + classOctets.length := by omega
      have hservice : ¬ (serviceConfirmedReadProperty = 18 ∧
          decodeIsOpeningTagNumber (m.shift 3) 0 = true) := by
        rintro ⟨h18, -⟩
        exact absurd h18 (by decide)
      unfold decodeErrorPair
      simp only [hservice, if_false, List.length_append, htag, decodeEnumerated_eq, hvalue,
        UInt32.ofNat_toNat, hclassEnd, htag', hvalue']
      rw [if_pos (by omega), if_pos (by omega), if_pos (by omega), if_pos (by omega)]

theorem decodeApdu_error {m : Mem} {apduLen : Nat} (h0 : m 0 &&& 0xF0 = 0x50)
    (hlen : 3 ≤ apduLen) :
    decodeApdu m apduLen = .error (m 1) (m 2) (decodeErrorPair m apduLen (m 2)).1
      (decodeErrorPair m apduLen (m 2)).2 := by
  simp [decodeApdu, h0, hlen]

theorem decodeApdu_reject {m : Mem} {apduLen : Nat} (h0 : m 0 &&& 0xF0 = 0x60)
    (hlen : 3 ≤ apduLen) : decodeApdu m apduLen = .reject (m 1) (m 2) := by
  simp [decodeApdu, h0, hlen]

theorem decodeApdu_abort {m : Mem} {apduLen : Nat} (h0 : m 0 &&& 0xF0 = 0x70)
    (hlen : 3 ≤ apduLen) : decodeApdu m apduLen = .abort (m 1) (m 2) := by
  simp [decodeApdu, h0, hlen]

/-- The three octets that every negative reply starts with. -/
theorem header_of_holds {m : Mem} {h id x : UInt8} {rest : List UInt8}
    (hm : m.Holds (h :: id :: x :: rest)) :
    m 0 = h ∧ m 1 = id ∧ m 2 = x ∧ (m.shift 3).Holds rest := by
  obtain ⟨h0, hm₁⟩ := Mem.holds_cons.mp hm
  obtain ⟨h1, hm₂⟩ := Mem.holds_cons.mp hm₁
  obtain ⟨h2, hm₃⟩ := Mem.holds_cons.mp hm₂
  rw [Mem.shift_shift, Mem.shift_shift] at hm₃
  exact ⟨h0, h1, h2, hm₃⟩

theorem length_header (h id x : UInt8) (rest : List UInt8) :
    (h :: id :: x :: rest).length = 3 + rest.length := by
  simp only [List.length_cons]
  omega

/-- A negative reply releases its invoke id, and is handled only if it is an answer. -/
theorem NegativePdu.decode {id : UInt8} {pdu : List UInt8} (h : NegativePdu id pdu) {m : Mem}
    (hm : m.Holds pdu) :
    (decodeApdu m pdu.length).releases = some id ∧
      ∀ f, (decodeApdu m pdu.length).update = some f → Answers id pdu := by
  cases h with
  | @error h service body ht =>
      obtain ⟨h0, h1, h2, -⟩ := header_of_holds hm
      rw [length_header, decodeApdu_error (h0 ▸ ht) (Nat.le_add_right 3 _)]
      refine ⟨congrArg some h1, fun f hf => ?_⟩
      have hservice : m 2 = serviceConfirmedReadProperty := by
        by_contra hne
        rw [Apdu.update, if_neg hne] at hf
        cases hf
      rw [h2] at hservice
      simp [Answers, ht, hservice]
  | @reject h reason rest ht =>
      obtain ⟨h0, h1, h2, -⟩ := header_of_holds hm
      rw [length_header, decodeApdu_reject (h0 ▸ ht) (Nat.le_add_right 3 _)]
      exact ⟨congrArg some h1, fun f hf => by simp [Answers, ht]⟩
  | @abort h reason rest ht =>
      obtain ⟨h0, h1, h2, -⟩ := header_of_holds hm
      rw [length_header, decodeApdu_abort (h0 ▸ ht) (Nat.le_add_right 3 _)]
      exact ⟨congrArg some h1, fun f hf => by simp [Answers, ht]⟩

/-- What is returned for one that is an answer: what it says, if it says something. -/
theorem NegativePdu.answer {id : UInt8} {pdu : List UInt8} (h : NegativePdu id pdu)
    (ha : Answers id pdu) {m : Mem} (hm : m.Holds pdu) :
    ∃ r n, (decodeApdu m pdu.length).answer = some r ∧ (Output.returned r).negative = some n ∧
      ∀ n', Says id pdu n' → n' = n := by
  cases h with
  | @error h service body ht =>
      obtain ⟨h0, h1, h2, hbody⟩ := header_of_holds hm
      have hservice : service = serviceConfirmedReadProperty := by
        have hanswers := ha.2.2
        simpa [ht] using hanswers
      rw [length_header, decodeApdu_error (h0 ▸ ht) (Nat.le_add_right 3 _), h2, hservice,
        Apdu.answer, if_pos rfl]
      refine ⟨_, _, rfl, rfl, fun n' hn' => ?_⟩
      cases hn' with
      | error _ _ hpair => rw [hpair.decode hbody]; rfl
      | reject _ _ ht' => cases ht.symm.trans ht'
      | abort _ _ ht' => cases ht.symm.trans ht'
  | @reject h reason rest ht =>
      obtain ⟨h0, h1, h2, -⟩ := header_of_holds hm
      rw [length_header, decodeApdu_reject (h0 ▸ ht) (Nat.le_add_right 3 _), h2]
      refine ⟨_, _, rfl, rfl, fun n' hn' => ?_⟩
      cases hn' with
      | error _ ht' _ => cases ht.symm.trans ht'
      | reject _ _ _ => rfl
      | abort _ _ ht' => cases ht.symm.trans ht'
  | @abort h reason rest ht =>
      obtain ⟨h0, h1, h2, -⟩ := header_of_holds hm
      rw [length_header, decodeApdu_abort (h0 ▸ ht) (Nat.le_add_right 3 _), h2]
      refine ⟨_, _, rfl, rfl, fun n' hn' => ?_⟩
      cases hn' with
      | error _ ht' _ => cases ht.symm.trans ht'
      | reject _ _ ht' => cases ht.symm.trans ht'
      | abort _ _ _ => rfl

/-! ### The call -/

/-- A call whose request is outstanding: its slot is reserved, and the entry of its device
waits for a reply with its id. -/
structure Outstanding (s : Sys) (t : Nat) (call : ReadCall) (tgt : TargetDevice) : Prop where
  running : s.aborted = false
  reading : s.threads t = .reading call
  reserved : call.requestInvokeId ∈ s.stack.tsm.reserved
  tracked : s.stack.targets.lookup call.deviceId = some tgt
  request : tgt.request = some (call.requestInvokeId, .ongoing)

/-- The steps that are left of a call, if nothing more arrives than `q`. -/
def ReadCall.rest (call : ReadCall) (t : Nat) (q : Arrival) (elapsed : Bool) : List Event :=
  match call.pc with
  | .receiving => [.receive t q, .poll t elapsed, .extract t]
  | .polling => [.poll t elapsed, .extract t]
  | .extracting => [.extract t]

/-- The call of `t` ends with `o`, when `u` has received the datagram and the call then goes
on undisturbed. -/
def EndsWith (env : Env) (s : Sys) (t u : Nat) (arrival q : Arrival) (elapsed : Bool)
    (o : Output) : Prop :=
  ∃ s₁ call s₂ os, (client env).step s (.receive u arrival) = some (s₁, .silent) ∧
    s₁.threads t = .reading call ∧ (client env).run s₁ (call.rest t q elapsed) = some (s₂, os) ∧
    os.getLast? = some o

/-- The call returns what the negative reply says, and no class, code or reason that it does
not say. -/
def ReturnsWhatSays (env : Env) (s : Sys) (t u : Nat) (arrival : Arrival) (id : UInt8)
    (pdu : List UInt8) : Prop :=
  ∀ q elapsed, q.datagram = none →
    ∀ n, (∃ o, EndsWith env s t u arrival q elapsed o ∧ o.negative = some n) ↔ Says id pdu n

theorem step_receive (env : Env) (hrun : s.aborted = false) {rx : RxState}
    {next : RxState → Thread} (hth : Receives (s.threads u) rx next) (arrival : Arrival) :
    (client env).step s (.receive u arrival) =
      some (afterReceive s u (receiveStep env s.stack rx arrival) next) := by
  generalize hthread : s.threads u = th at hth
  cases hth with
  | reading call hpc =>
      simp only [client, step, hrun, Bool.false_eq_true, if_false,
        show (Event.receive u arrival).thread = u from rfl, hthread, hpc, if_true]
  | discovering rx =>
      simp only [client, step, hrun, Bool.false_eq_true, if_false,
        show (Event.receive u arrival).thread = u from rfl, hthread]

/-- The extraction, whatever it finds. -/
theorem step_extract_any (env : Env) (hrun : s.aborted = false)
    (hth : s.threads t = .reading call) (hpc : call.pc = .extracting) :
    (client env).step s (.extract t) = some
      ({ s.setThread t .idle with stack := (extractStep s.stack call.deviceId).1 },
        (extractStep s.stack call.deviceId).2) := by
  simp only [client, step, hrun, Bool.false_eq_true, if_false,
    show (Event.extract t).thread = t from rfl, hth, hpc, if_true]

theorem run_extracting (env : Env) (hrun : s.aborted = false)
    (hth : s.threads t = .reading call) (hpc : call.pc = .extracting) :
    ∃ s', (client env).run s [.extract t] = some (s', [(extractStep s.stack call.deviceId).2]) :=
  ⟨_, (Machine.run_cons _).mpr
    ⟨_, step_extract_any env hrun hth hpc, _, Machine.run_nil _ _, rfl⟩⟩

theorem run_polling (env : Env) (hrun : s.aborted = false) (hth : s.threads t = .reading call)
    (hpc : call.pc = .polling) (hfree : s.stack.tsm.invokeIdFree call.requestInvokeId = true)
    (elapsed : Bool) :
    ∃ s', (client env).run s [.poll t elapsed, .extract t] =
      some (s', [.silent, (extractStep s.stack call.deviceId).2]) := by
  obtain ⟨s', hs'⟩ := run_extracting (s := s.setThread t _) env hrun
    (Sys.threads_setThread_self s t (.reading { call with pc := .extracting })) rfl
  exact ⟨s', (Machine.run_cons _).mpr
    ⟨_, step_poll_free env hrun hth hpc hfree elapsed, _, hs', rfl⟩⟩

/-- A call whose slot is free ends with its extraction. -/
theorem run_rest (env : Env) (hrun : s.aborted = false) (hth : s.threads t = .reading call)
    (hfree : s.stack.tsm.invokeIdFree call.requestInvokeId = true) {q : Arrival}
    (hq : q.datagram = none) (elapsed : Bool) :
    ∃ s' os, (client env).run s (call.rest t q elapsed) = some (s', os) ∧
      os.getLast? = some (extractStep s.stack call.deviceId).2 := by
  unfold ReadCall.rest
  split
  · rename_i hpc
    have hthread : Receives (s.threads t) call.rx fun rx =>
        .reading { call with rx, pc := .polling } := hth ▸ .reading call hpc
    have hreceive := step_receive env hrun hthread q
    rw [receiveStep_silence env s.stack call.rx hq] at hreceive
    obtain ⟨s', hs'⟩ := run_polling (s := s.setThread t _) env hrun
      (Sys.threads_setThread_self s t
        (.reading { call with rx := call.rx.inMemory q.beyond, pc := .polling })) rfl hfree elapsed
    exact ⟨s', _, (Machine.run_cons _).mpr ⟨_, hreceive, _, hs', rfl⟩, rfl⟩
  · rename_i hpc
    obtain ⟨s', hs'⟩ := run_polling env hrun hth hpc hfree elapsed
    exact ⟨s', _, hs', rfl⟩
  · rename_i hpc
    obtain ⟨s', hs'⟩ := run_extracting env hrun hth hpc
    exact ⟨s', _, hs', rfl⟩

/-- The call after a receive: its own, or another thread's. -/
theorem reading_after_receive (hth : s.threads t = .reading call) {rx : RxState}
    {next : RxState → Thread} (hu : Receives (s.threads u) rx next) (rx' : RxState) :
    ∃ call', (s.setThread u (next rx')).threads t = .reading call' ∧
      call'.deviceId = call.deviceId ∧ call'.requestInvokeId = call.requestInvokeId := by
  by_cases hut : t = u
  · subst hut
    rw [hth] at hu
    cases hu with
    | reading _ hpc => exact ⟨_, Sys.threads_setThread_self s t _, rfl, rfl⟩
  · exact ⟨call, (Function.update_of_ne hut _ _).trans hth, rfl, rfl⟩

/-- A reply frees the slot of its id, and nothing else in the table. -/
theorem tsm_of_receive {stack stack' : Stack} {rx : RxState} {arrival : Arrival}
    {src : BacnetAddress} {a : Apdu} {id : UInt8} (he : ReceiveEffect env stack rx arrival stack')
    (hdel : delivered env stack.socketOpen rx arrival = some (src, a))
    (hr : a.releases = some id) : stack'.tsm = stack.tsm.freeInvokeId id := by
  cases he with
  | nothing hd => cases hdel.symm.trans hd
  | apdu src' a' hd he =>
      cases hdel.symm.trans hd
      cases he with
      | none hno => cases hr.symm.trans hno
      | binding i hno _ _ => cases hr.symm.trans hno
      | discovery device hno _ => cases hr.symm.trans hno
      | released id' hid _ =>
          cases hr.symm.trans hid
          rfl
      | taken id' hid f _ d tgt' _ _ _ =>
          cases hr.symm.trans hid
          rfl

/-- What a call ends with after a reply to it: what the extraction makes of its entry. -/
theorem endsWith_iff (ht : s.stack.tsm.Ok) (h : Outstanding s t call tgt) {rx : RxState}
    {next : RxState → Thread} (hu : Receives (s.threads u) rx next) {arrival : Arrival}
    {src : BacnetAddress} {a : Apdu}
    (hdel : delivered env s.stack.socketOpen rx arrival = some (src, a))
    (hr : a.releases = some call.requestInvokeId) {q : Arrival} (hq : q.datagram = none)
    (elapsed : Bool) (o : Output) :
    EndsWith env s t u arrival q elapsed o ↔
      ∃ stack rx', receiveStep env s.stack rx arrival = some (stack, rx') ∧
        o = (extractStep stack call.deviceId).2 := by
  have hstep := step_receive env h.running hu arrival
  have hends : ∀ stack rx', receiveStep env s.stack rx arrival = some (stack, rx') →
      ∃ s₁ call₁ s₂ os, (client env).step s (.receive u arrival) = some (s₁, .silent) ∧
        s₁.threads t = .reading call₁ ∧
        (client env).run s₁ (call₁.rest t q elapsed) = some (s₂, os) ∧
        os.getLast? = some (extractStep stack call.deviceId).2 := by
    intro stack rx' hrecv
    rw [hrecv] at hstep
    have htsm : stack.tsm = s.stack.tsm.freeInvokeId call.requestInvokeId :=
      tsm_of_receive (receiveStep_cases hrecv) hdel hr
    have hfree : stack.tsm.invokeIdFree call.requestInvokeId = true := by
      rw [htsm, Tsm.invokeIdFree_of_ne_zero (Tsm.mem_reserved.mp h.reserved).1,
        Tsm.reserved_freeInvokeId ht]
      exact Finset.notMem_erase _ _
    obtain ⟨call₁, hth₁, hd, hid⟩ := reading_after_receive h.reading hu rx'
    obtain ⟨s₂, os, hrest, hlast⟩ := run_rest (s := { s.setThread u (next rx') with stack }) env
      h.running hth₁ (hid ▸ hfree) hq elapsed
    exact ⟨_, call₁, s₂, os, hstep, hth₁, hrest, hd ▸ hlast⟩
  constructor
  · rintro ⟨s₁, call₁, s₂, os, hs₁, hth₁, hrest, hlast⟩
    cases hrecv : receiveStep env s.stack rx arrival with
    | none =>
        rw [hrecv] at hstep
        cases hstep.symm.trans hs₁
    | some r =>
        obtain ⟨s₁', call₁', s₂', os', hs₁', hth₁', hrest', hlast'⟩ := hends r.1 r.2 hrecv
        cases hs₁.symm.trans hs₁'
        cases hth₁.symm.trans hth₁'
        cases hrest.symm.trans hrest'
        exact ⟨r.1, r.2, rfl, Option.some.inj (hlast.symm.trans hlast')⟩
  · rintro ⟨stack, rx', hrecv, rfl⟩
    exact hends stack rx' hrecv

/-- A reply that the device of the call does not take leaves its request on-going, so that
the call panics. -/
theorem extract_of_untaken (h : Outstanding s t call tgt) {rx : RxState} {arrival : Arrival}
    {src : BacnetAddress} {a : Apdu}
    (hdel : delivered env s.stack.socketOpen rx arrival = some (src, a))
    (hr : a.releases = some call.requestInvokeId)
    (hno : ¬ (s.stack.poisoned = false ∧ (∃ f, a.update = some f) ∧
      findMatchingDevice arrival.order s.stack.targets src call.requestInvokeId =
        some call.deviceId)) {stack : Stack} {rx' : RxState}
    (hrecv : receiveStep env s.stack rx arrival = some (stack, rx')) :
    (extractStep stack call.deviceId).2 = .panicked := by
  have hpanic : stack.poisoned = s.stack.poisoned →
      stack.targets.lookup call.deviceId = some tgt →
      (extractStep stack call.deviceId).2 = .panicked := by
    intro hp hl
    cases hp' : stack.poisoned with
    | true => rw [extractStep, if_pos hp']
    | false => simp only [extractStep_eq hp' hl, TargetDevice.report, h.request]
  cases receiveStep_cases hrecv with
  | nothing hd => cases hdel.symm.trans hd
  | apdu src' a' hd he =>
      cases hdel.symm.trans hd
      cases he with
      | none hid => cases hr.symm.trans hid
      | binding i hid _ _ => cases hr.symm.trans hid
      | discovery device hid _ => cases hr.symm.trans hid
      | released id' hid _ => exact hpanic rfl h.tracked
      | taken id' hid f hf d tgt' hd hl hp =>
          cases hr.symm.trans hid
          have hne : call.deviceId ≠ d := fun heq => hno ⟨hp, ⟨f, hf⟩, heq ▸ hd⟩
          exact hpanic rfl ((Stack.lookup_setTarget_ne s.stack hne _).trans h.tracked)

/-- The device of the call takes the PDU: the lock is sound, the PDU is of a handled kind,
and no other entry is met first that waits at its source for its id. -/
def Takes (s : Sys) (call : ReadCall) (order : List DeviceId) (src : BacnetAddress)
    (pdu : List UInt8) : Prop :=
  s.stack.poisoned = false ∧ Answers call.requestInvokeId pdu ∧
    findMatchingDevice order s.stack.targets src call.requestInvokeId = some call.deviceId

section Returned

variable {rx : RxState} {next : RxState → Thread} {arrival : Arrival} {src : BacnetAddress}
  {pdu : List UInt8} {apdu : Mem}

/-- A negative reply that is taken is returned: the one thing that it can say. -/
theorem returned_of_taken (hwf : s.Wf) (h : Outstanding s t call tgt)
    (hu : Receives (s.threads u) rx next) (hm : apdu.Holds pdu)
    (hdel : delivered env s.stack.socketOpen rx arrival = some (src, decodeApdu apdu pdu.length))
    (hneg : NegativePdu call.requestInvokeId pdu) (htakes : Takes s call arrival.order src pdu) :
    ∃ n, (∀ n', Says call.requestInvokeId pdu n' → n' = n) ∧
      ∀ q elapsed n', q.datagram = none →
        ((∃ o, EndsWith env s t u arrival q elapsed o ∧ o.negative = some n') ↔ n' = n) := by
  obtain ⟨hp, hans, hfind⟩ := htakes
  obtain ⟨hr, -⟩ := hneg.decode hm
  obtain ⟨r, n, hanswer, hn, honly⟩ := hneg.answer hans hm
  obtain ⟨f, hf⟩ := update_of_answer hanswer
  obtain ⟨r', hanswer', hset⟩ := answered_of_update hf hr
  cases hanswer.symm.trans hanswer'
  obtain ⟨rx', hrecv⟩ := receiveStep_answer hp (hwf.installed (hwf.tracked _ _ h.tracked)) hdel hr
    hf hfind h.tracked
  have hextract : (extractStep ((s.stack.setTarget call.deviceId (f tgt)).freeInvokeId
      call.requestInvokeId) call.deviceId).2 = .returned r := by
    have hp' : ((s.stack.setTarget call.deviceId (f tgt)).freeInvokeId
      call.requestInvokeId).poisoned = false := hp
    have hl : ((s.stack.setTarget call.deviceId (f tgt)).freeInvokeId
        call.requestInvokeId).targets.lookup call.deviceId = some (f tgt) :=
      Stack.lookup_setTarget_self _ _ _
    rw [extractStep_eq hp' hl, (hset tgt).report]
  refine ⟨n, honly, fun q elapsed n' hq => ?_⟩
  constructor
  · rintro ⟨o, ho, hn'⟩
    obtain ⟨stack, rx'', hrecv', rfl⟩ := (endsWith_iff hwf.tsm h hu hdel hr hq elapsed o).mp ho
    cases hrecv.symm.trans hrecv'
    rw [hextract, hn] at hn'
    exact (Option.some.inj hn').symm
  · rintro rfl
    exact ⟨_, (endsWith_iff hwf.tsm h hu hdel hr hq elapsed _).mpr ⟨_, _, hrecv, hextract.symm⟩, hn⟩

/-- For one that is not taken, the call returns no negative reply at all. -/
theorem not_returned_of_untaken (hwf : s.Wf) (h : Outstanding s t call tgt)
    (hu : Receives (s.threads u) rx next) (hm : apdu.Holds pdu)
    (hdel : delivered env s.stack.socketOpen rx arrival = some (src, decodeApdu apdu pdu.length))
    (hneg : NegativePdu call.requestInvokeId pdu) (hno : ¬ Takes s call arrival.order src pdu)
    {q : Arrival} (hq : q.datagram = none) (elapsed : Bool) (n : Negative) :
    ¬ ∃ o, EndsWith env s t u arrival q elapsed o ∧ o.negative = some n := by
  obtain ⟨hr, hupdate⟩ := hneg.decode hm
  rintro ⟨o, ho, hn⟩
  obtain ⟨stack, rx', hrecv, rfl⟩ := (endsWith_iff hwf.tsm h hu hdel hr hq elapsed o).mp ho
  have huntaken : ¬ (s.stack.poisoned = false ∧
      (∃ f, (decodeApdu apdu pdu.length).update = some f) ∧
        findMatchingDevice arrival.order s.stack.targets src call.requestInvokeId =
          some call.deviceId) := by
    rintro ⟨hp, ⟨f, hf⟩, hfind⟩
    exact hno ⟨hp, hupdate f hf, hfind⟩
  rw [extract_of_untaken h hdel hr huntaken hrecv] at hn
  cases hn

/-- A call returns a negative reply as what it says exactly if it says something and the
device of the call takes it, or neither. -/
theorem negativeReply_iff {es : List Event} {os : List Output}
    (hsteps : (client env).run .init es = some (s, os)) (h : Outstanding s t call tgt)
    (hu : Receives (s.threads u) rx next)
    (hcarries : CarriesApdu env s.stack.socketOpen rx arrival src pdu)
    (hneg : NegativePdu call.requestInvokeId pdu) :
    ReturnsWhatSays env s t u arrival call.requestInvokeId pdu ↔
      ((∃ n, Says call.requestInvokeId pdu n) ↔ Takes s call arrival.order src pdu) := by
  have hwf := wf_run hsteps
  obtain ⟨apdu, hm, hdel⟩ := hcarries.delivered
  by_cases htakes : Takes s call arrival.order src pdu
  · obtain ⟨n, honly, hreturned⟩ := returned_of_taken hwf h hu hm hdel hneg htakes
    constructor
    · intro hsaid
      have hn := (hsaid silence false rfl n).mp ((hreturned silence false n rfl).mpr rfl)
      exact iff_of_true ⟨n, hn⟩ htakes
    · intro hiff q elapsed hq n'
      obtain ⟨n₀, hn₀⟩ := hiff.mpr htakes
      rw [hreturned q elapsed n' hq]
      constructor
      · rintro rfl
        exact honly n₀ hn₀ ▸ hn₀
      · exact honly n'
  · have hnone := fun {q : Arrival} (hq : q.datagram = none) =>
      not_returned_of_untaken hwf h hu hm hdel hneg htakes hq
    constructor
    · intro hsaid
      refine iff_of_false ?_ htakes
      rintro ⟨n, hn⟩
      exact hnone rfl false n ((hsaid silence false rfl n).mpr hn)
    · intro hiff q elapsed hq n'
      exact iff_of_false (hnone hq elapsed n') fun hn' => htakes (hiff.mp ⟨n', hn'⟩)

end Returned

/-! ### Runs -/

/-- A request that is handed to the socket is outstanding. -/
theorem outstanding_of_send (hwf : s.Wf) (hrun : s.aborted = false) {s' : Sys} {d : DeviceId}
    {args : ReadArgs} {id : UInt8} {frame : BacnetIpAddress × List UInt8}
    (hs : (client env).step s (.send t d args) = some (s', .sent id (some frame))) :
    ∃ tgt, s.stack.targets.lookup d = some tgt ∧
      Outstanding s' t ⟨d, args, id, .fresh, .receiving⟩
        { tgt with request := some (id, .ongoing) } := by
  have hstep := step_cases hwf.tsm hs
  obtain ⟨hready, rfl, hp, hidle, -⟩ := sent_inv hstep
  obtain ⟨tgt, hl⟩ : ∃ tgt, s.stack.targets.lookup d = some tgt := by
    cases hstep with
    | send _ _ _ tgt _ _ _ _ _ hl _ => exact ⟨tgt, hl⟩
  obtain ⟨i, frame', -, hsend, hwait⟩ := step_send env hwf.tsm hrun hidle hp hl hready
  cases hs.symm.trans hsend
  exact ⟨tgt, hl, hwait.running, hwait.reading, hwait.reserved,
    Stack.lookup_setTarget_self _ _ _, rfl⟩

/-- A PDU from the device at 10.0.0.66. -/
def plainReply (pdu : List UInt8) : Arrival :=
  ⟨some (unicast (lanDevice 12 66).endpoint ⟨0, none, none, 0, pdu⟩), [], fun _ => 0⟩

theorem carriesApdu_plainReply {pdu : List UInt8} (hne : pdu ≠ []) (hlen : pdu.length ≤ 1476)
    (rx : RxState) :
    CarriesApdu lan true rx (plainReply pdu)
      (bvlcIpAddressToBacnetLocal (lanDevice 12 66).endpoint) pdu := by
  have hwf : NetworkMessage.WellFormed ⟨0, none, none, 0, pdu⟩ :=
    { flags := show (0 : UInt8) &&& 0xA8 = 0 by decide
      dest := fun _ hspec => absurd hspec (by simp)
      source := fun _ hspec => absurd hspec (by simp)
      apdu := hne }
  have hsize : (bvlcEncode 10 (NetworkMessage.octets ⟨0, none, none, 0, pdu⟩)).length ≤
      maxMpdu := by
    have hmax : maxMpdu = 1506 := rfl
    simp [bvlcEncode, encodeUnsigned16, NetworkMessage.octets, NetworkMessage.header,
      NetworkMessage.specifierOctets]
    omega
  exact carriesApdu_of_unicast hwf ⟨fun _ h => absurd h (by simp), fun _ h => absurd h (by simp)⟩
    (fun _ h => absurd h (by simp)) (by decide) hsize rx rfl

/-- A device that is read, and the request. -/
def readSent : List Event := [.connect 0 (lanDevice 12 66), .send 0 12 presentValue]

/-- The call is outstanding, its device is the one that takes a reply with the id 1 from its
address, and the call can receive. -/
theorem run_readSent :
    ∃ s os call tgt, (client lan).run .init readSent = some (s, os) ∧
      Outstanding s 0 call tgt ∧ call.pc = .receiving ∧ call.requestInvokeId = 1 ∧
      call.deviceId = 12 ∧ s.stack.socketOpen = true ∧ s.stack.poisoned = false ∧
      findMatchingDevice [] s.stack.targets
        (bvlcIpAddressToBacnetLocal (lanDevice 12 66).endpoint) 1 = some 12 := by
  have hsome : ((client lan).run .init readSent).any (fun r =>
      r.2.getLast?.any (Output.isRequest 1) && r.1.stack.socketOpen && !r.1.stack.poisoned &&
        decide (findMatchingDevice [] r.1.stack.targets
          (bvlcIpAddressToBacnetLocal (lanDevice 12 66).endpoint) 1 = some 12)) = true := by
    decide +kernel
  obtain ⟨s, os, hsteps, hp⟩ := Machine.exists_run hsome
  simp only [Bool.and_eq_true, Bool.not_eq_true', decide_eq_true_eq] at hp
  obtain ⟨⟨⟨ho, hopen⟩, hpois⟩, hfind⟩ := hp
  obtain ⟨m, hconnect, o, hsend, hos⟩ := (Machine.run_concat _).mp
    (show (client lan).run .init ([.connect 0 (lanDevice 12 66)] ++ [.send 0 12 presentValue]) =
      some (s, os) from hsteps)
  replace hos : os = m.2 ++ [o] := hos
  rw [hos, List.getLast?_concat, Option.any_some] at ho
  unfold Output.isRequest at ho
  split at ho
  · rename_i id frame
    rw [beq_iff_eq] at ho
    subst ho
    obtain ⟨tgt, -, hout⟩ := outstanding_of_send (wf_run hconnect) (not_aborted_of_step hsend) hsend
    exact ⟨s, os, _, _, hsteps, hout, rfl, rfl, rfl, hopen, hpois, hfind⟩
  · cases ho

/-- An abort for buffer overflow, as the device sends it for a value that is too long. -/
theorem abort_returned :
    ∃ s os, (client lan).run .init readSent = some (s, os) ∧
      ReturnsWhatSays lan s 0 0 (plainReply [0x71, 1, 1]) 1 [0x71, 1, 1] := by
  obtain ⟨s, os, call, tgt, hsteps, hout, hpc, hid, hd, hopen, hp, hfind⟩ := run_readSent
  have hu : Receives (s.threads 0) call.rx fun rx => .reading { call with rx, pc := .polling } :=
    hout.reading ▸ .reading call hpc
  have hcarries : CarriesApdu lan true call.rx (plainReply [0x71, 1, 1])
      (bvlcIpAddressToBacnetLocal (lanDevice 12 66).endpoint) [0x71, 1, 1] :=
    carriesApdu_plainReply (by simp) (by simp) call.rx
  rw [← hopen] at hcarries
  have ht : (0x71 : UInt8) &&& 0xF0 = 0x70 := by decide
  have hneg : NegativePdu call.requestInvokeId [0x71, 1, 1] := by
    rw [hid]
    exact .abort 1 [] ht
  have htakes : Takes s call [] (bvlcIpAddressToBacnetLocal (lanDevice 12 66).endpoint)
      [0x71, 1, 1] := by
    refine ⟨hp, ?_, ?_⟩
    · rw [hid]
      simp [Answers]
    · rw [hid, hd]
      exact hfind
  have hsays : Says call.requestInvokeId [0x71, 1, 1] (.aborted 1) := by
    rw [hid]
    exact .abort 1 [] ht
  have hreturned := (negativeReply_iff hsteps hout hu hcarries hneg).mpr
    (iff_of_true ⟨_, hsays⟩ htakes)
  rw [hid] at hreturned
  exact ⟨s, os, hsteps, hreturned⟩

/-- An Error PDU that is cut off behind its class: class 2, `property`. -/
def truncatedError : List UInt8 := [0x50, 1, 12, 0x91, 2]

theorem says_truncatedError (n : Negative) : ¬ Says 1 truncatedError n := by
  intro h
  generalize hpdu : truncatedError = pdu at h
  cases h with
  | error service ht hbody =>
      cases hbody with
      | mk rest hclass hcode =>
          have hlen := congrArg List.length hpdu
          have hclass' := hclass.two_le
          have hcode' := hcode.two_le
          simp only [truncatedError, List.length_cons, List.length_append, List.length_nil] at hlen
          omega
  | reject reason rest ht =>
      cases hpdu
      exact absurd ht (by decide)
  | abort reason rest ht =>
      cases hpdu
      exact absurd ht (by decide)

def Output.isSilent : Output → Bool
  | silent => true
  | _ => false

theorem Output.eq_silent {o : Output} (h : o.isSilent = true) : o = .silent := by
  cases o with
  | silent => rfl
  | _ => cases h

theorem endsWith_of_any {arrival q : Arrival} {elapsed : Bool} {P : Output → Bool}
    (h : ((client env).step s (.receive u arrival)).any (fun r =>
      r.2.isSilent && (r.1.threads t).call?.any fun call =>
        ((client env).run r.1 (call.rest t q elapsed)).any fun w =>
          w.2.getLast?.any P) = true) :
    ∃ o, EndsWith env s t u arrival q elapsed o ∧ P o = true := by
  obtain ⟨⟨s₁, o₁⟩, hstep, hr⟩ := (Option.any_eq_true _ _).mp h
  obtain ⟨hsilent, hcall⟩ := (Bool.and_eq_true _ _).mp hr
  obtain ⟨call, hth, hrest⟩ := (Option.any_eq_true _ _).mp hcall
  obtain ⟨s₂, os, hrun, hlast⟩ := Machine.exists_run hrest
  obtain ⟨o, ho, hP⟩ := (Option.any_eq_true _ _).mp hlast
  cases Output.eq_silent hsilent
  exact ⟨o, ⟨s₁, call, s₂, os, hstep, Thread.mem_call?.mp hth, hrun, ho⟩, hP⟩

/-- It is returned as class 2 with the code 0, `other`, which the device has not sent. -/
theorem truncatedError_returned :
    ∃ s os, (client lan).run .init readSent = some (s, os) ∧
      NegativePdu 1 truncatedError ∧ (∀ n, ¬ Says 1 truncatedError n) ∧
      (∃ o, EndsWith lan s 0 0 (plainReply truncatedError) silence false o ∧
        o.negative = some (.error 2 0)) ∧
      ¬ ReturnsWhatSays lan s 0 0 (plainReply truncatedError) 1 truncatedError := by
  have hsome : ((client lan).run .init readSent).any (fun p =>
      ((client lan).step p.1 (.receive 0 (plainReply truncatedError))).any fun r =>
        r.2.isSilent && (r.1.threads 0).call?.any fun call =>
          ((client lan).run r.1 (call.rest 0 silence false)).any fun w =>
            w.2.getLast?.any fun o => decide (o.negative = some (.error 2 0))) = true := by
    decide +kernel
  obtain ⟨s, os, hsteps, hp⟩ := Machine.exists_run hsome
  obtain ⟨o, hends, ho⟩ := endsWith_of_any hp
  have hreturned := of_decide_eq_true ho
  refine ⟨s, os, hsteps, .error 12 [0x91, 2] (by decide), says_truncatedError,
    ⟨o, hends, hreturned⟩, fun hreturns => ?_⟩
  exact says_truncatedError _ ((hreturns silence false rfl (.error 2 0)).mp ⟨o, hends, hreturned⟩)

end Bacnet
