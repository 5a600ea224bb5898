import Bacnet.System

/-!
# Bacnet.Steps

What each step of the client can do, said once. Every part of a call has an effect
relation that lists its outcomes with the conditions they happen under, and
`Step` puts them together: `step_cases` is the inversion of `step` that the
invariants are read off.
-/

namespace Bacnet

open Bacnet.Lib

variable {env : Env}

/-! ### `connect` -/

/-- The cache of a `connect` after its two calls into `address.c`, and what the second
of them answered. -/
def connectCache (c : AddressCache) (b : BACnetDeviceBuilder) :
    Option (UInt32 × BacnetAddress) × AddressCache :=
  (c.addressAdd b.deviceId (UInt32.ofNat maxApdu) b.build).addressBindRequest b.deviceId

/-- `s` with the one-time initialisation done and another cache. -/
def connecting (env : Env) (s : Stack) (cache : AddressCache) : Stack :=
  { stackInit env s with cache }

inductive ConnectEffect (env : Env) (s : Stack) (b : BACnetDeviceBuilder) :
    Stack → Output → Prop where
  | ok (m : UInt32) (addr : BacnetAddress) (cache : AddressCache) (hp : s.poisoned = false)
      (hr : connectCache s.cache b = (some (m, addr), cache)) :
      ConnectEffect env s b ((connecting env s cache).setTarget b.deviceId (freshTarget addr))
        (.connected (.ok ()))
  | failed (cache : AddressCache) (hr : connectCache s.cache b = (none, cache)) :
      ConnectEffect env s b (connecting env s cache) (.connected (.error .failedToBindToDevice))
  | panicked (cache : AddressCache) (hp : s.poisoned = true)
      (hr : (connectCache s.cache b).2 = cache) :
      ConnectEffect env s b (connecting env s cache) .panicked

@[simp] theorem stackInit_cache (env : Env) (s : Stack) : (stackInit env s).cache = s.cache := by
  rw [stackInit]
  split <;> rfl

@[simp] theorem stackInit_targets (env : Env) (s : Stack) :
    (stackInit env s).targets = s.targets := by
  rw [stackInit]
  split <;> rfl

@[simp] theorem stackInit_poisoned (env : Env) (s : Stack) :
    (stackInit env s).poisoned = s.poisoned := by
  rw [stackInit]
  split <;> rfl

theorem connect_cases (env : Env) (s : Stack) (b : BACnetDeviceBuilder) :
    ConnectEffect env s b (connect env s b).1 (connect env s b).2 := by
  have hcache : ∀ r, connectCache s.cache b = r →
      ((stackInit env s).cache.addressAdd b.deviceId (UInt32.ofNat maxApdu)
        b.build).addressBindRequest b.deviceId = r := by
    intro r hr
    rw [stackInit_cache]
    exact hr
  cases hr : connectCache s.cache b with
  | mk found cache =>
  simp only [connect, hcache _ hr]
  cases found with
  | none => exact .failed cache hr
  | some p =>
      obtain ⟨m, addr⟩ := p
      have hpois := stackInit_poisoned env s
      dsimp only
      split
      · rename_i hp
        exact .panicked cache (hpois.symm.trans hp) (congrArg Prod.snd hr)
      · rename_i hp
        exact .ok m addr cache (hpois.symm.trans (Bool.eq_false_iff.mpr hp)) hr

/-! ### Sending -/

/-- The request's length, which the invoke id does not change. -/
def requestLength (dest : BacnetAddress) (args : ReadArgs) : Nat := (requestPdu dest 0 args).length

theorem length_requestPdu (dest : BacnetAddress) (invokeId : UInt8) (args : ReadArgs) :
    (requestPdu dest invokeId args).length = requestLength dest args := by
  simp only [requestLength, requestPdu, rpEncodeApdu, List.length_append, List.length_cons,
    List.length_nil]

/-- A request to the device can go out: communication is enabled, a slot is free, the
device is bound, and the request is shorter than what is left of its maximum APDU. -/
def SendReady (s : Stack) (d : DeviceId) (args : ReadArgs) : Prop :=
  s.dcc = .enable ∧ s.tsm.transactionAvailable = true ∧
    ∃ m dest, s.cache.addressGetByDevice d = some (m, dest) ∧
      UInt16.ofNat (requestLength dest args) < m.toUInt16

instance (s : Stack) (d : DeviceId) (args : ReadArgs) : Decidable (SendReady s d args) :=
  haveI : Decidable (∃ m dest, s.cache.addressGetByDevice d = some (m, dest) ∧
      UInt16.ofNat (requestLength dest args) < m.toUInt16) :=
    decidable_of_iff (∃ p ∈ s.cache.addressGetByDevice d,
      UInt16.ofNat (requestLength p.2 args) < p.1.toUInt16) (by simp [Prod.exists])
  inferInstanceAs (Decidable (_ ∧ _ ∧ _))

inductive SendEffect (env : Env) (s : Stack) (d : DeviceId) (args : ReadArgs) :
    Stack → UInt8 → Option (BacnetIpAddress × List UInt8) → Prop where
  /-- No request goes out. At most the id counter has moved. -/
  | failed (tsm : Tsm) (hn : ¬ SendReady s d args) (hl : tsm.list = s.tsm.list) (hok : tsm.Ok) :
      SendEffect env s d args { s with tsm } 0 none
  | sent (m : UInt32) (dest : BacnetAddress) (i : Fin maxTsmTransactions)
      (hready : SendReady s d args) (hg : s.cache.addressGetByDevice d = some (m, dest))
      (hi : (s.tsm.list.get i).invokeId = 0) :
      SendEffect env s d args
        { s with tsm := s.tsm.reserveAt i s.tsm.nextUnused .awaitConfirmation }
        s.tsm.nextUnused
        (bvlcSendPdu env.bip s.socketOpen dest (requestPdu dest s.tsm.nextUnused args))

theorem sendReadPropertyRequest_cases (env : Env) {s : Stack} (ht : s.tsm.Ok) (d : DeviceId)
    (args : ReadArgs) :
    SendEffect env s d args (sendReadPropertyRequest env s d args).1
      (sendReadPropertyRequest env s d args).2.1 (sendReadPropertyRequest env s d args).2.2 := by
  unfold sendReadPropertyRequest
  cases hg : s.cache.addressGetByDevice d with
  | none =>
      refine .failed s.tsm ?_ rfl ht
      rintro ⟨-, -, m, dest, hg', -⟩
      rw [hg] at hg'
      cases hg'
  | some p =>
      obtain ⟨m, dest⟩ := p
      simp only [sendReadPropertyRequestAddress]
      split
      · rename_i hdcc
        exact .failed s.tsm (fun h => hdcc h.1) rfl ht
      · rename_i hdcc
        by_cases hav : s.tsm.transactionAvailable = true
        · obtain ⟨i, hi, hnext⟩ := Tsm.nextFreeInvokeId_of_available hav
          have hne := Tsm.nextUnused_ne_zero ht hav
          have hfree := Tsm.nextUnused_free ht hav
          simp only [hnext, ne_eq, hne, not_false_eq_true, if_true, length_requestPdu]
          split
          · rename_i hfit
            rw [Tsm.setConfirmed_reserveAt hne hfree]
            exact .sent m dest i ⟨not_not.mp hdcc, hav, m, dest, hg, hfit⟩ hg hi
          · rename_i hfit
            rw [Tsm.free_reserveAt ht hi hfree]
            refine .failed _ ?_ rfl ⟨ht.distinct, ht.state, Tsm.increment_ne_zero _⟩
            rintro ⟨-, -, m', dest', hg', hfit'⟩
            rw [hg, Option.some.injEq, Prod.mk.injEq] at hg'
            obtain ⟨rfl, rfl⟩ := hg'
            exact hfit hfit'
        · rw [Bool.not_eq_true] at hav
          simp only [Tsm.nextFreeInvokeId_of_not_available hav, ne_eq, not_true_eq_false, if_false]
          refine .failed s.tsm (fun h => ?_) rfl ht
          have havail := h.2.1
          rw [hav] at havail
          cases havail

/-! ### Receiving -/

/-- What a `bip_receive` and the routing after it pass on to `apdu_handler`: the source
address and the APDU. -/
def delivered (env : Env) (socketOpen : Bool) (rx : RxState) (arrival : Arrival) :
    Option (BacnetAddress × Apdu) :=
  let (pduLen, rx) := bipReceive env.bip socketOpen arrival.datagram (rx.inMemory arrival.beyond)
  if pduLen > 0 then
    match npduRoute rx.src rx.rxBuf pduLen with
    | (src, some (apdu, apduLen)) => some (src, decodeApdu apdu apduLen)
    | (_, none) => none
  else none

inductive ReceiveEffect (env : Env) (s : Stack) (rx : RxState) (arrival : Arrival) :
    Stack → Prop where
  | nothing (h : delivered env s.socketOpen rx arrival = none) : ReceiveEffect env s rx arrival s
  | apdu (src : BacnetAddress) (a : Apdu) {s' : Stack}
      (h : delivered env s.socketOpen rx arrival = some (src, a))
      (he : ApduEffect arrival.order src a s s') : ReceiveEffect env s rx arrival s'

theorem receiveStep_cases {s s' : Stack} {rx rx' : RxState} {arrival : Arrival}
    (h : receiveStep env s rx arrival = some (s', rx')) : ReceiveEffect env s rx arrival s' := by
  have hd : delivered env s.socketOpen rx arrival = delivered env s.socketOpen rx arrival := rfl
  conv_rhs at hd => unfold delivered
  unfold receiveStep npduHandler at h
  cases hb : bipReceive env.bip s.socketOpen arrival.datagram (rx.inMemory arrival.beyond) with
  | mk pduLen rx₁ =>
  simp only [hb] at h hd
  split at h
  · rename_i hpos
    rw [if_pos hpos] at hd
    split at h
    · rename_i src hroute
      rw [hroute] at hd
      simp only [Option.map_some, Option.some.injEq, Prod.mk.injEq] at h
      rw [← h.1]
      exact .nothing hd
    · rename_i src apdu apduLen hroute
      rw [hroute] at hd
      simp only [Option.map_map, Option.map_eq_some_iff] at h
      obtain ⟨s₁, h₁, heq⟩ := h
      simp only [Function.comp_apply, Prod.mk.injEq] at heq
      rw [← heq.1]
      exact .apdu src (decodeApdu apdu apduLen) hd (apduHandler_cases h₁)
  · rename_i hpos
    rw [if_neg hpos] at hd
    simp only [Option.some.injEq, Prod.mk.injEq] at h
    rw [← h.1]
    exact .nothing hd

/-- What ends the process, and that it is no reply if the lock is not poisoned. -/
theorem receiveStep_eq_none {s : Stack} {rx : RxState} {arrival : Arrival}
    (h : receiveStep env s rx arrival = none) :
    s.poisoned = true ∨ (s.handlers.iAm = some .iAmHandler ∧
      ∀ src a, delivered env s.socketOpen rx arrival = some (src, a) → a.releases = none) := by
  unfold delivered
  simp only [receiveStep, npduHandler] at h
  cases hb : bipReceive env.bip s.socketOpen arrival.datagram (rx.inMemory arrival.beyond) with
  | mk pduLen rx₁ =>
  simp only [hb] at h ⊢
  split at h
  · rename_i hpos
    rw [if_pos hpos]
    split at h
    · simp at h
    · rename_i src apdu apduLen hroute
      simp only [Option.map_map, Option.map_eq_none_iff] at h
      refine (apduHandler_eq_none h).imp_right fun ⟨hb, hno⟩ => ⟨hb, fun src' a hdel => ?_⟩
      rw [hroute] at hdel
      cases hdel
      exact hno
  · cases h

/-! ### Extracting -/

inductive ExtractEffect (s : Stack) (d : DeviceId) : Stack → Output → Prop where
  | poisoned (hp : s.poisoned = true) : ExtractEffect s d s .panicked
  | missing (hp : s.poisoned = false) (hl : s.targets.lookup d = none) :
      ExtractEffect s d { s with poisoned := true } .panicked
  | noRequest (t : TargetDevice) (hp : s.poisoned = false) (hl : s.targets.lookup d = some t)
      (hr : t.request = none) :
      ExtractEffect s d { s.setTarget d { t with request := none } with poisoned := true }
        .panicked
  | ongoing (t : TargetDevice) (id : UInt8) (hp : s.poisoned = false)
      (hl : s.targets.lookup d = some t) (hr : t.request = some (id, .ongoing)) :
      ExtractEffect s d { s.setTarget d { t with request := none } with poisoned := true }
        .panicked
  | done (t : TargetDevice) (id : UInt8) (hp : s.poisoned = false)
      (hl : s.targets.lookup d = some t) (hr : t.request = some (id, .done)) :
      ExtractEffect s d (s.setTarget d { t with request := none, value := none })
        (.returned (t.value.getD (.error .noValueWasExtracted)))
  | error (t : TargetDevice) (id : UInt8) (err : BACnetErr) (hp : s.poisoned = false)
      (hl : s.targets.lookup d = some t) (hr : t.request = some (id, .error err)) :
      ExtractEffect s d (s.setTarget d { t with request := none })
        (.returned (.error (.bacnetError err)))

theorem extractStep_cases (s : Stack) (d : DeviceId) :
    ExtractEffect s d (extractStep s d).1 (extractStep s d).2 := by
  unfold extractStep
  split
  · rename_i hp
    exact .poisoned hp
  · rename_i hp
    have hp' := Bool.eq_false_iff.mpr hp
    cases hl : s.targets.lookup d with
    | none => exact .missing hp' hl
    | some t =>
        simp only
        split
        · rename_i hr
          exact .noRequest t hp' hl hr
        · rename_i id hr
          exact .done t id hp' hl hr
        · rename_i id hr
          exact .ongoing t id hp' hl hr
        · rename_i id err hr
          exact .error t id err hp' hl hr

/-! ### The machine -/

/-- A thread that can receive a datagram: its receive variables, and what it goes on as. -/
inductive Receives : Thread → RxState → (RxState → Thread) → Prop where
  | reading (call : ReadCall) (hpc : call.pc = .receiving) :
      Receives (.reading call) call.rx fun rx => .reading { call with rx, pc := .polling }
  | discovering (rx : RxState) : Receives (.discovering rx) rx .discovering

/-- The steps of the client. -/
inductive Step (env : Env) (s : Sys) : Event → Sys → Output → Prop where
  | connect (t : Nat) (b : BACnetDeviceBuilder) (stack : Stack) (o : Output)
      (hth : s.threads t = .idle) (h : ConnectEffect env s.stack b stack o) :
      Step env s (.connect t b) { s with stack } o
  | disconnect (t : Nat) (d : DeviceId) (hth : s.threads t = .idle) :
      Step env s (.disconnect t d) { s with stack := Bacnet.disconnect s.stack d } .silent
  | sendPoisoned (t : Nat) (d : DeviceId) (args : ReadArgs) (hth : s.threads t = .idle)
      (hp : s.stack.poisoned = true) : Step env s (.send t d args) s .panicked
  | sendUnknown (t : Nat) (d : DeviceId) (args : ReadArgs) (hth : s.threads t = .idle)
      (hp : s.stack.poisoned = false) (hl : s.stack.targets.lookup d = none) :
      Step env s (.send t d args) s (.returned (.error (.notConnectedToDevice d)))
  | send (t : Nat) (d : DeviceId) (args : ReadArgs) (tgt : TargetDevice) (stack : Stack)
      (id : UInt8) (frame : Option (BacnetIpAddress × List UInt8)) (hth : s.threads t = .idle)
      (hp : s.stack.poisoned = false) (hl : s.stack.targets.lookup d = some tgt)
      (h : SendEffect env s.stack d args stack id frame) :
      Step env s (.send t d args)
        { s.setThread t (.reading ⟨d, args, id, .fresh, .receiving⟩) with
          stack := stack.setTarget d { tgt with request := some (id, .ongoing) } }
        (.sent id frame)
  | receive (t : Nat) (arrival : Arrival) {rx : RxState} {next : RxState → Thread} (rx' : RxState)
      (stack : Stack) (hth : Receives (s.threads t) rx next)
      (h : ReceiveEffect env s.stack rx arrival stack) :
      Step env s (.receive t arrival) { s.setThread t (next rx') with stack } .silent
  | abort (t : Nat) (arrival : Arrival) {rx : RxState} {next : RxState → Thread}
      (hth : Receives (s.threads t) rx next)
      (h : s.stack.poisoned = true ∨ (s.stack.handlers.iAm = some .iAmHandler ∧
        ∀ src a, delivered env s.stack.socketOpen rx arrival = some (src, a) →
          a.releases = none)) :
      Step env s (.receive t arrival) { s with aborted := true } .aborted
  | pollAgain (t : Nat) (elapsed : Bool) (call : ReadCall) (hth : s.threads t = .reading call)
      (hpc : call.pc = .polling) (hres : call.requestInvokeId ∈ s.stack.tsm.reserved)
      (he : elapsed = false) :
      Step env s (.poll t elapsed) (s.setThread t (.reading { call with pc := .receiving }))
        .silent
  /-- The slot is free. For the id 0 this means that no slot is. -/
  | pollFree (t : Nat) (elapsed : Bool) (call : ReadCall) (hth : s.threads t = .reading call)
      (hpc : call.pc = .polling) (hfree : s.stack.tsm.invokeIdFree call.requestInvokeId = true) :
      Step env s (.poll t elapsed) (s.setThread t (.reading { call with pc := .extracting }))
        .silent
  | pollFailed (t : Nat) (elapsed : Bool) (call : ReadCall) (hth : s.threads t = .reading call)
      (hpc : call.pc = .polling) (hid : call.requestInvokeId = 0)
      (hav : s.stack.tsm.transactionAvailable = true) :
      Step env s (.poll t elapsed) (s.setThread t .idle) (.returned (.error .tsmTimeout))
  | pollElapsed (t : Nat) (call : ReadCall) (hth : s.threads t = .reading call)
      (hpc : call.pc = .polling) (hres : call.requestInvokeId ∈ s.stack.tsm.reserved) :
      Step env s (.poll t true) (s.setThread t .idle) (.returned (.error .apduTimeout))
  | extract (t : Nat) (call : ReadCall) (stack : Stack) (o : Output)
      (hth : s.threads t = .reading call) (hpc : call.pc = .extracting)
      (h : ExtractEffect s.stack call.deviceId stack o) :
      Step env s (.extract t) { s.setThread t .idle with stack } o
  | whoisStart (t : Nat) (subnet : Option UInt16) (hth : s.threads t = .idle) :
      Step env s (.whoisStart t subnet)
        { s.setThread t (.discovering .fresh) with stack := (Bacnet.whoisStart env s.stack subnet).1 }
        (Bacnet.whoisStart env s.stack subnet).2
  | whoisClose (t : Nat) (rx : RxState) (hth : s.threads t = .discovering rx) :
      Step env s (.whoisClose t)
        { s.setThread t .draining with stack := Bacnet.whoisClose s.stack } .silent
  | whoisDrain (t : Nat) (hth : s.threads t = .draining) :
      Step env s (.whoisDrain t)
        { s.setThread t .idle with stack := { s.stack with discovered := [] } }
        (.discovered s.stack.discovered)

/-- The APDU that a step passes on to `apdu_handler`, with its source. -/
def arriving (env : Env) (s : Sys) (e : Event) : Option (BacnetAddress × Apdu) :=
  match e, s.threads e.thread with
  | .receive _ arrival, .reading call => delivered env s.stack.socketOpen call.rx arrival
  | .receive _ arrival, .discovering rx => delivered env s.stack.socketOpen rx arrival
  | _, _ => none

theorem arriving_receive (env : Env) {s : Sys} {t : Nat} (arrival : Arrival) {rx : RxState}
    {next : RxState → Thread} (hth : Receives (s.threads t) rx next) :
    arriving env s (.receive t arrival) = delivered env s.stack.socketOpen rx arrival := by
  unfold arriving
  rw [show (Event.receive t arrival).thread = t from rfl]
  cases h : s.threads t with
  | idle =>
      rw [h] at hth
      cases hth
  | draining =>
      rw [h] at hth
      cases hth
  | reading call =>
      rw [h] at hth
      cases hth
      rfl
  | discovering rx =>
      rw [h] at hth
      cases hth
      rfl

/-- A thread that keeps what it does. -/
@[simp] theorem Sys.setThread_self (s : Sys) (t : Nat) : s.setThread t (s.threads t) = s := by
  rw [Sys.setThread, Function.update_eq_self]

theorem sendStep_cases {s : Sys} (ht : s.stack.tsm.Ok) {t : Nat} (hth : s.threads t = .idle)
    (d : DeviceId) (args : ReadArgs) :
    Step env s (.send t d args)
      { s.setThread t (sendStep env s.stack d args).2.1 with
        stack := (sendStep env s.stack d args).1 } (sendStep env s.stack d args).2.2 := by
  have hidle : s.setThread t .idle = s := by rw [← hth, Sys.setThread_self]
  unfold sendStep
  split
  · rename_i hp
    simp only [hidle]
    exact .sendPoisoned t d args hth hp
  · rename_i hp
    have hp' := Bool.eq_false_iff.mpr hp
    cases hl : s.stack.targets.lookup d with
    | none =>
        simp only [hidle]
        exact .sendUnknown t d args hth hp' hl
    | some tgt =>
        exact .send t d args tgt _ _ _ hth hp' hl (sendReadPropertyRequest_cases env ht d args)

theorem afterReceive_cases (env : Env) {s : Sys} {t : Nat} (arrival : Arrival) {rx : RxState}
    {next : RxState → Thread} (hth : Receives (s.threads t) rx next) :
    Step env s (.receive t arrival)
      (afterReceive s t (receiveStep env s.stack rx arrival) next).1
      (afterReceive s t (receiveStep env s.stack rx arrival) next).2 := by
  cases hr : receiveStep env s.stack rx arrival with
  | none => exact .abort t arrival hth (receiveStep_eq_none hr)
  | some r => exact .receive t arrival r.2 r.1 hth (receiveStep_cases hr)

theorem pollStep_cases {s : Sys} (ht : s.stack.tsm.Ok) {t : Nat} {elapsed : Bool}
    {call : ReadCall} (hth : s.threads t = .reading call) (hpc : call.pc = .polling) {s' : Sys}
    {o : Output}
    (h : (match pollStep s.stack call.requestInvokeId elapsed with
      | .again => some (s.setThread t (.reading { call with pc := .receiving }), Output.silent)
      | .finished => some (s.setThread t (.reading { call with pc := .extracting }), .silent)
      | .failed err => some (s.setThread t .idle, .returned (.error err))) = some (s', o)) :
    Step env s (.poll t elapsed) s' o := by
  unfold pollStep at h
  by_cases hfree : s.stack.tsm.invokeIdFree call.requestInvokeId = true
  · simp only [hfree, if_true] at h
    cases h
    exact .pollFree t elapsed call hth hpc hfree
  · simp only [hfree] at h
    by_cases hfailed : s.stack.tsm.invokeIdFailed call.requestInvokeId = true
    · obtain ⟨hid, hav⟩ := (Tsm.invokeIdFailed_iff ht).mp hfailed
      simp only [hfailed, if_true] at h
      cases h
      exact .pollFailed t elapsed call hth hpc hid hav
    · have hid : call.requestInvokeId ≠ 0 := by
        intro hid
        rw [hid, Tsm.invokeIdFree_zero, Bool.not_eq_false] at hfree
        exact hfailed ((Tsm.invokeIdFailed_iff ht).mpr ⟨hid, hfree⟩)
      have hres : call.requestInvokeId ∈ s.stack.tsm.reserved := by
        rw [Tsm.invokeIdFree_of_ne_zero hid, not_not] at hfree
        exact hfree
      simp only [hfailed] at h
      cases elapsed with
      | true =>
          simp only [if_true] at h
          cases h
          exact .pollElapsed t call hth hpc hres
      | false =>
          simp only [Bool.false_eq_true, if_false] at h
          cases h
          exact .pollAgain t false call hth hpc hres rfl

/-- Every step of the client is one of `Step`. -/
theorem step_cases {s s' : Sys} {e : Event} {o : Output} (ht : s.stack.tsm.Ok)
    (h : (client env).step s e = some (s', o)) : Step env s e s' o := by
  simp only [client, step] at h
  split at h
  · cases h
  · split at h
    · rename_i t b hth
      cases h
      exact .connect t b _ _ hth (connect_cases env s.stack b)
    · rename_i t d hth
      cases h
      exact .disconnect t d hth
    · rename_i t d args hth
      cases h
      exact sendStep_cases ht hth d args
    · rename_i t arrival call hth
      split at h
      · rename_i hpc
        have hrec := Receives.reading call hpc
        rw [← show s.threads t = .reading call from hth] at hrec
        have hstep := afterReceive_cases env arrival hrec
        rw [Option.some.inj h] at hstep
        exact hstep
      · cases h
    · rename_i t elapsed call hth
      split at h
      · rename_i hpc
        exact pollStep_cases ht hth hpc h
      · cases h
    · rename_i t call hth
      split at h
      · rename_i hpc
        cases h
        exact .extract t call _ _ hth hpc (extractStep_cases s.stack call.deviceId)
      · cases h
    · rename_i t subnet hth
      cases h
      exact .whoisStart t subnet hth
    · rename_i t arrival rx hth
      have hrec := Receives.discovering rx
      rw [← show s.threads t = .discovering rx from hth] at hrec
      have hstep := afterReceive_cases env arrival hrec
      rw [Option.some.inj h] at hstep
      exact hstep
    · rename_i t rx hth
      cases h
      exact .whoisClose t rx hth
    · rename_i t hth
      cases h
      exact .whoisDrain t hth
    · cases h

end Bacnet
