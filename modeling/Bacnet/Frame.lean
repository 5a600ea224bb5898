import Bacnet.Steps

/-!
# Bacnet.Frame

The same steps read the other way round: for each part of the state, what a step can do
to it. `entry_cases` is about the entry of one device, `reserved_cases` about the
reserved invoke ids, `call_cases` about the call a thread is in.
-/

namespace Bacnet

open Bacnet.Lib

variable {env : Env} {s s' : Sys} {e : Event} {o : Output}

/-- Only a receive delivers anything. -/
theorem event_of_arriving {p : BacnetAddress × Apdu} (h : arriving env s e = some p) :
    ∃ t arrival, e = .receive t arrival := by
  cases e with
  | receive t arrival => exact ⟨t, arrival, rfl⟩
  | connect t b => cases h
  | disconnect t d => cases h
  | send t d args => cases h
  | poll t elapsed => cases h
  | extract t => cases h
  | whoisStart t subnet => cases h
  | whoisClose t => cases h
  | whoisDrain t => cases h

/-! ### The shared state -/

/-- What a step makes of the shared state. -/
inductive StackEffect (env : Env) (s : Sys) (e : Event) (o : Output) : Stack → Prop where
  | same (ho : ∀ id frame, o ≠ .sent id frame)
      (hp : o = .panicked → s.stack.poisoned = true)
      (ha : o ≠ .aborted → arriving env s e = none) : StackEffect env s e o s.stack
  | connect (t : Nat) (b : BACnetDeviceBuilder) (stack : Stack) (he : e = .connect t b)
      (h : ConnectEffect env s.stack b stack o) : StackEffect env s e o stack
  | disconnect (t : Nat) (d : DeviceId) (he : e = .disconnect t d) (ho : o = .silent) :
      StackEffect env s e o (Bacnet.disconnect s.stack d)
  | send (t : Nat) (d : DeviceId) (args : ReadArgs) (tgt : TargetDevice) (stack : Stack)
      (id : UInt8) (frame : Option (BacnetIpAddress × List UInt8)) (he : e = .send t d args)
      (ho : o = .sent id frame) (hl : s.stack.targets.lookup d = some tgt)
      (h : SendEffect env s.stack d args stack id frame) :
      StackEffect env s e o (stack.setTarget d { tgt with request := some (id, .ongoing) })
  | apdu (t : Nat) (arrival : Arrival) (src : BacnetAddress) (a : Apdu) (stack : Stack)
      (he : e = .receive t arrival) (ho : o = .silent) (ha : arriving env s e = some (src, a))
      (h : ApduEffect arrival.order src a s.stack stack) : StackEffect env s e o stack
  | extract (t : Nat) (call : ReadCall) (stack : Stack) (he : e = .extract t)
      (hth : s.threads t = .reading call) (hpc : call.pc = .extracting)
      (h : ExtractEffect s.stack call.deviceId stack o) : StackEffect env s e o stack
  | whoisStart (t : Nat) (subnet : Option UInt16) (he : e = .whoisStart t subnet)
      (ho : o = (Bacnet.whoisStart env s.stack subnet).2) :
      StackEffect env s e o (Bacnet.whoisStart env s.stack subnet).1
  | whoisClose (t : Nat) (he : e = .whoisClose t) (ho : o = .silent) :
      StackEffect env s e o (Bacnet.whoisClose s.stack)
  | whoisDrain (t : Nat) (he : e = .whoisDrain t) (ho : o = .discovered s.stack.discovered) :
      StackEffect env s e o { s.stack with discovered := [] }

theorem stack_cases (h : Step env s e s' o) : StackEffect env s e o s'.stack := by
  cases h with
  | connect t b stack o hth h => exact .connect t b stack rfl h
  | disconnect t d hth => exact .disconnect t d rfl rfl
  | sendPoisoned t d args hth hp => exact .same nofun (fun _ => hp) fun _ => rfl
  | sendUnknown t d args hth hp hl => exact .same nofun nofun fun _ => rfl
  | send t d args tgt stack id frame hth hp hl h =>
      exact .send t d args tgt stack id frame rfl rfl hl h
  | receive t arrival rx' stack hth h =>
      have harr := arriving_receive env arrival hth
      cases h with
      | nothing hd => exact .same nofun nofun fun _ => harr.trans hd
      | apdu src a hd he => exact .apdu t arrival src a stack rfl rfl (harr.trans hd) he
  | abort t arrival hth h => exact .same nofun nofun fun hne => absurd rfl hne
  | pollAgain t elapsed call hth hpc hres he => exact .same nofun nofun fun _ => rfl
  | pollFree t elapsed call hth hpc hfree => exact .same nofun nofun fun _ => rfl
  | pollFailed t elapsed call hth hpc hid hav => exact .same nofun nofun fun _ => rfl
  | pollElapsed t call hth hpc hres => exact .same nofun nofun fun _ => rfl
  | extract t call stack o hth hpc h => exact .extract t call stack rfl hth hpc h
  | whoisStart t subnet hth => exact .whoisStart t subnet rfl rfl
  | whoisClose t rx hth => exact .whoisClose t rfl rfl
  | whoisDrain t hth => exact .whoisDrain t rfl rfl

theorem ConnectEffect.output {s s' : Stack} {b : BACnetDeviceBuilder} {o : Output}
    (h : ConnectEffect env s b s' o) : o = .panicked ∨ ∃ r, o = .connected r := by
  cases h with
  | ok m addr cache _ _ => exact Or.inr ⟨_, rfl⟩
  | failed cache _ => exact Or.inr ⟨_, rfl⟩
  | panicked cache _ => exact Or.inl rfl

theorem ConnectEffect.not_sent {s s' : Stack} {b : BACnetDeviceBuilder} {o : Output}
    (h : ConnectEffect env s b s' o) (id : UInt8)
    (frame : Option (BacnetIpAddress × List UInt8)) : o ≠ .sent id frame := by
  rcases h.output with rfl | ⟨r, rfl⟩ <;> nofun

theorem ExtractEffect.output {s s' : Stack} {d : DeviceId} {o : Output}
    (h : ExtractEffect s d s' o) : o = .panicked ∨ ∃ r, o = .returned r := by
  cases h with
  | poisoned _ => exact Or.inl rfl
  | missing _ _ => exact Or.inl rfl
  | noRequest tgt _ _ _ => exact Or.inl rfl
  | ongoing tgt _ _ _ _ => exact Or.inl rfl
  | done tgt _ _ _ _ => exact Or.inr ⟨_, rfl⟩
  | error tgt _ _ _ _ _ => exact Or.inr ⟨_, rfl⟩

theorem ExtractEffect.not_sent {s s' : Stack} {d : DeviceId} {o : Output}
    (h : ExtractEffect s d s' o) (id : UInt8)
    (frame : Option (BacnetIpAddress × List UInt8)) : o ≠ .sent id frame := by
  rcases h.output with rfl | ⟨r, rfl⟩ <;> nofun

/-! ### The entry of a device -/

/-- What a step makes of the entry of `d`. -/
inductive EntryEffect (env : Env) (s : Sys) (e : Event) (o : Output) (d : DeviceId) :
    Option TargetDevice → Prop where
  | same (entry : Option TargetDevice) (h : s.stack.targets.lookup d = entry)
      (hs : ¬ SentTo d e o) : EntryEffect env s e o d entry
  | connected (t : Nat) (b : BACnetDeviceBuilder) (addr : BacnetAddress) (he : e = .connect t b)
      (hd : b.deviceId = d) (ho : o = .connected (.ok ())) :
      EntryEffect env s e o d (some (freshTarget addr))
  | sent (t : Nat) (args : ReadArgs) (tgt : TargetDevice) (id : UInt8)
      (frame : Option (BacnetIpAddress × List UInt8)) (he : e = .send t d args)
      (ho : o = .sent id frame) (hl : s.stack.targets.lookup d = some tgt) :
      EntryEffect env s e o d (some { tgt with request := some (id, .ongoing) })
  | replied (t : Nat) (arrival : Arrival) (src : BacnetAddress) (a : Apdu) (id : UInt8)
      (f : TargetDevice → TargetDevice) (tgt : TargetDevice) (he : e = .receive t arrival)
      (ha : arriving env s e = some (src, a)) (hr : a.releases = some id)
      (hf : a.update = some f)
      (hd : findMatchingDevice arrival.order s.stack.targets src id = some d)
      (hl : s.stack.targets.lookup d = some tgt) : EntryEffect env s e o d (some (f tgt))
  | taken (t : Nat) (call : ReadCall) (tgt : TargetDevice)
      (value : Option (Result BACnetValue)) (he : e = .extract t)
      (hth : s.threads t = .reading call) (hpc : call.pc = .extracting) (hd : call.deviceId = d)
      (hl : s.stack.targets.lookup d = some tgt) :
      EntryEffect env s e o d (some ⟨tgt.addr, none, value⟩)

theorem SendEffect.targets_eq {s s' : Stack} {d : DeviceId} {args : ReadArgs} {id : UInt8}
    {frame : Option (BacnetIpAddress × List UInt8)} (h : SendEffect env s d args s' id frame) :
    s'.targets = s.targets := by
  cases h <;> rfl

theorem SendEffect.poisoned_eq {s s' : Stack} {d : DeviceId} {args : ReadArgs} {id : UInt8}
    {frame : Option (BacnetIpAddress × List UInt8)} (h : SendEffect env s d args s' id frame) :
    s'.poisoned = s.poisoned := by
  cases h <;> rfl

/-- A request that can go out gets an id. -/
theorem SendEffect.ne_zero {s s' : Stack} {d : DeviceId} {args : ReadArgs} {id : UInt8}
    {frame : Option (BacnetIpAddress × List UInt8)} (ht : s.tsm.Ok)
    (h : SendEffect env s d args s' id frame) (hready : SendReady s d args) : id ≠ 0 := by
  cases h with
  | failed tsm hn hlist hok => exact absurd hready hn
  | sent m dest i _ hg hi => exact Tsm.nextUnused_ne_zero ht hready.2.1

/-- Extracting empties the request of its own device and leaves the others. -/
theorem ExtractEffect.lookup_cases {s s' : Stack} {d : DeviceId} {o : Output}
    (h : ExtractEffect s d s' o) (d' : DeviceId) :
    s'.targets.lookup d' = s.targets.lookup d' ∨
      d' = d ∧ ∃ tgt value, s.targets.lookup d = some tgt ∧
        s'.targets.lookup d' = some ⟨tgt.addr, none, value⟩ := by
  have hset : ∀ tgt value, s.targets.lookup d = some tgt →
      (s.setTarget d ⟨tgt.addr, none, value⟩).targets.lookup d' = s.targets.lookup d' ∨
        d' = d ∧ ∃ tgt' value', s.targets.lookup d = some tgt' ∧
          (s.setTarget d ⟨tgt.addr, none, value⟩).targets.lookup d' =
            some ⟨tgt'.addr, none, value'⟩ := by
    intro tgt value hl
    by_cases hd : d' = d
    · subst hd
      exact Or.inr ⟨rfl, tgt, value, hl, Stack.lookup_setTarget_self _ _ _⟩
    · exact Or.inl (Stack.lookup_setTarget_ne _ hd _)
  cases h with
  | poisoned _ => exact Or.inl rfl
  | missing _ _ => exact Or.inl rfl
  | noRequest tgt _ hl _ => exact hset tgt tgt.value hl
  | ongoing tgt _ _ hl _ => exact hset tgt tgt.value hl
  | done tgt _ _ hl _ => exact hset tgt none hl
  | error tgt _ _ _ hl _ => exact hset tgt tgt.value hl

theorem entry_cases (h : Step env s e s' o) (d : DeviceId) :
    EntryEffect env s e o d (s'.stack.targets.lookup d) := by
  have hno : (∀ id frame, o ≠ .sent id frame) → ¬ SentTo d e o := by
    intro hne hsent
    obtain ⟨t, args, id, frame, -, ho⟩ := hsent
    exact hne id frame ho
  have hstack := stack_cases h
  generalize s'.stack = stack' at hstack
  cases hstack with
  | same ho hp ha => exact .same _ rfl (hno ho)
  | connect t b stack he h =>
      have hsame := hno h.not_sent
      cases h with
      | ok m addr cache hp hr =>
          by_cases hd : d = b.deviceId
          · subst hd
            rw [Stack.lookup_setTarget_self]
            exact .connected t b addr he rfl rfl
          · rw [Stack.lookup_setTarget_ne _ hd]
            simp only [connecting, stackInit_targets]
            exact .same _ rfl hsame
      | failed cache hr =>
          simp only [connecting, stackInit_targets]
          exact .same _ rfl hsame
      | panicked cache hp =>
          simp only [connecting, stackInit_targets]
          exact .same _ rfl hsame
  | disconnect t d' he ho => exact .same _ rfl (hno (by rw [ho]; nofun))
  | send t d' args tgt stack id frame he ho hl h =>
      by_cases hd : d = d'
      · subst hd
        rw [Stack.lookup_setTarget_self]
        exact .sent t args tgt id frame he ho hl
      · rw [Stack.lookup_setTarget_ne _ hd, h.targets_eq]
        refine .same _ rfl fun ⟨t', args', id', frame', he', _⟩ => hd ?_
        rw [he] at he'
        exact (Event.send.inj he').2.1.symm
  | apdu t arrival src a stack he ho ha h =>
      have hsame : ¬ SentTo d e o := hno (by rw [ho]; nofun)
      cases h with
      | none _ => exact .same _ rfl hsame
      | binding i _ _ _ => exact .same _ rfl hsame
      | discovery device _ _ => exact .same _ rfl hsame
      | released id _ _ => exact .same _ rfl hsame
      | taken id hr f hf d' tgt hm hl hp =>
          by_cases hd : d = d'
          · subst hd
            simp only [Stack.freeInvokeId, Stack.lookup_setTarget_self]
            exact .replied t arrival src a id f tgt he ha hr hf hm hl
          · simp only [Stack.freeInvokeId, Stack.lookup_setTarget_ne _ hd]
            exact .same _ rfl hsame
  | extract t call stack he hth hpc h =>
      rcases h.lookup_cases d with heq | ⟨rfl, tgt, value, hl, heq⟩
      · rw [heq]
        exact .same _ rfl (hno h.not_sent)
      · rw [heq]
        exact .taken t call tgt value he hth hpc rfl hl
  | whoisStart t subnet he ho => exact .same _ rfl (hno (by rw [ho]; nofun))
  | whoisClose t he ho => exact .same _ rfl (hno (by rw [ho]; nofun))
  | whoisDrain t he ho => exact .same _ rfl (hno (by rw [ho]; nofun))

/-! ### The reserved ids -/

/-- What a step makes of the set of reserved ids. -/
inductive ReservedEffect (env : Env) (s : Sys) (e : Event) (o : Output) : Finset UInt8 → Prop where
  | same (hs : ∀ id frame, o = .sent id frame → id = 0)
      (hr : o ≠ .aborted → ∀ src a, arriving env s e = some (src, a) → a.releases = none) :
      ReservedEffect env s e o s.stack.tsm.reserved
  | sent (t : Nat) (d : DeviceId) (args : ReadArgs) (id : UInt8)
      (frame : Option (BacnetIpAddress × List UInt8)) (he : e = .send t d args)
      (ho : o = .sent id frame) (h0 : id ≠ 0) (hnew : id ∉ s.stack.tsm.reserved) :
      ReservedEffect env s e o (insert id s.stack.tsm.reserved)
  | released (src : BacnetAddress) (a : Apdu) (id : UInt8) (ho : o = .silent)
      (ha : arriving env s e = some (src, a)) (hr : a.releases = some id) :
      ReservedEffect env s e o (s.stack.tsm.reserved.erase id)

theorem reserved_of_list_eq {t t' : Tsm} (h : t'.list = t.list) : t'.reserved = t.reserved := by
  rw [Tsm.reserved, h, Tsm.reserved]

theorem dlenvInit_list (env : Env) (s : Stack) : (dlenvInit env s).tsm.list = s.tsm.list := by
  simp only [dlenvInit]
  cases env.invokeId <;> rfl

theorem stackInit_list (env : Env) (s : Stack) : (stackInit env s).tsm.list = s.tsm.list := by
  rw [stackInit]
  split
  · rfl
  · exact dlenvInit_list env (initServiceHandlers s)

theorem ConnectEffect.list_eq {s s' : Stack} {b : BACnetDeviceBuilder} {o : Output}
    (h : ConnectEffect env s b s' o) : s'.tsm.list = s.tsm.list := by
  cases h <;> exact stackInit_list env s

theorem ExtractEffect.tsm_eq {s s' : Stack} {d : DeviceId} {o : Output}
    (h : ExtractEffect s d s' o) : s'.tsm = s.tsm := by
  cases h <;> rfl

/-- What a message does to the reserved ids. -/
theorem apduEffect_reserved {order : List DeviceId} {src : BacnetAddress} {a : Apdu}
    {s s' : Stack} (ht : s.tsm.Ok) (h : ApduEffect order src a s s') :
    (a.releases = none ∧ s'.tsm = s.tsm) ∨
      ∃ id, a.releases = some id ∧ s'.tsm.reserved = s.tsm.reserved.erase id := by
  cases h with
  | none h => exact Or.inl ⟨h, rfl⟩
  | binding i h _ _ => exact Or.inl ⟨h, rfl⟩
  | discovery device h _ => exact Or.inl ⟨h, rfl⟩
  | released id h _ => exact Or.inr ⟨id, h, Tsm.reserved_freeInvokeId ht id⟩
  | taken id h f hf d t hd hl hp => exact Or.inr ⟨id, h, Tsm.reserved_freeInvokeId ht id⟩

theorem reserved_cases (ht : s.stack.tsm.Ok) (h : Step env s e s' o) :
    ReservedEffect env s e o s'.stack.tsm.reserved := by
  have hkeep : ∀ t : Tsm, t.list = s.stack.tsm.list → (∀ id frame, o = .sent id frame → id = 0) →
      (o ≠ .aborted → ∀ src a, arriving env s e = some (src, a) → a.releases = none) →
      ReservedEffect env s e o t.reserved := by
    intro t hlist hs hr
    rw [reserved_of_list_eq hlist]
    exact .same hs hr
  -- Only a receive delivers anything.
  have hquiet : (∀ t arrival, e ≠ .receive t arrival) →
      o ≠ .aborted → ∀ src a, arriving env s e = some (src, a) → a.releases = none := by
    intro hne _ src a ha
    obtain ⟨t, arrival, he⟩ := event_of_arriving ha
    exact absurd he (hne t arrival)
  have hstack := stack_cases h
  generalize s'.stack = stack' at hstack
  cases hstack with
  | same ho hp ha =>
      refine hkeep _ rfl (fun id frame hs => absurd hs (ho id frame)) fun hne src a harr => ?_
      rw [ha hne] at harr
      cases harr
  | connect t b stack he h =>
      exact hkeep _ h.list_eq (fun id frame ho => absurd ho (h.not_sent id frame))
        (hquiet (by rw [he]; nofun))
  | disconnect t d he ho => exact hkeep _ rfl (by rw [ho]; nofun) (hquiet (by rw [he]; nofun))
  | send t d args tgt stack id frame he ho hl h =>
      cases h with
      | failed tsm hn hlist hok =>
          refine hkeep _ hlist (fun id frame ho' => ?_) (hquiet (by rw [he]; nofun))
          rw [ho] at ho'
          cases ho'
          rfl
      | sent m dest i hready hg hi =>
          have h0 := Tsm.nextUnused_ne_zero ht hready.2.1
          have hnew := Tsm.nextUnused_not_mem ht hready.2.1
          have heq : (s.stack.tsm.reserveAt i s.stack.tsm.nextUnused .awaitConfirmation).reserved =
              insert s.stack.tsm.nextUnused s.stack.tsm.reserved := Tsm.reserved_reserveAt h0 hi
          simp only [Stack.setTarget, heq]
          exact .sent t d args _ _ he ho h0 hnew
  | apdu t arrival src a stack he ho ha h =>
      rcases apduEffect_reserved ht h with ⟨hnone, heq⟩ | ⟨id, hr, heq⟩
      · refine hkeep _ (congrArg Tsm.list heq) (by rw [ho]; nofun) fun _ src' a' ha' => ?_
        rw [ha] at ha'
        cases ha'
        exact hnone
      · rw [heq]
        exact .released src a id ho ha hr
  | extract t call stack he hth hpc h =>
      exact hkeep _ (congrArg Tsm.list h.tsm_eq)
        (fun id frame ho => absurd ho (h.not_sent id frame)) (hquiet (by rw [he]; nofun))
  | whoisStart t subnet he ho =>
      exact hkeep _ (dlenvInit_list env _) (by rw [ho]; nofun) (hquiet (by rw [he]; nofun))
  | whoisClose t he ho => exact hkeep _ rfl (by rw [ho]; nofun) (hquiet (by rw [he]; nofun))
  | whoisDrain t he ho => exact hkeep _ rfl (by rw [ho]; nofun) (hquiet (by rw [he]; nofun))

/-! ### The call a thread is in -/

/-- How a thread came to be in its call. -/
inductive CallEffect (s : Sys) (e : Event) (o : Output) (t : Nat) : ReadCall → Prop where
  | same (call : ReadCall) (hth : s.threads t = .reading call)
      (h : e.thread = t → o = .aborted) : CallEffect s e o t call
  | sent (d : DeviceId) (args : ReadArgs) (id : UInt8)
      (frame : Option (BacnetIpAddress × List UInt8)) (he : e = .send t d args)
      (ho : o = .sent id frame) : CallEffect s e o t ⟨d, args, id, .fresh, .receiving⟩
  | received (arrival : Arrival) (call : ReadCall) (rx : RxState) (he : e = .receive t arrival)
      (hth : s.threads t = .reading call) (hpc : call.pc = .receiving) (ho : o = .silent) :
      CallEffect s e o t { call with rx, pc := .polling }
  | again (elapsed : Bool) (call : ReadCall) (he : e = .poll t elapsed)
      (hth : s.threads t = .reading call) (hpc : call.pc = .polling) (ho : o = .silent)
      (hres : call.requestInvokeId ∈ s.stack.tsm.reserved) :
      CallEffect s e o t { call with pc := .receiving }
  | free (elapsed : Bool) (call : ReadCall) (he : e = .poll t elapsed)
      (hth : s.threads t = .reading call) (hpc : call.pc = .polling) (ho : o = .silent)
      (hfree : s.stack.tsm.invokeIdFree call.requestInvokeId = true) :
      CallEffect s e o t { call with pc := .extracting }

theorem Sys.threads_setThread (s : Sys) (t u : Nat) (th : Thread) :
    (s.setThread t th).threads u = if u = t then th else s.threads u := by
  simp only [Sys.setThread, Function.update_apply]

@[simp] theorem Sys.threads_setThread_self (s : Sys) (t : Nat) (th : Thread) :
    (s.setThread t th).threads t = th := by
  rw [Sys.threads_setThread, if_pos rfl]

theorem threads_of_ne (h : Step env s e s' o) {t : Nat} (hne : t ≠ e.thread) :
    s'.threads t = s.threads t := by
  have hset : ∀ th, (s.setThread e.thread th).threads t = s.threads t := by
    intro th
    rw [Sys.threads_setThread, if_neg hne]
  cases h with
  | connect u b stack o hth h => rfl
  | disconnect u d hth => rfl
  | sendPoisoned u d args hth hp => rfl
  | sendUnknown u d args hth hp hl => rfl
  | abort u arrival hth h => rfl
  | send u d args tgt stack id frame hth hp hl h => exact hset _
  | receive u arrival rx' stack hth h => exact hset _
  | pollAgain u elapsed c hth hpc hres he => exact hset _
  | pollFree u elapsed c hth hpc hfree => exact hset _
  | pollFailed u elapsed c hth hpc hid hav => exact hset _
  | pollElapsed u c hth hpc hres => exact hset _
  | extract u c stack o hth hpc h => exact hset _
  | whoisStart u subnet hth => exact hset _
  | whoisClose u rx hth => exact hset _
  | whoisDrain u hth => exact hset _

theorem call_cases (h : Step env s e s' o) {t : Nat} {call : ReadCall}
    (hth' : s'.threads t = .reading call) : CallEffect s e o t call := by
  by_cases hte : t = e.thread
  swap
  · rw [threads_of_ne h hte] at hth'
    exact .same call hth' fun heq => absurd heq.symm hte
  subst hte
  -- A thread that is in no call before the step and stays as it is, or is in none after it.
  have hold : ∀ th, s.threads e.thread = th → th.call? = none →
      s.threads e.thread = .reading call → CallEffect s e o e.thread call := by
    intro th hth hnone hread
    rw [← hth, hread] at hnone
    cases hnone
  have hnew : ∀ th : Thread, th.call? = none →
      (s.setThread e.thread th).threads e.thread = .reading call →
      CallEffect s e o e.thread call := by
    intro th hnone hread
    rw [Sys.threads_setThread_self] at hread
    rw [hread] at hnone
    cases hnone
  cases h with
  | connect u b stack o hth h => exact hold .idle hth rfl hth'
  | disconnect u d hth => exact hold .idle hth rfl hth'
  | sendPoisoned u d args hth hp => exact hold .idle hth rfl hth'
  | sendUnknown u d args hth hp hl => exact hold .idle hth rfl hth'
  | send u d args tgt stack id frame hth hp hl h =>
      cases (Sys.threads_setThread_self s u _).symm.trans hth'
      exact .sent d args id frame rfl rfl
  | receive u arrival rx' stack hth h =>
      replace hth' := (Sys.threads_setThread_self s u _).symm.trans hth'
      generalize hth₀ : s.threads u = th at hth
      cases hth with
      | reading c hpc =>
          cases hth'
          exact .received arrival c rx' rfl hth₀ hpc rfl
      | discovering rx => cases hth'
  | abort u arrival hth h => exact .same call hth' fun _ => rfl
  | pollAgain u elapsed c hth hpc hres he =>
      cases (Sys.threads_setThread_self s u _).symm.trans hth'
      exact .again elapsed c rfl hth hpc rfl hres
  | pollFree u elapsed c hth hpc hfree =>
      cases (Sys.threads_setThread_self s u _).symm.trans hth'
      exact .free elapsed c rfl hth hpc rfl hfree
  | pollFailed u elapsed c hth hpc hid hav => exact hnew .idle rfl hth'
  | pollElapsed u c hth hpc hres => exact hnew .idle rfl hth'
  | extract u c stack o hth hpc h => exact hnew .idle rfl hth'
  | whoisStart u subnet hth => exact hnew _ rfl hth'
  | whoisClose u rx hth => exact hnew _ rfl hth'
  | whoisDrain u hth => exact hnew _ rfl hth'

/-- A thread that reads can only receive, poll or extract. -/
theorem event_of_reading (h : Step env s e s' o) {call : ReadCall}
    (hth : s.threads e.thread = .reading call) :
    (∃ arrival, e = .receive e.thread arrival) ∨ (∃ elapsed, e = .poll e.thread elapsed) ∨
      e = .extract e.thread := by
  have hno : ∀ th, s.threads e.thread = th → th.call? = none →
      (∃ arrival, e = .receive e.thread arrival) ∨ (∃ elapsed, e = .poll e.thread elapsed) ∨
        e = .extract e.thread := by
    intro th hth' hnone
    rw [← hth', hth] at hnone
    cases hnone
  cases h with
  | connect t b stack o hth' h => exact hno .idle hth' rfl
  | disconnect t d hth' => exact hno .idle hth' rfl
  | sendPoisoned t d args hth' hp => exact hno .idle hth' rfl
  | sendUnknown t d args hth' hp hl => exact hno .idle hth' rfl
  | send t d args tgt stack id frame hth' hp hl h => exact hno .idle hth' rfl
  | receive t arrival rx' stack hth' h => exact Or.inl ⟨arrival, rfl⟩
  | abort t arrival hth' h => exact Or.inl ⟨arrival, rfl⟩
  | pollAgain t elapsed c hth' hpc hres he => exact Or.inr (Or.inl ⟨elapsed, rfl⟩)
  | pollFree t elapsed c hth' hpc hfree => exact Or.inr (Or.inl ⟨elapsed, rfl⟩)
  | pollFailed t elapsed c hth' hpc hid hav => exact Or.inr (Or.inl ⟨elapsed, rfl⟩)
  | pollElapsed t c hth' hpc hres => exact Or.inr (Or.inl ⟨true, rfl⟩)
  | extract t c stack o hth' hpc h => exact Or.inr (Or.inr rfl)
  | whoisStart t subnet hth' => exact hno .idle hth' rfl
  | whoisClose t rx hth' => exact hno _ hth' rfl
  | whoisDrain t hth' => exact hno _ hth' rfl

/-- The same call, wherever in its loop it stands. -/
def ReadCall.Same (c c' : ReadCall) : Prop :=
  c.deviceId = c'.deviceId ∧ c.args = c'.args ∧ c.requestInvokeId = c'.requestInvokeId

/-- Where a call comes from: it was there before, or its request was sent. -/
theorem call_origin (h : Step env s e s' o) {t : Nat} {call : ReadCall}
    (hth' : s'.threads t = .reading call) :
    (∃ c, s.threads t = .reading c ∧ c.Same call ∧ ¬ SentBy t e o) ∨
      ∃ frame, e = .send t call.deviceId call.args ∧ o = .sent call.requestInvokeId frame := by
  have hcall := call_cases h hth'
  have hno : (∀ d args, e ≠ .send t d args) → ¬ SentBy t e o := by
    intro hne hsent
    obtain ⟨d, args, id, frame, he, -⟩ := hsent
    exact hne d args he
  cases hcall with
  | same c hth hab =>
      refine Or.inl ⟨_, hth, ⟨rfl, rfl, rfl⟩, fun hsent => ?_⟩
      obtain ⟨d, args, id, frame, he, ho⟩ := hsent
      have habort := hab (by rw [he]; rfl)
      rw [ho] at habort
      cases habort
  | sent d args id frame he ho => exact Or.inr ⟨frame, he, ho⟩
  | received arrival c rx he hth _ _ =>
      exact Or.inl ⟨c, hth, ⟨rfl, rfl, rfl⟩, hno (by rw [he]; nofun)⟩
  | again elapsed c he hth _ _ _ =>
      exact Or.inl ⟨c, hth, ⟨rfl, rfl, rfl⟩, hno (by rw [he]; nofun)⟩
  | free elapsed c he hth _ _ _ =>
      exact Or.inl ⟨c, hth, ⟨rfl, rfl, rfl⟩, hno (by rw [he]; nofun)⟩

/-- How a call goes on: what becomes of a thread that takes a step of its call `c`. -/
inductive NextEffect (s : Sys) (e : Event) (c : ReadCall) : Thread → Prop where
  | goesOn (c' : ReadCall) (hsame : c.Same c') (hne : c.pc ≠ .extracting)
      (hpc : c'.pc = .extracting → s.stack.tsm.invokeIdFree c.requestInvokeId = true) :
      NextEffect s e c (.reading c')
  | aborted (c' : ReadCall) (hc : c' = c) : NextEffect s e c (.reading c')
  | failed (hid : c.requestInvokeId = 0) : NextEffect s e c .idle
  | elapsed (he : e = .poll e.thread true)
      (hres : c.requestInvokeId ∈ s.stack.tsm.reserved) : NextEffect s e c .idle
  | extracted (he : e = .extract e.thread) (hpc : c.pc = .extracting) : NextEffect s e c .idle

theorem next_cases (h : Step env s e s' o) {c : ReadCall} (hth : s.threads e.thread = .reading c) :
    NextEffect s e c (s'.threads e.thread) := by
  have hbusy : ∀ th, s.threads e.thread = th → th.call? = none →
      NextEffect s e c (s'.threads e.thread) := by
    intro th hth' hnone
    rw [← hth', hth] at hnone
    cases hnone
  have hset : ∀ th, NextEffect s e c th →
      NextEffect s e c ((s.setThread e.thread th).threads e.thread) := by
    intro th hnext
    rw [Sys.threads_setThread_self]
    exact hnext
  cases h with
  | connect t b stack o hth' h => exact hbusy .idle hth' rfl
  | disconnect t d hth' => exact hbusy .idle hth' rfl
  | sendPoisoned t d args hth' hp => exact hbusy .idle hth' rfl
  | sendUnknown t d args hth' hp hl => exact hbusy .idle hth' rfl
  | send t d args tgt stack id frame hth' hp hl h =>
      exact hbusy .idle hth' rfl
  | receive t arrival rx' stack hth' h =>
      replace hth : s.threads t = .reading c := hth
      rw [hth] at hth'
      cases hth' with
      | reading c hpc => exact hset _ (.goesOn _ ⟨rfl, rfl, rfl⟩ (by rw [hpc]; nofun) nofun)
  | abort t arrival hth' h =>
      replace hth : s.threads t = .reading c := hth
      simp only [show (Event.receive t arrival).thread = t from rfl, hth]
      exact .aborted c rfl
  | pollAgain t elapsed c' hth' hpc hres he =>
      cases hth.symm.trans hth'
      exact hset _ (.goesOn _ ⟨rfl, rfl, rfl⟩ (by rw [hpc]; nofun) nofun)
  | pollFree t elapsed c' hth' hpc hfree =>
      cases hth.symm.trans hth'
      exact hset _ (.goesOn _ ⟨rfl, rfl, rfl⟩ (by rw [hpc]; nofun) fun _ => hfree)
  | pollFailed t elapsed c' hth' hpc hid hav =>
      cases hth.symm.trans hth'
      exact hset _ (.failed hid)
  | pollElapsed t c' hth' hpc hres =>
      cases hth.symm.trans hth'
      exact hset _ (.elapsed rfl hres)
  | extract t c' stack o hth' hpc h =>
      cases hth.symm.trans hth'
      exact hset _ (.extracted rfl hpc)
  | whoisStart t subnet hth' => exact hbusy .idle hth' rfl
  | whoisClose t rx hth' => exact hbusy _ hth' rfl
  | whoisDrain t hth' => exact hbusy _ hth' rfl

/-- An extraction with the lock sound empties the request it reads. -/
theorem cleared_of_extract {t : Nat} {c : ReadCall} (h : Step env s (.extract t) s' o)
    (hth : s.threads t = .reading c) (hp : s.stack.poisoned = false)
    (hl : ∃ tgt, s.stack.targets.lookup c.deviceId = some tgt) :
    ∃ tgt', s'.stack.targets.lookup c.deviceId = some tgt' ∧ tgt'.request = none := by
  cases h with
  | extract _ c' stack _ hth' hpc h =>
      cases hth.symm.trans hth'
      cases h with
      | poisoned hp' =>
          rw [hp] at hp'
          cases hp'
      | missing _ hl' =>
          obtain ⟨tgt, hl⟩ := hl
          rw [hl] at hl'
          cases hl'
      | noRequest _ _ _ _ => exact ⟨_, Stack.lookup_setTarget_self _ _ _, rfl⟩
      | ongoing _ _ _ _ _ => exact ⟨_, Stack.lookup_setTarget_self _ _ _, rfl⟩
      | done _ _ _ _ _ => exact ⟨_, Stack.lookup_setTarget_self _ _ _, rfl⟩
      | error _ _ _ _ _ _ => exact ⟨_, Stack.lookup_setTarget_self _ _ _, rfl⟩

theorem idle_of_extract {t : Nat} (h : Step env s (.extract t) s' o) : s'.threads t = .idle := by
  cases h with
  | extract _ call stack _ hth hpc h => exact Sys.threads_setThread_self s t .idle

/-- A thread that sends is in no call. -/
theorem not_reading_of_send {t : Nat} {d : DeviceId} {args : ReadArgs}
    (hs : Step env s (.send t d args) s' o) {call : ReadCall} : s.threads t ≠ .reading call := by
  intro hth
  rcases event_of_reading hs hth with ⟨_, he⟩ | ⟨_, he⟩ | he <;> cases he

/-- An aborted process leaves everything as it is. -/
theorem eq_of_aborted (h : Step env s e s' o) (ho : o = .aborted) :
    s'.stack = s.stack ∧ s'.threads = s.threads := by
  cases h with
  | connect t b stack o hth h => rcases h.output with rfl | ⟨r, rfl⟩ <;> cases ho
  | extract t call stack o hth hpc h => rcases h.output with rfl | ⟨r, rfl⟩ <;> cases ho
  | whoisStart t subnet hth => cases ho
  | abort t arrival hth h => exact ⟨rfl, rfl⟩
  | disconnect t d hth => cases ho
  | sendPoisoned t d args hth hp => cases ho
  | sendUnknown t d args hth hp hl => cases ho
  | send t d args tgt stack id frame hth hp hl h => cases ho
  | receive t arrival rx' stack hth h => cases ho
  | pollAgain t elapsed c hth hpc hres he => cases ho
  | pollFree t elapsed c hth hpc hfree => cases ho
  | pollFailed t elapsed c hth hpc hid hav => cases ho
  | pollElapsed t c hth hpc hres => cases ho
  | whoisClose t rx hth => cases ho
  | whoisDrain t hth => cases ho

/-- A poll only looks. -/
theorem stack_eq_of_poll {t : Nat} {elapsed : Bool} (h : Step env s (.poll t elapsed) s' o) :
    s'.stack = s.stack := by
  cases h <;> rfl

/-- While the lock is not poisoned a reply does not end the process. -/
theorem not_aborted_of_releases {t : Nat} {arrival : Arrival} {src : BacnetAddress} {a : Apdu}
    {id : UInt8} (h : Step env s (.receive t arrival) s' o) (hp : s.stack.poisoned = false)
    (ha : arriving env s (.receive t arrival) = some (src, a)) (hr : a.releases = some id) :
    o ≠ .aborted := by
  rintro rfl
  cases h with
  | abort _ _ hth h =>
      rw [arriving_receive env arrival hth] at ha
      rcases h with hpoisoned | ⟨-, hnone⟩
      · rw [hp] at hpoisoned
        cases hpoisoned
      · rw [hnone src a ha] at hr
        cases hr

/-- A reply of a kind that is handled, for a device that matches, is taken by that
device. -/
theorem taken_of_match {t : Nat} {arrival : Arrival} {src : BacnetAddress} {a : Apdu}
    {id : UInt8} {f : TargetDevice → TargetDevice} {d : DeviceId}
    (h : Step env s (.receive t arrival) s' o) (ho : o ≠ .aborted)
    (hreplies : s.stack.handlers.Replies)
    (ha : arriving env s (.receive t arrival) = some (src, a)) (hr : a.releases = some id)
    (hf : a.update = some f)
    (hm : findMatchingDevice arrival.order s.stack.targets src id = some d) :
    ∃ tgt, s.stack.targets.lookup d = some tgt ∧ s'.stack.targets.lookup d = some (f tgt) := by
  cases h with
  | abort _ _ hth hp => exact absurd rfl ho
  | receive _ _ rx' stack hth h =>
      rw [arriving_receive env arrival hth] at ha
      cases h with
      | nothing hd =>
          rw [hd] at ha
          cases ha
      | apdu src' a' hd he =>
          rw [hd] at ha
          cases ha
          cases he with
          | none hnone =>
              rw [hr] at hnone
              cases hnone
          | binding i hnone _ _ =>
              rw [hr] at hnone
              cases hnone
          | discovery device hnone _ =>
              rw [hr] at hnone
              cases hnone
          | released id' hr' hno =>
              rw [hr] at hr'
              cases hr'
              rcases hno hreplies with hno | hno
              · rw [hf] at hno
                cases hno
              · rw [hm] at hno
                cases hno
          | taken id' hr' f' hf' d' tgt hm' hl _ =>
              rw [hr] at hr'
              cases hr'
              rw [hm] at hm'
              cases hm'
              rw [hf] at hf'
              cases hf'
              exact ⟨tgt, hl, Stack.lookup_setTarget_self _ _ _⟩

/-! ### Panics and results -/

/-- The lock is poisoned by an extraction that finds nothing to report, and by nothing
else; and nothing else panics while it is not. -/
theorem panic_cases (h : Step env s e s' o) :
    (s'.stack.poisoned = s.stack.poisoned ∧ (o = .panicked → s.stack.poisoned = true)) ∨
      ∃ call, e = .extract e.thread ∧ s.threads e.thread = .reading call ∧
        call.pc = .extracting ∧
        ∀ tgt, s.stack.targets.lookup call.deviceId = some tgt → tgt.report = none := by
  have hstack := stack_cases h
  generalize s'.stack = stack' at hstack
  cases hstack with
  | same ho hp ha => exact Or.inl ⟨rfl, hp⟩
  | connect t b stack he h =>
      refine Or.inl ?_
      cases h with
      | ok m addr cache hp hr => exact ⟨stackInit_poisoned env s.stack, nofun⟩
      | failed cache hr => exact ⟨stackInit_poisoned env s.stack, nofun⟩
      | panicked cache hp => exact ⟨stackInit_poisoned env s.stack, fun _ => hp⟩
  | disconnect t d he ho => exact Or.inl ⟨rfl, by rw [ho]; nofun⟩
  | send t d args tgt stack id frame he ho hl h =>
      exact Or.inl ⟨h.poisoned_eq, by rw [ho]; nofun⟩
  | apdu t arrival src a stack he ho ha h =>
      refine Or.inl ⟨?_, by rw [ho]; nofun⟩
      cases h <;> rfl
  | extract t call stack he hth hpc hx =>
      subst he
      have hnone : ∀ entry, s.stack.targets.lookup call.deviceId = entry →
          (∀ tgt, entry = some tgt → tgt.report = none) →
          ∃ c, Event.extract t = .extract t ∧ s.threads t = .reading c ∧ c.pc = .extracting ∧
            ∀ tgt, s.stack.targets.lookup c.deviceId = some tgt → tgt.report = none := by
        intro entry hl hno
        exact ⟨call, rfl, hth, hpc, fun tgt hl' => hno tgt (hl.symm.trans hl')⟩
      cases hx with
      | poisoned hp => exact Or.inl ⟨rfl, fun _ => hp⟩
      | missing hp hl => exact Or.inr (hnone none hl nofun)
      | noRequest tgt hp hl hr =>
          refine Or.inr (hnone _ hl fun tgt' heq => ?_)
          cases heq
          simp only [TargetDevice.report, hr]
      | ongoing tgt id hp hl hr =>
          refine Or.inr (hnone _ hl fun tgt' heq => ?_)
          cases heq
          simp only [TargetDevice.report, hr]
      | done tgt id hp hl hr => exact Or.inl ⟨rfl, nofun⟩
      | error tgt id err hp hl hr => exact Or.inl ⟨rfl, nofun⟩
  | whoisStart t subnet he ho => exact Or.inl ⟨rfl, by rw [ho]; nofun⟩
  | whoisClose t he ho => exact Or.inl ⟨rfl, by rw [ho]; nofun⟩
  | whoisDrain t he ho => exact Or.inl ⟨rfl, by rw [ho]; nofun⟩

/-- How a call of `read_prop_at` returns. -/
inductive ReturnEffect (s : Sys) (e : Event) (r : Result BACnetValue) : Prop where
  | unknown (t : Nat) (d : DeviceId) (args : ReadArgs) (he : e = .send t d args)
      (hl : s.stack.targets.lookup d = none) (hr : r = .error (.notConnectedToDevice d))
  | failed (t : Nat) (elapsed : Bool) (call : ReadCall) (he : e = .poll t elapsed)
      (hth : s.threads t = .reading call) (hid : call.requestInvokeId = 0)
      (hav : s.stack.tsm.transactionAvailable = true) (hr : r = .error .tsmTimeout)
  | elapsed (t : Nat) (call : ReadCall) (he : e = .poll t true)
      (hth : s.threads t = .reading call)
      (hres : call.requestInvokeId ∈ s.stack.tsm.reserved) (hr : r = .error .apduTimeout)
  | extracted (t : Nat) (call : ReadCall) (tgt : TargetDevice) (he : e = .extract t)
      (hth : s.threads t = .reading call) (hpc : call.pc = .extracting)
      (hl : s.stack.targets.lookup call.deviceId = some tgt) (hr : tgt.report = some r)

theorem return_cases {r : Result BACnetValue} (h : Step env s e s' (.returned r)) :
    ReturnEffect s e r := by
  generalize ho : Output.returned r = o at h
  cases h with
  | connect t b stack o hth h => rcases h.output with rfl | ⟨q, rfl⟩ <;> cases ho
  | sendUnknown t d args hth hp hl =>
      cases ho
      exact .unknown t d args rfl hl rfl
  | pollFailed t elapsed call hth hpc hid hav =>
      cases ho
      exact .failed t elapsed call rfl hth hid hav rfl
  | pollElapsed t call hth hpc hres =>
      cases ho
      exact .elapsed t call rfl hth hres rfl
  | extract t call stack o hth hpc h =>
      cases h with
      | done tgt id hp hl hr =>
          cases ho
          exact .extracted t call tgt rfl hth hpc hl (by simp only [TargetDevice.report, hr])
      | error tgt id err hp hl hr =>
          cases ho
          exact .extracted t call tgt rfl hth hpc hl (by simp only [TargetDevice.report, hr])
      | poisoned _ => cases ho
      | missing _ _ => cases ho
      | noRequest _ _ _ _ => cases ho
      | ongoing _ _ _ _ _ => cases ho
  | whoisStart t subnet hth => cases ho
  | disconnect t d hth => cases ho
  | sendPoisoned t d args hth hp => cases ho
  | send t d args tgt stack id frame hth hp hl h => cases ho
  | receive t arrival rx' stack hth h => cases ho
  | abort t arrival hth h => cases ho
  | pollAgain t elapsed c hth hpc hres he => cases ho
  | pollFree t elapsed c hth hpc hfree => cases ho
  | whoisClose t rx hth => cases ho
  | whoisDrain t hth => cases ho

end Bacnet
