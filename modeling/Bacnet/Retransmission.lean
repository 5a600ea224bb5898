import Bacnet.Transactions

/-!
# Bacnet.Retransmission

What becomes of a request that is **sent and not answered**. The timer is one for all
transactions, and they share a table, but what is done about one request is a function of
the time that passes (`request_run`): the attempt of `Bacnet.Lib.Retry`. So a request is
not given up early, and is given up in time (`request_failed`).
Everything the timer sends was sent before (`resent_of_run`).
-/

namespace Bacnet

open Bacnet.Lib Transactions

/-- `apdu_timeout` and `apdu_retries`. -/
def apduPolicy (timeout : UInt16) (retries : UInt8) : Policy := ⟨timeout.toNat, retries.toNat⟩

/-- A transaction as an attempt. It has failed when its slot is reserved and idle. -/
def Transaction.attempt (d : Transaction) : Attempt :=
  if d.state = .awaitConfirmation then .waiting d.requestTimer.toNat d.retryCount.toNat
  else .failed

/-- The calls that have to do with an id. -/
def TsmEvent.Concerns (invokeId : UInt8) : TsmEvent → Prop
  | .setConfirmedUnsegmentedTransaction id _ apdu => id = invokeId ∧ apdu ≠ []
  | .freeInvokeId id => id = invokeId
  | _ => False

/-- The times of the timer. -/
def ticks (es : List TsmEvent) : List Nat :=
  es.filterMap fun
    | .timerMilliseconds milliseconds => some milliseconds.toNat
    | _ => none

section Timer

variable {timeout : UInt16} {retries : UInt8}

/-- **The timer is a tick of every attempt.** -/
theorem attempt_timer (milliseconds : UInt16) (d : Transaction) :
    (d.timer timeout retries milliseconds).1.attempt =
      (apduPolicy timeout retries).tick milliseconds.toNat d.attempt := by
  obtain ⟨hstate, h⟩ | ⟨hstate, htime, h⟩ | ⟨hstate, htime, hretry, h⟩ |
    ⟨hstate, htime, hretry, h⟩ := timer_cases timeout retries milliseconds d
  · rw [h, Transaction.attempt, hstate]
    rfl
  · have hlt := UInt16.lt_iff_toNat_lt.mp htime
    have hsub := UInt16.toNat_sub_of_le _ _ (UInt16.le_of_lt htime)
    rw [h]
    simp only [Transaction.attempt, hstate, if_true, Policy.tick, hlt, hsub]
  · have hle := mt UInt16.lt_iff_toNat_lt.mpr htime
    have hlt := UInt8.lt_iff_toNat_lt.mp hretry
    have hmax := retries.toNat_lt
    have hadd : (d.retryCount + 1).toNat = d.retryCount.toNat + 1 := by
      rw [UInt8.toNat_add]
      exact Nat.mod_eq_of_lt (by
        have hone : (1 : UInt8).toNat = 1 := rfl
        omega)
    rw [h]
    simp only [Transaction.attempt, hstate, if_true, Policy.tick, hle, if_false, apduPolicy, hlt,
      hadd]
  · have hle := mt UInt16.lt_iff_toNat_lt.mpr htime
    have hnot := mt UInt8.lt_iff_toNat_lt.mpr hretry
    rw [h]
    simp only [Transaction.attempt, hstate, if_true, Policy.tick, hle, if_false, apduPolicy, hnot]
    rfl

/-- What the timer does about a transaction is what there is to report. -/
theorem reports_timer (milliseconds : UInt16) {d : Transaction} (hid : d.invokeId ≠ 0)
    (hwithin : (apduPolicy timeout retries).Within d.attempt) :
    (d.timer timeout retries milliseconds).2 =
      (apduPolicy timeout retries).reports (.resent d.invokeId d.dest d.apdu)
        (.timedOut d.invokeId) d.attempt (d.timer timeout retries milliseconds).1.attempt := by
  rw [attempt_timer]
  obtain ⟨hstate, h⟩ | ⟨hstate, htime, h⟩ | ⟨hstate, htime, hretry, h⟩ |
    ⟨hstate, htime, hretry, h⟩ := timer_cases timeout retries milliseconds d
  · have hfailed : d.attempt = .failed := by
      rw [Transaction.attempt, hstate]
      rfl
    rw [h, hfailed]
    exact (Policy.reports_self _ _ _).symm
  · have hlt := UInt16.lt_iff_toNat_lt.mp htime
    rw [h]
    simp [Transaction.attempt, hstate, Policy.tick, hlt, Policy.reports, Policy.resent]
  · have hle := mt UInt16.lt_iff_toNat_lt.mpr htime
    have hlt := UInt8.lt_iff_toNat_lt.mp hretry
    rw [h]
    simp [Transaction.attempt, hstate, Policy.tick, hle, apduPolicy, hlt, Policy.reports,
      Policy.resent]
  · have hle := mt UInt16.lt_iff_toNat_lt.mpr htime
    have hnot := mt UInt8.lt_iff_toNat_lt.mpr hretry
    have hall : d.retryCount.toNat = retries.toNat := by
      have hused : d.retryCount.toNat ≤ retries.toNat := by
        rw [Transaction.attempt, if_pos hstate] at hwithin
        exact hwithin
      omega
    rw [h]
    simp [Transaction.attempt, hstate, Policy.tick, hle, apduPolicy, hall, Policy.reports,
      Policy.resent, hid]

end Timer

/-! ### One request -/

section Request

variable {timeout : UInt16} {retries : UInt8} {invokeId : UInt8}

/-- A call that has nothing to do with the id. -/
theorem transaction?_next {t : Transactions} (hwf : t.Wf) (hid : invokeId ≠ 0) {d : Transaction}
    (h : t.transaction? invokeId = some d)
    (hwithin : (apduPolicy timeout retries).Within d.attempt) {e : TsmEvent}
    (he : ¬ e.Concerns invokeId) :
    ∃ d', (t.next timeout retries e).1.transaction? invokeId = some d' ∧ d'.dest = d.dest ∧
      d'.apdu = d.apdu ∧ d'.attempt = (apduPolicy timeout retries).after d.attempt (ticks [e]) ∧
      about invokeId (t.next timeout retries e).2 = (apduPolicy timeout retries).reports
        (.resent invokeId d.dest d.apdu) (.timedOut invokeId) d.attempt d'.attempt := by
  have hself := Policy.reports_self (p := apduPolicy timeout retries)
    (TsmAction.resent invokeId d.dest d.apdu) (.timedOut invokeId) d.attempt
  cases e with
  | nextFreeInvokeId =>
      obtain ⟨hne, hnext⟩ := transaction?_nextFreeInvokeId hwf timeout hid h
      refine ⟨d, hnext, rfl, rfl, rfl, ?_⟩
      rw [hself]
      simp [next, about, TsmAction.invokeId, hne]
  | invokeIdSet id => exact ⟨d, h, rfl, rfl, rfl, hself.symm⟩
  | setConfirmedUnsegmentedTransaction id dest apdu =>
      refine ⟨d, ?_, rfl, rfl, rfl, hself.symm⟩
      rw [next, transaction?_setConfirmed_of_not t timeout dest he, h]
  | timerMilliseconds milliseconds =>
      obtain ⟨hnext, habout⟩ :=
        transaction?_timerMilliseconds hwf timeout retries milliseconds hid h
      have hsame := invokeId_of_transaction? h
      obtain ⟨-, hdest, hapdu⟩ := timer_frame timeout retries milliseconds d
      refine ⟨_, hnext, hdest, hapdu, attempt_timer milliseconds d, ?_⟩
      rw [next, habout, reports_timer milliseconds (hsame ▸ hid) hwithin, hsame]
  | freeInvokeId id =>
      refine ⟨d, ?_, rfl, rfl, rfl, hself.symm⟩
      rw [next, transaction?_freeInvokeId_of_ne t hid he, h]

/-- Any number of them. -/
theorem transaction?_run {t t' : Transactions} (hwf : t.Wf) (hid : invokeId ≠ 0)
    {d : Transaction} (h : t.transaction? invokeId = some d)
    (hwithin : (apduPolicy timeout retries).Within d.attempt) {es : List TsmEvent}
    (hes : ∀ e ∈ es, ¬ e.Concerns invokeId) {os}
    (hrun : (transactions timeout retries).run t es = some (t', os)) :
    ∃ d', t'.transaction? invokeId = some d' ∧ d'.dest = d.dest ∧
      d'.apdu = d.apdu ∧ d'.attempt = (apduPolicy timeout retries).after d.attempt (ticks es) ∧
      about invokeId os.flatten = (apduPolicy timeout retries).reports
        (.resent invokeId d.dest d.apdu) (.timedOut invokeId) d.attempt d'.attempt := by
  induction es generalizing t d os with
  | nil =>
      obtain ⟨rfl, rfl⟩ := Prod.mk.inj (Option.some.inj hrun)
      exact ⟨d, h, rfl, rfl, rfl, (Policy.reports_self _ _ _).symm⟩
  | cons e es ih =>
      obtain ⟨r, hr, os', hos', rfl⟩ := ((transactions timeout retries).run_cons).mp hrun
      obtain rfl : t.next timeout retries e = r := Option.some.inj hr
      obtain ⟨d₁, h₁, hdest₁, hapdu₁, hattempt₁, habout₁⟩ :=
        transaction?_next hwf hid h hwithin (hes e List.mem_cons_self)
      have hwithin₁ : (apduPolicy timeout retries).Within d₁.attempt :=
        hattempt₁ ▸ Policy.within_after hwithin (ticks [e])
      obtain ⟨d₂, h₂, hdest₂, hapdu₂, hattempt₂, habout₂⟩ := ih (wf_next hwf timeout retries e) h₁
        hwithin₁ (fun e' he' => hes e' (List.mem_cons_of_mem e he')) hos'
      have hticks : ticks (e :: es) = ticks [e] ++ ticks es := List.filterMap_append (l := [e])
      have hattempt : d₂.attempt =
          (apduPolicy timeout retries).after d.attempt (ticks [e] ++ ticks es) := by
        rw [hattempt₂, hattempt₁, ← Policy.after_append]
      refine ⟨d₂, h₂, hdest₂.trans hdest₁, hapdu₂.trans hapdu₁, ?_, ?_⟩
      · rw [hticks, hattempt]
      · rw [List.flatten_cons, about, List.filter_append]
        refine (congrArg₂ (· ++ ·) habout₁ habout₂).trans ?_
        rw [hdest₁, hapdu₁, hattempt, hattempt₁]
        exact Policy.reports_after hwithin (ticks [e]) (ticks es)

/-- The failure of a transaction, as the client asks for it. -/
theorem invokeIdFailed_iff {t : Transactions} {d : Transaction}
    (h : t.transaction? invokeId = some d) :
    t.invokeIdFailed invokeId = true ↔ d.attempt = .failed := by
  obtain ⟨i, hi, rfl⟩ := Option.map_eq_some_iff.mp h
  rw [invokeIdFailed, hi, Transaction.attempt]
  cases hstate : (t.list.get i).state with
  | idle => simp [hstate]
  | awaitConfirmation => simp [hstate]

theorem transactions_wf {t : Transactions} {es : List TsmEvent} {os}
    (hrun : (transactions timeout retries).run init es = some (t, os)) : t.Wf := by
  refine Machine.run_invariant (P := fun _ _ => True) (I := Wf) (fun t e t' o hwf _ hstep => ?_)
    wf_init (Machine.All.of_forall (fun _ _ => trivial) _ es) hrun
  obtain ⟨rfl, -⟩ := Prod.mk.inj (Option.some.inj hstep)
  exact wf_next hwf timeout retries e

/-- A request that is sent is an attempt that starts. -/
theorem transaction?_sent (timeout : UInt16) (retries : UInt8) {t : Transactions} (hid : invokeId ≠ 0)
    (hreserved : t.invokeIdFree invokeId = false) (dest : BacnetAddress) {apdu : List UInt8}
    (hapdu : apdu ≠ []) :
    ∃ d, (t.setConfirmedUnsegmentedTransaction timeout invokeId dest apdu).transaction? invokeId =
        some d ∧ d.dest = dest ∧ d.apdu = apdu ∧
      d.attempt = (apduPolicy timeout retries).start := by
  rw [transaction?_setConfirmed t timeout hid dest hapdu]
  cases h : t.transaction? invokeId with
  | none =>
      rw [transaction?, Option.map_eq_none_iff] at h
      rw [invokeIdFree, h] at hreserved
      cases hreserved
  | some d => exact ⟨_, rfl, rfl, rfl, rfl⟩

variable {es₀ es : List TsmEvent} {os₀ os : List (List TsmAction)} {t₀ t : Transactions}
  {dest : BacnetAddress} {apdu : List UInt8}

/-- The transaction of a request that nothing concerns, and what was done about it. -/
theorem transaction?_request
    (hstart : (transactions timeout retries).run init es₀ = some (t₀, os₀))
    (hid : invokeId ≠ 0) (hreserved : t₀.invokeIdFree invokeId = false) (hapdu : apdu ≠ [])
    (hes : ∀ e ∈ es, ¬ e.Concerns invokeId)
    (hrun : (transactions timeout retries).run t₀
      (.setConfirmedUnsegmentedTransaction invokeId dest apdu :: es) = some (t, os)) :
    ∃ d, t.transaction? invokeId = some d ∧ d.attempt =
        (apduPolicy timeout retries).after (apduPolicy timeout retries).start (ticks es) ∧
      about invokeId os.flatten = (apduPolicy timeout retries).reports
        (.resent invokeId dest apdu) (.timedOut invokeId) (apduPolicy timeout retries).start
          d.attempt := by
  obtain ⟨r, hr, os', hos', rfl⟩ := ((transactions timeout retries).run_cons).mp hrun
  obtain rfl : (_, []) = r := Option.some.inj hr
  obtain ⟨d, hd, rfl, rfl, hattempt⟩ :=
    transaction?_sent timeout retries hid hreserved dest hapdu
  have hwf := wf_next (transactions_wf hstart) timeout retries
    (.setConfirmedUnsegmentedTransaction invokeId d.dest d.apdu)
  have hwithin : (apduPolicy timeout retries).Within d.attempt := by
    rw [hattempt]
    exact Policy.within_start
  obtain ⟨d', hd', -, -, hattempt', habout⟩ := transaction?_run hwf hid hd hwithin hes hos'
  rw [hattempt] at hattempt' habout
  refine ⟨d', hd', hattempt', ?_⟩
  rw [List.flatten_cons, List.nil_append, habout]

/-- **A request that is not answered.** Whatever other requests are made, answered and sent
again, what is done about this one until its id is used again is a matter of time alone: it
is sent again, to the same address, each time it has waited for the timeout, as often as there
are retries, and then given up. -/
theorem request_run (hstart : (transactions timeout retries).run init es₀ = some (t₀, os₀))
    (hid : invokeId ≠ 0) (hreserved : t₀.invokeIdFree invokeId = false) (hapdu : apdu ≠ [])
    (hes : ∀ e ∈ es, ¬ e.Concerns invokeId)
    (hrun : (transactions timeout retries).run t₀
      (.setConfirmedUnsegmentedTransaction invokeId dest apdu :: es) = some (t, os)) :
    ∃ attempt, attempt =
        (apduPolicy timeout retries).after (apduPolicy timeout retries).start (ticks es) ∧
      about invokeId os.flatten =
        List.replicate ((apduPolicy timeout retries).resent attempt) (.resent invokeId dest apdu) ++
          (if attempt = .failed then [.timedOut invokeId] else []) ∧
      (t.invokeIdFailed invokeId = true ↔ attempt = .failed) := by
  obtain ⟨d, hd, hattempt, habout⟩ := transaction?_request hstart hid hreserved hapdu hes hrun
  refine ⟨d.attempt, hattempt, ?_, invokeIdFailed_iff hd⟩
  rw [habout, Policy.reports_start]

/-- **No request is given up early, and every request is given up in time.** When it has
failed, as many timeouts have passed as it was sent; and it has failed when they have, with
what the ticks of the timer can be too long each time. -/
theorem request_failed (hstart : (transactions timeout retries).run init es₀ = some (t₀, os₀))
    (hid : invokeId ≠ 0) (hreserved : t₀.invokeIdFree invokeId = false) (hapdu : apdu ≠ [])
    (hes : ∀ e ∈ es, ¬ e.Concerns invokeId)
    (hrun : (transactions timeout retries).run t₀
      (.setConfirmedUnsegmentedTransaction invokeId dest apdu :: es) = some (t, os)) :
    (t.invokeIdFailed invokeId = true →
      (retries.toNat + 1) * timeout.toNat ≤ Policy.total (ticks es)) ∧
    ∀ longest, 0 < timeout.toNat → (∀ time ∈ ticks es, time ≤ longest) →
      timeout.toNat + retries.toNat * (timeout.toNat + (longest - 1)) ≤ Policy.total (ticks es) →
        t.invokeIdFailed invokeId = true := by
  obtain ⟨d, hd, hattempt, -⟩ := transaction?_request hstart hid hreserved hapdu hes hrun
  rw [invokeIdFailed_iff hd, hattempt]
  refine ⟨fun h => ?_, fun longest htimeout hticks htotal => ?_⟩
  · have htotal := Policy.total_of_failed (p := apduPolicy timeout retries) (Nat.zero_le _) h
    change retries.toNat * timeout.toNat + timeout.toNat ≤ 0 * timeout.toNat + _ at htotal
    rw [Nat.succ_mul]
    omega
  · exact Policy.failed_of_total htimeout hticks htotal

end Request

/-- A transaction that is reserved. -/
def reservedTransaction : Transactions := (Transactions.init.next 3000 3 .nextFreeInvokeId).1

theorem run_reservedTransaction : (transactions 3000 3).run init [.nextFreeInvokeId] =
    some (reservedTransaction, [[.allocated 1]]) := by
  have hid : (init.nextFreeInvokeId 3000).1 = 1 := by decide +kernel
  rw [← hid]
  rfl

/-- Nobody answers while seven ticks of three seconds pass. -/
def silentTicks : List TsmEvent := List.replicate 7 (.timerMilliseconds 3000)

theorem not_concerns_silentTicks : ∀ e ∈ silentTicks, ¬ e.Concerns 1 := by
  intro e he
  rw [List.eq_of_mem_replicate he]
  exact id

theorem request_run_silent : ∃ t os,
    (transactions 3000 3).run reservedTransaction
      (.setConfirmedUnsegmentedTransaction 1 .default [1, 4, 0, 5, 1, 12] :: silentTicks) =
        some (t, os) ∧
      about 1 os.flatten =
        List.replicate 3 (.resent 1 .default [1, 4, 0, 5, 1, 12]) ++ [.timedOut 1] := by
  obtain ⟨attempt, rfl, habout, -⟩ := request_run run_reservedTransaction
    (show (1 : UInt8) ≠ 0 by decide) (by decide +kernel) (List.cons_ne_nil 1 [4, 0, 5, 1, 12])
    not_concerns_silentTicks rfl
  exact ⟨_, _, rfl, habout.trans (by decide)⟩

theorem request_failed_silent : ∃ t os,
    (transactions 3000 3).run reservedTransaction
      (.setConfirmedUnsegmentedTransaction 1 .default [1, 4, 0, 5, 1, 12] :: silentTicks) =
        some (t, os) ∧ t.invokeIdFailed 1 = true :=
  ⟨_, _, rfl, (request_failed run_reservedTransaction (show (1 : UInt8) ≠ 0 by decide)
    (by decide +kernel) (List.cons_ne_nil 1 [4, 0, 5, 1, 12]) not_concerns_silentTicks rfl).2 3000
    (by decide) (by decide) (by decide)⟩

/-! ### What the timer sends -/

section Sent

variable {timeout : UInt16} {retries : UInt8}

/-- A transaction that waits goes back to a request, and has waited since then. -/
def Waits (timeout : UInt16) (retries : UInt8) (es : List TsmEvent) (invokeId : UInt8)
    (d : Transaction) : Prop :=
  ∃ pre post, es = pre ++ .setConfirmedUnsegmentedTransaction invokeId d.dest d.apdu :: post ∧
    d.apdu ≠ [] ∧
    (∀ t os, (transactions timeout retries).run init pre = some (t, os) →
      t.invokeIdFree invokeId = false) ∧
    (∀ e ∈ post, ¬ e.Concerns invokeId) ∧
    d.attempt = (apduPolicy timeout retries).after (apduPolicy timeout retries).start (ticks post)

/-- One more call. -/
theorem Waits.step {es : List TsmEvent} {e : TsmEvent} {invokeId : UInt8} {d d' : Transaction}
    (h : Waits timeout retries es invokeId d) (he : ¬ e.Concerns invokeId)
    (hdest : d'.dest = d.dest) (hapdu : d'.apdu = d.apdu)
    (hattempt : d'.attempt = (apduPolicy timeout retries).after d.attempt (ticks [e])) :
    Waits timeout retries (es ++ [e]) invokeId d' := by
  obtain ⟨pre, post, rfl, hsent, hreserved, hpost, hwaited⟩ := h
  refine ⟨pre, post ++ [e], ?_, hapdu ▸ hsent, hreserved, ?_, ?_⟩
  · rw [hdest, hapdu, List.append_assoc, List.cons_append]
  · exact List.forall_mem_append.mpr ⟨hpost, List.forall_mem_singleton.mpr he⟩
  · rw [hattempt, hwaited, ticks, ticks, ticks, List.filterMap_append, Policy.after_append]

theorem waits_run {t : Transactions} {es : List TsmEvent} {os}
    (hrun : (transactions timeout retries).run init es = some (t, os)) {invokeId : UInt8}
    (hid : invokeId ≠ 0) {d : Transaction} (h : t.transaction? invokeId = some d)
    (hstate : d.state = .awaitConfirmation) : Waits timeout retries es invokeId d := by
  have hall : (transactions timeout retries).All (fun _ _ => True) init es :=
    Machine.All.of_forall (fun _ _ => trivial) _ es
  refine Machine.run_history (motive := fun es _ t => ∀ d, t.transaction? invokeId = some d →
    d.state = .awaitConfirmation → Waits timeout retries es invokeId d) ?_ ?_ hall hrun d h hstate
  · intro d hd
    rw [transaction?_init hid] at hd
    cases hd
  · intro es os t e t' o hpre ih _ hstep d hd hstate
    obtain ⟨rfl, -⟩ := Prod.mk.inj (Option.some.inj hstep)
    have hwf := transactions_wf hpre
    have hsame : ∀ {e : TsmEvent}, ¬ e.Concerns invokeId → ticks [e] = [] →
        t.transaction? invokeId = some d → Waits timeout retries (es ++ [e]) invokeId d := by
      intro e he hticks hold
      refine (ih d hold hstate).step he rfl rfl ?_
      rw [hticks]
      rfl
    cases e with
    | nextFreeInvokeId =>
        rcases transaction?_of_nextFreeInvokeId hwf timeout hid hd with hold | hidle
        · exact hsame id rfl hold
        · rw [hidle] at hstate
          cases hstate
    | invokeIdSet id => exact hsame (fun h => h) rfl hd
    | setConfirmedUnsegmentedTransaction id dest apdu =>
        change (t.setConfirmedUnsegmentedTransaction timeout id dest apdu).transaction? invokeId =
          some d at hd
        by_cases hsent : id = invokeId ∧ apdu ≠ []
        · obtain ⟨rfl, hapdu⟩ := hsent
          rw [transaction?_setConfirmed t timeout hid dest hapdu] at hd
          obtain ⟨d₀, hd₀, rfl⟩ := Option.map_eq_some_iff.mp hd
          refine ⟨es, [], rfl, hapdu, fun t₁ os₁ hrun₁ => ?_, by simp, rfl⟩
          obtain ⟨rfl, -⟩ := Prod.mk.inj (Option.some.inj (hrun₁.symm.trans hpre))
          obtain ⟨i, hi, -⟩ := Option.map_eq_some_iff.mp hd₀
          rw [invokeIdFree, hi]
          rfl
        · rw [transaction?_setConfirmed_of_not t timeout dest hsent] at hd
          exact hsame hsent rfl hd
    | timerMilliseconds milliseconds =>
        change (t.timerMilliseconds timeout retries milliseconds).1.transaction? invokeId =
          some d at hd
        obtain ⟨d₀, hd₀⟩ : ∃ d₀, t.transaction? invokeId = some d₀ := by
          obtain ⟨i, hi, -⟩ := Option.map_eq_some_iff.mp hd
          rw [← slots_findInvokeIdIndex, slots_timerMilliseconds, slots_findInvokeIdIndex] at hi
          exact ⟨_, by rw [transaction?, hi, Option.map_some]⟩
        obtain ⟨hnext, -⟩ := transaction?_timerMilliseconds hwf timeout retries milliseconds hid hd₀
        obtain rfl := Option.some.inj (hnext.symm.trans hd)
        obtain ⟨-, hdest, hapdu⟩ := timer_frame timeout retries milliseconds d₀
        have hstate₀ : d₀.state = .awaitConfirmation := by
          cases hidle : d₀.state with
          | awaitConfirmation => rfl
          | idle =>
              have hkept : (d₀.timer timeout retries milliseconds).1 = d₀ := by
                rw [Transaction.timer, hidle]
                rfl
              rw [hkept, hidle] at hstate
              cases hstate
        exact (ih d₀ hd₀ hstate₀).step id hdest hapdu (attempt_timer milliseconds d₀)
    | freeInvokeId id =>
        change (t.freeInvokeId id).transaction? invokeId = some d at hd
        by_cases hsame' : id = invokeId
        · rw [hsame', transaction?_freeInvokeId_self hwf hid] at hd
          cases hd
        · rw [transaction?_freeInvokeId_of_ne t hid hsame'] at hd
          exact hsame hsame' rfl hd

/-- **Nothing is made up.** What the timer sends for an id is, to the octet and with its
destination, the request last sent for that id, and it was sent again fewer times than there
are retries since. -/
theorem resent_of_run {t : Transactions} {es : List TsmEvent} {os}
    (hrun : (transactions timeout retries).run init es = some (t, os)) {milliseconds : UInt16}
    {invokeId : UInt8} {dest : BacnetAddress} {apdu : List UInt8}
    (h : .resent invokeId dest apdu ∈ (t.timerMilliseconds timeout retries milliseconds).2) :
    ∃ pre post, es = pre ++ .setConfirmedUnsegmentedTransaction invokeId dest apdu :: post ∧
      (∀ e ∈ post, ¬ e.Concerns invokeId) ∧
      (os.drop pre.length).flatten.count (.resent invokeId dest apdu) < retries.toNat := by
  have hwf := transactions_wf hrun
  obtain ⟨d, hmem, hd⟩ := List.mem_flatMap.mp h
  obtain ⟨i, rfl⟩ := Table.exists_get_of_mem hmem
  obtain ⟨-, hactions⟩ | ⟨-, -, hactions⟩ | ⟨hstate, htime, hretry, hactions⟩ |
    ⟨-, -, -, hactions⟩ := timer_cases timeout retries milliseconds (t.list.get i)
  · rw [hactions] at hd
    cases hd
  · rw [hactions] at hd
    cases hd
  · rw [hactions] at hd
    obtain ⟨rfl, rfl, rfl⟩ := TsmAction.resent.inj (List.mem_singleton.mp hd)
    have hid : (t.list.get i).invokeId ≠ 0 := by
      intro hzero
      rw [hwf.idle i hzero] at hstate
      cases hstate
    obtain ⟨pre, post, rfl, hsent, hreserved, hpost, hwaited⟩ :=
      waits_run hrun hid (transaction?_get hwf hid) hstate
    refine ⟨pre, post, rfl, hpost, ?_⟩
    obtain ⟨m, hm, os₂, hos₂, rfl⟩ := ((transactions timeout retries).run_append).mp hrun
    obtain ⟨d, -, hattempt, habout⟩ :=
      transaction?_request hm hid (hreserved _ _ hm) hsent hpost hos₂
    have hwaiting : d.attempt = .waiting (t.list.get i).requestTimer.toNat
        (t.list.get i).retryCount.toNat := by
      rw [hattempt, ← hwaited, Transaction.attempt, if_pos hstate]
    have hlength : m.2.length = pre.length := Machine.length_run hm
    have hcount : os₂.flatten.count (.resent (t.list.get i).invokeId (t.list.get i).dest
        (t.list.get i).apdu) = (t.list.get i).retryCount.toNat := by
      rw [← List.count_filter (p := fun a => a.invokeId == (t.list.get i).invokeId)
        (by simp [TsmAction.invokeId])]
      change (about _ _).count _ = _
      rw [habout, Policy.reports_start, hwaiting, if_neg Attempt.noConfusion, List.append_nil,
        List.count_replicate_self]
      rfl
    rw [List.drop_left' hlength, hcount]
    exact UInt8.lt_iff_toNat_lt.mp hretry
  · rw [hactions] at hd
    simp only at hd
    split at hd
    · cases List.mem_singleton.mp hd
    · cases hd

end Sent

theorem resent_of_run_silent : ∃ pre post,
    [.nextFreeInvokeId, .setConfirmedUnsegmentedTransaction 1 .default [1, 4]] =
        pre ++ TsmEvent.setConfirmedUnsegmentedTransaction 1 .default [1, 4] :: post ∧
      (∀ e ∈ post, ¬ e.Concerns 1) ∧
      (([[.allocated 1], []] : List (List TsmAction)).drop pre.length).flatten.count
        (.resent 1 .default [1, 4]) < (3 : UInt8).toNat := by
  have hrun : (transactions 3000 3).run init
      ([.nextFreeInvokeId] ++ [.setConfirmedUnsegmentedTransaction 1 .default [1, 4]]) =
        some (_, [[.allocated 1]] ++ [[]]) :=
    (Machine.run_append _).mpr ⟨_, run_reservedTransaction, _, rfl, rfl⟩
  exact resent_of_run hrun (show _ ∈ (Transactions.timerMilliseconds _ 3000 3 3000).2 by decide +kernel)

end Bacnet
