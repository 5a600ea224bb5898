import Bacnet.Address
import Bacnet.Lib.Machine
import Bacnet.Lib.Retry
import Bacnet.Tsm

/-!
# Bacnet.Transactions

The **transaction state machine with its timer** (`tsm.c`), as the programs run it that
call `tsm_timer_milliseconds`: a transaction that is not answered is sent again, and has
failed when it was sent again often enough. `Bacnet.Tsm` is what is left of it for a client
that never runs the timer (`Transactions.forget_run`).

The transactions are seen through their ids (`Transactions.transaction?`); each operation
has a lemma on what it does to the transaction of an id.
-/

namespace Bacnet

open Bacnet.Lib

/-- `BACNET_TSM_DATA`. The datalink does not look at `npdu_data`. -/
structure Transaction where
  retryCount : UInt8
  requestTimer : UInt16
  invokeId : UInt8
  state : TsmState
  dest : BacnetAddress
  apdu : List UInt8
  deriving DecidableEq

/-- `TSM_List` and `Current_Invoke_ID`. -/
structure Transactions where
  list : Table maxTsmTransactions Transaction
  currentInvokeId : UInt8

/-- What the transactions do to the outside: the id `tsm_next_free_invokeID` returns, the
calls of `datalink_send_pdu`, and those of the `Timeout_Function`. -/
inductive TsmAction
  | allocated (invokeId : UInt8)
  | resent (invokeId : UInt8) (dest : BacnetAddress) (apdu : List UInt8)
  | timedOut (invokeId : UInt8)
  deriving DecidableEq

/-- The id an action is about. -/
def TsmAction.invokeId : TsmAction → UInt8
  | .allocated invokeId => invokeId
  | .resent invokeId _ _ => invokeId
  | .timedOut invokeId => invokeId

/-- The actions that are about an id. -/
def about (invokeId : UInt8) (actions : List TsmAction) : List TsmAction :=
  actions.filter fun a => a.invokeId == invokeId

/-- What `tsm_timer_milliseconds` does about a transaction. -/
def Transaction.timer (timeout : UInt16) (retries : UInt8) (milliseconds : UInt16)
    (d : Transaction) : Transaction × List TsmAction :=
  if d.state = .awaitConfirmation then
    let requestTimer := if d.requestTimer > milliseconds then d.requestTimer - milliseconds else 0
    if requestTimer = 0 then
      if d.retryCount < retries then
        ({ d with requestTimer := timeout, retryCount := d.retryCount + 1 },
          [.resent d.invokeId d.dest d.apdu])
      else
        -- the invoke id has not been cleared yet
        ({ d with requestTimer := requestTimer, state := .idle },
          if d.invokeId ≠ 0 then [.timedOut d.invokeId] else [])
    else ({ d with requestTimer := requestTimer }, [])
  else (d, [])

namespace Transactions

/-- The variables as they are initialized. -/
def init : Transactions :=
  ⟨Table.replicate _ ⟨0, 0, 0, .idle, .default, []⟩, 1⟩

/-! ### The code -/

def findInvokeIdIndex (t : Transactions) (invokeId : UInt8) : Option (Fin maxTsmTransactions) :=
  t.list.find? fun d => d.invokeId == invokeId

def transactionAvailable (t : Transactions) : Bool :=
  (t.list.find? fun d => d.invokeId == 0).isSome

/-- The id the allocation loop stops at. -/
def nextUnused (t : Transactions) : UInt8 :=
  probe Tsm.increment (fun id => (t.findInvokeIdIndex id).isSome) 256 t.currentInvokeId

def nextFreeInvokeId (t : Transactions) (timeout : UInt16) : UInt8 × Transactions :=
  if t.transactionAvailable then
    match t.list.find? fun d => d.invokeId == 0 with
    | some i =>
      (t.nextUnused,
        ⟨t.list.set i { t.list.get i with
            invokeId := t.nextUnused, state := .idle, requestTimer := timeout },
          Tsm.increment t.nextUnused⟩)
    | none => (0, { t with currentInvokeId := t.nextUnused })
  else (0, t)

def invokeIdSet (t : Transactions) (invokeId : UInt8) : Transactions :=
  { t with currentInvokeId := if invokeId = 0 then 1 else invokeId }

/-- The copy has `MAX_PDU` octets, as `Handler_Transmit_Buffer` has, from which every caller
copies: what was encoded there fits. The copy is a list here. -/
def setConfirmedUnsegmentedTransaction (t : Transactions) (timeout : UInt16) (invokeId : UInt8)
    (dest : BacnetAddress) (apdu : List UInt8) : Transactions :=
  if invokeId ≠ 0 ∧ apdu.length > 0 then
    match t.findInvokeIdIndex invokeId with
    | some i =>
      { t with list := t.list.set i ⟨0, timeout, (t.list.get i).invokeId, .awaitConfirmation,
        dest, apdu⟩ }
    | none => t
  else t

def timerMilliseconds (t : Transactions) (timeout : UInt16) (retries : UInt8)
    (milliseconds : UInt16) : Transactions × List TsmAction :=
  ({ t with list := t.list.map fun d => (d.timer timeout retries milliseconds).1 },
    t.list.cells.flatMap fun d => (d.timer timeout retries milliseconds).2)

def freeInvokeId (t : Transactions) (invokeId : UInt8) : Transactions :=
  match t.findInvokeIdIndex invokeId with
  | some i => { t with list := t.list.set i { t.list.get i with state := .idle, invokeId := 0 } }
  | none => t

def invokeIdFree (t : Transactions) (invokeId : UInt8) : Bool :=
  (t.findInvokeIdIndex invokeId).isNone

def invokeIdFailed (t : Transactions) (invokeId : UInt8) : Bool :=
  match t.findInvokeIdIndex invokeId with
  | some i => (t.list.get i).state == .idle
  | none => false

end Transactions

/-- The calls. -/
inductive TsmEvent
  | nextFreeInvokeId
  | invokeIdSet (invokeId : UInt8)
  | setConfirmedUnsegmentedTransaction (invokeId : UInt8) (dest : BacnetAddress)
      (apdu : List UInt8)
  | timerMilliseconds (milliseconds : UInt16)
  | freeInvokeId (invokeId : UInt8)

/-- The transactions after a call, and what it does. -/
def Transactions.next (timeout : UInt16) (retries : UInt8) (t : Transactions) :
    TsmEvent → Transactions × List TsmAction
  | .nextFreeInvokeId =>
    ((t.nextFreeInvokeId timeout).2, [.allocated (t.nextFreeInvokeId timeout).1])
  | .invokeIdSet invokeId => (t.invokeIdSet invokeId, [])
  | .setConfirmedUnsegmentedTransaction invokeId dest apdu =>
    (t.setConfirmedUnsegmentedTransaction timeout invokeId dest apdu, [])
  | .timerMilliseconds milliseconds => t.timerMilliseconds timeout retries milliseconds
  | .freeInvokeId invokeId => (t.freeInvokeId invokeId, [])

/-- The transactions as a machine, with `apdu_timeout` and `apdu_retries`. -/
def transactions (timeout : UInt16) (retries : UInt8) :
    Machine Transactions TsmEvent (List TsmAction) where
  step t e := some (t.next timeout retries e)

namespace Transactions

/-! ### The slots -/

/-- The slots, as `Bacnet.Tsm` has them while every reserved one awaits its confirmation. -/
def slots (t : Transactions) : Tsm :=
  ⟨t.list.view fun d => ⟨d.invokeId, if d.invokeId = 0 then .idle else .awaitConfirmation⟩,
    t.currentInvokeId⟩

/-- What holds of the transactions after every run. -/
structure Wf (t : Transactions) : Prop where
  /-- No two slots have the same id. -/
  slots : t.slots.Ok
  /-- A free slot does not wait for anything. -/
  idle : ∀ i, (t.list.get i).invokeId = 0 → (t.list.get i).state = .idle

theorem slots_findInvokeIdIndex (t : Transactions) (invokeId : UInt8) :
    t.slots.findInvokeIdIndex invokeId = t.findInvokeIdIndex invokeId :=
  Table.find?_view _ _ _

theorem slots_transactionAvailable (t : Transactions) :
    t.slots.transactionAvailable = t.transactionAvailable :=
  congrArg Option.isSome (Table.find?_view _ _ _)

theorem slots_nextUnused (t : Transactions) : t.slots.nextUnused = t.nextUnused := by
  simp only [Tsm.nextUnused, nextUnused, slots_findInvokeIdIndex]
  rfl

variable {t : Transactions}

theorem Wf.distinct (hwf : t.Wf) {i j : Fin maxTsmTransactions}
    (h : (t.list.get i).invokeId = (t.list.get j).invokeId) (hi : (t.list.get i).invokeId ≠ 0) :
    i = j := by
  have hget : ∀ k, (t.slots.list.get k).invokeId = (t.list.get k).invokeId :=
    fun k => congrArg TsmData.invokeId (Table.get_view _ _ k)
  exact hwf.slots.distinct i j (by rw [hget, hget, h]) (by rwa [hget])

theorem get_of_findInvokeIdIndex {invokeId : UInt8} {i : Fin maxTsmTransactions}
    (h : t.findInvokeIdIndex invokeId = some i) : (t.list.get i).invokeId = invokeId := by
  simpa using Table.find?_sat h

/-- What allocation does when a slot is free. -/
theorem nextFreeInvokeId_of_available (timeout : UInt16) (h : t.transactionAvailable = true) :
    ∃ i, (t.list.get i).invokeId = 0 ∧ t.nextFreeInvokeId timeout = (t.nextUnused,
      ⟨t.list.set i { t.list.get i with
          invokeId := t.nextUnused, state := .idle, requestTimer := timeout },
        Tsm.increment t.nextUnused⟩) := by
  obtain ⟨i, hi⟩ := Option.isSome_iff_exists.mp h
  refine ⟨i, by simpa using Table.find?_sat hi, ?_⟩
  rw [nextFreeInvokeId, if_pos h, hi]

theorem nextFreeInvokeId_of_not_available (timeout : UInt16)
    (h : t.transactionAvailable = false) : t.nextFreeInvokeId timeout = (0, t) := by
  simp [nextFreeInvokeId, h]

theorem nextUnused_free (hwf : t.Wf) (h : t.transactionAvailable = true) :
    t.nextUnused ≠ 0 ∧ t.findInvokeIdIndex t.nextUnused = none := by
  have hslots : t.slots.transactionAvailable = true := (slots_transactionAvailable t).trans h
  have hfree := Tsm.nextUnused_free hwf.slots hslots
  rw [Tsm.invokeIdFree, slots_nextUnused, slots_findInvokeIdIndex] at hfree
  rw [← slots_nextUnused]
  exact ⟨Tsm.nextUnused_ne_zero hwf.slots hslots, by
    rw [slots_nextUnused]
    simpa using hfree⟩

/-! ### What the operations do to the slots -/

theorem wf_init : init.Wf := by
  refine ⟨⟨fun i j _ hi => ?_, fun i => ?_, by decide⟩, fun i _ => ?_⟩
  · simp [slots, init] at hi
  · simp [slots, init]
  · simp [init]

/-- Overwriting a slot. -/
theorem idle_set (hwf : t.Wf) {i : Fin maxTsmTransactions} {d : Transaction}
    (hd : d.invokeId = 0 → d.state = .idle) (j : Fin maxTsmTransactions)
    (hj : ((t.list.set i d).get j).invokeId = 0) : ((t.list.set i d).get j).state = .idle := by
  rw [Table.get_set] at hj ⊢
  split at hj
  · rename_i hij
    rw [if_pos hij]
    exact hd hj
  · rename_i hij
    rw [if_neg hij]
    exact hwf.idle j hj

theorem wf_nextFreeInvokeId (hwf : t.Wf) (timeout : UInt16) :
    (t.nextFreeInvokeId timeout).2.Wf := by
  cases havail : t.transactionAvailable with
  | false => rwa [nextFreeInvokeId_of_not_available timeout havail]
  | true =>
      obtain ⟨i, hi, hnext⟩ := nextFreeInvokeId_of_available timeout havail
      obtain ⟨hne, hfree⟩ := nextUnused_free hwf havail
      have hslots : (t.nextFreeInvokeId timeout).2.slots =
          t.slots.reserveAt i t.nextUnused .awaitConfirmation := by
        rw [hnext, Transactions.slots, Table.view_set, if_neg hne]
        rfl
      refine ⟨?_, ?_⟩
      · rw [hslots]
        refine Tsm.ok_reserveAt hwf.slots hne ?_
        rw [Tsm.invokeIdFree, slots_findInvokeIdIndex, hfree]
        rfl
      · rw [hnext]
        exact idle_set hwf fun _ => rfl

theorem slots_setConfirmed (t : Transactions) (timeout : UInt16) (invokeId : UInt8)
    (dest : BacnetAddress) (apdu : List UInt8) :
    (t.setConfirmedUnsegmentedTransaction timeout invokeId dest apdu).slots = t.slots := by
  unfold setConfirmedUnsegmentedTransaction
  split
  · split
    · refine congrArg (Tsm.mk · t.currentInvokeId) (Table.ext_get fun j => ?_)
      rw [Table.get_view, Table.get_view, Table.get_set]
      split
      · rename_i hij
        rw [hij]
      · rfl
    · rfl
  · rfl

/-- What the timer can do about a transaction. -/
theorem timer_cases (timeout : UInt16) (retries : UInt8) (milliseconds : UInt16)
    (d : Transaction) :
    (d.state = .idle ∧ d.timer timeout retries milliseconds = (d, [])) ∨
    (d.state = .awaitConfirmation ∧ milliseconds < d.requestTimer ∧
      d.timer timeout retries milliseconds =
        ({ d with requestTimer := d.requestTimer - milliseconds }, [])) ∨
    (d.state = .awaitConfirmation ∧ ¬ milliseconds < d.requestTimer ∧ d.retryCount < retries ∧
      d.timer timeout retries milliseconds =
        ({ d with requestTimer := timeout, retryCount := d.retryCount + 1 },
          [.resent d.invokeId d.dest d.apdu])) ∨
    (d.state = .awaitConfirmation ∧ ¬ milliseconds < d.requestTimer ∧ ¬ d.retryCount < retries ∧
      d.timer timeout retries milliseconds =
        ({ d with requestTimer := 0, state := .idle },
          if d.invokeId ≠ 0 then [.timedOut d.invokeId] else [])) := by
  cases hstate : d.state with
  | idle =>
      refine Or.inl ⟨rfl, ?_⟩
      rw [Transaction.timer, hstate]
      rfl
  | awaitConfirmation =>
      by_cases htime : milliseconds < d.requestTimer
      · have hne : d.requestTimer - milliseconds ≠ 0 := by
          intro hzero
          have hsub := UInt16.toNat_sub_of_le _ _ (UInt16.le_of_lt htime)
          rw [hzero, UInt16.toNat_zero] at hsub
          have hlt := UInt16.lt_iff_toNat_lt.mp htime
          omega
        refine Or.inr (Or.inl ⟨rfl, htime, ?_⟩)
        rw [Transaction.timer, if_pos hstate, if_pos htime]
        simp only [hne, if_false, hstate]
      · by_cases hretry : d.retryCount < retries
        · refine Or.inr (Or.inr (Or.inl ⟨rfl, htime, hretry, ?_⟩))
          rw [Transaction.timer, if_pos hstate, if_neg htime]
          simp only [if_true, hretry, hstate]
        · refine Or.inr (Or.inr (Or.inr ⟨rfl, htime, hretry, ?_⟩))
          rw [Transaction.timer, if_pos hstate, if_neg htime]
          simp only [if_true, hretry, if_false]

theorem invokeId_of_mem_timer (timeout : UInt16) (retries : UInt8) (milliseconds : UInt16)
    (d : Transaction) : ∀ a ∈ (d.timer timeout retries milliseconds).2,
      a.invokeId = d.invokeId := by
  intro a ha
  obtain ⟨-, h⟩ | ⟨-, -, h⟩ | ⟨-, -, -, h⟩ | ⟨-, -, -, h⟩ :=
    timer_cases timeout retries milliseconds d
  · rw [h] at ha
    cases ha
  · rw [h] at ha
    cases ha
  · rw [h] at ha
    rw [List.mem_singleton.mp ha]
    rfl
  · rw [h] at ha
    simp only at ha
    split at ha
    · rw [List.mem_singleton.mp ha]
      rfl
    · cases ha

theorem timer_frame (timeout : UInt16) (retries : UInt8) (milliseconds : UInt16)
    (d : Transaction) : (d.timer timeout retries milliseconds).1.invokeId = d.invokeId ∧
      (d.timer timeout retries milliseconds).1.dest = d.dest ∧
      (d.timer timeout retries milliseconds).1.apdu = d.apdu := by
  obtain ⟨-, h⟩ | ⟨-, -, h⟩ | ⟨-, -, -, h⟩ | ⟨-, -, -, h⟩ :=
    timer_cases timeout retries milliseconds d
  all_goals
    rw [h]
    exact ⟨rfl, rfl, rfl⟩

theorem slots_timerMilliseconds (t : Transactions) (timeout : UInt16) (retries : UInt8)
    (milliseconds : UInt16) :
    (t.timerMilliseconds timeout retries milliseconds).1.slots = t.slots := by
  have hlist : (t.timerMilliseconds timeout retries milliseconds).1.slots.list = t.slots.list := by
    refine Table.ext_get fun i => ?_
    simp [slots, timerMilliseconds, timer_frame]
  rw [slots, slots]
  exact congrArg (Tsm.mk · t.currentInvokeId) hlist

theorem slots_freeInvokeId (t : Transactions) (invokeId : UInt8) :
    (t.freeInvokeId invokeId).slots = t.slots.freeInvokeId invokeId := by
  rw [freeInvokeId, Tsm.freeInvokeId, slots_findInvokeIdIndex]
  cases t.findInvokeIdIndex invokeId with
  | none => rfl
  | some i =>
      simp only [slots, Table.view_set]
      rfl

theorem wf_next (hwf : t.Wf) (timeout : UInt16) (retries : UInt8) (e : TsmEvent) :
    (t.next timeout retries e).1.Wf := by
  cases e with
  | nextFreeInvokeId => exact wf_nextFreeInvokeId hwf timeout
  | invokeIdSet invokeId => exact ⟨Tsm.ok_invokeIdSet hwf.slots invokeId, hwf.idle⟩
  | setConfirmedUnsegmentedTransaction invokeId dest apdu =>
      refine ⟨?_, ?_⟩
      · rw [next, slots_setConfirmed]
        exact hwf.slots
      · unfold next setConfirmedUnsegmentedTransaction
        simp only
        split
        · rename_i hsend
          split
          · rename_i i hi
            refine idle_set hwf fun hzero => ?_
            rw [get_of_findInvokeIdIndex hi] at hzero
            exact absurd hzero hsend.1
          · exact hwf.idle
        · exact hwf.idle
  | timerMilliseconds milliseconds =>
      refine ⟨?_, fun i hi => ?_⟩
      · rw [next, slots_timerMilliseconds]
        exact hwf.slots
      · simp only [next, timerMilliseconds, Table.get_map] at hi ⊢
        rw [(timer_frame _ _ _ _).1] at hi
        rw [Transaction.timer, hwf.idle i hi]
        exact hwf.idle i hi
  | freeInvokeId invokeId =>
      refine ⟨?_, ?_⟩
      · rw [next, slots_freeInvokeId]
        exact Tsm.ok_freeInvokeId hwf.slots invokeId
      · unfold next freeInvokeId
        simp only
        split
        · exact idle_set hwf fun _ => rfl
        · exact hwf.idle

/-! ### The transaction of an id -/

/-- The transaction of an id. -/
def transaction? (t : Transactions) (invokeId : UInt8) : Option Transaction :=
  (t.findInvokeIdIndex invokeId).map t.list.get

theorem invokeId_of_transaction? {invokeId : UInt8} {d : Transaction}
    (h : t.transaction? invokeId = some d) : d.invokeId = invokeId := by
  obtain ⟨i, hi, rfl⟩ := Option.map_eq_some_iff.mp h
  exact get_of_findInvokeIdIndex hi

/-- The transaction in a slot. -/
theorem transaction?_get (hwf : t.Wf) {i : Fin maxTsmTransactions}
    (hid : (t.list.get i).invokeId ≠ 0) :
    t.transaction? (t.list.get i).invokeId = some (t.list.get i) := by
  obtain ⟨j, hj⟩ := Table.exists_find? (t := t.list) (i := i)
    (p := fun d => d.invokeId == (t.list.get i).invokeId) (beq_self_eq_true _)
  have hji := hwf.distinct (get_of_findInvokeIdIndex hj).symm hid
  rw [transaction?, findInvokeIdIndex, hj, Option.map_some, hji]

theorem transaction?_init {invokeId : UInt8} (hid : invokeId ≠ 0) :
    init.transaction? invokeId = none := by
  rw [transaction?, Option.map_eq_none_iff]
  refine Table.find?_eq_none.mpr fun i => ?_
  simp [init, Ne.symm hid]

/-- Overwriting a slot does not touch the transaction of an id that is in another one. -/
theorem transaction?_set_of_ne {t' : Transactions} {i : Fin maxTsmTransactions} {d : Transaction}
    {invokeId : UInt8} (hlist : t'.list = t.list.set i d)
    (hold : (t.list.get i).invokeId ≠ invokeId) (hnew : d.invokeId ≠ invokeId) :
    t'.transaction? invokeId = t.transaction? invokeId := by
  have hfind : t'.findInvokeIdIndex invokeId = t.findInvokeIdIndex invokeId := by
    rw [findInvokeIdIndex, hlist]
    exact Table.find?_set_of_not (by simpa using hold) (by simpa using hnew)
  rw [transaction?, transaction?, hfind, hlist]
  cases h : t.findInvokeIdIndex invokeId with
  | none => rfl
  | some j =>
      have hij : i ≠ j := by
        intro hij
        rw [hij] at hold
        exact hold (get_of_findInvokeIdIndex h)
      simp only [Option.map_some, Table.get_set_ne _ hij]

/-- A request that is sent. -/
theorem transaction?_setConfirmed (t : Transactions) (timeout : UInt16) {invokeId : UInt8}
    (hid : invokeId ≠ 0) (dest : BacnetAddress) {apdu : List UInt8} (hapdu : apdu ≠ []) :
    (t.setConfirmedUnsegmentedTransaction timeout invokeId dest apdu).transaction? invokeId =
      (t.transaction? invokeId).map fun _ =>
        ⟨0, timeout, invokeId, .awaitConfirmation, dest, apdu⟩ := by
  rw [setConfirmedUnsegmentedTransaction, if_pos ⟨hid, List.length_pos_iff.mpr hapdu⟩]
  cases h : t.findInvokeIdIndex invokeId with
  | none => simp only [transaction?, h, Option.map_none]
  | some i =>
      have hfound : (t.list.set i ⟨0, timeout, invokeId, .awaitConfirmation, dest, apdu⟩).find?
          (fun d => d.invokeId == invokeId) = some i :=
        Table.find?_set_found h (by simp)
      simp only [transaction?, h, get_of_findInvokeIdIndex h, Option.map_some]
      rw [findInvokeIdIndex, hfound, Option.map_some, Table.get_set_self]

/-- A request of another id, or an empty one. -/
theorem transaction?_setConfirmed_of_not (t : Transactions) (timeout : UInt16)
    {invokeId id : UInt8} (dest : BacnetAddress) {apdu : List UInt8}
    (h : ¬ (id = invokeId ∧ apdu ≠ [])) :
    (t.setConfirmedUnsegmentedTransaction timeout id dest apdu).transaction? invokeId =
      t.transaction? invokeId := by
  unfold setConfirmedUnsegmentedTransaction
  split
  · rename_i hsent
    have hne : id ≠ invokeId := fun hsame => h ⟨hsame, List.length_pos_iff.mp hsent.2⟩
    split
    · rename_i i hi
      have hid := get_of_findInvokeIdIndex hi
      exact transaction?_set_of_ne rfl (hid ▸ hne) (hid ▸ hne)
    · rfl
  · rfl

/-- Another id is freed. -/
theorem transaction?_freeInvokeId_of_ne (t : Transactions) {invokeId id : UInt8}
    (hid : invokeId ≠ 0) (hne : id ≠ invokeId) :
    (t.freeInvokeId id).transaction? invokeId = t.transaction? invokeId := by
  unfold freeInvokeId
  split
  · rename_i i hi
    have hi' := get_of_findInvokeIdIndex hi
    exact transaction?_set_of_ne rfl (hi' ▸ hne) (Ne.symm hid)
  · rfl

/-- The id itself is freed. -/
theorem transaction?_freeInvokeId_self (hwf : t.Wf) {invokeId : UInt8} (hid : invokeId ≠ 0) :
    (t.freeInvokeId invokeId).transaction? invokeId = none := by
  rw [transaction?, Option.map_eq_none_iff, findInvokeIdIndex]
  refine Table.find?_eq_none.mpr fun j => ?_
  unfold freeInvokeId
  split
  · rename_i i hi
    have hi' := get_of_findInvokeIdIndex hi
    rw [Table.get_set]
    split
    · simp [Ne.symm hid]
    · rename_i hij
      refine beq_false_of_ne fun hj => hij ?_
      exact hwf.distinct (hi'.trans hj.symm) (hi' ▸ hid)
  · rename_i hnone
    exact Table.find?_eq_none.mp hnone j

/-- An id is allocated. It is one that is not in use. -/
theorem transaction?_nextFreeInvokeId (hwf : t.Wf) (timeout : UInt16) {invokeId : UInt8}
    (hid : invokeId ≠ 0) {d : Transaction} (h : t.transaction? invokeId = some d) :
    (t.nextFreeInvokeId timeout).1 ≠ invokeId ∧
      (t.nextFreeInvokeId timeout).2.transaction? invokeId = some d := by
  cases havail : t.transactionAvailable with
  | false =>
      rw [nextFreeInvokeId_of_not_available timeout havail]
      exact ⟨Ne.symm hid, h⟩
  | true =>
      obtain ⟨i, hi, hnext⟩ := nextFreeInvokeId_of_available timeout havail
      have hne : t.nextUnused ≠ invokeId := by
        intro heq
        rw [transaction?, ← heq, (nextUnused_free hwf havail).2] at h
        cases h
      rw [hnext]
      refine ⟨hne, ?_⟩
      rw [transaction?_set_of_ne rfl (hi ▸ Ne.symm hid) hne, h]

/-- A transaction that is there after an allocation was there before, or does not wait for
anything yet. -/
theorem transaction?_of_nextFreeInvokeId (hwf : t.Wf) (timeout : UInt16) {invokeId : UInt8}
    (hid : invokeId ≠ 0) {d : Transaction}
    (h : (t.nextFreeInvokeId timeout).2.transaction? invokeId = some d) :
    t.transaction? invokeId = some d ∨ d.state = .idle := by
  cases havail : t.transactionAvailable with
  | false =>
      rw [nextFreeInvokeId_of_not_available timeout havail] at h
      exact Or.inl h
  | true =>
      obtain ⟨i, hi, hnext⟩ := nextFreeInvokeId_of_available timeout havail
      rw [hnext] at h
      by_cases hnew : t.nextUnused = invokeId
      · obtain ⟨j, hj, rfl⟩ := Option.map_eq_some_iff.mp h
        have hjd := get_of_findInvokeIdIndex hj
        simp only [Table.get_set] at hjd ⊢
        split at hjd
        · rename_i hij
          rw [if_pos hij]
          exact Or.inr rfl
        · have hfree := Table.find?_eq_none.mp (nextUnused_free hwf havail).2 j
          rw [hnew, hjd, beq_self_eq_true] at hfree
          cases hfree
      · rw [transaction?_set_of_ne rfl (hi ▸ Ne.symm hid) hnew] at h
        exact Or.inl h

/-- The timer. -/
theorem transaction?_timerMilliseconds (hwf : t.Wf) (timeout : UInt16) (retries : UInt8)
    (milliseconds : UInt16) {invokeId : UInt8} (hid : invokeId ≠ 0) {d : Transaction}
    (h : t.transaction? invokeId = some d) :
    (t.timerMilliseconds timeout retries milliseconds).1.transaction? invokeId =
        some (d.timer timeout retries milliseconds).1 ∧
      about invokeId (t.timerMilliseconds timeout retries milliseconds).2 =
        (d.timer timeout retries milliseconds).2 := by
  obtain ⟨i, hi, rfl⟩ := Option.map_eq_some_iff.mp h
  have hinvoke := get_of_findInvokeIdIndex hi
  constructor
  · have hfind : (t.timerMilliseconds timeout retries milliseconds).1.findInvokeIdIndex invokeId =
        some i := by
      rw [← slots_findInvokeIdIndex, slots_timerMilliseconds, slots_findInvokeIdIndex, hi]
    rw [transaction?, hfind, Option.map_some, timerMilliseconds, Table.get_map]
  · have habout : ∀ e : Transaction, about invokeId (e.timer timeout retries milliseconds).2 =
        if e.invokeId = invokeId then (e.timer timeout retries milliseconds).2 else [] := by
      intro e
      have hactions := invokeId_of_mem_timer timeout retries milliseconds e
      split
      · rename_i hsame
        exact List.filter_eq_self.mpr fun a ha => by rw [hactions a ha, hsame, beq_self_eq_true]
      · rename_i hne
        refine List.filter_eq_nil_iff.mpr fun a ha => ?_
        rw [hactions a ha, beq_iff_eq]
        exact hne
    rw [timerMilliseconds, about, List.filter_flatMap]
    refine (Table.flatMap_eq_single (i := i) fun j hj => ?_).trans ?_
    · refine (habout _).trans (if_neg fun hsame => hj ?_)
      exact hwf.distinct (hsame.trans hinvoke.symm) (hsame ▸ hid)
    · exact (habout _).trans (if_pos hinvoke)

/-! ### Without the timer -/

/-- What `Bacnet.Tsm` has of the transactions. -/
def forget (t : Transactions) : Tsm :=
  ⟨t.list.view fun d => ⟨d.invokeId, d.state⟩, t.currentInvokeId⟩

theorem forget_findInvokeIdIndex (t : Transactions) (invokeId : UInt8) :
    t.forget.findInvokeIdIndex invokeId = t.findInvokeIdIndex invokeId :=
  Table.find?_view _ _ _

theorem forget_nextFreeInvokeId (t : Transactions) (timeout : UInt16) :
    t.forget.nextFreeInvokeId =
      ((t.nextFreeInvokeId timeout).1, (t.nextFreeInvokeId timeout).2.forget) := by
  have hfree : t.forget.findFirstFreeIndex = t.list.find? fun d => d.invokeId == 0 :=
    Table.find?_view _ _ _
  have hunused : t.forget.nextUnused = t.nextUnused := by
    simp only [Tsm.nextUnused, nextUnused, forget_findInvokeIdIndex]
    rfl
  have havail : t.forget.transactionAvailable = t.transactionAvailable := congrArg Option.isSome hfree
  rw [nextFreeInvokeId, Tsm.nextFreeInvokeId, havail, hfree, hunused]
  split
  · cases t.list.find? fun d => d.invokeId == 0 with
    | none => rfl
    | some i =>
        simp only [forget, Table.view_set]
  · rfl

theorem forget_setConfirmed (t : Transactions) (timeout : UInt16) (invokeId : UInt8)
    (dest : BacnetAddress) {apdu : List UInt8} (hapdu : apdu ≠ []) :
    (t.setConfirmedUnsegmentedTransaction timeout invokeId dest apdu).forget =
      t.forget.setConfirmedUnsegmentedTransaction invokeId := by
  rw [setConfirmedUnsegmentedTransaction, Tsm.setConfirmedUnsegmentedTransaction]
  by_cases hid : invokeId = 0
  · rw [if_neg fun h => h.1 hid, if_neg (not_not.mpr hid)]
  · rw [if_pos ⟨hid, List.length_pos_iff.mpr hapdu⟩, if_pos hid, forget_findInvokeIdIndex]
    cases t.findInvokeIdIndex invokeId with
    | none => rfl
    | some i =>
        simp only [forget, Table.view_set, Table.get_view]

theorem forget_freeInvokeId (t : Transactions) (invokeId : UInt8) :
    (t.freeInvokeId invokeId).forget = t.forget.freeInvokeId invokeId := by
  rw [freeInvokeId, Tsm.freeInvokeId, forget_findInvokeIdIndex]
  cases t.findInvokeIdIndex invokeId with
  | none => rfl
  | some i => simp only [forget, Table.view_set]

end Transactions

/-- A call without the timer, as `Bacnet.Tsm` has it. -/
def Tsm.next (t : Tsm) : TsmEvent → Tsm × List TsmAction
  | .nextFreeInvokeId => (t.nextFreeInvokeId.2, [.allocated t.nextFreeInvokeId.1])
  | .invokeIdSet invokeId => (t.invokeIdSet invokeId, [])
  | .setConfirmedUnsegmentedTransaction invokeId _ _ =>
    (t.setConfirmedUnsegmentedTransaction invokeId, [])
  | .timerMilliseconds _ => (t, [])
  | .freeInvokeId invokeId => (t.freeInvokeId invokeId, [])

/-- The calls of a client: it does not run the timer, and its requests are not empty. -/
def TsmEvent.Untimed : TsmEvent → Prop
  | .timerMilliseconds _ => False
  | .setConfirmedUnsegmentedTransaction _ _ apdu => apdu ≠ []
  | _ => True

theorem Transactions.forget_next (t : Transactions) (timeout : UInt16) (retries : UInt8)
    {e : TsmEvent} (he : e.Untimed) :
    t.forget.next e = ((t.next timeout retries e).1.forget, (t.next timeout retries e).2) := by
  cases e with
  | nextFreeInvokeId => rw [Tsm.next, t.forget_nextFreeInvokeId timeout, next]
  | invokeIdSet invokeId => rfl
  | setConfirmedUnsegmentedTransaction invokeId dest apdu =>
      rw [Tsm.next, next, forget_setConfirmed t timeout invokeId dest he]
  | timerMilliseconds milliseconds => exact he.elim
  | freeInvokeId invokeId => rw [Tsm.next, next, forget_freeInvokeId]

/-- **A client's transactions.** As long as the timer is not run, `Bacnet.Tsm` does the same,
whatever the timeout. -/
theorem Transactions.forget_run {timeout : UInt16} {retries : UInt8} {t t' : Transactions}
    {es : List TsmEvent} {os} (hes : ∀ e ∈ es, e.Untimed)
    (hrun : (transactions timeout retries).run t es = some (t', os)) :
    (Machine.mk fun t e => some (Tsm.next t e)).run t.forget es = some (t'.forget, os) := by
  induction es generalizing t os with
  | nil =>
      obtain ⟨rfl, rfl⟩ := Prod.mk.inj (Option.some.inj hrun)
      rfl
  | cons e es ih =>
      obtain ⟨r, hr, os', hos', rfl⟩ := ((transactions timeout retries).run_cons).mp hrun
      obtain rfl : t.next timeout retries e = r := Option.some.inj hr
      have htail := ih (fun e' he' => hes e' (List.mem_cons_of_mem e he')) hos'
      refine (Machine.run_cons _).mpr ⟨_, congrArg some (t.forget_next timeout retries ?_), _,
        htail, rfl⟩
      exact hes e List.mem_cons_self

theorem Transactions.forget_run_request :
    ∃ t os, (Machine.mk fun t e => some (Tsm.next t e)).run Transactions.init.forget
      [.nextFreeInvokeId, .setConfirmedUnsegmentedTransaction 1 .default [1, 4]] =
        some (t, os) := by
  have huntimed : ∀ e ∈ [TsmEvent.nextFreeInvokeId,
      .setConfirmedUnsegmentedTransaction 1 .default [1, 4]], e.Untimed :=
    List.forall_mem_cons.mpr ⟨trivial, List.forall_mem_singleton.mpr (List.cons_ne_nil 1 [4])⟩
  exact ⟨_, _, Transactions.forget_run huntimed
    (show (transactions 3000 3).run Transactions.init _ = some (_, _) from rfl)⟩

end Bacnet
