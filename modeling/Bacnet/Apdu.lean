import Bacnet.Client

/-!
# Bacnet.Apdu

From a received NPDU to the client's handlers: `npdu_handler` (`h_npdu.c`) and
`apdu_handler` (`h_apdu.c`).

`apdu_handler` both parses the APDU's header and acts on it. The parse is `decodeApdu`,
so that what a message is can be spoken of without a state; the rest is `apduHandler`.
`apduHandler_cases` says, once, everything a message can change.
-/

namespace Bacnet

open Bacnet.Lib

/-! ### The header -/

/-- An APDU as `apdu_handler` understands it. -/
inductive Apdu where
  /-- Nothing the client keeps changes: the message is not understood, or it asks for a
  service, in which case the handler only transmits. -/
  | ignored
  | iAm (serviceRequest : Mem)
  | simpleAck (invokeId : UInt8)
  | complexAck (invokeId serviceChoice : UInt8) (serviceRequest : Mem) (serviceLen : Nat)
  | segmentAck
  | error (invokeId serviceChoice : UInt8) (errorClass errorCode : UInt32)
  | reject (invokeId reason : UInt8)
  | abort (invokeId reason : UInt8)

/-- The service choices for which a simple ack is processed. -/
def simpleAckServices : List Nat := [0, 1, 2, 5, 28, 27, 8, 9, 11, 15, 16, 17, 20, 19, 22, 25]

/-- The service choices for which a complex ack is processed. -/
def complexAckServices : List Nat := [3, 4, 29, 6, 7, 10, 12, 13, 14, 26, 18, 21, 23, 24]

/-- The error class and code of an Error PDU. What the message is too short for stays
0. -/
def decodeErrorPair (apdu : Mem) (apduLen : Nat) (serviceChoice : UInt8) : UInt32 × UInt32 :=
  -- SERVICE_CONFIRMED_PRIVATE_TRANSFER: skip over opening tag 0
  let len := if serviceChoice = 18 ∧ decodeIsOpeningTagNumber (apdu.shift 3) 0 then 4 else 3
  if len < apduLen then
    let (n, tag) := decodeTagNumberAndValue (apdu.shift len)
    let len := len + n
    if len < apduLen then
      let (n, errorClass) := decodeEnumerated (apdu.shift len) tag.lenValue 0
      let len := len + n
      if len < apduLen then
        let (n, tag) := decodeTagNumberAndValue (apdu.shift len)
        let len := len + n
        if len < apduLen then
          (errorClass, (decodeEnumerated (apdu.shift len) tag.lenValue 0).2)
        else (errorClass, 0)
      else (errorClass, 0)
    else (0, 0)
  else (0, 0)

/-- The header of a complex ack. The two octets of a segment are read whatever the
length, and the service's length wraps round. -/
def decodeComplexAck (apdu : Mem) (apduLen : Nat) : Apdu :=
  let len := if apdu 0 &&& 0x08 ≠ 0 then 4 else 2
  let serviceChoice := apdu len
  let len := len + 1
  if serviceChoice.toNat ∈ complexAckServices then
    .complexAck (apdu 1) serviceChoice (apdu.shift len) ((apduLen + 65536 - len) % 65536)
  else .ignored

/-- The parse of `apdu_handler`. -/
def decodeApdu (apdu : Mem) (apduLen : Nat) : Apdu :=
  match (apdu 0 &&& 0xF0).toNat with
  -- PDU_TYPE_UNCONFIRMED_SERVICE_REQUEST
  | 0x10 => if apduLen ≥ 2 ∧ apdu 1 = 0 then .iAm (apdu.shift 2) else .ignored
  -- PDU_TYPE_SIMPLE_ACK
  | 0x20 =>
    if apduLen ≥ 3 ∧ (apdu 2).toNat ∈ simpleAckServices then .simpleAck (apdu 1) else .ignored
  -- PDU_TYPE_COMPLEX_ACK
  | 0x30 => if apduLen ≥ 3 then decodeComplexAck apdu apduLen else .ignored
  -- PDU_TYPE_SEGMENT_ACK
  | 0x40 => .segmentAck
  -- PDU_TYPE_ERROR
  | 0x50 =>
    if apduLen ≥ 3 then
      .error (apdu 1) (apdu 2) (decodeErrorPair apdu apduLen (apdu 2)).1
        (decodeErrorPair apdu apduLen (apdu 2)).2
    else .ignored
  -- PDU_TYPE_REJECT
  | 0x60 => if apduLen ≥ 3 then .reject (apdu 1) (apdu 2) else .ignored
  -- PDU_TYPE_ABORT
  | 0x70 => if apduLen ≥ 3 then .abort (apdu 1) (apdu 2) else .ignored
  -- PDU_TYPE_CONFIRMED_SERVICE_REQUEST and unknown types
  | _ => .ignored

/-! ### The dispatch -/

/-- `apdu_handler`. After the handler of a reply, if there is one, the slot of the
reply's invoke id is freed; a segment ack frees the id 0. -/
def apduHandler (order : List DeviceId) (s : Stack) (src : BacnetAddress) (apdu : Mem)
    (apduLen : Nat) : Option Stack :=
  match decodeApdu apdu apduLen with
  | .ignored => some s
  | .iAm serviceRequest =>
    -- `apdu_unconfirmed_dcc_disabled`
    if s.dcc ≠ .enable then some s
    else
      match s.handlers.iAm with
      | none => some s
      | some .handlerIAmBind => some (handlerIAmBind s serviceRequest src)
      | some .iAmHandler => iAmHandler s serviceRequest src
  | .simpleAck invokeId => some (s.freeInvokeId invokeId)
  | .complexAck invokeId serviceChoice serviceRequest serviceLen =>
    (if serviceChoice = serviceConfirmedReadProperty ∧ s.handlers.readPropertyAck then
      myReadpropAckHandler order s serviceRequest serviceLen src invokeId
    else some s).map (·.freeInvokeId invokeId)
  | .segmentAck => some (s.freeInvokeId 0)
  | .error invokeId serviceChoice errorClass errorCode =>
    (if serviceChoice = serviceConfirmedReadProperty ∧ s.handlers.readPropertyError then
      myErrorHandler order s src invokeId errorClass errorCode
    else some s).map (·.freeInvokeId invokeId)
  | .reject invokeId reason =>
    (if s.handlers.reject then myRejectHandler order s src invokeId reason
    else some s).map (·.freeInvokeId invokeId)
  | .abort invokeId reason =>
    (if s.handlers.abort then myAbortHandler order s src invokeId reason
    else some s).map (·.freeInvokeId invokeId)

/-- The routing of `npdu_handler`: the source address as it leaves it, and the APDU that
it passes on, if any. -/
def npduRoute (src : BacnetAddress) (pdu : Mem) (pduLen : Nat) :
    BacnetAddress × Option (Mem × Nat) :=
  if pduLen < 1 then (src, none)
  -- only handle the version that we know how to handle
  else if pdu 0 ≠ bacnetProtocolVersion then (src, none)
  else
    let r := bacnetNpduDecode pdu pduLen src
    -- network layer message discarded
    if r.networkLayerMessage then (r.src, none)
    else
      match r.offset with
      | none => (r.src, none)
      | some apduOffset =>
        if apduOffset > 0 ∧ apduOffset < pduLen ∧
            (r.dest.net = 0 ∨ r.dest.net = bacnetBroadcastNetwork) ∧
            -- ConfirmedBroadcastReceived: ignore the PDU
            ¬ (r.dest.net = bacnetBroadcastNetwork ∧ pdu apduOffset &&& 0xF0 = 0) then
          (r.src, some (pdu.shift apduOffset, pduLen - apduOffset))
        else (r.src, none)

/-- `npdu_handler`. -/
def npduHandler (order : List DeviceId) (s : Stack) (src : BacnetAddress) (pdu : Mem)
    (pduLen : Nat) : Option (Stack × BacnetAddress) :=
  match npduRoute src pdu pduLen with
  | (src, none) => some (s, src)
  | (src, some (apdu, apduLen)) => (apduHandler order s src apdu apduLen).map fun s => (s, src)

/-! ### What a message can change -/

namespace Apdu

/-- The invoke id whose slot the message frees. -/
def releases : Apdu → Option UInt8
  | ignored => none
  | iAm _ => none
  | simpleAck invokeId => some invokeId
  | complexAck invokeId _ _ _ => some invokeId
  | segmentAck => some 0
  | error invokeId _ _ _ => some invokeId
  | reject invokeId _ => some invokeId
  | abort invokeId _ => some invokeId

/-- The invoke id of the request that the message is a reply to. -/
def repliesTo : Apdu → Option UInt8
  | segmentAck => none
  | a => a.releases

/-- What the client's handler for the message writes to the device it finds, when the
handlers of `init_service_handlers` are registered. `none` when there is no handler. -/
def update : Apdu → Option (TargetDevice → TargetDevice)
  | complexAck invokeId serviceChoice serviceRequest serviceLen =>
    if serviceChoice = serviceConfirmedReadProperty then
      some (storeAck serviceRequest serviceLen invokeId) else none
  | error invokeId serviceChoice errorClass errorCode =>
    if serviceChoice = serviceConfirmedReadProperty then
      some (storeError (.error (bactextErrorClassName errorClass) errorClass
        (bactextErrorCodeName errorCode) errorCode) invokeId) else none
  | reject invokeId reason => some (storeError (.rejected reason) invokeId)
  | abort invokeId reason =>
    some (storeError (.aborted (bactextAbortReasonName reason.toUInt32) reason) invokeId)
  | _ => none

end Apdu

/-- What a reply says of the request it answers, to the caller of `read_prop_at`. -/
def Apdu.answer : Apdu → Option (Result BACnetValue)
  | complexAck _ serviceChoice serviceRequest serviceLen =>
    if serviceChoice = serviceConfirmedReadProperty then
      some (decodeReply serviceRequest serviceLen) else none
  | error _ serviceChoice errorClass errorCode =>
    if serviceChoice = serviceConfirmedReadProperty then
      some (.error (.bacnetError (.error (bactextErrorClassName errorClass) errorClass
        (bactextErrorCodeName errorCode) errorCode))) else none
  | reject _ reason => some (.error (.bacnetError (.rejected reason)))
  | abort _ reason =>
    some (.error (.bacnetError (.aborted (bactextAbortReasonName reason.toUInt32) reason)))
  | _ => none

/-- What `read_prop_at` would extract from the entry now. -/
def TargetDevice.report (t : TargetDevice) : Option (Result BACnetValue) :=
  match t.request with
  | some (_, .done) => some (t.value.getD (.error .noValueWasExtracted))
  | some (_, .error e) => some (.error (.bacnetError e))
  | _ => none

/-- What a reply handler leaves in an entry: the request is answered, with what the reply
says. -/
structure Answered (id : UInt8) (r : Result BACnetValue) (t t' : TargetDevice) : Prop where
  addr : t'.addr = t.addr
  request : ∃ status, t'.request = some (id, status) ∧ status ≠ .ongoing ∧
    (status = .done → t'.value.isSome)
  report : t'.report = some r

theorem answered_storeAck (serviceRequest : Mem) (serviceLen : Nat) (id : UInt8)
    (t : TargetDevice) :
    Answered id (decodeReply serviceRequest serviceLen) t
      (storeAck serviceRequest serviceLen id t) :=
  ⟨rfl, ⟨.done, rfl, nofun, fun _ => rfl⟩, rfl⟩

theorem answered_storeError (e : BACnetErr) (id : UInt8) (t : TargetDevice) :
    Answered id (.error (.bacnetError e)) t (storeError e id t) :=
  ⟨rfl, ⟨.error e, rfl, nofun, nofun⟩, rfl⟩

theorem answered_of_update {a : Apdu} {f : TargetDevice → TargetDevice} {id : UInt8}
    (hf : a.update = some f) (hr : a.releases = some id) :
    ∃ r, a.answer = some r ∧ ∀ t, Answered id r t (f t) := by
  cases a with
  | ignored => cases hf
  | iAm request => cases hf
  | simpleAck id' => cases hf
  | segmentAck => cases hf
  | complexAck id' service request len =>
      cases hr
      simp only [Apdu.update] at hf
      split at hf
      · rename_i hs
        cases hf
        exact ⟨_, if_pos hs, answered_storeAck request len id⟩
      · cases hf
  | error id' service cls code =>
      cases hr
      simp only [Apdu.update] at hf
      split at hf
      · rename_i hs
        cases hf
        exact ⟨_, if_pos hs, answered_storeError _ id⟩
      · cases hf
  | reject id' reason =>
      cases hr
      cases hf
      exact ⟨_, rfl, answered_storeError _ id⟩
  | abort id' reason =>
      cases hr
      cases hf
      exact ⟨_, rfl, answered_storeError _ id⟩

/-- A reply that says something is of a kind that is handled. -/
theorem update_of_answer {a : Apdu} {r : Result BACnetValue} (h : a.answer = some r) :
    ∃ f, a.update = some f := by
  cases a with
  | ignored => cases h
  | iAm request => cases h
  | simpleAck id => cases h
  | segmentAck => cases h
  | complexAck id service request len =>
      simp only [Apdu.answer] at h
      split at h
      · rename_i hs
        exact ⟨_, if_pos hs⟩
      · cases h
  | error id service cls code =>
      simp only [Apdu.answer] at h
      split at h
      · rename_i hs
        exact ⟨_, if_pos hs⟩
      · cases h
  | reject id reason => exact ⟨_, rfl⟩
  | abort id reason => exact ⟨_, rfl⟩

/-- An entry whose request is answered has a report, and no other entry. -/
theorem report_isSome_iff {t : TargetDevice} :
    t.report.isSome = true ↔ ∃ id status, t.request = some (id, status) ∧ status ≠ .ongoing := by
  unfold TargetDevice.report
  cases hr : t.request with
  | none => simp
  | some p =>
      obtain ⟨id, status⟩ := p
      cases status with
      | ongoing => simp
      | done => simp
      | error e => simp

theorem repliesTo_or_segmentAck {a : Apdu} {id : UInt8} (h : a.releases = some id) :
    a.repliesTo = some id ∨ (id = 0 ∧ a.update = none) := by
  cases a with
  | segmentAck =>
      cases h
      exact Or.inr ⟨rfl, rfl⟩
  | ignored => exact Or.inl h
  | iAm request => exact Or.inl h
  | simpleAck id' => exact Or.inl h
  | complexAck id' service request len => exact Or.inl h
  | error id' service cls code => exact Or.inl h
  | reject id' reason => exact Or.inl h
  | abort id' reason => exact Or.inl h

theorem releases_of_repliesTo {a : Apdu} {id : UInt8} (h : a.repliesTo = some id) :
    a.releases = some id := by
  cases a with
  | segmentAck => cases h
  | ignored => exact h
  | iAm request => exact h
  | simpleAck id' => exact h
  | complexAck id' service request len => exact h
  | error id' service cls code => exact h
  | reject id' reason => exact h
  | abort id' reason => exact h

/-- The reply handlers of `init_service_handlers` are registered. -/
def Handlers.Replies (h : Handlers) : Prop :=
  h.readPropertyAck = true ∧ h.readPropertyError = true ∧ h.abort = true ∧ h.reject = true

/-- The ways a message changes the state, apart from ending the process. -/
inductive ApduEffect (order : List DeviceId) (src : BacnetAddress) (a : Apdu) (s : Stack) :
    Stack → Prop where
  | none (h : a.releases = none) : ApduEffect order src a s s
  | binding (i : IAm) (h : a.releases = none) (hb : s.handlers.iAm = some .handlerIAmBind)
      (hi : ∃ request, a = .iAm request ∧ iamDecodeServiceRequest request = some i) :
      ApduEffect order src a s
        { s with cache := s.cache.addressAddBinding i.deviceId i.maxApdu src }
  | discovery (device : IAmDevice) (h : a.releases = none)
      (hb : s.handlers.iAm = some .iAmHandler) :
      ApduEffect order src a s { s with discovered := s.discovered ++ [device] }
  /-- A reply no handler is registered for, or no tracked device matches. -/
  | released (invokeId : UInt8) (h : a.releases = some invokeId)
      (hm : s.handlers.Replies → a.update = .none ∨
        findMatchingDevice order s.targets src invokeId = .none) :
      ApduEffect order src a s (s.freeInvokeId invokeId)
  /-- A reply that the device's handler took. -/
  | taken (invokeId : UInt8) (h : a.releases = some invokeId)
      (f : TargetDevice → TargetDevice) (hf : a.update = some f) (d : DeviceId) (t : TargetDevice)
      (hd : findMatchingDevice order s.targets src invokeId = some d)
      (ht : s.targets.lookup d = some t) (hp : s.poisoned = false) :
      ApduEffect order src a s ((s.setTarget d (f t)).freeInvokeId invokeId)

/-- The matched device is tracked, awaits the id, and no device visited before it
does. -/
theorem findMatchingDevice_eq_some {order : List DeviceId} {targets : Targets}
    {src : BacnetAddress} {invokeId : UInt8} {d : DeviceId}
    (h : findMatchingDevice order targets src invokeId = some d) :
    ∃ t, targets.lookup d = some t ∧ t.awaits src invokeId = true := by
  have hp := List.find?_some h
  cases ht : targets.lookup d with
  | none => simp [ht] at hp
  | some t =>
      simp only [ht] at hp
      exact ⟨t, rfl, hp⟩

theorem findMatchingDevice_eq_none {order : List DeviceId} {targets : Targets}
    {src : BacnetAddress} {invokeId : UInt8} :
    findMatchingDevice order targets src invokeId = none ↔
      ∀ d t, targets.lookup d = some t → t.awaits src invokeId = false := by
  rw [findMatchingDevice, List.find?_eq_none]
  constructor
  · intro h d t ht
    have hmem : d ∈ order ++ targets.keys :=
      List.mem_append_right _ (AList.lookup_isSome.mp (by rw [ht]; rfl))
    have hd := h d hmem
    simp only [ht] at hd
    exact Bool.eq_false_iff.mpr hd
  · intro h d _
    cases ht : targets.lookup d with
    | none => simp
    | some t => simp [h d t ht]

theorem TargetDevice.awaits_iff {t : TargetDevice} {src : BacnetAddress} {invokeId : UInt8} :
    t.awaits src invokeId = true ↔
      addressMatch t.addr src = true ∧ ∃ status, t.request = some (invokeId, status) := by
  rw [TargetDevice.awaits, Bool.and_eq_true, beq_iff_eq, Option.map_eq_some_iff]
  constructor
  · rintro ⟨ha, ⟨id, status⟩, hr, rfl⟩
    exact ⟨ha, status, hr⟩
  · rintro ⟨ha, status, hr⟩
    exact ⟨ha, _, hr, rfl⟩

/-- What a reply handler does, once. -/
theorem withMatchingDevice_cases {order : List DeviceId} {s s' : Stack} {src : BacnetAddress}
    {invokeId : UInt8} {f : TargetDevice → TargetDevice}
    (h : withMatchingDevice order s src invokeId f = some s') :
    s.poisoned = false ∧
      ((findMatchingDevice order s.targets src invokeId = none ∧ s' = s) ∨
        ∃ d t, findMatchingDevice order s.targets src invokeId = some d ∧
          s.targets.lookup d = some t ∧ s' = s.setTarget d (f t)) := by
  unfold withMatchingDevice at h
  split at h
  · cases h
  · rename_i hp
    refine ⟨Bool.eq_false_iff.mpr hp, ?_⟩
    cases hd : findMatchingDevice order s.targets src invokeId with
    | none =>
        simp only [hd] at h
        exact Or.inl ⟨rfl, (Option.some.inj h).symm⟩
    | some d =>
        obtain ⟨t, ht, -⟩ := findMatchingDevice_eq_some hd
        simp only [hd, ht] at h
        exact Or.inr ⟨d, t, rfl, ht, (Option.some.inj h).symm⟩

/-- A reply: its handler, if registered, and then the slot is freed. -/
theorem effect_of_reply {order : List DeviceId} {src : BacnetAddress} {a : Apdu} {s s' : Stack}
    {invokeId : UInt8} {f : TargetDevice → TargetDevice} {registered : Prop}
    [Decidable registered] (hr : a.releases = some invokeId)
    (hf : registered → a.update = some f)
    (hreg : s.handlers.Replies → a.update = none ∨ registered)
    (h : ((if registered then withMatchingDevice order s src invokeId f else some s).map
      (·.freeInvokeId invokeId)) = some s') : ApduEffect order src a s s' := by
  obtain ⟨s₁, h₁, rfl⟩ := Option.map_eq_some_iff.mp h
  split at h₁
  · rename_i hon
    obtain ⟨hp, ⟨hnone, rfl⟩ | ⟨d, t, hd, ht, rfl⟩⟩ := withMatchingDevice_cases h₁
    · exact .released invokeId hr fun _ => Or.inr hnone
    · exact .taken invokeId hr f (hf hon) d t hd ht hp
  · rename_i hoff
    cases h₁
    exact .released invokeId hr fun hh => Or.inl ((hreg hh).resolve_right hoff)

/-- Everything a message can do. -/
theorem apduHandler_cases {order : List DeviceId} {s s' : Stack} {src : BacnetAddress}
    {apdu : Mem} {apduLen : Nat} (h : apduHandler order s src apdu apduLen = some s') :
    ApduEffect order src (decodeApdu apdu apduLen) s s' := by
  unfold apduHandler at h
  cases ha : decodeApdu apdu apduLen with
  | ignored =>
      simp only [ha] at h
      cases h
      exact .none rfl
  | iAm request =>
      simp only [ha] at h
      split at h
      · cases h
        exact .none rfl
      · split at h
        · cases h
          exact .none rfl
        · rename_i hb
          cases h
          unfold handlerIAmBind
          cases hi : iamDecodeServiceRequest request with
          | none => exact .none rfl
          | some i => exact .binding i rfl hb ⟨request, rfl, hi⟩
        · rename_i hb
          unfold iAmHandler at h
          split at h
          · cases h
            exact .none rfl
          · split at h
            · cases h
            · split at h
              · cases h
              · cases h
                exact .discovery _ rfl hb
  | simpleAck id =>
      simp only [ha] at h
      cases h
      exact .released id rfl fun _ => Or.inl rfl
  | complexAck id service request len =>
      simp only [ha] at h
      refine effect_of_reply (f := storeAck request len id) rfl (fun hon => ?_) (fun hh => ?_) h
      · exact if_pos hon.1
      · by_cases hs : service = serviceConfirmedReadProperty
        · exact Or.inr ⟨hs, hh.1⟩
        · exact Or.inl (if_neg hs)
  | segmentAck =>
      simp only [ha] at h
      cases h
      exact .released 0 rfl fun _ => Or.inl rfl
  | error id service cls code =>
      simp only [ha] at h
      refine effect_of_reply rfl (fun hon => ?_) (fun hh => ?_) h
      · exact if_pos hon.1
      · by_cases hs : service = serviceConfirmedReadProperty
        · exact Or.inr ⟨hs, hh.2.1⟩
        · exact Or.inl (if_neg hs)
  | reject id reason =>
      simp only [ha] at h
      exact effect_of_reply rfl (fun _ => rfl) (fun hh => Or.inr hh.2.2.2) h
  | abort id reason =>
      simp only [ha] at h
      exact effect_of_reply rfl (fun _ => rfl) (fun hh => Or.inr hh.2.2.1) h

theorem poisoned_of_reply_none {order : List DeviceId} {src : BacnetAddress} {s : Stack}
    {invokeId : UInt8} {f : TargetDevice → TargetDevice} {registered : Prop}
    [Decidable registered]
    (h : ((if registered then withMatchingDevice order s src invokeId f else some s).map
      (·.freeInvokeId invokeId)) = none) : s.poisoned = true := by
  rw [Option.map_eq_none_iff] at h
  split at h
  · unfold withMatchingDevice at h
    split at h
    · assumption
    · split at h
      · cases h
      · split at h <;> cases h
  · cases h

/-- What ends the process: a reply handler that finds the lock poisoned, or the I-Am
handler of a discovery. -/
theorem apduHandler_eq_none {order : List DeviceId} {s : Stack} {src : BacnetAddress}
    {apdu : Mem} {apduLen : Nat} (h : apduHandler order s src apdu apduLen = none) :
    s.poisoned = true ∨
      (s.handlers.iAm = some .iAmHandler ∧ (decodeApdu apdu apduLen).releases = none) := by
  unfold apduHandler at h
  cases ha : decodeApdu apdu apduLen with
  | ignored =>
      simp only [ha] at h
      cases h
  | iAm request =>
      simp only [ha] at h
      split at h
      · cases h
      · split at h
        · cases h
        · cases h
        · rename_i hb
          exact Or.inr ⟨hb, rfl⟩
  | simpleAck id =>
      simp only [ha] at h
      cases h
  | complexAck id service request len =>
      simp only [ha] at h
      exact Or.inl (poisoned_of_reply_none h)
  | segmentAck =>
      simp only [ha] at h
      cases h
  | error id service cls code =>
      simp only [ha] at h
      exact Or.inl (poisoned_of_reply_none h)
  | reject id reason =>
      simp only [ha] at h
      exact Or.inl (poisoned_of_reply_none h)
  | abort id reason =>
      simp only [ha] at h
      exact Or.inl (poisoned_of_reply_none h)

end Bacnet
