import Bacnet.Correlation
import Bacnet.CachedAddresses
import Bacnet.RoundTrip

/-!
# Bacnet.Fidelity

Whether a device that receives the request of a `read_prop_at` sees the object, property and
array index of the call.

`read_prop_at` takes any four numbers of 32 bits. The wire has ten bits for the object type
and 22 for the instance and the property. `rp_encode_apdu` leaves a type or a property that
is too large out of the message, which no decoder then accepts.
-/

namespace Bacnet

open Bacnet.Lib

variable {env : Env} {s s' : Sys} {e : Event} {o : Output}

/-! ### The receiving side (`rp.c`) -/

/-- The `error_code` that goes with `BACNET_STATUS_REJECT`. -/
inductive RequestError where
  | rejectMissingRequiredParameter
  | rejectInvalidTag
  | rejectTooManyArguments
  deriving DecidableEq

/-- `rp_decode_service_request`. -/
def rpDecodeServiceRequest (apdu : Mem) (apduLen : Nat) : Except RequestError ReadArgs :=
  if apduLen < 7 then .error .rejectMissingRequiredParameter
  -- Tag 0: Object ID
  else if ¬ decodeIsContextTag apdu 0 then .error .rejectInvalidTag
  else
    let (objectType, objectInstance) := decodeObjectId (apdu.shift 1)
    let len := 5
    -- Tag 1: Property ID
    let (n, tag) := decodeTagNumberAndValue (apdu.shift len)
    let len := len + n
    if tag.number ≠ 1 then .error .rejectInvalidTag
    else
      let (n, propertyId) := decodeEnumerated (apdu.shift len) tag.lenValue 0
      let len := len + n
      -- Tag 2: Optional Array Index
      if len < apduLen then
        let (n, tag) := decodeTagNumberAndValue (apdu.shift len)
        let len := len + n
        if tag.number = 2 ∧ len < apduLen then
          let (n, unsignedValue) := decodeUnsigned (apdu.shift len) tag.lenValue 0
          let len := len + n
          -- something left over
          if len < apduLen then .error .rejectTooManyArguments
          else .ok ⟨objectType, objectInstance, propertyId, UInt32.ofNat unsignedValue⟩
        else .error .rejectInvalidTag
      else .ok ⟨objectType, objectInstance, propertyId, bacnetArrayAll⟩

/-- The ReadProperty request in an NPDU: its invoke id and what it asks for. -/
def decodeRequest (npdu : Mem) (npduLen : Nat) : Option (UInt8 × ReadArgs) :=
  let r := bacnetNpduDecode npdu npduLen .default
  match r.offset with
  | none => none
  | some offset =>
    let apdu := npdu.shift offset
    -- PDU_TYPE_CONFIRMED_SERVICE_REQUEST, unsegmented
    if ¬ r.networkLayerMessage ∧ offset + 4 ≤ npduLen ∧ apdu 0 = 0 ∧
        apdu 3 = serviceConfirmedReadProperty then
      match rpDecodeServiceRequest (apdu.shift 4) (npduLen - offset - 4) with
      | .ok args => some (apdu 2, args)
      | .error _ => none
    else none

/-- The numbers of a call have a place on the wire. -/
structure InRange (args : ReadArgs) : Prop where
  objectType : args.objectType.toNat ≤ bacnetMaxObject
  objectInstance : args.objectInstance.toNat ≤ bacnetMaxInstance
  propertyId : args.propertyId ≤ 4194303

/-! ### The service part of a request -/

/-- What `rp_encode_apdu` writes behind the four octets of the header. -/
def serviceOctets (args : ReadArgs) : List UInt8 :=
  (if args.objectType.toNat ≤ bacnetMaxObject then
    encodeContextObjectId 0 args.objectType args.objectInstance else []) ++
  ((if args.propertyId ≤ 4194303 then encodeContextUnsigned 1 args.propertyId.toNat else []) ++
  if args.index ≠ bacnetArrayAll then encodeContextUnsigned 2 args.index.toNat else [])

theorem rpEncodeApdu_eq (invokeId : UInt8) (args : ReadArgs) :
    rpEncodeApdu invokeId args =
      [0x00, encodeMaxSegsMaxApdu 0 maxApdu, invokeId, serviceConfirmedReadProperty] ++
        serviceOctets args := by
  rw [rpEncodeApdu, encodeContextEnumerated_eq 1 args.propertyId.toNat_lt, serviceOctets]
  simp only [List.append_assoc]

theorem length_encodeContextObjectId (objectType inst : UInt32) :
    (encodeContextObjectId 0 objectType inst).length = 5 := by
  rw [encodeContextObjectId, List.length_append, length_encodeTag_le (by decide) true (by decide),
    encodeBacnetObjectId, length_toBe]

/-- The service part of a call in range is read back. -/
theorem rpDecodeServiceRequest_ok {args : ReadArgs} (h : InRange args) {m : Mem}
    (hm : m.Holds (serviceOctets args)) :
    rpDecodeServiceRequest m (serviceOctets args).length = .ok args := by
  have hobject := length_encodeContextObjectId args.objectType args.objectInstance
  have hproperty := length_encodeContextUnsigned 1 (by decide) args.propertyId.toNat_lt
  have hindex := length_encodeContextUnsigned 2 (by decide) args.index.toNat_lt
  have hpos := (bacnetUnsignedLength_spec
    (Nat.lt_trans args.propertyId.toNat_lt (by decide))).1
  have hpos₂ := (bacnetUnsignedLength_spec (Nat.lt_trans args.index.toNat_lt (by decide))).1
  have hlen : (serviceOctets args).length =
      5 + (1 + bacnetUnsignedLength args.propertyId.toNat) +
        (if args.index ≠ bacnetArrayAll then
          encodeContextUnsigned 2 args.index.toNat else []).length := by
    rw [serviceOctets, if_pos h.objectType, if_pos h.propertyId, List.length_append,
      List.length_append, hobject, hproperty]
    exact (Nat.add_assoc _ _ _).symm
  rw [serviceOctets, if_pos h.objectType, if_pos h.propertyId] at hm
  obtain ⟨hm₀, hrest⟩ := Mem.holds_append.mp hm
  obtain ⟨hm₁, hm₂⟩ := Mem.holds_append.mp hrest
  rw [hobject] at hm₁ hm₂
  rw [Mem.shift_shift, hproperty] at hm₂
  obtain ⟨htag, hid⟩ := decode_encodeContextObjectId h.objectType h.objectInstance hm₀
  obtain ⟨hdecode₁, -, hvalue₁⟩ := decode_encodeContextUnsigned (by decide)
    args.propertyId.toNat_lt hm₁
  rw [Mem.shift_shift, UInt32.ofNat_toNat] at hvalue₁
  unfold rpDecodeServiceRequest
  rw [if_neg (by omega), if_neg (not_not_intro htag), hid]
  simp only [hdecode₁]
  rw [if_neg (by simp), hvalue₁]
  simp only
  have hsum : 5 + 1 + bacnetUnsignedLength args.propertyId.toNat =
      5 + (1 + bacnetUnsignedLength args.propertyId.toNat) := by omega
  rw [hsum]
  generalize 5 + (1 + bacnetUnsignedLength args.propertyId.toNat) = pos at *
  by_cases hall : args.index = bacnetArrayAll
  · rw [if_neg (not_not_intro hall), List.length_nil] at hlen
    rw [if_neg (by omega), ← hall]
  · rw [if_pos hall, hindex] at hlen
    rw [if_pos hall] at hm₂
    obtain ⟨hdecode₂, hvalue₂, -⟩ := decode_encodeContextUnsigned (by decide)
      args.index.toNat_lt hm₂
    rw [Mem.shift_shift] at hvalue₂
    rw [if_pos (by omega)]
    simp only [hdecode₂]
    rw [if_pos ⟨trivial, by omega⟩, hvalue₂]
    simp only
    rw [if_neg (by omega), UInt32.ofNat_toNat]

/-- A service part without the object or without the property is refused. -/
theorem rpDecodeServiceRequest_error {args : ReadArgs}
    (h : ¬ (args.objectType.toNat ≤ bacnetMaxObject ∧ args.propertyId ≤ 4194303)) {m : Mem}
    (hm : m.Holds (serviceOctets args)) :
    ∃ err, rpDecodeServiceRequest m (serviceOctets args).length = .error err := by
  have hobject := length_encodeContextObjectId args.objectType args.objectInstance
  have hindex := length_encodeContextUnsigned 2 (by decide) args.index.toNat_lt
  have hindex4 := bacnetUnsignedLength_le args.index.toNat_lt
  unfold rpDecodeServiceRequest
  by_cases hshort : (serviceOctets args).length < 7
  · exact ⟨_, if_pos hshort⟩
  · rw [if_neg hshort]
    by_cases htype : args.objectType.toNat ≤ bacnetMaxObject
    · -- the property is missing: the array index is in its place
      have hprop : ¬ args.propertyId ≤ 4194303 := fun hp => h ⟨htype, hp⟩
      rw [serviceOctets, if_pos htype, if_neg hprop, List.nil_append] at hm hshort ⊢
      by_cases hall : args.index ≠ bacnetArrayAll
      · rw [if_pos hall] at hm
        have hm₂ := hm.right
        rw [hobject] at hm₂
        obtain ⟨hdecode, -, -⟩ :=
          decode_encodeContextUnsigned (by decide) args.index.toNat_lt hm₂
        have hne : (2 : UInt8) ≠ 1 := by decide
        split
        · exact ⟨_, rfl⟩
        · simp only [hdecode]
          exact ⟨_, if_pos hne⟩
      · rw [if_neg hall, List.append_nil, hobject] at hshort
        exact absurd (by decide) hshort
    · by_cases hprop : args.propertyId ≤ 4194303
      · -- the object is missing: the property is in its place
        rw [serviceOctets, if_neg htype, if_pos hprop, List.nil_append] at hm
        obtain ⟨hdecode, -, -⟩ :=
          decode_encodeContextUnsigned (by decide) args.propertyId.toNat_lt hm.left
        have hnumber : (decodeTagNumber m).2 = 1 := by
          rw [← decodeTagNumberAndValue_number, hdecode]
        have htag : ¬ decodeIsContextTag m 0 = true := by
          rw [decodeIsContextTag, hnumber, Bool.and_eq_true]
          exact fun hc => absurd hc.2 (by decide)
        exact ⟨_, if_pos htag⟩
      · rw [serviceOctets, if_neg htype, if_neg hprop, List.nil_append, List.nil_append] at hshort
        have hle := length_optional_le (p := args.index ≠ bacnetArrayAll)
          fun _ => Nat.le_of_eq hindex
        omega

/-! ### The request in its NPDU -/

/-- The request of a call is read back as what its service part says. -/
theorem decodeRequest_requestPdu {dest : BacnetAddress} (hdest : AddressFits dest) (id : UInt8)
    (args : ReadArgs) (beyond : Mem) :
    ∃ m : Mem, m.Holds (serviceOctets args) ∧
      decodeRequest (Mem.overlay (requestPdu dest id args) beyond)
          (requestPdu dest id args).length =
        match rpDecodeServiceRequest m (serviceOctets args).length with
        | .ok args => some (id, args)
        | .error _ => none := by
  have hapdu := rpEncodeApdu_eq id args
  have hne : rpEncodeApdu id args ≠ [] := by
    rw [hapdu]
    exact List.cons_ne_nil _ _
  have hpdu : requestPdu dest id args = (requestMessage dest (rpEncodeApdu id args)).octets := by
    rw [requestPdu, npduEncodePdu_eq hdest (rpEncodeApdu id args)]
    rfl
  have hlen : (requestPdu dest id args).length =
      (requestMessage dest (rpEncodeApdu id args)).header.length +
        (4 + (serviceOctets args).length) := by
    rw [hpdu, NetworkMessage.octets, List.length_append,
      show (requestMessage dest (rpEncodeApdu id args)).apdu = rpEncodeApdu id args from rfl, hapdu,
      List.length_append]
    rfl
  have hm := Mem.holds_overlay (requestPdu dest id args) beyond
  generalize Mem.overlay (requestPdu dest id args) beyond = npdu at hm ⊢
  rw [hpdu] at hm
  have hdecode := NetworkMessage.bacnetNpduDecode_octets (wellFormed_requestMessage dest hne)
    (addressesFit_requestMessage dest _) hm.left (show _ < (requestPdu dest id args).length by omega)
    .default
  have hrequest : (npdu.shift (requestMessage dest (rpEncodeApdu id args)).header.length).Holds
      (rpEncodeApdu id args) := hm.right
  generalize (requestMessage dest (rpEncodeApdu id args)).header.length = offset
    at hlen hdecode hrequest
  rw [hapdu] at hrequest
  have h0 : npdu.shift offset 0 = 0 := hrequest.left 0 (by simp)
  have h2 : npdu.shift offset 2 = id := hrequest.left 2 (by simp)
  have h3 : npdu.shift offset 3 = serviceConfirmedReadProperty := hrequest.left 3 (by simp)
  refine ⟨(npdu.shift offset).shift 4, hrequest.right, ?_⟩
  have hsub : (requestPdu dest id args).length - offset - 4 = (serviceOctets args).length := by
    omega
  have hcond : ¬ (false = true) ∧ offset + 4 ≤ (requestPdu dest id args).length ∧
      npdu.shift offset 0 = 0 ∧ npdu.shift offset 3 = serviceConfirmedReadProperty :=
    ⟨by decide, by omega, h0, h3⟩
  simp only [decodeRequest, hdecode]
  rw [if_pos hcond, hsub, h2]

/-- The NPDU of the datagram is a ReadProperty request with this id for these four values. -/
def Carries (mtu : List UInt8) (id : UInt8) (args : ReadArgs) : Prop :=
  ∀ beyond, decodeRequest (Mem.overlay (mtu.drop 4) beyond) (mtu.drop 4).length = some (id, args)

/-- The NPDU of the datagram is no request. -/
def Malformed (mtu : List UInt8) : Prop :=
  ∀ beyond, decodeRequest (Mem.overlay (mtu.drop 4) beyond) (mtu.drop 4).length = none

/-- What is handed to the socket carries the NPDU. -/
theorem bvlcSendPdu_some {cfg : BipConfig} {socketOpen : Bool} {dest : BacnetAddress}
    {pdu : List UInt8} {frame : BacnetIpAddress × List UInt8}
    (h : bvlcSendPdu cfg socketOpen dest pdu = some frame) :
    socketOpen = true ∧ frame.2.drop 4 = pdu := by
  cases socketOpen with
  | false =>
    simp only [bvlcSendPdu, Bool.false_eq_true, if_false] at h
    split_ifs at h
  | true =>
    simp only [bvlcSendPdu, if_true] at h
    split_ifs at h <;> cases h <;> exact ⟨rfl, rfl⟩

theorem carries_of_inRange {dest : BacnetAddress} (hdest : AddressFits dest) {id : UInt8}
    {args : ReadArgs} (h : InRange args) {mtu : List UInt8}
    (hmtu : mtu.drop 4 = requestPdu dest id args) : Carries mtu id args := by
  intro beyond
  obtain ⟨m, hm, hdecode⟩ := decodeRequest_requestPdu hdest id args beyond
  rw [hmtu, hdecode, rpDecodeServiceRequest_ok h hm]

theorem malformed_of_left_out {dest : BacnetAddress} (hdest : AddressFits dest) {id : UInt8}
    {args : ReadArgs} (h : ¬ (args.objectType.toNat ≤ bacnetMaxObject ∧ args.propertyId ≤ 4194303))
    {mtu : List UInt8} (hmtu : mtu.drop 4 = requestPdu dest id args) : Malformed mtu := by
  intro beyond
  obtain ⟨m, hm, hdecode⟩ := decodeRequest_requestPdu hdest id args beyond
  obtain ⟨err, herr⟩ := rpDecodeServiceRequest_error h hm
  rw [hmtu, hdecode, herr]

/-! ### A call that gets no reply -/

/-- The event is a step of a call that has sent its request. -/
def Event.goesOn : Event → Bool
  | receive _ _ => true
  | poll _ _ => true
  | extract _ => true
  | _ => false

/-- The slot of the id stays reserved. A call without an id polls while there is a free
slot. -/
def Unanswered (env : Env) (t : Nat) (id : UInt8) (s : Sys) (e : Event) : Prop :=
  if id = 0 then ∀ elapsed, e = .poll t elapsed → s.stack.tsm.transactionAvailable = true
  else ∀ src a, arriving env s e = some (src, a) → a.releases ≠ some id

/-- The thread is in the receive loop of a call with the id, or out of it again. -/
def Looping (s : Sys) (t : Nat) (id : UInt8) : Prop :=
  s.threads t = .idle ∨ ∃ call, s.threads t = .reading call ∧ call.requestInvokeId = id ∧
    call.pc ≠ .extracting ∧ (id ≠ 0 → id ∈ s.stack.tsm.reserved)

theorem reserved_of_unanswered {t : Nat} {id : UInt8} (ht : s.stack.tsm.Ok) (h0 : id ≠ 0)
    (hall : Unanswered env t id s e) (hs : Step env s e s' o) (h : id ∈ s.stack.tsm.reserved) :
    id ∈ s'.stack.tsm.reserved := by
  rw [Unanswered, if_neg h0] at hall
  have hres := reserved_cases ht hs
  generalize s'.stack.tsm.reserved = reserved' at hres
  cases hres with
  | same _ _ => exact h
  | sent u d args id' frame _ _ _ _ => exact Finset.mem_insert_of_mem h
  | released src a id' _ ha hr =>
    refine Finset.mem_erase.mpr ⟨?_, h⟩
    intro heq
    exact hall src a ha (heq ▸ hr)

/-- A slot of an unanswered call is not found free. -/
theorem not_free_of_unanswered {t : Nat} {id : UInt8} {elapsed : Bool}
    (hall : Unanswered env t id s (.poll t elapsed))
    (hres : id ≠ 0 → id ∈ s.stack.tsm.reserved) : s.stack.tsm.invokeIdFree id = false := by
  by_cases h0 : id = 0
  · rw [Unanswered, if_pos h0] at hall
    rw [h0, ← Bool.not_eq_true, Tsm.invokeIdFree_zero, hall elapsed rfl]
    decide
  · rw [← Bool.not_eq_true, Tsm.invokeIdFree_of_ne_zero h0, not_not]
    exact hres h0

/-- A step of such a call goes on, or returns an error. With a timeout it returns. -/
theorem looping_own {id : UInt8} (hwf : s.Wf) (h : Looping s e.thread id)
    (hcall : e.goesOn = true) (hall : Unanswered env e.thread id s e) (hs : Step env s e s' o) :
    o = .aborted ∨ Looping s' e.thread id ∧
      ((o = .silent ∧ e ≠ .poll e.thread true) ∨ ∃ err, o = .returned (.error err)) := by
  have hreserved : (id ≠ 0 → id ∈ s.stack.tsm.reserved) → id ≠ 0 → id ∈ s'.stack.tsm.reserved :=
    fun hres h0 => reserved_of_unanswered hwf.tsm h0 hall hs (hres h0)
  have hloop : ∀ c, s.threads e.thread = .reading c → c.requestInvokeId = id ∧
      c.pc ≠ .extracting ∧ (id ≠ 0 → id ∈ s.stack.tsm.reserved) := by
    intro c hc
    rcases h with hidle | ⟨c', hc', hc'id, hpc, hres⟩
    · cases hidle.symm.trans hc
    · cases hc'.symm.trans hc
      exact ⟨hc'id, hpc, hres⟩
  cases hs with
  | receive u arrival rx' stack hrec _ =>
    rcases h with hidle | ⟨c, hc, hid, hpc, hres⟩
    · rw [show s.threads u = .idle from hidle] at hrec
      cases hrec
    · rw [show s.threads u = .reading c from hc] at hrec
      cases hrec with
      | reading c hpc =>
        refine Or.inr ⟨Or.inr ⟨_, Sys.threads_setThread_self s u _, hid,
          (by decide : ReadPc.polling ≠ .extracting), hreserved hres⟩, Or.inl ⟨rfl, ?_⟩⟩
        intro he
        cases he
  | abort u arrival hrec _ => exact Or.inl rfl
  | pollAgain u elapsed c hc _ _ he =>
    obtain ⟨hid, -, hres⟩ := hloop c hc
    refine Or.inr ⟨Or.inr ⟨_, Sys.threads_setThread_self s u _, hid,
      (by decide : ReadPc.receiving ≠ .extracting), hreserved hres⟩, Or.inl ⟨rfl, ?_⟩⟩
    intro hpoll
    cases hpoll
    cases he
  | pollFree u elapsed c hc _ hfree =>
    obtain ⟨hid, -, hres⟩ := hloop c hc
    rw [hid, not_free_of_unanswered hall hres] at hfree
    cases hfree
  | pollFailed u elapsed c hc _ _ _ =>
    exact Or.inr ⟨Or.inl (Sys.threads_setThread_self s u _), Or.inr ⟨_, rfl⟩⟩
  | pollElapsed u c hc _ _ =>
    exact Or.inr ⟨Or.inl (Sys.threads_setThread_self s u _), Or.inr ⟨_, rfl⟩⟩
  | extract u c stack o hc hpc _ => exact absurd hpc (hloop c hc).2.1
  | connect u b stack o _ _ => cases hcall
  | disconnect u d _ => cases hcall
  | sendPoisoned u d args _ _ => cases hcall
  | sendUnknown u d args _ _ _ => cases hcall
  | send u d args tgt stack id frame _ _ _ _ => cases hcall
  | whoisStart u subnet _ => cases hcall
  | whoisClose u rx _ => cases hcall
  | whoisDrain u _ => cases hcall

/-- The steps of the run leave the call alone, and its thread only takes steps of the call. -/
def LeavesAlone (env : Env) (t : Nat) (id : UInt8) (s : Sys) (e : Event) : Prop :=
  (e.thread = t → e.goesOn = true) ∧ Unanswered env t id s e

theorem looping_step {t : Nat} {id : UInt8} (hwf : s.Wf) (h : Looping s t id)
    (hP : LeavesAlone env t id s e) (hs : Step env s e s' o) : Looping s' t id := by
  obtain ⟨hcall, hall⟩ := hP
  by_cases ht : e.thread = t
  · subst ht
    rcases looping_own hwf h (hcall rfl) hall hs with hab | ⟨h', -⟩
    · obtain ⟨hstack, hthreads⟩ := eq_of_aborted hs hab
      rw [Looping, hstack, hthreads]
      exact h
    · exact h'
  · rw [Looping, threads_of_ne hs (Ne.symm ht)]
    refine h.imp_right ?_
    rintro ⟨call, hth, hid, hpc, hres⟩
    exact ⟨call, hth, hid, hpc, fun h0 => reserved_of_unanswered hwf.tsm h0 hall hs (hres h0)⟩

/-- Whatever happens while no reply comes, the call returns an error: each of its steps goes
on or returns one, and a poll after the timeout returns. -/
def FailsUnanswered (env : Env) (s : Sys) (t : Nat) (id : UInt8) : Prop :=
  ∀ es, (client env).All (LeavesAlone env t id) s es → ∀ i u e o u',
    (client env).At s es i u e o u' → e.thread = t → o ≠ .aborted →
    (o = .silent ∧ e ≠ .poll t true) ∨ ∃ err, o = .returned (.error err)

theorem failsUnanswered_of_looping {t : Nat} {id : UInt8} (hwf : s.Wf) (h : Looping s t id) :
    FailsUnanswered env s t id := by
  intro es hall i u e o u' hat ht hab
  obtain ⟨os, hbefore⟩ := hat.before
  have hpast : (client env).All (LeavesAlone env t id) s (es.take i) := by
    rw [← List.take_append_drop i es] at hall
    exact hall.append_left
  obtain ⟨hwf', hloop⟩ := invariant_run (I := fun s => Looping s t id) hwf h hpast hbefore
    fun _ _ _ _ hwf hl hP hs => looping_step hwf hl hP hs
  obtain ⟨hcall, hun⟩ := hall.at_step hat
  subst ht
  rcases looping_own hwf' hloop (hcall rfl) hun (step_cases hwf'.tsm hat.step) with habort | h
  · exact absurd habort hab
  · exact h.2

/-! ### The request of a call -/

/-- What a call hands to the socket is its request if the wire has a place for the four
values, and no request at all if the object type or the property was left out. A call that
hands nothing over returns an error. -/
def Faithful (env : Env) (s' : Sys) (t : Nat) (args : ReadArgs) (id : UInt8) :
    Option (BacnetIpAddress × List UInt8) → Prop
  | some frame => (InRange args → Carries frame.2 id args) ∧
      (¬ (args.objectType.toNat ≤ bacnetMaxObject ∧ args.propertyId ≤ 4194303) →
        Malformed frame.2)
  | none => FailsUnanswered env s' t id

theorem faithful_of_send (hfile : env.FileFits) {es : List Event} {os : List Output}
    (hrun : (client env).run .init es = some (s, os)) (hrunning : s.aborted = false)
    (hp : s.stack.poisoned = false) {t : Nat} (hidle : s.threads t = .idle) {d : DeviceId}
    {tgt : TargetDevice} (hl : s.stack.targets.lookup d = some tgt) (args : ReadArgs) :
    ∃ s' id frame, (client env).step s (.send t d args) = some (s', .sent id frame) ∧
      Faithful env s' t args id frame := by
  have hwf := wf_run hrun
  obtain ⟨s', id, frame, hs⟩ : ∃ s' id frame,
      (client env).step s (.send t d args) = some (s', .sent id frame) := by
    simp only [client, step, hrunning, Bool.false_eq_true, if_false,
      show (Event.send t d args).thread = t from rfl, hidle, sendStep, hp, hl]
    exact ⟨_, _, _, rfl⟩
  have hstep := step_cases hwf.tsm hs
  refine ⟨s', id, frame, hs, ?_⟩
  cases frame with
  | some frame =>
    obtain ⟨-, -, -, -, m, dest, hget, hframe⟩ := sent_inv hstep
    have hfits := addressFits_run hfile hrun hget
    obtain ⟨-, hmtu⟩ := bvlcSendPdu_some hframe
    exact ⟨fun h => carries_of_inRange hfits h hmtu, fun h => malformed_of_left_out hfits h hmtu⟩
  | none =>
    refine failsUnanswered_of_looping (wf_step hwf hs) (Or.inr ?_)
    generalize hframe : none = frame at hstep
    cases hstep with
    | send _ _ _ tgt' stack _ _ _ _ _ hse =>
      refine ⟨_, Sys.threads_setThread_self s t _, rfl,
        (by decide : ReadPc.receiving ≠ .extracting), fun h0 => ?_⟩
      cases hse with
      | failed tsm _ _ _ => exact absurd rfl h0
      | sent m dest i _ _ hi =>
        exact (Tsm.reserved_reserveAt h0 hi).symm ▸ Finset.mem_insert_self _ _

/-- A call for an object of type 1024. -/
def wideType : ReadArgs := ⟨1024, 0, 85, bacnetArrayAll⟩

/-- A call for the instance 4194304. -/
def wideInstance : ReadArgs := ⟨0, 4194304, 85, bacnetArrayAll⟩

/-- What a request to the device at 10.0.0.2 hands to the socket. -/
theorem drop_frame_lanDevice (hb : BoundAs s.stack (lanDevice 7 2)) {args : ReadArgs} {id : UInt8}
    {frame : BacnetIpAddress × List UInt8} (hwf : s.Wf)
    (hs : (client env).step s (.send 0 7 args) = some (s', .sent id (some frame))) :
    frame.2.drop 4 = requestPdu (lanDevice 7 2).build id args := by
  obtain ⟨-, -, -, -, m, dest, hget, hframe⟩ := sent_inv (step_cases hwf.tsm hs)
  cases hget.symm.trans hb.1
  exact (bvlcSendPdu_some hframe).2

theorem faithful_wideType :
    ∃ s os, (client lan).run .init [.connect 0 (lanDevice 7 2)] = some (s, os) ∧
      BoundAs s.stack (lanDevice 7 2) ∧
      ∃ s' id frame, (client lan).step s (.send 1 7 wideType) = some (s', .sent id frame) ∧
        Faithful lan s' 1 wideType id frame := by
  have hstate : ((client lan).run .init [.connect 0 (lanDevice 7 2)]).any (fun r =>
      decide (BoundAs r.1.stack (lanDevice 7 2)) && !r.1.aborted && !r.1.stack.poisoned) = true := by
    decide +kernel
  obtain ⟨s, os, hrun, hs⟩ := Machine.exists_run hstate
  simp only [Bool.and_eq_true, decide_eq_true_eq, Bool.not_eq_true'] at hs
  obtain ⟨⟨hbound, hrunning⟩, hp⟩ := hs
  have hfile : lan.FileFits := by
    intro l hl
    cases hl
  obtain ⟨tgt, hl, -⟩ := hbound.2
  have hidle : s.threads 1 = .idle := idle_run (n := 1) (by decide) hrun (Nat.le_refl 1)
  exact ⟨s, os, hrun, hbound, faithful_of_send hfile hrun hrunning hp hidle hl wideType⟩

/-- An object type that has no place on the wire is left out of the request, and the upper
bits of an instance are cut off. -/
theorem wideType_malformed :
    ∃ s os, (client lan).run .init [.connect 0 (lanDevice 7 2)] = some (s, os) ∧
      BoundAs s.stack (lanDevice 7 2) ∧
      (∃ s' frame, (client lan).step s (.send 0 7 wideType) = some (s', .sent 1 (some frame)) ∧
        Malformed frame.2) ∧
      ∃ s' frame, (client lan).step s (.send 0 7 wideInstance) =
          some (s', .sent 1 (some frame)) ∧
        Carries frame.2 1 { wideInstance with objectInstance := 0 } := by
  have hstate : ((client lan).run .init [.connect 0 (lanDevice 7 2)]).any
      (fun r => decide (BoundAs r.1.stack (lanDevice 7 2))) = true := by
    decide +kernel
  have htype : ((client lan).run .init
      ([.connect 0 (lanDevice 7 2)] ++ [.send 0 7 wideType])).any
      (fun r => r.2.getLast?.any (Output.isRequest 1)) = true := by
    decide +kernel
  have hinstance : ((client lan).run .init
      ([.connect 0 (lanDevice 7 2)] ++ [.send 0 7 wideInstance])).any
      (fun r => r.2.getLast?.any (Output.isRequest 1)) = true := by
    decide +kernel
  have hfits : AddressFits (lanDevice 7 2).build := by decide
  obtain ⟨s, os, s', frame, hrun, hs⟩ := exists_request htype
  obtain ⟨s₁, os₁, s'', frame', hrun', hs'⟩ := exists_request hinstance
  cases hrun.symm.trans hrun'
  rw [hrun, Option.any_some] at hstate
  have hbound := of_decide_eq_true hstate
  have hwf := wf_run hrun
  refine ⟨s, os, hrun, hbound, ⟨s', frame, hs, ?_⟩, s'', frame', hs', ?_⟩
  · exact malformed_of_left_out hfits (by decide) (drop_frame_lanDevice hbound hwf hs)
  · have hmtu := drop_frame_lanDevice hbound hwf hs'
    refine carries_of_inRange hfits ⟨by decide, by decide, by decide⟩ (hmtu.trans ?_)
    rfl

end Bacnet
