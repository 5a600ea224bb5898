import Bacnet.Fidelity
import Bacnet.Forwarding
import Bacnet.IAmBodies
import Bacnet.NegativeReplies

/-!
# Bacnet.Server

The **answering side** of the application layer: what `apdu_handler` transmits for a message.
A client registers the handlers of a server too (`init_service_handlers`), so every device
built on the stack answers ReadProperty, rejects the other confirmed services, and announces
itself when a Who-Is asks for it.

`Bacnet.Apdu` has what a message changes. A request changes nothing, and a reply makes the
stack transmit nothing, so the two halves of `apdu_handler` do not meet.
-/

namespace Bacnet

open Bacnet.Lib

/-! ### The application behind the handlers -/

/-- What a handler fails with: `BACNET_STATUS_ABORT`, `BACNET_STATUS_ERROR` or
`BACNET_STATUS_REJECT`, and what stands in `rpdata` then. -/
inductive Failure where
  | abort (errorCode : UInt32)
  | error (errorClass errorCode : UInt32)
  | reject (errorCode : UInt32)
  deriving DecidableEq

/-- The functions of `device.c` that the handlers call. -/
structure Device where
  objectInstanceNumber : UInt32
  /-- `Device_Set_Object_Instance_Number` accepts no other. -/
  instance_le : objectInstanceNumber.toNat ≤ bacnetMaxInstance
  vendorIdentifier : UInt16
  /-- `Device_Read_Property`: the octets it writes, given the room there is. -/
  readProperty : ReadArgs → Nat → Except Failure (List UInt8)

/-! ### Failures on the wire (`abort.c`, `reject.c`, `bacerror.c`) -/

def abortConvertErrorCode (errorCode : UInt32) : UInt8 :=
  match errorCode.toNat with
  | 51 => 1
  | 52 => 2
  | 53 => 3
  | 54 => 4
  | 136 => 5
  | 135 => 6
  | 55 => 64
  | _ => 0

def rejectConvertErrorCode (errorCode : UInt32) : UInt8 :=
  match errorCode.toNat with
  | 59 => 1
  | 60 => 2
  | 61 => 3
  | 62 => 4
  | 63 => 5
  | 64 => 6
  | 65 => 7
  | 66 => 8
  | 67 => 9
  | 68 => 64
  | _ => 0

def abortEncodeApdu (invokeId abortReason : UInt8) (server : Bool) : List UInt8 :=
  [bif server then 0x71 else 0x70, invokeId, abortReason]

def bacerrorEncodeApdu (invokeId service : UInt8) (errorClass errorCode : UInt32) : List UInt8 :=
  [0x50, invokeId, service] ++ encodeApplicationEnumerated errorClass ++
    encodeApplicationEnumerated errorCode

def rejectEncodeApdu (invokeId rejectReason : UInt8) : List UInt8 := [0x60, invokeId, rejectReason]

/-- The APDU behind the label `RP_FAILURE`. -/
def Failure.encodeApdu (invokeId : UInt8) : Failure → List UInt8
  | abort errorCode => abortEncodeApdu invokeId (abortConvertErrorCode errorCode) true
  | error errorClass errorCode =>
    bacerrorEncodeApdu invokeId serviceConfirmedReadProperty errorClass errorCode
  | reject errorCode => rejectEncodeApdu invokeId (rejectConvertErrorCode errorCode)

/-- `ERROR_CODE_ABORT_SEGMENTATION_NOT_SUPPORTED`. -/
def abortSegmentationNotSupported : Failure := .abort 54

/-- The error codes of `rp_decode_service_request`. -/
def RequestError.failure : RequestError → Failure
  | rejectInvalidTag => .reject 62
  | rejectMissingRequiredParameter => .reject 63
  | rejectTooManyArguments => .reject 65

/-! ### Confirmed requests -/

def decodeMaxSegs (octet : UInt8) : Nat :=
  match (octet &&& 0xF0).toNat with
  | 0x10 => 2
  | 0x20 => 4
  | 0x30 => 8
  | 0x40 => 16
  | 0x50 => 32
  | 0x60 => 64
  | 0x70 => 65
  | _ => 0

def decodeMaxApdu (octet : UInt8) : Nat :=
  match (octet &&& 0x0F).toNat with
  | 0 => 50
  | 1 => 128
  | 2 => 206
  | 3 => 480
  | 4 => 1024
  | 5 => 1476
  | _ => 0

/-- `BACNET_CONFIRMED_SERVICE_DATA`. -/
structure ConfirmedServiceData where
  segmentedMessage : Bool
  moreFollows : Bool
  segmentedResponseAccepted : Bool
  maxSegs : Nat
  maxResp : Nat
  invokeId : UInt8
  sequenceNumber : UInt8
  proposedWindowNumber : UInt8

/-- What `apdu_decode_confirmed_service_request` fills in. -/
structure ConfirmedRequest where
  serviceData : ConfirmedServiceData
  serviceChoice : UInt8
  serviceRequest : Mem
  serviceLen : Nat

/-- `apdu_decode_confirmed_service_request`, into variables that are zero. What the message is
too short for stays so, and the service choice 0 is then a choice like any other. A service
request without octets is NULL in the source; nothing reads it. -/
def apduDecodeConfirmedServiceRequest (apdu : Mem) (apduLen : Nat) : ConfirmedRequest :=
  if apduLen < 3 then ⟨⟨false, false, false, 0, 0, 0, 0, 0⟩, 0, apdu, 0⟩
  else
    let serviceData : ConfirmedServiceData :=
      { segmentedMessage := apdu 0 &&& 0x08 ≠ 0
        moreFollows := apdu 0 &&& 0x04 ≠ 0
        segmentedResponseAccepted := apdu 0 &&& 0x02 ≠ 0
        maxSegs := decodeMaxSegs (apdu 1)
        maxResp := decodeMaxApdu (apdu 1)
        invokeId := apdu 2
        sequenceNumber := 0
        proposedWindowNumber := 0 }
    if serviceData.segmentedMessage then
      if apduLen < 5 then ⟨serviceData, 0, apdu, 0⟩
      else
        let serviceData :=
          { serviceData with sequenceNumber := apdu 3, proposedWindowNumber := apdu 4 }
        if apduLen < 6 then ⟨serviceData, 0, apdu, 0⟩
        else ⟨serviceData, apdu 5, apdu.shift 6, apduLen - 6⟩
    else if apduLen < 4 then ⟨serviceData, 0, apdu, 0⟩
    else ⟨serviceData, apdu 3, apdu.shift 4, apduLen - 4⟩

/-- `MAX_PDU`, the size of `Handler_Transmit_Buffer`. -/
def maxPdu : Nat := 1502

/-- `rpdata` as `rp_ack_encode_apdu_init` reads it. -/
def ReadArgs.rpdata (args : ReadArgs) : ReadPropertyData where
  objectType := args.objectType
  objectInstance := args.objectInstance
  objectProperty := args.propertyId
  arrayIndex := args.index
  applicationData := fun _ => 0
  applicationDataLen := 0

/-- The indefinite instance of the Device object is the device's own. -/
def Device.resolve (dev : Device) (args : ReadArgs) : ReadArgs :=
  -- OBJECT_DEVICE
  if args.objectType = 8 ∧ args.objectInstance.toNat = bacnetMaxInstance then
    { args with objectInstance := dev.objectInstanceNumber }
  else args

/-- What `handler_read_property` does with a request that it can decode. -/
def Device.acknowledge (dev : Device) (npduLen : Nat) (invokeId : UInt8) (maxResp : Nat)
    (args : ReadArgs) : List UInt8 :=
  let init := rpAckEncodeApduInit invokeId (dev.resolve args).rpdata
  match dev.readProperty (dev.resolve args) (maxPdu - (npduLen + init.length)) with
  | .ok applicationData =>
    let apdu := init ++ applicationData ++ encodeClosingTag 3
    -- too big for the sender
    if apdu.length > maxResp then abortSegmentationNotSupported.encodeApdu invokeId
    else apdu
  | .error failure => failure.encodeApdu invokeId

/-- The APDU of `handler_read_property`. -/
def handlerReadProperty (dev : Device) (npduLen : Nat) (r : ConfirmedRequest) : List UInt8 :=
  let invokeId := r.serviceData.invokeId
  if r.serviceData.segmentedMessage then abortSegmentationNotSupported.encodeApdu invokeId
  else
    match rpDecodeServiceRequest r.serviceRequest r.serviceLen with
    | .ok args => dev.acknowledge npduLen invokeId r.serviceData.maxResp args
    | .error err => err.failure.encodeApdu invokeId

/-- The APDU of `handler_unrecognized_service`. -/
def handlerUnrecognizedService (r : ConfirmedRequest) : List UInt8 :=
  -- REJECT_REASON_UNRECOGNIZED_SERVICE
  rejectEncodeApdu r.serviceData.invokeId 9

/-! ### Who-Is and I-Am -/

/-- `whois_decode_service_request`: `none` for `BACNET_STATUS_ERROR`, and otherwise the limits,
if there are any. A limit that is too large leaves the variable at 0. -/
def whoisDecodeServiceRequest (apdu : Mem) (apduLen : Nat) : Option (Option (Nat × Nat)) :=
  let limit := fun value : Nat => if value ≤ bacnetMaxInstance then value else 0
  if apduLen = 0 then some none
  else
    let (n, tag) := decodeTagNumberAndValue apdu
    let len := n
    if tag.number ≠ 0 ∨ apduLen ≤ len then none
    else
      let (n, lowLimit) := decodeUnsigned (apdu.shift len) tag.lenValue 0
      let len := len + n
      if apduLen ≤ len then none
      else
        let (n, tag) := decodeTagNumberAndValue (apdu.shift len)
        let len := len + n
        if tag.number ≠ 1 ∨ apduLen ≤ len then none
        else
          let (_, highLimit) := decodeUnsigned (apdu.shift len) tag.lenValue lowLimit
          some (some (limit lowLimit, limit highLimit))

/-- Does `handler_who_is` send an I-Am? -/
def handlerWhoIs (dev : Device) (serviceRequest : Mem) (serviceLen : Nat) : Bool :=
  match whoisDecodeServiceRequest serviceRequest serviceLen with
  | none => false
  | some none => true
  | some (some (lowLimit, highLimit)) =>
    decide (lowLimit ≤ dev.objectInstanceNumber.toNat) &&
      decide (dev.objectInstanceNumber.toNat ≤ highLimit)

/-- The I-Am of `Send_I_Am`. -/
def Device.iAm (dev : Device) : List UInt8 :=
  -- SEGMENTATION_NONE
  iamEncodeApdu dev.objectInstanceNumber (UInt32.ofNat maxApdu) 3 dev.vendorIdentifier

/-- `datalink_get_broadcast_address`, of which only the network is read. -/
def broadcastAddress : BacnetAddress :=
  { BacnetAddress.default with macLen := 6, net := bacnetBroadcastNetwork }

/-! ### The dispatch -/

/-- `apdu_confirmed_dcc_disabled`. -/
def apduConfirmedDccDisabled (dcc : Communication) (serviceChoice : UInt8) : Bool :=
  -- DEVICE_COMMUNICATION_CONTROL, REINITIALIZE_DEVICE
  decide (dcc = .disable) && ! (serviceChoice == 17 || serviceChoice == 20)

/-- `apdu_unconfirmed_dcc_disabled` for Who-Is. -/
def apduUnconfirmedDccDisabled (dcc : Communication) : Bool := decide (dcc = .disable)

/-- What the stack of a device answers with: the handlers, and whether it may. -/
structure Server where
  handlers : Handlers
  dcc : Communication
  device : Device

/-- A device that has run `init_service_handlers`. -/
def Server.installed (dev : Device) : Server := ⟨.installed, .enable, dev⟩

/-- The NPDU of a reply: the own address has the network 0. -/
def replyPdu (dest : BacnetAddress) (apdu : List UInt8) : List UInt8 :=
  npduEncodePdu dest .default false ++ apdu

/-- What `apdu_handler` has a handler transmit: the destinations and NPDUs that
`datalink_send_pdu` gets. -/
def Server.apduReplies (srv : Server) (src : BacnetAddress) (apdu : Mem) (apduLen : Nat) :
    List (BacnetAddress × List UInt8) :=
  match (apdu 0 &&& 0xF0).toNat with
  -- PDU_TYPE_CONFIRMED_SERVICE_REQUEST
  | 0x00 =>
    let r := apduDecodeConfirmedServiceRequest apdu apduLen
    let npduLen := (npduEncodePdu src .default false).length
    if apduConfirmedDccDisabled srv.dcc r.serviceChoice then []
    else if r.serviceChoice = serviceConfirmedReadProperty ∧ srv.handlers.readProperty then
      [(src, replyPdu src (handlerReadProperty srv.device npduLen r))]
    else if srv.handlers.unrecognizedService then
      [(src, replyPdu src (handlerUnrecognizedService r))]
    else []
  -- PDU_TYPE_UNCONFIRMED_SERVICE_REQUEST
  | 0x10 =>
    -- SERVICE_UNCONFIRMED_WHO_IS
    if apduLen ≥ 2 ∧ apdu 1 = 8 ∧ srv.handlers.whoIs ∧ ¬ apduUnconfirmedDccDisabled srv.dcc ∧
        handlerWhoIs srv.device (apdu.shift 2) (apduLen - 2) then
      [(broadcastAddress, replyPdu broadcastAddress srv.device.iAm)]
    else []
  | _ => []

/-- What `npdu_handler` has a handler transmit. -/
def Server.npduReplies (srv : Server) (src : BacnetAddress) (pdu : Mem) (pduLen : Nat) :
    List (BacnetAddress × List UInt8) :=
  match npduRoute src pdu pduLen with
  | (src, some (apdu, apduLen)) => srv.apduReplies src apdu apduLen
  | (_, none) => []

/-! ### What a request is answered with -/

theorem Failure.answers (failure : Failure) (invokeId : UInt8) :
    Answers invokeId (failure.encodeApdu invokeId) := by
  cases failure with
  | abort errorCode => simp [Failure.encodeApdu, abortEncodeApdu, Answers]
  | error errorClass errorCode => simp [Failure.encodeApdu, bacerrorEncodeApdu, Answers]
  | reject errorCode => simp [Failure.encodeApdu, rejectEncodeApdu, Answers]

/-- An acknowledgement, whatever the value in it. -/
theorem answers_rpAck (invokeId : UInt8) (rpdata : ReadPropertyData) (rest : List UInt8) :
    Answers invokeId (rpAckEncodeApduInit invokeId rpdata ++ rest) := by
  have hunsegmented : (0x30 : UInt8) &&& 0x08 = 0 := by decide
  rw [rpAckEncodeApduInit_eq]
  simp [Answers, hunsegmented]

namespace Device

variable (dev : Device) (npduLen : Nat) (invokeId : UInt8) (maxResp : Nat) (args : ReadArgs)

/-- The octets of an acknowledgement in front of the value. -/
def initLen : Nat := (ackHeader (dev.resolve args).rpdata).length + 3

/-- What the requester is to learn: the octets of the value, unless the acknowledgement with
them is longer than it can take. -/
def outcome : Except Failure (List UInt8) :=
  match dev.readProperty (dev.resolve args) (maxPdu - (npduLen + dev.initLen args)) with
  | .ok applicationData =>
    if dev.initLen args + applicationData.length + 1 > maxResp then
      .error abortSegmentationNotSupported
    else .ok applicationData
  | .error failure => .error failure

/-- The acknowledgement is what tells it. -/
theorem acknowledge_eq :
    (∀ failure, dev.outcome npduLen maxResp args = .error failure →
      dev.acknowledge npduLen invokeId maxResp args = failure.encodeApdu invokeId) ∧
    ∀ applicationData, dev.outcome npduLen maxResp args = .ok applicationData →
      dev.initLen args + applicationData.length + 1 ≤ maxResp ∧
      dev.acknowledge npduLen invokeId maxResp args =
        rpAckEncodeApduInit invokeId (dev.resolve args).rpdata ++ applicationData ++
          encodeClosingTag 3 := by
  have hinit : (rpAckEncodeApduInit invokeId (dev.resolve args).rpdata).length =
      dev.initLen args := length_rpAckEncodeApduInit invokeId _
  have hclosing : (encodeClosingTag 3).length = 1 := rfl
  simp only [acknowledge, outcome, hinit]
  cases dev.readProperty (dev.resolve args) (maxPdu - (npduLen + dev.initLen args)) with
  | error failure => simp
  | ok applicationData =>
      simp only [List.length_append, hinit, hclosing]
      split
      · refine ⟨fun failure hfailure => ?_, fun octets hoctets => ?_⟩
        · cases hfailure
          rfl
        · cases hoctets
      · rename_i hfit
        refine ⟨fun failure hfailure => ?_, fun octets hoctets => ?_⟩
        · cases hfailure
        · cases hoctets
          exact ⟨Nat.le_of_not_lt hfit, rfl⟩

theorem answers_acknowledge :
    Answers invokeId (dev.acknowledge npduLen invokeId maxResp args) := by
  obtain ⟨herror, hok⟩ := dev.acknowledge_eq npduLen invokeId maxResp args
  cases h : dev.outcome npduLen maxResp args with
  | error failure =>
      rw [herror failure h]
      exact failure.answers invokeId
  | ok applicationData =>
      rw [(hok applicationData h).2, List.append_assoc]
      exact answers_rpAck invokeId _ _

end Device

theorem answers_handlerReadProperty (dev : Device) (npduLen : Nat) (r : ConfirmedRequest) :
    Answers r.serviceData.invokeId (handlerReadProperty dev npduLen r) := by
  unfold handlerReadProperty
  simp only
  split
  · exact Failure.answers _ _
  · split
    · exact dev.answers_acknowledge _ _ _ _
    · exact Failure.answers _ _

theorem answers_handlerUnrecognizedService (r : ConfirmedRequest) :
    Answers r.serviceData.invokeId (handlerUnrecognizedService r) := by
  simp [handlerUnrecognizedService, rejectEncodeApdu, Answers]

namespace Server

variable (srv : Server) (src : BacnetAddress) {apdu : Mem} {apduLen : Nat}

/-- What is transmitted is an answer to a confirmed request, or an I-Am for a Who-Is. -/
theorem apduReplies_cases {dest : BacnetAddress} {pdu : List UInt8}
    (h : (dest, pdu) ∈ srv.apduReplies src apdu apduLen) :
    (apdu 0 &&& 0xF0 = 0 ∧ dest = src ∧ ∃ a,
      Answers (apduDecodeConfirmedServiceRequest apdu apduLen).serviceData.invokeId a ∧
        pdu = replyPdu src a) ∨
    (apdu 0 &&& 0xF0 = 0x10 ∧ apdu 1 = 8 ∧ dest = broadcastAddress ∧
      pdu = replyPdu broadcastAddress srv.device.iAm) := by
  unfold apduReplies at h
  split at h
  · rename_i htype
    refine Or.inl ⟨UInt8.toNat_inj.mp htype, ?_⟩
    simp only at h
    split at h
    · cases h
    · split at h
      · obtain ⟨rfl, rfl⟩ := Prod.mk.inj (List.mem_singleton.mp h)
        exact ⟨rfl, _, answers_handlerReadProperty _ _ _, rfl⟩
      · split at h
        · obtain ⟨rfl, rfl⟩ := Prod.mk.inj (List.mem_singleton.mp h)
          exact ⟨rfl, _, answers_handlerUnrecognizedService _, rfl⟩
        · cases h
  · rename_i htype
    refine Or.inr ⟨UInt8.toNat_inj.mp htype, ?_⟩
    split at h
    · rename_i hwho
      obtain ⟨rfl, rfl⟩ := Prod.mk.inj (List.mem_singleton.mp h)
      exact ⟨hwho.2.1, rfl, rfl⟩
    · cases h
  · cases h

end Server

end Bacnet
