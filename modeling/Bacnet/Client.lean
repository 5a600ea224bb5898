import Bacnet.AddressCache
import Bacnet.Bvlc
import Bacnet.ReadProperty
import Bacnet.Tsm
import Mathlib.Data.List.AList

/-!
# Bacnet.Client

The process-wide state that connecting, reading and discovering share, and the reply
handlers the client registers (`lib.rs`, `whois.rs`).

The transaction table, the address cache, the socket and the handler tables are statics
of the C stack. `TARGET_ADDRESSES` and `DISCOVERED_DEVICES` are the client's own,
behind mutexes. A handler called from C that panics ends the process: such a handler
returns `none`.
-/

namespace Bacnet

open Bacnet.Lib

/-! ### The tracked devices -/

inductive RequestStatus where
  /-- No reply has been received yet. -/
  | ongoing
  /-- Successfully completed. -/
  | done
  /-- Request failed. -/
  | error (e : BACnetErr)
  deriving DecidableEq

/-- A structure for tracking. -/
structure TargetDevice where
  addr : BacnetAddress
  request : Option (UInt8 × RequestStatus)
  value : Option (Result BACnetValue)

/-- `HashMap<DeviceId, TargetDevice>`. -/
abbrev Targets := AList fun _ : DeviceId => TargetDevice

/-- The test of `find_matching_device` on one device. -/
def TargetDevice.awaits (t : TargetDevice) (src : BacnetAddress) (invokeId : UInt8) : Bool :=
  addressMatch t.addr src && (t.request.map Prod.fst == some invokeId)

/-- `find_matching_device`. The map is visited in an order nothing is known of: `order`
says which keys come first. -/
def findMatchingDevice (order : List DeviceId) (targets : Targets) (src : BacnetAddress)
    (invokeId : UInt8) : Option DeviceId :=
  (order ++ targets.keys).find? fun d =>
    match targets.lookup d with
    | some t => t.awaits src invokeId
    | none => false

/-! ### The shared state -/

/-- An `Unconfirmed_Function` for I-Am: `handler_i_am_bind`, or the `i_am_handler` of
`whois.rs`. -/
inductive IAmFunction where
  | handlerIAmBind
  | iAmHandler
  deriving DecidableEq

/-- The handler table slots that the client ever fills. Every other slot stays NULL. -/
structure Handlers where
  whoIs : Bool
  iAm : Option IAmFunction
  unrecognizedService : Bool
  readProperty : Bool
  readPropertyAck : Bool
  readPropertyError : Bool
  abort : Bool
  reject : Bool
  deriving DecidableEq

/-- `BACNET_COMMUNICATION_ENABLE_DISABLE`. -/
inductive Communication where
  | enable
  | disable
  | disableInitiation
  deriving DecidableEq

/-- `IAmDevice`. -/
structure IAmDevice where
  deviceId : DeviceId
  maxApdu : UInt32
  vendorId : UInt16
  macAddr : Vector UInt8 6
  networkNumber : UInt16
  addr : Vector UInt8 6
  deriving DecidableEq

/-- Everything that is not local to a call. -/
structure Stack where
  tsm : Tsm
  cache : AddressCache
  dcc : Communication
  handlers : Handlers
  /-- `BIP_Socket` is open. -/
  socketOpen : Bool
  /-- `BACNET_STACK_INIT` has run. -/
  initDone : Bool
  targets : Targets
  /-- The mutex of `TARGET_ADDRESSES` is poisoned. -/
  poisoned : Bool
  discovered : List IAmDevice

/-- What the process finds around it: the network interface, the lines of the address
cache file, and the `BACNET_INVOKE_ID` variable. -/
structure Env where
  bip : BipConfig
  cacheFile : List AddressCache.CacheFileLine
  invokeId : Option UInt8

namespace Stack

/-- The statics as the process starts. -/
def init : Stack where
  tsm := .init
  cache := .init
  dcc := .enable
  handlers := ⟨false, none, false, false, false, false, false, false⟩
  socketOpen := false
  initDone := false
  targets := ∅
  poisoned := false
  discovered := []

def setTarget (s : Stack) (d : DeviceId) (t : TargetDevice) : Stack :=
  { s with targets := s.targets.insert d t }

def freeInvokeId (s : Stack) (invokeId : UInt8) : Stack :=
  { s with tsm := s.tsm.freeInvokeId invokeId }

theorem lookup_setTarget (s : Stack) (d d' : DeviceId) (t : TargetDevice) :
    (s.setTarget d t).targets.lookup d' = if d' = d then some t else s.targets.lookup d' := by
  by_cases h : d' = d
  · rw [if_pos h, h]
    exact AList.lookup_insert s.targets
  · rw [if_neg h]
    exact AList.lookup_insert_ne h

@[simp] theorem lookup_setTarget_self (s : Stack) (d : DeviceId) (t : TargetDevice) :
    (s.setTarget d t).targets.lookup d = some t := by
  rw [lookup_setTarget, if_pos rfl]

theorem lookup_setTarget_ne (s : Stack) {d d' : DeviceId} (h : d' ≠ d) (t : TargetDevice) :
    (s.setTarget d t).targets.lookup d' = s.targets.lookup d' := by
  rw [lookup_setTarget, if_neg h]

end Stack

/-! ### The reply handlers -/

/-- What the four reply handlers share: take the lock, find the device the reply is for,
and update it. -/
def withMatchingDevice (order : List DeviceId) (s : Stack) (src : BacnetAddress)
    (invokeId : UInt8) (f : TargetDevice → TargetDevice) : Option Stack :=
  if s.poisoned then none
  else
    match findMatchingDevice order s.targets src invokeId with
    | none => some s
    | some d =>
      match s.targets.lookup d with
      | none => some s
      | some t => some (s.setTarget d (f t))

/-- What `my_readprop_ack_handler` writes. -/
def storeAck (serviceRequest : Mem) (serviceLen : Nat) (invokeId : UInt8) (t : TargetDevice) :
    TargetDevice :=
  { t with
    value := some (decodeReply serviceRequest serviceLen)
    request := some (invokeId, .done) }

/-- What the other three handlers write. -/
def storeError (e : BACnetErr) (invokeId : UInt8) (t : TargetDevice) : TargetDevice :=
  { t with request := some (invokeId, .error e) }

def myReadpropAckHandler (order : List DeviceId) (s : Stack) (serviceRequest : Mem)
    (serviceLen : Nat) (src : BacnetAddress) (invokeId : UInt8) : Option Stack :=
  withMatchingDevice order s src invokeId (storeAck serviceRequest serviceLen invokeId)

def myErrorHandler (order : List DeviceId) (s : Stack) (src : BacnetAddress) (invokeId : UInt8)
    (errorClass errorCode : UInt32) : Option Stack :=
  withMatchingDevice order s src invokeId
    (storeError (.error (bactextErrorClassName errorClass) errorClass
      (bactextErrorCodeName errorCode) errorCode) invokeId)

def myAbortHandler (order : List DeviceId) (s : Stack) (src : BacnetAddress) (invokeId : UInt8)
    (abortReason : UInt8) : Option Stack :=
  withMatchingDevice order s src invokeId
    (storeError (.aborted (bactextAbortReasonName abortReason.toUInt32) abortReason) invokeId)

def myRejectHandler (order : List DeviceId) (s : Stack) (src : BacnetAddress) (invokeId : UInt8)
    (rejectReason : UInt8) : Option Stack :=
  withMatchingDevice order s src invokeId (storeError (.rejected rejectReason) invokeId)

/-! ### The I-Am handlers -/

/-- What `iam_decode_service_request` stores. -/
structure IAm where
  deviceId : DeviceId
  maxApdu : UInt32
  segmentation : UInt32
  vendorId : UInt16
  deriving DecidableEq

/-- `iam_decode_service_request`: `none` when the source returns -1. The message's length
is not known to it. -/
def iamDecodeServiceRequest (apdu : Mem) : Option IAm :=
  -- OBJECT ID
  let (n, tag) := decodeTagNumberAndValue apdu
  let len := n
  if tag.number ≠ 12 then none
  else
    let (objectType, objectInstance) := decodeObjectId (apdu.shift len)
    let len := len + 4
    -- OBJECT_DEVICE
    if objectType ≠ 8 then none
    else
      -- MAX APDU
      let (n, tag) := decodeTagNumberAndValue (apdu.shift len)
      let len := len + n
      if tag.number ≠ 2 then none
      else
        let (n, unsignedValue) := decodeUnsigned (apdu.shift len) tag.lenValue 0
        let maxApdu := UInt32.ofNat unsignedValue
        let len := len + n
        -- Segmentation
        let (n, tag) := decodeTagNumberAndValue (apdu.shift len)
        let len := len + n
        if tag.number ≠ 9 then none
        else
          let (n, enumValue) := decodeEnumerated (apdu.shift len) tag.lenValue 0
          let len := len + n
          -- MAX_BACNET_SEGMENTATION
          if enumValue ≥ 4 then none
          else
            -- Vendor ID
            let (n, tag) := decodeTagNumberAndValue (apdu.shift len)
            let len := len + n
            if tag.number ≠ 2 then none
            else
              let (_, unsignedValue) := decodeUnsigned (apdu.shift len) tag.lenValue unsignedValue
              if unsignedValue > 0xFFFF then none
              else some ⟨objectInstance, maxApdu, enumValue, UInt16.ofNat unsignedValue⟩

/-- `handler_i_am_bind`. -/
def handlerIAmBind (s : Stack) (serviceRequest : Mem) (src : BacnetAddress) : Stack :=
  match iamDecodeServiceRequest serviceRequest with
  | some i => { s with cache := s.cache.addressAddBinding i.deviceId i.maxApdu src }
  | none => s

/-- `mac_addr[..len].copy_from_slice(&mac[..len])`: a length over 6 panics. -/
def copyFromSlice (mac : Vector UInt8 maxMacLen) (len : UInt8) : Option (Vector UInt8 6) :=
  if len.toNat ≤ 6 then
    some (Vector.ofFn fun i => if i.val < len.toNat then mac[i.val] else 0)
  else none

/-- `i_am_handler`. -/
def iAmHandler (s : Stack) (serviceRequest : Mem) (src : BacnetAddress) : Option Stack :=
  match iamDecodeServiceRequest serviceRequest with
  | none => some s
  | some i =>
    match copyFromSlice src.mac src.macLen with
    | none => none
    | some macAddr =>
      match if src.net > 0 then copyFromSlice src.adr src.len else some (Vector.replicate 6 0) with
      | none => none
      | some addr =>
        some { s with
          discovered := s.discovered ++ [⟨i.deviceId, i.maxApdu, i.vendorId, macAddr, src.net, addr⟩] }

end Bacnet
