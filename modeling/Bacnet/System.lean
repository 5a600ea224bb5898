import Bacnet.Apdu
import Bacnet.Lib.Machine
import Mathlib.Logic.Function.Basic

/-!
# Bacnet.System

The client as a machine: any number of threads that connect, read and discover over one
`Stack`. The steps are the atomic parts of `connect`, `disconnect`, `read_prop_at`
(`lib.rs`) and `WhoIs::execute` (`whois.rs`):

* `read_prop_at` sends under the lock of `TARGET_ADDRESSES`, then receives one datagram
  and dispatches it, polls the transaction slot, and goes round, or extracts under the
  lock;
* `execute` sets up and sends, receives until its timeout, closes the socket, and drains
  the list of discovered devices.

An event names the thread that moves and everything the environment decides.
-/

namespace Bacnet

open Bacnet.Lib

/-! ### Calls -/

/-- `BACnetDeviceBuilder`. -/
structure BACnetDeviceBuilder where
  ip : Vector UInt8 4
  dnet : UInt16
  dadr : UInt8
  port : UInt16
  deviceId : DeviceId
  deriving DecidableEq

/-- The address `build` computes. -/
def BACnetDeviceBuilder.build (b : BACnetDeviceBuilder) : BacnetAddress :=
  { BacnetAddress.default with
    mac := #v[b.ip.get 0, b.ip.get 1, b.ip.get 2, b.ip.get 3, (b.port >>> 8).toUInt8,
      (b.port &&& 0xff).toUInt8, 0]
    macLen := 6
    net := b.dnet
    adr := #v[b.dadr, 0, 0, 0, 0, 0, 0]
    len := 1 }

/-- Where a call of `read_prop_at` that has sent its request stands. -/
inductive ReadPc where
  | receiving
  | polling
  | extracting
  deriving DecidableEq

/-- The local variables of such a call. -/
structure ReadCall where
  deviceId : DeviceId
  args : ReadArgs
  requestInvokeId : UInt8
  rx : RxState
  pc : ReadPc

/-- What a thread is doing. -/
inductive Thread where
  | idle
  | reading (call : ReadCall)
  | discovering (rx : RxState)
  /-- `whois` has returned, and `execute` is about to take what was discovered. -/
  | draining

/-- The call of `read_prop_at` that the thread is in. -/
def Thread.call? : Thread → Option ReadCall
  | reading call => some call
  | _ => none

theorem Thread.mem_call? {th : Thread} {call : ReadCall} :
    call ∈ th.call? ↔ th = .reading call := by
  cases th with
  | reading c => simp [call?]
  | _ => simp [call?]

theorem Thread.not_reading_of_isNone {th : Thread} (h : th.call?.isNone = true)
    (call : ReadCall) : th ≠ .reading call := by
  intro hth
  rw [hth] at h
  cases h

/-- What one `bip_receive` and the dispatch after it meet: the datagram if one came, the
order in which the map of tracked devices is visited, and the octets in memory behind
the receive buffer. -/
structure Arrival where
  datagram : Option Datagram
  order : List DeviceId
  beyond : Mem

inductive Event where
  | connect (thread : Nat) (device : BACnetDeviceBuilder)
  | disconnect (thread : Nat) (deviceId : DeviceId)
  | send (thread : Nat) (deviceId : DeviceId) (args : ReadArgs)
  | receive (thread : Nat) (arrival : Arrival)
  /-- `elapsed`: the whole seconds since the request was sent are more than three. -/
  | poll (thread : Nat) (elapsed : Bool)
  | extract (thread : Nat)
  | whoisStart (thread : Nat) (subnet : Option UInt16)
  | whoisClose (thread : Nat)
  | whoisDrain (thread : Nat)

namespace Event

def thread : Event → Nat
  | connect t _ => t
  | disconnect t _ => t
  | send t _ _ => t
  | receive t _ => t
  | poll t _ => t
  | extract t => t
  | whoisStart t _ => t
  | whoisClose t => t
  | whoisDrain t => t

end Event

inductive Output where
  | silent
  | connected (r : Result Unit)
  /-- The request went out with this id: what was handed to the socket. -/
  | sent (invokeId : UInt8) (frame : Option (BacnetIpAddress × List UInt8))
  | returned (r : Result BACnetValue)
  | whoIs (frame : Option (BacnetIpAddress × List UInt8))
  | discovered (devices : List IAmDevice)
  /-- The thread panicked. -/
  | panicked
  /-- A handler panicked below C code, which ends the process. -/
  | aborted

/-- A request for thread `t` was sent. -/
def SentBy (t : Nat) (e : Event) (o : Output) : Prop :=
  ∃ d args id frame, e = .send t d args ∧ o = .sent id frame

/-- A request to device `d` was sent. -/
def SentTo (d : DeviceId) (e : Event) (o : Output) : Prop :=
  ∃ t args id frame, e = .send t d args ∧ o = .sent id frame

/-- The whole program: the shared state and the threads. -/
structure Sys where
  stack : Stack
  threads : Nat → Thread
  aborted : Bool

namespace Sys

def init : Sys := ⟨.init, fun _ => .idle, false⟩

def setThread (s : Sys) (t : Nat) (th : Thread) : Sys :=
  { s with threads := Function.update s.threads t th }

end Sys

/-! ### `connect` and `disconnect` -/

/-- `dlenv_init`, when it returns: it exits the process when the socket cannot be
opened. -/
def dlenvInit (env : Env) (s : Stack) : Stack :=
  { s with
    socketOpen := true
    tsm := match env.invokeId with
      | some id => s.tsm.invokeIdSet id
      | none => s.tsm }

/-- The handlers that `init_service_handlers` sets. -/
def Handlers.installed : Handlers where
  whoIs := true
  iAm := some .handlerIAmBind
  unrecognizedService := true
  readProperty := true
  readPropertyAck := true
  readPropertyError := true
  abort := true
  reject := true

/-- `init_service_handlers`. -/
def initServiceHandlers (s : Stack) : Stack := { s with handlers := .installed }

/-- `BACNET_STACK_INIT.call_once`. -/
def stackInit (env : Env) (s : Stack) : Stack :=
  if s.initDone then s
  else { dlenvInit env (initServiceHandlers s) with initDone := true }

/-- A freshly connected device: no request, no value. -/
def freshTarget (addr : BacnetAddress) : TargetDevice := ⟨addr, none, none⟩

/-- `BACnetDevice::connect`. -/
def connect (env : Env) (s : Stack) (b : BACnetDeviceBuilder) : Stack × Output :=
  let s := stackInit env s
  let cache := s.cache.addressAdd b.deviceId (UInt32.ofNat maxApdu) b.build
  let r := cache.addressBindRequest b.deviceId
  let s := { s with cache := r.2 }
  match r.1 with
  | some (_, targetAddr) =>
    if s.poisoned then (s, .panicked)
    else (s.setTarget b.deviceId (freshTarget targetAddr), .connected (.ok ()))
  | none => (s, .connected (.error .failedToBindToDevice))

/-- `BACnetDevice::disconnect`. -/
def disconnect (s : Stack) (deviceId : DeviceId) : Stack :=
  { s with cache := s.cache.addressRemoveDevice deviceId }

/-! ### The parts of `read_prop_at` -/

/-- The ReadProperty request as an NPDU. The client's own address is the zero address
(`routed_get_my_address`), so no source specifier is sent. -/
def requestPdu (dest : BacnetAddress) (invokeId : UInt8) (args : ReadArgs) : List UInt8 :=
  npduEncodePdu dest .default true ++ rpEncodeApdu invokeId args

/-- `Send_Read_Property_Request_Address`: the invoke id, or 0, and what is handed to the
socket. -/
def sendReadPropertyRequestAddress (env : Env) (s : Stack) (dest : BacnetAddress)
    (maxApdu : UInt16) (args : ReadArgs) :
    Stack × UInt8 × Option (BacnetIpAddress × List UInt8) :=
  if s.dcc ≠ .enable then (s, 0, none)
  else
    let (invokeId, tsm) := s.tsm.nextFreeInvokeId
    if invokeId ≠ 0 then
      let pdu := requestPdu dest invokeId args
      -- will it fit in the sender?
      if UInt16.ofNat pdu.length < maxApdu then
        ({ s with tsm := tsm.setConfirmedUnsegmentedTransaction invokeId }, invokeId,
          bvlcSendPdu env.bip s.socketOpen dest pdu)
      else ({ s with tsm := tsm.freeInvokeId invokeId }, 0, none)
    else ({ s with tsm }, 0, none)

/-- `Send_Read_Property_Request`. The maximum APDU loses its upper 16 bits on the way. -/
def sendReadPropertyRequest (env : Env) (s : Stack) (deviceId : DeviceId) (args : ReadArgs) :
    Stack × UInt8 × Option (BacnetIpAddress × List UInt8) :=
  match s.cache.addressGetByDevice deviceId with
  | some (maxApdu, dest) => sendReadPropertyRequestAddress env s dest maxApdu.toUInt16 args
  | none => (s, 0, none)

/-- The receive variables of a call that starts. -/
def RxState.fresh : RxState := ⟨.default, fun _ => 0⟩

/-- The first part of `read_prop_at`: the next state of the thread, and what it yields. -/
def sendStep (env : Env) (s : Stack) (deviceId : DeviceId) (args : ReadArgs) :
    Stack × Thread × Output :=
  if s.poisoned then (s, .idle, .panicked)
  else
    match s.targets.lookup deviceId with
    | none => (s, .idle, .returned (.error (.notConnectedToDevice deviceId)))
    | some h =>
      let (s, invokeId, frame) := sendReadPropertyRequest env s deviceId args
      (s.setTarget deviceId { h with request := some (invokeId, .ongoing) },
        .reading ⟨deviceId, args, invokeId, .fresh, .receiving⟩, .sent invokeId frame)

/-- The receive buffer, and behind it what the arrival says is there. -/
def RxState.inMemory (rx : RxState) (beyond : Mem) : RxState :=
  { rx with rxBuf := fun i => if i < maxMpdu then rx.rxBuf i else beyond i }

/-- One `bip_receive` and, when there is an NPDU, one `npdu_handler`: `none` when the
process ends. -/
def receiveStep (env : Env) (s : Stack) (rx : RxState) (arrival : Arrival) :
    Option (Stack × RxState) :=
  let (pduLen, rx) :=
    bipReceive env.bip s.socketOpen arrival.datagram (rx.inMemory arrival.beyond)
  if pduLen > 0 then
    (npduHandler arrival.order s rx.src rx.rxBuf pduLen).map fun r => (r.1, { rx with src := r.2 })
  else some (s, rx)

/-- The checks at the end of the loop's body: `none` for another round. -/
inductive PollResult where
  | again
  | finished
  | failed (e : Error)

def pollStep (s : Stack) (requestInvokeId : UInt8) (elapsed : Bool) : PollResult :=
  if s.tsm.invokeIdFree requestInvokeId then .finished
  else if s.tsm.invokeIdFailed requestInvokeId then .failed .tsmTimeout
  else if elapsed then .failed .apduTimeout
  else .again

/-- The last part of `read_prop_at`. A panic here happens with the lock held. -/
def extractStep (s : Stack) (deviceId : DeviceId) : Stack × Output :=
  if s.poisoned then (s, .panicked)
  else
    match s.targets.lookup deviceId with
    | none => ({ s with poisoned := true }, .panicked)
    | some h =>
      let taken := s.setTarget deviceId { h with request := none }
      match h.request with
      | none => ({ taken with poisoned := true }, .panicked)
      | some (_, .done) =>
        (s.setTarget deviceId { h with request := none, value := none },
          .returned (h.value.getD (.error .noValueWasExtracted)))
      | some (_, .ongoing) => ({ taken with poisoned := true }, .panicked)
      | some (_, .error err) => (taken, .returned (.error (.bacnetError err)))

/-! ### The parts of `WhoIs::execute` -/

/-- The Who-Is message: unlimited, to one network or to all. -/
def whoIsPdu (subnet : Option UInt16) : BacnetAddress × List UInt8 :=
  let dest : BacnetAddress :=
    match subnet with
    | some net => { BacnetAddress.default with net }
    | none => { BacnetAddress.default with macLen := 6, net := bacnetBroadcastNetwork }
  (dest, npduEncodePdu dest .default false ++ [0x10, 8])

/-- `whois` up to its receive loop. -/
def whoisStart (env : Env) (s : Stack) (subnet : Option UInt16) : Stack × Output :=
  let s :=
    { s with
      handlers :=
        { s.handlers with
          unrecognizedService := false
          readProperty := true
          iAm := some .iAmHandler }
      cache := s.cache.addressInit env.cacheFile }
  let s := dlenvInit env s
  let (dest, pdu) := whoIsPdu subnet
  (s, .whoIs (bvlcSendPdu env.bip s.socketOpen dest pdu))

/-- `bip_cleanup`. -/
def whoisClose (s : Stack) : Stack := { s with socketOpen := false }

/-! ### The machine -/

/-- A received datagram, for the thread `t` and its next state. -/
def afterReceive (s : Sys) (t : Nat) (r : Option (Stack × RxState)) (next : RxState → Thread) :
    Sys × Output :=
  match r with
  | some (stack, rx) => ({ s.setThread t (next rx) with stack }, .silent)
  | none => ({ s with aborted := true }, .aborted)

def step (env : Env) (s : Sys) (e : Event) : Option (Sys × Output) :=
  if s.aborted then none
  else
    match e, s.threads e.thread with
    | .connect _ b, .idle =>
      let (stack, o) := connect env s.stack b
      some ({ s with stack }, o)
    | .disconnect _ deviceId, .idle =>
      some ({ s with stack := disconnect s.stack deviceId }, .silent)
    | .send t deviceId args, .idle =>
      let (stack, th, o) := sendStep env s.stack deviceId args
      some ({ s.setThread t th with stack }, o)
    | .receive t arrival, .reading call =>
      if call.pc = .receiving then
        some (afterReceive s t (receiveStep env s.stack call.rx arrival) fun rx =>
          .reading { call with rx, pc := .polling })
      else none
    | .poll t elapsed, .reading call =>
      if call.pc = .polling then
        match pollStep s.stack call.requestInvokeId elapsed with
        | .again => some (s.setThread t (.reading { call with pc := .receiving }), .silent)
        | .finished => some (s.setThread t (.reading { call with pc := .extracting }), .silent)
        | .failed err => some (s.setThread t .idle, .returned (.error err))
      else none
    | .extract t, .reading call =>
      if call.pc = .extracting then
        let (stack, o) := extractStep s.stack call.deviceId
        some ({ s.setThread t .idle with stack }, o)
      else none
    | .whoisStart t subnet, .idle =>
      let (stack, o) := whoisStart env s.stack subnet
      some ({ s.setThread t (.discovering .fresh) with stack }, o)
    | .receive t arrival, .discovering rx =>
      some (afterReceive s t (receiveStep env s.stack rx arrival) .discovering)
    | .whoisClose t, .discovering _ =>
      some ({ s.setThread t .draining with stack := whoisClose s.stack }, .silent)
    | .whoisDrain t, .draining =>
      some ({ s.setThread t .idle with stack := { s.stack with discovered := [] } },
        .discovered s.stack.discovered)
    | _, _ => none

/-- The client in the environment `env`. -/
def client (env : Env) : Machine Sys Event Output := ⟨step env⟩

/-- All the steps are of one thread. -/
def SingleThreaded (es : List Event) : Prop := ∀ e ∈ es, e.thread = 0

instance (es : List Event) : Decidable (SingleThreaded es) :=
  inferInstanceAs (Decidable (∀ e ∈ es, e.thread = 0))

instance (os : List Output) : Decidable (Output.panicked ∈ os) :=
  decidable_of_iff (os.any fun o => match o with | .panicked => true | _ => false) (by
    rw [List.any_eq_true]
    constructor
    · rintro ⟨o, ho, hp⟩
      cases o with
      | panicked => exact ho
      | _ => cases hp
    · intro h
      exact ⟨_, h, rfl⟩)

/-! ### A small network

The client at 10.0.0.1 with devices on its own subnet, for concrete runs. -/

def lan : Env where
  bip := ⟨⟨#v[10, 0, 0, 1], 47808⟩, ⟨#v[10, 0, 0, 255], 47808⟩, ⟨#v[0, 0, 0, 0], 0⟩⟩
  cacheFile := []
  invokeId := none

/-- The device `deviceId` at 10.0.0.`host`. -/
def lanDevice (deviceId : DeviceId) (host : UInt8) : BACnetDeviceBuilder :=
  ⟨#v[10, 0, 0, host], 0, 0, 47808, deviceId⟩

/-- An APDU in a unicast message from 10.0.0.`host`. -/
def lanMessage (host : UInt8) (apdu : List UInt8) : Arrival where
  datagram := some ⟨⟨#v[10, 0, 0, host], 47808⟩,
    [0x81, 0x0a, 0, UInt8.ofNat (6 + apdu.length), 0x01, 0x00] ++ apdu⟩
  order := []
  beyond _ := 0

def silence : Arrival := ⟨none, [], fun _ => 0⟩

/-- The present value of analog input 0. -/
def presentValue : ReadArgs := ⟨0, 0, 85, bacnetArrayAll⟩

/-- An acknowledgement of a read of the present value of analog input `object`: the
unsigned number `value`. -/
def presentValueAck (invokeId object value : UInt8) : List UInt8 :=
  [0x30, invokeId, 12, 0x0c, 0, 0, 0, object, 0x19, 85, 0x3e, 0x21, value, 0x3f]

/-- The output is the error of a read that nobody answers. -/
def Output.isApduTimeout : Output → Bool
  | returned (.error .apduTimeout) => true
  | _ => false

theorem Output.isApduTimeout_iff {o : Output} :
    o.isApduTimeout = true ↔ o = .returned (.error .apduTimeout) := by
  constructor
  · intro h
    unfold isApduTimeout at h
    split at h
    · rfl
    · cases h
  · intro h
    rw [h]
    rfl

/-- The output returns the unsigned number `n`. -/
def Output.isUint (n : UInt64) : Output → Bool
  | returned (.ok (.uint m)) => m == n
  | _ => false

theorem Output.isUint_iff {n : UInt64} {o : Output} :
    o.isUint n = true ↔ o = .returned (.ok (.uint n)) := by
  constructor
  · intro h
    unfold isUint at h
    split at h
    · rw [eq_of_beq h]
    · cases h
  · intro h
    rw [h, isUint, beq_self_eq_true]

end Bacnet
