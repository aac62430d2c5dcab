import Mathlib.Data.List.Basic

set_option autoImplicit false

/-! # Messages of the OCPP client core

The data the message engine of `src/ocpp.c` moves around: the action enumeration
`ocpp_message_t` with its name table (`get_typestr_array`, `ocpp_stringify_type`,
`ocpp_get_type_from_string`), the roles `ocpp_message_role_t`, the frame
`struct ocpp_message` and the pool record `struct message`.

Machine types follow the source. `attempts` and the configuration values are `uint32_t`
in the code and `UInt32` here; `time_t` is `Int`. The deadlines `now + interval` of
`get_retry_interval`, `get_next_period` and `ocpp_push_request_defer` are therefore exact
sums; in C they are 64-bit `time_t` sums of a `uint32_t`, which overflow only for a clock
within `2^32` seconds of `INT64_MAX`, a case the model leaves out. Identifiers are the raw bytes of the
`id` buffer, as a `List Char`; the C string they hold ends at the first NUL (`strlen`).
Payloads are opaque `(pointer, size)` handles: the core never reads them. -/

namespace OcppClient

/-! ## Actions and roles -/

/-- `ocpp_message_t`, in the order of the name table; `max` is `OCPP_MSG_MAX`, the
    "no such action" sentinel. -/
inductive MessageType
  | authorize | bootNotification | changeAvailability | changeConfiguration | clearCache
  | dataTransfer | getConfiguration | heartbeat | meterValues | remoteStartTransaction
  | remoteStopTransaction | reset | startTransaction | statusNotification | stopTransaction
  | unlockConnector | diagnosticsNotification | firmwareNotification | getDiagnostics
  | updateFirmware | getLocalListVersion | sendLocalList | cancelReservation | reserveNow
  | clearChargingProfile | getCompositeSchedule | setChargingProfile | triggerMessage
  | certificateSigned | deleteCertificate | extendedTriggerMessage
  | getInstalledCertificateIds | getLog | installCertificate | logStatusNotification
  | securityEventNotification | signCertificate | signedFirmwareStatusNotification
  | signedUpdateFirmware | max
  deriving DecidableEq, Repr

/-- `ocpp_message_role_t`. `none` marks a free pool slot and `alloc` a slot between
    `alloc_message` and the end of `new_message`. -/
inductive MessageRole
  | none | alloc | call | callResult | callError
  deriving DecidableEq, Repr

namespace MessageType

/-- The enumerators below `OCPP_MSG_MAX`, in enum order: the range of the loop in
    `ocpp_get_type_from_string`. -/
def all : List MessageType :=
  [authorize, bootNotification, changeAvailability, changeConfiguration, clearCache,
    dataTransfer, getConfiguration, heartbeat, meterValues, remoteStartTransaction,
    remoteStopTransaction, reset, startTransaction, statusNotification, stopTransaction,
    unlockConnector, diagnosticsNotification, firmwareNotification, getDiagnostics,
    updateFirmware, getLocalListVersion, sendLocalList, cancelReservation, reserveNow,
    clearChargingProfile, getCompositeSchedule, setChargingProfile, triggerMessage,
    certificateSigned, deleteCertificate, extendedTriggerMessage, getInstalledCertificateIds,
    getLog, installCertificate, logStatusNotification, securityEventNotification,
    signCertificate, signedFirmwareStatusNotification, signedUpdateFirmware]

/-- `get_typestr_array()[t]`: the action name of an enumerator below `OCPP_MSG_MAX`. -/
def typestr : MessageType → String
  | authorize => "Authorize"
  | bootNotification => "BootNotification"
  | changeAvailability => "ChangeAvailability"
  | changeConfiguration => "ChangeConfiguration"
  | clearCache => "ClearCache"
  | dataTransfer => "DataTransfer"
  | getConfiguration => "GetConfiguration"
  | heartbeat => "Heartbeat"
  | meterValues => "MeterValues"
  | remoteStartTransaction => "RemoteStartTransaction"
  | remoteStopTransaction => "RemoteStopTransaction"
  | reset => "Reset"
  | startTransaction => "StartTransaction"
  | statusNotification => "StatusNotification"
  | stopTransaction => "StopTransaction"
  | unlockConnector => "UnlockConnector"
  | diagnosticsNotification => "DiagnosticsStatusNotification"
  | firmwareNotification => "FirmwareStatusNotification"
  | getDiagnostics => "GetDiagnostics"
  | updateFirmware => "UpdateFirmware"
  | getLocalListVersion => "GetLocalListVersion"
  | sendLocalList => "SendLocalList"
  | cancelReservation => "CancelReservation"
  | reserveNow => "ReserveNow"
  | clearChargingProfile => "ClearChargingProfile"
  | getCompositeSchedule => "GetCompositeSchedule"
  | setChargingProfile => "SetChargingProfile"
  | triggerMessage => "TriggerMessage"
  | certificateSigned => "CertificateSigned"
  | deleteCertificate => "DeleteCertificate"
  | extendedTriggerMessage => "ExtendedTriggerMessage"
  | getInstalledCertificateIds => "GetInstalledCertificateIds"
  | getLog => "GetLog"
  | installCertificate => "InstallCertificate"
  | logStatusNotification => "LogStatusNotification"
  | securityEventNotification => "SecurityEventNotification"
  | signCertificate => "SignCertificate"
  | signedFirmwareStatusNotification => "SignedFirmwareStatusNotification"
  | signedUpdateFirmware => "SignedUpdateFirmware"
  | max => "UnknownMessage"

end MessageType

/-- `ocpp_stringify_type`: enumerators at or above `OCPP_MSG_MAX` print as
    `"UnknownMessage"`. -/
def ocppStringifyType (t : MessageType) : String :=
  if t = .max then "UnknownMessage" else t.typestr

/-- `ocpp_get_type_from_string`: the first enumerator whose name is `typestr`, and
    `OCPP_MSG_MAX` when there is none. -/
def ocppGetTypeFromString (typestr : String) : MessageType :=
  (MessageType.all.find? fun t => t.typestr == typestr).getD .max

/-! ## Frames and pool records -/

/-- The payload handle of a frame: the caller's buffer and its size. -/
structure Payload where
  data : Nat
  size : Nat
  deriving DecidableEq, Repr

/-- `struct ocpp_message`. -/
structure OcppMessage where
  id : List Char
  role : MessageRole
  type : MessageType
  payload : Payload
  deriving DecidableEq, Repr

/-- `struct message`, the pool slot. Its `link` is the slot's place in the queues, which
    the engine state keeps as lists of slot indices. -/
structure Message where
  body : OcppMessage
  expiry : Int
  attempts : UInt32
  deriving DecidableEq, Repr

/-- The record `memset(msg, 0, sizeof(*msg))` leaves: role `NONE`, the first enumerator as
    type, an id buffer holding the empty string. -/
def Message.zero : Message :=
  { body := { id := [], role := .none, type := .authorize, payload := ⟨0, 0⟩ },
    expiry := 0, attempts := 0 }

/-! ## C strings and machine words -/

/-- The NUL byte that ends a C string. -/
def nul : Char := Char.ofNat 0

/-- `strlen`: the bytes before the first NUL. -/
def strlen (s : List Char) : Nat := (s.takeWhile (· != nul)).length

/-- `memcmp(a, b, n) == 0`: the first `n` bytes agree. -/
def memcmpEq (a b : List Char) (n : Nat) : Bool := a.take n == b.take n

/-- The conversion `(uint32_t)x` of a `time_t` value: `x` modulo `2^32`. -/
def toUInt32 (x : Int) : UInt32 := UInt32.ofNat (x % 4294967296).toNat

theorem UInt32.lt_iff_toNat_lt {a b : UInt32} : a < b ↔ a.toNat < b.toNat := by
  simp [UInt32.lt_def, BitVec.lt_def, UInt32.toNat]

theorem UInt32.le_iff_toNat_le {a b : UInt32} : a ≤ b ↔ a.toNat ≤ b.toNat := by
  simp [UInt32.le_def, BitVec.le_def, UInt32.toNat]

theorem UInt32.toNat_add_one {a : UInt32} (h : a.toNat + 1 < 4294967296) :
    (a + 1).toNat = a.toNat + 1 := by
  have : (UInt32.toBitVec 1).toNat = 1 := rfl
  simp only [UInt32.toNat, UInt32.add_def, BitVec.toNat_add, this]
  exact Nat.mod_eq_of_lt h

/-- A counter below some `uint32_t` bound does not wrap when incremented. -/
theorem UInt32.toNat_add_one_of_lt {a r : UInt32} (h : a < r) : (a + 1).toNat = a.toNat + 1 := by
  have hr := r.toNat_lt_size
  rw [UInt32.lt_iff_toNat_lt] at h
  exact UInt32.toNat_add_one (by unfold UInt32.size at hr; omega)

theorem UInt32.toNat_mul (a b : UInt32) : (a * b).toNat = a.toNat * b.toNat % 4294967296 := by
  simp [UInt32.toNat, UInt32.mul_def, BitVec.toNat_mul]

theorem toUInt32_toNat (x : Int) : (toUInt32 x).toNat = (x % 4294967296).toNat := by
  have h0 : 0 ≤ x % 4294967296 := Int.emod_nonneg _ (by decide)
  have h1 : x % 4294967296 < 4294967296 := Int.emod_lt_of_pos _ (by decide)
  exact UInt32.toNat_ofNat_of_lt (by unfold UInt32.size; omega)

/-! ## Errors and events -/

/-- `errno` values the engine returns or dispatches (Linux numbering). -/
def ENOMEM : Int := 12
def EBUSY : Int := 16
def EINVAL : Int := 22
def ENOMSG : Int := 42
def ENOLINK : Int := 67

/-- `OCPP_EVENT_MESSAGE_FREE` of `enum ocpp_event`, the one event kind the engine dispatches
    itself; the other kinds it dispatches are the outcomes of `process_incoming_messages`. -/
def OCPP_EVENT_MESSAGE_FREE : Int := 2

end OcppClient
