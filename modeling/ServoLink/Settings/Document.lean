import ServoLink.Settings.Basic
import ServoLink.Toml.Document

/-!
# Settings documents — reading a configuration

A document holds a table for each section; sections and values that it lacks have their defaults,
and keys that mean nothing are passed over.  A section may also be written as an array of its
values, in the order of the fields.  A whole number stands where a float is wanted, but not the
other way round.

* `Settings.ofDocument` — the settings of a document;
* `Settings.load` — those of a file, with overrides, validated.
-/

namespace ServoLink

open Toml (Value)

/-! ## Values -/

namespace SettingsDocument

def text? : Value → Option String
  | .string text => some text
  | _ => none

def boolean? : Value → Option Bool
  | .boolean b => some b
  | _ => none

/-- An integer between two bounds. -/
def integer? (low high : Int) : Value → Option Int
  | .integer n => if low ≤ n ∧ n ≤ high then some n else none
  | _ => none

def uint8? (v : Value) : Option UInt8 := (integer? 0 (UInt8.size - 1) v).map .ofInt
def uint16? (v : Value) : Option UInt16 := (integer? 0 (UInt16.size - 1) v).map .ofInt
def uint32? (v : Value) : Option UInt32 := (integer? 0 (UInt32.size - 1) v).map .ofInt
def uint64? (v : Value) : Option UInt64 := (integer? 0 (UInt64.size - 1) v).map .ofInt
def int32? (v : Value) : Option Int32 :=
  (integer? Int32.minValue.toInt Int32.maxValue.toInt v).map .ofInt

/-- A float, or an integer of at most 64 bits as the nearest float. -/
def float? : Value → Option Float
  | .float x => some x
  | v => (integer? Int64.minValue.toInt (UInt64.size - 1) v).map fun n =>
      Decimal.ofMagnitude (n < 0) (Decimal.nearestBits n.natAbs 0)

/-- A value that says nothing but that it is there. -/
def isEmpty : Value → Bool
  | .array [] | .table _ [] => true
  | _ => false

/-- A level by its name; the name may also be the only key of a table, with nothing to it. -/
def logLevel? : Value → Option LogLevel
  | .string text => LogLevel.ofName? text
  | .table _ [(name, content)] => if isEmpty content then LogLevel.ofName? name else none
  | _ => none

/-! ## Sections -/

/-- The fields of a section. -/
inductive Fields where
  | named (entries : Toml.Entries)
  | positional (items : List Value)
  deriving Repr

namespace Fields

/-- The fields in a value, if it is one that can be a section.  A date has none. -/
def of? : Value → Option Fields
  | .table _ entries => some (named entries)
  | .array items => some (positional items)
  | .tables elements => some (positional (elements.reverse.map (.table .header)))
  | .datetime => some (named [])
  | .string _ | .integer _ | .float _ | .boolean _ => none

/-- The value of the field at a position, which has a name. -/
def get? (fields : Fields) (position : Nat) (name : String) : Option Value :=
  match fields with
  | named entries => entries.lookup name
  | positional items => items[position]?

/-- Reads a field; one that is absent has its default. -/
def read {α : Type} (fields : Fields) (position : Nat) (name : String) (as? : Value → Option α)
    (default : α) : Except String α :=
  match fields.get? position name with
  | none => .ok default
  | some value =>
      match as? value with
      | some a => .ok a
      | none => .error ("invalid value for " ++ name)

end Fields

/-- Reads a section of a document; one that is absent has its defaults. -/
def readSection {α : Type} (document : Toml.Entries) (name : String)
    (ofFields : Fields → Except String α) : Except String α :=
  match document.lookup name with
  | none => ofFields (.named [])
  | some value =>
      match Fields.of? value with
      | some fields => ofFields fields
      | none => .error (name ++ " is not a section")

end SettingsDocument

open SettingsDocument

def SharedSettings.ofFields (f : Fields) : Except String SharedSettings := do
  let usual : SharedSettings := {}
  return {
    logLevel := ← f.read 0 "log_level" logLevel? usual.logLevel
    serviceName := ← f.read 1 "service_name" text? usual.serviceName }

def DriveSettings.ofFields (f : Fields) : Except String DriveSettings := do
  let usual : DriveSettings := {}
  return {
    address := ← f.read 0 "address" text? usual.address
    cyclicPort := ← f.read 1 "cyclic_port" uint16? usual.cyclicPort
    localCyclicPort := ← f.read 2 "local_cyclic_port" uint16? usual.localCyclicPort
    registerPort := ← f.read 3 "config_port" uint16? usual.registerPort
    localRegisterPort := ← f.read 4 "local_config_port" uint16? usual.localRegisterPort }

def CyclicSettings.ofFields (f : Fields) : Except String CyclicSettings := do
  let usual : CyclicSettings := {}
  return {
    cycleTimeUs := ← f.read 0 "cycle_time_us" uint32? usual.cycleTimeUs
    missThreshold := ← f.read 1 "miss_threshold" uint32? usual.missThreshold
    jitterTolerancePercent :=
      ← f.read 2 "jitter_tolerance_percent" uint8? usual.jitterTolerancePercent
    checksum := ← f.read 3 "checksum" boolean? usual.checksum }

def RegisterChannelSettings.ofFields (f : Fields) : Except String RegisterChannelSettings := do
  let usual : RegisterChannelSettings := {}
  return {
    attempts := ← f.read 0 "attempts" uint32? usual.attempts
    initialRttMs := ← f.read 1 "initial_rtt_ms" uint64? usual.initialRttMs
    minRttMs := ← f.read 2 "min_rtt_ms" uint64? usual.minRttMs
    maxBackoffMs := ← f.read 3 "max_backoff_ms" uint64? usual.maxBackoffMs
    checksum := ← f.read 4 "checksum" boolean? usual.checksum }

def HandshakeSettings.ofFields (f : Fields) : Except String HandshakeSettings := do
  let usual : HandshakeSettings := {}
  return {
    attempts := ← f.read 0 "attempts" uint32? usual.attempts
    minFirmware := ← f.read 1 "min_firmware" text? usual.minFirmware }

def MotionSettings.ofFields (f : Fields) : Except String MotionSettings := do
  let usual : MotionSettings := {}
  return {
    enableTimeoutCycles := ← f.read 0 "enable_timeout_cycles" uint32? usual.enableTimeoutCycles
    homingTimeoutCycles := ← f.read 1 "homing_timeout_cycles" uint32? usual.homingTimeoutCycles
    velocity := ← f.read 2 "velocity" float? usual.velocity
    acceleration := ← f.read 3 "acceleration" float? usual.acceleration
    deceleration := ← f.read 4 "deceleration" float? usual.deceleration }

def RealtimeSettings.ofFields (f : Fields) : Except String RealtimeSettings := do
  let usual : RealtimeSettings := {}
  return {
    cpuCore := ← f.read 0 "cpu_core" (fun v => (uint64? v).map some) usual.cpuCore
    priority := ← f.read 1 "priority" int32? usual.priority
    lockMemory := ← f.read 2 "lock_memory" boolean? usual.lockMemory }

/-- The settings of the tables of a document. -/
def Settings.ofDocument (document : Toml.Entries) : Except String Settings := do
  return {
    shared := ← readSection document "shared" SharedSettings.ofFields
    drive := ← readSection document "drive" DriveSettings.ofFields
    cyclic := ← readSection document "cyclic" CyclicSettings.ofFields
    registerChannel := ← readSection document "config_channel" RegisterChannelSettings.ofFields
    handshake := ← readSection document "handshake" HandshakeSettings.ofFields
    motion := ← readSection document "motion" MotionSettings.ofFields
    realtime := ← readSection document "rt" RealtimeSettings.ofFields }

/-! ## Files -/

/-- What there is to read at the place of a document. -/
inductive DocumentFile where
  | missing
  /-- It is there but cannot be read, for the given reason. -/
  | unreadable (detail : String)
  | content (bytes : List UInt8)
  deriving DecidableEq, Repr, Inhabited

namespace DocumentFile

def text (file : DocumentFile) : Except SettingsError String :=
  match file with
  | missing => .error .fileNotFound
  | unreadable detail => .error (.unreadable detail)
  | content bytes =>
      match String.fromUTF8? ⟨bytes.toArray⟩ with
      | some text => .ok text
      | none => .error (.unreadable "stream did not contain valid UTF-8")

end DocumentFile

/-- Reads a document as values of some kind. -/
def readDocument {α : Type} (ofDocument : Toml.Entries → Except String α) (text : String) :
    Except SettingsError α :=
  match Toml.Document.parse text with
  | .error e => .error (.unreadable e.message)
  | .ok document =>
      match ofDocument document with
      | .error detail => .error (.unreadable detail)
      | .ok value => .ok value

/-- The settings of the text of a document, not validated. -/
def Settings.parse (text : String) : Except SettingsError Settings :=
  readDocument Settings.ofDocument text

/-- A document that holds the shared section alone, at its top. -/
def SharedSettings.parse (text : String) : Except SettingsError SharedSettings :=
  readDocument (fun document => SharedSettings.ofFields (.named document)) text

/-- The settings in a file, not validated. -/
def Settings.ofFile (file : DocumentFile) : Except SettingsError Settings := do
  Settings.parse (← file.text)

/-- The settings in a file, validated. -/
def Settings.ofFileValidated (file : DocumentFile) : Except SettingsError Settings := do
  let settings ← Settings.ofFile file
  settings.validate
  pure settings

/-- The settings in a file with overrides applied, validated.  Where a file may be missing, the
defaults stand for it. -/
def Settings.load (overrides : Overrides) (mayBeMissing : Bool) (file : DocumentFile) :
    Except SettingsError Settings := do
  let settings ← if mayBeMissing && file == .missing then pure {} else Settings.ofFile file
  let settings := overrides.apply settings
  settings.validate
  pure settings

end ServoLink
