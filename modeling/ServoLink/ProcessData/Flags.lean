/-!
# Flag words — the bit fields of the process data

Five words are made of named bits.  The three 16-bit words (control, status, warning) are `Word k`,
the two 32-bit words announcing sections (request, response) are `Sections k`, where `k` says which
word it is.  A word keeps unknown bits; `truncate` drops them.

* `Flags.names` — the names of the set bits, lowest bit first;
* `Flags.describe` — the one-line text of a word.
-/

namespace ServoLink
namespace ProcessData

/-! ## The kinds of words and their bit names -/

inductive WordKind where
  | control | status | warning
  deriving DecidableEq, Repr, Inhabited

inductive SectionsKind where
  | request | response
  deriving DecidableEq, Repr, Inhabited

/-- The name of a word and those of its bits, lowest bit first. -/
structure Flags where
  title : String
  bits : List String
  deriving Repr

def WordKind.flags : WordKind → Flags
  | .control => ⟨"ControlFlags",
      ["SWITCH_ON", "VOLTAGE_ENABLE", "QUICK_STOP_DISABLE", "ENABLE_OPERATION", "ABORT_DISABLE",
       "FREEZE_DISABLE", "GO_TO_POSITION", "ERROR_ACKNOWLEDGE", "JOG_MOVE_POSITIVE",
       "JOG_MOVE_NEGATIVE", "SPECIAL_MODE", "HOME", "CLEARANCE_CHECK", "GO_TO_INITIAL_POSITION",
       "_RESERVED_14", "PHASE_SEARCH"]⟩
  | .status => ⟨"StatusFlags",
      ["OPERATION_ENABLED", "SWITCH_ON_ACTIVE", "ENABLE_OPERATION", "ERROR", "VOLTAGE_ENABLE",
       "QUICK_STOP_DISABLE", "SWITCH_ON_LOCKED", "WARNING", "EVENT_HANDLER_ACTIVE",
       "SPECIAL_MOTION_ACTIVE", "IN_TARGET_POSITION", "HOMED", "FATAL_ERROR", "MOTION_ACTIVE",
       "RANGE_INDICATOR_1", "RANGE_INDICATOR_2"]⟩
  | .warning => ⟨"WarningFlags",
      ["MOTOR_HOT_SENSOR", "MOTOR_SHORT_TIME_OVERLOAD", "MOTOR_SUPPLY_VOLTAGE_LOW",
       "MOTOR_SUPPLY_VOLTAGE_HIGH", "POSITION_LAG_ALWAYS", "_RESERVED_5", "DRIVE_HOT",
       "MOTOR_NOT_HOMED", "PTC_SENSOR_1_HOT", "PTC_SENSOR_2_HOT", "REGENERATIVE_TEMP_OVERLOAD",
       "SPEED_LAG_ALWAYS", "POSITION_SENSOR", "_RESERVED_13", "INTERFACE_WARN_FLAG",
       "APPLICATION_WARN_FLAG"]⟩

def SectionsKind.flags : SectionsKind → Flags
  | .request => ⟨"RequestFlags", ["CONTROL_FLAGS", "MOTION_COMMAND", "REALTIME_CONFIGURATION"]⟩
  | .response => ⟨"ResponseFlags",
      ["STATUS_FLAGS", "STATE", "ACTUAL_POSITION", "DEMAND_POSITION", "CURRENT", "WARNING_FLAGS",
       "ERROR_CODE", "MONITORING_CHANNEL", "REALTIME_CONFIGURATION"]⟩

namespace Flags

/-- All bits that have a name. -/
def known (f : Flags) : Nat := Nat.pow 2 f.bits.length - 1

def truncate (f : Flags) (word : Nat) : Nat := word &&& f.known

/-- The names of the set bits, lowest bit first. -/
def names (f : Flags) (word : Nat) : List String :=
  f.bits.zipIdx.filterMap fun (name, i) => if word.testBit i then some name else none

def hex (n : Nat) : String := "0x" ++ String.ofList (Nat.toDigits 16 n)

/-- The word as text: its set names joined by bars, then any unnamed bits in hexadecimal. -/
def describe (f : Flags) (word : Nat) : String :=
  let unnamed := word ^^^ f.truncate word
  let items := f.names word ++ (if unnamed = 0 then [] else [hex unnamed])
  f.title ++ "(" ++ (if items.isEmpty then "0x0" else " | ".intercalate items) ++ ")"

end Flags

/-! ## 16-bit words -/

/-- A word of the given kind; all sixteen bits are kept. -/
structure Word (k : WordKind) where
  bits : UInt16
  deriving DecidableEq, Repr, Inhabited

abbrev ControlWord := Word .control
abbrev StatusWord := Word .status
abbrev WarningWord := Word .warning

namespace Word

variable {k : WordKind}

def empty : Word k := ⟨0⟩

/-- All bits of `f` are set in `w`. -/
def contains (w f : Word k) : Bool := w.bits &&& f.bits == f.bits

def union (w f : Word k) : Word k := ⟨w.bits ||| f.bits⟩

def difference (w f : Word k) : Word k := ⟨w.bits &&& ~~~f.bits⟩

/-- `f` if the condition holds, else no bit. -/
def onlyIf (condition : Bool) (f : Word k) : Word k := if condition then f else empty

instance : OrOp (Word k) := ⟨union⟩

end Word

namespace ControlWord

def switchOn : ControlWord := ⟨0x0001⟩
def voltageEnable : ControlWord := ⟨0x0002⟩
def quickStopDisable : ControlWord := ⟨0x0004⟩
def enableOperation : ControlWord := ⟨0x0008⟩
def abortDisable : ControlWord := ⟨0x0010⟩
def freezeDisable : ControlWord := ⟨0x0020⟩
def errorAcknowledge : ControlWord := ⟨0x0080⟩
def home : ControlWord := ⟨0x0800⟩

/-- Brings the drive to Operation Enabled and keeps it there. -/
def operate : ControlWord :=
  switchOn ||| voltageEnable ||| quickStopDisable ||| enableOperation ||| abortDisable
    ||| freezeDisable

/-- Power stage off, nothing blocking a switch-on. -/
def idle : ControlWord := voltageEnable ||| quickStopDisable ||| abortDisable ||| freezeDisable

end ControlWord

namespace StatusWord

def operationEnabled : StatusWord := ⟨0x0001⟩
def switchOnActive : StatusWord := ⟨0x0002⟩
def enableOperation : StatusWord := ⟨0x0004⟩
def error : StatusWord := ⟨0x0008⟩
def voltageEnable : StatusWord := ⟨0x0010⟩
def switchOnLocked : StatusWord := ⟨0x0040⟩
def inTargetPosition : StatusWord := ⟨0x0400⟩
def homed : StatusWord := ⟨0x0800⟩
def fatalError : StatusWord := ⟨0x1000⟩
def motionActive : StatusWord := ⟨0x2000⟩

end StatusWord

namespace WarningWord

def motorNotHomed : WarningWord := ⟨0x0080⟩

end WarningWord

/-! ## 32-bit section words -/

/-- The sections a payload announces. -/
structure Sections (k : SectionsKind) where
  bits : UInt32
  deriving DecidableEq, Repr, Inhabited

abbrev RequestSections := Sections .request
abbrev ResponseSections := Sections .response

namespace Sections

variable {k : SectionsKind}

def empty : Sections k := ⟨0⟩

def contains (w f : Sections k) : Bool := w.bits &&& f.bits == f.bits

def union (w f : Sections k) : Sections k := ⟨w.bits ||| f.bits⟩

def difference (w f : Sections k) : Sections k := ⟨w.bits &&& ~~~f.bits⟩

def onlyIf (condition : Bool) (f : Sections k) : Sections k := if condition then f else empty

instance : OrOp (Sections k) := ⟨union⟩

/-- All sections that have a meaning. -/
def known : Sections k := match k with
  | .request => ⟨0x7⟩
  | .response => ⟨0x1FF⟩

/-- Reserved bits announce nothing a reader lays out, so reading drops them. -/
def truncate (w : Sections k) : Sections k := ⟨w.bits &&& (known (k := k)).bits⟩

end Sections

namespace RequestSections

def controlWord : RequestSections := ⟨0x1⟩
def motionCommand : RequestSections := ⟨0x2⟩
def realtimeConfiguration : RequestSections := ⟨0x4⟩

end RequestSections

namespace ResponseSections

def statusWord : ResponseSections := ⟨0x001⟩
def state : ResponseSections := ⟨0x002⟩
def actualPosition : ResponseSections := ⟨0x004⟩
def demandPosition : ResponseSections := ⟨0x008⟩
def current : ResponseSections := ⟨0x010⟩
def warningWord : ResponseSections := ⟨0x020⟩
def errorCode : ResponseSections := ⟨0x040⟩
def monitoringChannel : ResponseSections := ⟨0x080⟩
def realtimeConfiguration : ResponseSections := ⟨0x100⟩

/-- The sections the cyclic link asks for. -/
def standard : ResponseSections :=
  statusWord ||| state ||| actualPosition ||| demandPosition ||| current ||| warningWord
    ||| errorCode

end ResponseSections

end ProcessData
end ServoLink
