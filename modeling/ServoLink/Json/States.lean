import ServoLink.Drive.State
import ServoLink.Firmware
import ServoLink.Json.Basic
import ServoLink.States

/-!
# JSON of states — error codes, drive states, connection and axis states, faults

A state without content is its name; one with content is an object under that name.
-/

namespace ServoLink

open Json (entry tagged mismatch)

instance : ToJson Drive.ErrorCode where
  toJson
    | .unknown n => tagged "Unknown" n
    | code => .str code.name

instance : FromJson Drive.ErrorCode where
  fromJson j := do
    match ← j.variant with
    | ("Unknown", n) => return .unknown (← fromJson n)
    | (name, _) =>
        match Drive.ErrorCode.ofName? name with
        | some code => pure code
        | none => mismatch "an error code"

namespace Drive.State

/-- The states without content, by name. -/
def plain : List (String × State) :=
  [("NotReadyToSwitchOn", notReadyToSwitchOn), ("SwitchOnDisabled", switchOnDisabled),
   ("ReadyToSwitchOn", readyToSwitchOn), ("HardwareTests", hardwareTests),
   ("ReadyToOperate", readyToOperate), ("Aborting", aborting), ("Freezing", freezing),
   ("QuickStop", quickStop), ("Linearizing", linearizing), ("PhaseSearch", phaseSearch),
   ("SpecialMode", specialMode), ("BrakeDelay", brakeDelay)]

/-- The special motions, by name; each tells whether it has finished. -/
def motions : List (String × (Bool → State)) :=
  [("Homing", homing), ("ClearanceCheck", clearanceCheck),
   ("GoingToInitialPosition", goingToInitialPosition), ("GoingToPosition", goingToPosition),
   ("JoggingPositive", joggingPositive), ("JoggingNegative", joggingNegative)]

/-- The name of a state among some states. -/
def nameIn (states : List (String × State)) (s : State) : Option String :=
  (states.find? fun entry => entry.2 == s).map (·.1)

/-- A special motion by its name, with whether it has finished. -/
def motion? (s : State) : Option (String × Bool) :=
  [true, false].findSome? fun finished =>
    (nameIn (motions.map fun (name, make) => (name, make finished)) s).map (·, finished)

end Drive.State

instance : ToJson Drive.State where
  toJson s :=
    match s with
    | .setupError code => tagged "SetupError" (Json.obj [entry "error_code" code])
    | .error code => tagged "Error" (Json.obj [entry "error_code" code])
    | .operationEnabled count eventHandler motionActive inTarget homed =>
        tagged "OperationEnabled" (Json.obj
          [entry "motion_command_count" count, entry "event_handler" eventHandler,
           entry "motion_active" motionActive, entry "in_target_position" inTarget,
           entry "homed" homed])
    | .unknown main sub =>
        tagged "Unknown" (Json.obj [entry "main_state" main, entry "sub_state" sub])
    | s =>
        match s.motion? with
        | some (name, finished) => tagged name (Json.obj [entry "finished" finished])
        | none => toJson (Drive.State.nameIn Drive.State.plain s)

instance : FromJson Drive.State where
  fromJson j := do
    let (name, c) ← j.variant
    match name with
    | "SetupError" => return .setupError (← c.get "error_code")
    | "Error" => return .error (← c.get "error_code")
    | "OperationEnabled" =>
        return .operationEnabled (← c.get "motion_command_count") (← c.get "event_handler")
          (← c.get "motion_active") (← c.get "in_target_position") (← c.get "homed")
    | "Unknown" => return .unknown (← c.get "main_state") (← c.get "sub_state")
    | name =>
        match Drive.State.plain.lookup name, Drive.State.motions.lookup name with
        | some s, _ => return s
        | none, some make => return make (← c.get "finished")
        | none, none => mismatch "a drive state"

instance : ToJson ConnectionState := ⟨fun s => .str s.name⟩
instance : FromJson ConnectionState :=
  ⟨Json.named "a connection state" ConnectionState.all ConnectionState.name⟩

instance : ToJson MotionState := ⟨fun s => .str s.name⟩
instance : FromJson MotionState := ⟨Json.named "a motion state" MotionState.all MotionState.name⟩

instance : ToJson FaultReason where
  toJson
    | .linkLost => .str "LinkLost"
    | .enableTimeout => .str "EnableTimeout"
    | .homingTimeout => .str "HomingTimeout"
    | .drive code => tagged "Drive" code
    | .driveFatal code => tagged "DriveFatal" code

instance : FromJson FaultReason where
  fromJson j := do
    match ← j.variant with
    | ("LinkLost", _) => return .linkLost
    | ("EnableTimeout", _) => return .enableTimeout
    | ("HomingTimeout", _) => return .homingTimeout
    | ("Drive", code) => return .drive (← fromJson code)
    | ("DriveFatal", code) => return .driveFatal (← fromJson code)
    | _ => mismatch "a fault reason"

instance : ToJson Firmware where
  toJson v := .obj [entry "major" v.major, entry "minor" v.minor, entry "patch" v.patch]

/-- A version is read from its packed word. -/
instance : FromJson Firmware := ⟨fun j => .ofPacked <$> fromJson j⟩

end ServoLink
