import ServoLink.Json.States
import ServoLink.Net.Script
import ServoLink.Register.Catalog
import ServoLink.Wire.Frame

/-!
# JSON of frames — payloads, register values, scripts

A payload is an object with a field for each section; an absent section is `null`.  A
single-precision number is written by its bits.
-/

namespace ServoLink

open Json (entry mismatch)

/-! ## Units -/

instance : ToJson Position := ⟨fun p => toJson p.steps⟩
instance : FromJson Position := ⟨fun j => Position.mk <$> fromJson j⟩
instance : ToJson Velocity := ⟨fun v => toJson v.steps⟩
instance : FromJson Velocity := ⟨fun j => Velocity.mk <$> fromJson j⟩
instance : ToJson Acceleration := ⟨fun a => toJson a.steps⟩
instance : FromJson Acceleration := ⟨fun j => Acceleration.mk <$> fromJson j⟩
instance : ToJson Current := ⟨fun c => toJson c.steps⟩
instance : FromJson Current := ⟨fun j => Current.mk <$> fromJson j⟩

/-! ## Registers -/

namespace Register

def Address.entries (a : Address) : List (String × Json) :=
  [entry "index" a.index, entry "subindex" a.subindex]

instance : ToJson Address := ⟨fun a => .obj a.entries⟩
instance : FromJson Address := ⟨fun j => return ⟨← j.get "index", ← j.get "subindex"⟩⟩

instance : ToJson DataType := ⟨fun t => .str t.name⟩
instance : FromJson DataType := ⟨Json.named "a data type" DataType.all DataType.name⟩

instance : ToJson Value where
  toJson v :=
    let content := match v with
      | .float32 x => entry "bits" (hexDigits 8 x.bits.toNat)
      | .string s => entry "value" s
      | number => entry "value" number.toInt?
    .obj [entry "type" v.dataType, content]

instance : FromJson Value where
  fromJson j := do
    match ← j.get "type" with
    | DataType.int8 => return .int8 (← j.get "value")
    | DataType.uint8 => return .uint8 (← j.get "value")
    | DataType.int16 => return .int16 (← j.get "value")
    | DataType.uint16 => return .uint16 (← j.get "value")
    | DataType.int32 => return .int32 (← j.get "value")
    | DataType.uint32 => return .uint32 (← j.get "value")
    | DataType.float32 => return .float32 ⟨.ofNat (← (j.field "bits").hexNumber)⟩
    | DataType.string => return .string (← j.get "value")

instance : ToJson Status := ⟨fun s => toJson s.code⟩
instance : FromJson Status := ⟨fun j => Status.mk <$> fromJson j⟩

instance : ToJson WriteRequest := ⟨fun w => .obj (w.address.entries ++ [entry "value" w.value])⟩
instance : FromJson WriteRequest := ⟨fun j => return ⟨← fromJson j, ← j.get "value"⟩⟩

instance : ToJson Reply :=
  ⟨fun r => .obj (r.address.entries ++ [entry "status" r.status, entry "value" r.value])⟩
instance : FromJson Reply :=
  ⟨fun j => return ⟨← fromJson j, ← j.get "status", ← j.get "value"⟩⟩

def Descriptor.entries (d : Descriptor) : List (String × Json) :=
  [entry "name" d.name, entry "type" d.dataType, entry "access" d.access.name]

end Register

/-! ## Process data -/

namespace ProcessData

instance {k : WordKind} : ToJson (Word k) := ⟨fun w => toJson w.bits⟩
instance {k : WordKind} : FromJson (Word k) := ⟨fun j => Word.mk <$> fromJson j⟩
instance {k : SectionsKind} : ToJson (Sections k) := ⟨fun w => toJson w.bits⟩

/-- An absent section word announces nothing. -/
instance {k : SectionsKind} : FromJson (Sections k) where
  fromJson
    | .null => .ok Sections.empty
    | j => Sections.mk <$> fromJson j

instance : ToJson Command where
  toJson
    | .noOperation => .obj [entry "kind" "no_operation"]
    | .goTo target velocity acceleration deceleration =>
        .obj [entry "kind" "vai_go_to_pos", entry "target" target, entry "velocity" velocity,
          entry "acceleration" acceleration, entry "deceleration" deceleration]
    | .stop deceleration => .obj [entry "kind" "vai_stop", entry "deceleration" deceleration]
    | .raw number parameters =>
        .obj [entry "kind" "raw", entry "id" number,
          entry "parameters" (Hex.mk parameters.toList)]

/-- Exactly as many bytes as wanted. -/
def block? (n : Nat) (bytes : List UInt8) : Option (Vector UInt8 n) :=
  if h : bytes.length = n then some ⟨bytes.toArray, by simpa using h⟩ else none

instance : FromJson Command where
  fromJson j := do
    match ← j.get "kind" with
    | "no_operation" => return .noOperation
    | "vai_go_to_pos" =>
        return .goTo (← j.get "target") (← j.get "velocity") (← j.get "acceleration")
          (← j.get "deceleration")
    | "vai_stop" => return .stop (← j.get "deceleration")
    | "raw" =>
        let parameters : Hex ← j.get "parameters"
        match block? 30 parameters.bytes with
        | some block => return .raw (← j.get "id") block
        | none => mismatch "thirty parameter bytes"
    | _ => mismatch "a motion command"

instance : ToJson MotionCommand :=
  ⟨fun m => .obj [entry "count" m.count, entry "command" m.command]⟩
instance : FromJson MotionCommand := ⟨fun j => return ⟨← j.get "count", ← j.get "command"⟩⟩

instance : ToJson RealtimeConfiguration where
  toJson r := .obj [entry "command" r.command, entry "params" [r.first, r.second, r.third]]

instance : FromJson RealtimeConfiguration where
  fromJson j := do
    match (← j.get "params" : List UInt16) with
    | [first, second, third] => return ⟨← j.get "command", first, second, third⟩
    | _ => mismatch "three parameters"

instance : ToJson MonitoringChannel where
  toJson m := toJson [m.first, m.second, m.third, m.fourth]

instance : FromJson MonitoringChannel where
  fromJson j := do
    match (← fromJson j : List UInt32) with
    | [first, second, third, fourth] => return ⟨first, second, third, fourth⟩
    | _ => mismatch "four recorded values"

instance : ToJson ControlRequest where
  toJson c := .obj
    [entry "control_flags" c.control, entry "motion" c.motion, entry "rtc" c.configuration,
     entry "response_flags" c.response]

instance : FromJson ControlRequest where
  fromJson j := return {
    control := ← j.get "control_flags"
    motion := ← j.get "motion"
    configuration := ← j.get "rtc"
    response := ← j.get "response_flags" }

instance : ToJson StatusResponse where
  toJson s := .obj
    [entry "echoed_request" s.echoed, entry "status_flags" s.status, entry "state" s.state,
     entry "actual_position" s.actualPosition, entry "demand_position" s.demandPosition,
     entry "current" s.current, entry "warning_flags" s.warning, entry "error_code" s.errorCode,
     entry "monitoring_channel" s.monitoring, entry "rtc" s.configuration]

instance : FromJson StatusResponse where
  fromJson j := return {
    echoed := ← j.get "echoed_request"
    status := ← j.get "status_flags"
    state := ← j.get "state"
    actualPosition := ← j.get "actual_position"
    demandPosition := ← j.get "demand_position"
    current := ← j.get "current"
    warning := ← j.get "warning_flags"
    errorCode := ← j.get "error_code"
    monitoring := ← j.get "monitoring_channel"
    configuration := ← j.get "rtc" }

end ProcessData

/-! ## Frames -/

namespace Wire

def Message.entries (m : Message) : List (String × Json) :=
  match m with
  | .control c => [entry "type" "control", entry "body" c]
  | .status s => [entry "type" "status", entry "body" s]
  | .registerRead a => [entry "type" "register_read", entry "body" a]
  | .registerWrite w => [entry "type" "register_write", entry "body" w]
  | .registerReply r => [entry "type" "register_reply", entry "body" r]

instance : FromJson Message where
  fromJson j := do
    match ← j.get "type" with
    | "control" => return .control (← j.get "body")
    | "status" => return .status (← j.get "body")
    | "register_read" => return .registerRead (← j.get "body")
    | "register_write" => return .registerWrite (← j.get "body")
    | "register_reply" => return .registerReply (← j.get "body")
    | _ => mismatch "a message"

instance : ToJson Frame := ⟨fun f => .obj (entry "seq" f.sequence :: f.message.entries)⟩

/-- A frame without a sequence number has number zero. -/
instance : FromJson Frame := ⟨fun j => return ⟨← j.getOr "seq" 0, ← fromJson j⟩⟩

end Wire

/-! ## Scripts -/

namespace Net

instance : FromJson ScriptedFrame where
  fromJson j := return {
    sequence := ← (j.field "frame").get "seq"
    offset := ← j.getOr "seq_offset" 0
    message := ← j.get "frame"
    checksum := ← j.get "checksum"
    flip := ← j.get "flip" }

/-- A reply is bytes, a socket error, or a frame. -/
instance : FromJson ScriptedReply where
  fromJson j := do
    match (← j.get "hex" : Option Hex), (← j.get "io_error" : Option String) with
    | some datagram, _ => return .bytes datagram.bytes
    | none, some detail => return .failure detail
    | none, none => return .frame (← fromJson j)

instance : FromJson ScriptEntry where
  fromJson j := do
    let replies : List Json ← j.get "replies"
    return {
      stall := ← j.getOr "stall_ns" 0
      failure := ← j.get "send_error"
      replies := ← replies.mapM fun r => return (← r.getOr "delay_ns" 0, ← fromJson r) }

end Net

end ServoLink
