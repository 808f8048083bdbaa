import ServoLink.EventBus
import ServoLink.Json.Frame
import ServoLink.Rehearsal

/-!
# JSON of reports — events, snapshots, settings

What a link tells its observers: events with the name of the event first, the snapshot of a session,
the statistics of its channels, and its settings section by section.
-/

namespace ServoLink

open Json (entry mismatch)

/-! ## Events -/

instance : ToJson Event where
  toJson e :=
    let event (name : String) (rest : List (String × Json)) := Json.obj (entry "event" name :: rest)
    match e with
    | .cycleMissed cycle consecutive =>
        event "cycle_missed" [entry "cycle" cycle, entry "consecutive" consecutive]
    | .jitterExceeded cycle latencyUs toleranceUs =>
        event "jitter_exceeded"
          [entry "cycle" cycle, entry "latency_us" latencyUs, entry "tolerance_us" toleranceUs]
    | .linkFaulted consecutive => event "link_faulted" [entry "consecutive" consecutive]
    | .faultEntered reason => event "fault_entered" [entry "reason" reason]
    | .faultCleared => event "fault_cleared" []
    | .motionStateChanged source target =>
        event "motion_state_changed" [entry "from" source, entry "to" target]
    | .sessionStateChanged source target =>
        event "session_state_changed" [entry "from" source, entry "to" target]
    | .handshakeSucceeded firmware deviceId cycleTimeUs =>
        event "handshake_succeeded"
          [entry "firmware" firmware, entry "device_id" deviceId, entry "cycle_time_us" cycleTimeUs]
    | .handshakeFailed attempt reason =>
        event "handshake_failed" [entry "attempt" attempt, entry "reason" reason]
    | .commandRejected command state =>
        event "command_rejected" [entry "command" command, entry "state" state]

instance : FromJson Event where
  fromJson j := do
    match ← j.get "event" with
    | "cycle_missed" => return .cycleMissed (← j.get "cycle") (← j.get "consecutive")
    | "jitter_exceeded" =>
        return .jitterExceeded (← j.get "cycle") (← j.get "latency_us") (← j.get "tolerance_us")
    | "link_faulted" => return .linkFaulted (← j.get "consecutive")
    | "fault_entered" => return .faultEntered (← j.get "reason")
    | "fault_cleared" => return .faultCleared
    | "motion_state_changed" => return .motionStateChanged (← j.get "from") (← j.get "to")
    | "session_state_changed" => return .sessionStateChanged (← j.get "from") (← j.get "to")
    | "handshake_succeeded" =>
        return .handshakeSucceeded (← j.get "firmware") (← j.get "device_id")
          (← j.get "cycle_time_us")
    | "handshake_failed" => return .handshakeFailed (← j.get "attempt") (← j.get "reason")
    | "command_rejected" => return .commandRejected (← j.get "command") (← j.get "state")
    | _ => mismatch "an event"

/-! ## Axis -/

namespace Motion

instance : ToJson OperatorCommand where
  toJson c := .obj (entry "command" c.name :: (match c with
    | .moveTo target => [entry "target" target]
    | _ => []))

instance : FromJson OperatorCommand where
  fromJson j := do
    match ← j.get "command" with
    | "enable" => return .enable
    | "disable" => return .disable
    | "home" => return .home
    | "move_to" => return .moveTo (← j.get "target")
    | "stop" => return .stop
    | "fault_acknowledge" => return .faultAcknowledge
    | _ => mismatch "an operator command"

instance : ToJson AxisStatus where
  toJson s := .obj
    [entry "fault" s.fault, entry "fatal" s.fatal, entry "ready" s.ready,
     entry "enabled" s.enabled, entry "homed" s.homed, entry "in_target" s.inTarget,
     entry "motion_active" s.motionActive, entry "motion_count" s.motionCount,
     entry "homing" s.homing, entry "error_code" s.errorCode]

instance : FromJson AxisStatus where
  fromJson j := return {
    fault := ← j.get "fault"
    fatal := ← j.get "fatal"
    ready := ← j.get "ready"
    enabled := ← j.get "enabled"
    homed := ← j.get "homed"
    inTarget := ← j.get "in_target"
    motionActive := ← j.get "motion_active"
    motionCount := ← j.get "motion_count"
    homing := ← j.get "homing"
    errorCode := ← j.getOr "error_code" .noError }

instance : ToJson Output :=
  ⟨fun o => .obj [entry "control_flags" o.control, entry "motion" o.motion]⟩

end Motion

/-! ## Snapshots -/

namespace Cyclic

instance : ToJson Timing where
  toJson t := .obj
    [entry "cycle_count" t.cycles, entry "last_cycle_ns" t.last, entry "min_cycle_ns" t.shortest,
     entry "max_cycle_ns" t.longest, entry "sum_cycle_ns" t.sum, entry "overruns" t.overruns,
     entry "max_latency_ns" t.maxLatency, entry "misses" t.misses,
     entry "jitter_violations" t.jitterViolations]

instance : ToJson Stats where
  toJson s := .obj
    [entry "exchanges" s.exchanges, entry "accepted" s.accepted, entry "misses" s.misses,
     entry "stale" s.stale, entry "unexpected" s.unexpected, entry "undecodable" s.undecodable]

instance : ToJson Snapshot where
  toJson s := .obj
    [entry "cycle" s.cycle, entry "motion_state" s.motionState, entry "fault" s.fault,
     entry "status_word" s.statusWord, entry "warning_word" s.warningWord,
     entry "drive_state" s.driveState, entry "actual_position" s.actualPosition,
     entry "demand_position" s.demandPosition, entry "current" s.current,
     entry "error_code" s.errorCode, entry "consecutive_misses" s.consecutiveMisses,
     entry "link_faulted" s.linkFaulted, entry "link" s.link, entry "timing" s.timing]

instance : ToJson FaultRecord := ⟨fun f => .obj [entry "cycle" f.cycle, entry "reason" f.reason]⟩

end Cyclic

instance : ToJson Register.ChannelStats where
  toJson s := .obj
    [entry "requests" s.requests, entry "transmissions" s.transmissions,
     entry "timeouts" s.timeouts, entry "stale_replies" s.staleReplies,
     entry "undecodable" s.undecodable]

instance : ToJson Handshake.Outcome where
  toJson h := .obj
    [entry "firmware" h.firmware, entry "device_id" h.deviceId, entry "cycle_time_us" h.cycleTimeUs]

instance : ToJson SessionSnapshot where
  toJson s := .obj
    [entry "connection" s.connection, entry "handshake" s.handshake, entry "cycle" s.cycle]

/-! ## Settings -/

instance : ToJson SharedSettings where
  toJson s := .obj [entry "log_level" s.logLevel.name, entry "service_name" s.serviceName]

instance : ToJson DriveSettings where
  toJson s := .obj
    [entry "address" s.address, entry "cyclic_port" s.cyclicPort,
     entry "local_cyclic_port" s.localCyclicPort, entry "config_port" s.registerPort,
     entry "local_config_port" s.localRegisterPort]

instance : ToJson CyclicSettings where
  toJson s := .obj
    [entry "cycle_time_us" s.cycleTimeUs, entry "miss_threshold" s.missThreshold,
     entry "jitter_tolerance_percent" s.jitterTolerancePercent, entry "checksum" s.checksum]

instance : ToJson RegisterChannelSettings where
  toJson s := .obj
    [entry "attempts" s.attempts, entry "initial_rtt_ms" s.initialRttMs,
     entry "min_rtt_ms" s.minRttMs, entry "max_backoff_ms" s.maxBackoffMs,
     entry "checksum" s.checksum]

instance : FromJson RegisterChannelSettings where
  fromJson j := return {
    attempts := ← j.getOr "attempts" Limits.requestAttempts
    initialRttMs := ← j.getOr "initial_rtt_ms" Limits.initialRttMs
    minRttMs := ← j.getOr "min_rtt_ms" Limits.minRttMs
    maxBackoffMs := ← j.getOr "max_backoff_ms" Limits.maxBackoffMs
    checksum := ← j.get "checksum" }

instance : ToJson HandshakeSettings where
  toJson s := .obj [entry "attempts" s.attempts, entry "min_firmware" s.minFirmware]

instance : ToJson MotionSettings where
  toJson s := .obj
    [entry "enable_timeout_cycles" s.enableTimeoutCycles,
     entry "homing_timeout_cycles" s.homingTimeoutCycles, entry "velocity" s.velocity,
     entry "acceleration" s.acceleration, entry "deceleration" s.deceleration]

instance : FromJson MotionSettings where
  fromJson j := do
    let usual : MotionSettings := {}
    return {
      enableTimeoutCycles := ← j.getOr "enable_timeout_cycles" usual.enableTimeoutCycles
      homingTimeoutCycles := ← j.getOr "homing_timeout_cycles" usual.homingTimeoutCycles
      velocity := ← j.getOr "velocity" usual.velocity
      acceleration := ← j.getOr "acceleration" usual.acceleration
      deceleration := ← j.getOr "deceleration" usual.deceleration }

instance : ToJson RealtimeSettings where
  toJson s := .obj
    [entry "cpu_core" s.cpuCore, entry "priority" s.priority, entry "lock_memory" s.lockMemory]

instance : ToJson Settings where
  toJson s := .obj
    [entry "shared" s.shared, entry "drive" s.drive, entry "cyclic" s.cyclic,
     entry "config_channel" s.registerChannel, entry "handshake" s.handshake,
     entry "motion" s.motion, entry "rt" s.realtime]

instance : FromJson Overrides where
  fromJson j := return {
    address := ← j.get "address"
    cpuCore := ← j.get "cpu_core"
    priority := ← j.get "rt_priority" }

/-! ## Rehearsals -/

instance : FromJson Drive.Options where
  fromJson j := do
    let usual : Drive.Options := {}
    return {
      firmware := ← j.getOr "firmware" usual.firmware
      deviceId := ← j.getOr "device_id" usual.deviceId
      cycleTimeUs := ← j.getOr "cycle_time_us" usual.cycleTimeUs
      cycleTimeMinUs := ← j.getOr "cycle_time_min_us" usual.cycleTimeMinUs
      cycleTimeMaxUs := ← j.getOr "cycle_time_max_us" usual.cycleTimeMaxUs
      speed := ← j.getOr "speed" usual.speed
      homingFrames := ← j.getOr "homing_frames" usual.homingFrames
      stopFrames := ← j.getOr "stop_frames" usual.stopFrames
      checksum := ← j.get "checksum" }

/-- The view of a simulated drive from outside: its counters, its position, whether it is homed. -/
instance : ToJson Drive.Simulated where
  toJson d := .obj
    [entry "control_frames" d.process.controlFrames, entry "status_frames" d.process.statusFrames,
     entry "config_requests" d.registers.requests, entry "position" d.process.model.position,
     entry "homed" d.process.model.homed]

end ServoLink
