import ServoLink.ProcessData.Request
import ServoLink.Drive.State

/-!
# Status response — what the drive answers every cycle

The response echoes the section word of the request it answers, announces its own sections and lists
them in a fixed order.  A real-time configuration section is carried only when the echoed request
had one.
-/

namespace ServoLink
namespace ProcessData

open Wire

/-- Four recorded values of the drive's monitoring channel. -/
structure MonitoringChannel where
  first : UInt32
  second : UInt32
  third : UInt32
  fourth : UInt32
  deriving DecidableEq, Repr, Inhabited

namespace MonitoringChannel

def wireLength : Nat := 16

def write (m : MonitoringChannel) : List UInt8 :=
  bytesOfUInt32 m.first ++ bytesOfUInt32 m.second ++ bytesOfUInt32 m.third
    ++ bytesOfUInt32 m.fourth

def read : Reader MonitoringChannel := do
  Reader.require .monitoringChannel wireLength
  let first ← readUInt32
  let second ← readUInt32
  let third ← readUInt32
  let fourth ← readUInt32
  pure ⟨first, second, third, fourth⟩

end MonitoringChannel

structure StatusResponse where
  echoed : RequestSections
  status : Option StatusWord
  state : Option Drive.State
  actualPosition : Option Position
  demandPosition : Option Position
  current : Option Current
  warning : Option WarningWord
  errorCode : Option Drive.ErrorCode
  monitoring : Option MonitoringChannel
  configuration : Option RealtimeConfiguration
  deriving DecidableEq, Repr, Inhabited

namespace StatusResponse

/-- The answered request had a real-time configuration section. -/
def echoesConfiguration (s : StatusResponse) : Bool :=
  s.echoed.contains RequestSections.realtimeConfiguration

/-- The sections the response announces. -/
def sections (s : StatusResponse) : ResponseSections :=
  Sections.onlyIf s.status.isSome ResponseSections.statusWord
    ||| Sections.onlyIf s.state.isSome ResponseSections.state
    ||| Sections.onlyIf s.actualPosition.isSome ResponseSections.actualPosition
    ||| Sections.onlyIf s.demandPosition.isSome ResponseSections.demandPosition
    ||| Sections.onlyIf s.current.isSome ResponseSections.current
    ||| Sections.onlyIf s.warning.isSome ResponseSections.warningWord
    ||| Sections.onlyIf s.errorCode.isSome ResponseSections.errorCode
    ||| Sections.onlyIf s.monitoring.isSome ResponseSections.monitoringChannel
    ||| Sections.onlyIf (s.configuration.isSome && s.echoesConfiguration)
          ResponseSections.realtimeConfiguration

def wireLength (s : StatusResponse) : Nat :=
  8 + (if s.status.isSome then 2 else 0)
    + (if s.state.isSome then 2 else 0)
    + (if s.actualPosition.isSome then 4 else 0)
    + (if s.demandPosition.isSome then 4 else 0)
    + (if s.current.isSome then 2 else 0)
    + (if s.warning.isSome then 2 else 0)
    + (if s.errorCode.isSome then 2 else 0)
    + (if s.monitoring.isSome then MonitoringChannel.wireLength else 0)
    + (if s.configuration.isSome && s.echoesConfiguration then
        RealtimeConfiguration.wireLength else 0)

def write (s : StatusResponse) : List UInt8 :=
  s.echoed.write ++ s.sections.write
    ++ sectionBytes Word.write s.status
    ++ sectionBytes Drive.State.write s.state
    ++ sectionBytes (bytesOfInt32 ·.steps) s.actualPosition
    ++ sectionBytes (bytesOfInt32 ·.steps) s.demandPosition
    ++ sectionBytes (bytesOfInt16 ·.steps) s.current
    ++ sectionBytes Word.write s.warning
    ++ sectionBytes (bytesOfUInt16 ·.code) s.errorCode
    ++ sectionBytes MonitoringChannel.write s.monitoring
    ++ (if s.echoesConfiguration then
          sectionBytes RealtimeConfiguration.write s.configuration else [])

def read : Reader StatusResponse := do
  let echoed : RequestSections ← Sections.read
  let announced : ResponseSections ← Sections.read
  -- A configuration nobody asked for is not read, whatever the response announces.
  let sections :=
    if echoed.contains RequestSections.realtimeConfiguration then announced
    else announced.difference ResponseSections.realtimeConfiguration
  let status ← Reader.section? (sections.contains ResponseSections.statusWord) Word.read
  let state ← Reader.section? (sections.contains ResponseSections.state) Drive.State.read
  let actualPosition ←
    Reader.section? (sections.contains ResponseSections.actualPosition) (Position.mk <$> readInt32)
  let demandPosition ←
    Reader.section? (sections.contains ResponseSections.demandPosition) (Position.mk <$> readInt32)
  let current ←
    Reader.section? (sections.contains ResponseSections.current) (Current.mk <$> readInt16)
  let warning ← Reader.section? (sections.contains ResponseSections.warningWord) Word.read
  let errorCode ←
    Reader.section? (sections.contains ResponseSections.errorCode)
      (Drive.ErrorCode.ofCode <$> readUInt16)
  let monitoring ←
    Reader.section? (sections.contains ResponseSections.monitoringChannel) MonitoringChannel.read
  let configuration ←
    Reader.section? (sections.contains ResponseSections.realtimeConfiguration)
      RealtimeConfiguration.read
  pure ⟨echoed, status, state, actualPosition, demandPosition, current, warning, errorCode,
    monitoring, configuration⟩

end StatusResponse

end ProcessData
end ServoLink
