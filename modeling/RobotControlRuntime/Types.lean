import Mathlib.Logic.Basic

namespace RobotControlRuntime

inductive RuntimeMode where
  | disabled | idle | active | hold | fault | eStop
  deriving DecidableEq, Repr

inductive RuntimeEvent where
  | boot | activateRequest | deactivateRequest | commandTimeout | interlockLost | interlockReady
  | faultDetected | faultCleared | eStopTrigger | eStopReset | resume | hold
  deriving DecidableEq, Repr

def RuntimeEvent.toText : RuntimeEvent → String
  | .boot => "BOOT"
  | .activateRequest => "ACTIVATE_REQUEST"
  | .deactivateRequest => "DEACTIVATE_REQUEST"
  | .commandTimeout => "COMMAND_TIMEOUT"
  | .interlockLost => "INTERLOCK_LOST"
  | .interlockReady => "INTERLOCK_READY"
  | .faultDetected => "FAULT_DETECTED"
  | .faultCleared => "FAULT_CLEARED"
  | .eStopTrigger => "ESTOP_TRIGGER"
  | .eStopReset => "ESTOP_RESET"
  | .resume => "RESUME"
  | .hold => "HOLD"

-- The nine listed codes are 0..8 of a 16-bit enumeration; `unlisted k` is the
-- raw value 9+k, which only a switch default can meet.
inductive FaultCode where
  | none | watchdog | inputFault | commLoss | nodeFault | protocolReject | interlockLost | internal | ackTimeout
  | unlisted (raw : Fin 65527)
  deriving DecidableEq, Repr

inductive Errc where
  | invalidArgument | notOpen | ioError | timeout | wouldBlock | busy | rejected | unsupported
  deriving DecidableEq, Repr

structure Error where
  code : Errc
  message : String
  deriving DecidableEq, Repr

abbrev Result (α : Type) := Except Error α

-- Clock readings and deadlines are CLOCK_MONOTONIC nanoseconds of one boot; the
-- source assumes them inside int64 and so they are plain integers here.
structure OutputCommand where
  sessionId : UInt64 := 0
  sequence : UInt64 := 0
  deadlineNs : Int := 0
  mask : UInt32 := 0
  values : UInt32 := 0
  deriving DecidableEq, Repr

structure SchedulerTick where
  sequence : UInt64 := 0
  scheduledNs : Int := 0
  actualNs : Int := 0
  wakeupLatenessNs : Int := 0
  deriving DecidableEq, Repr

namespace CanV1

-- 0..5 are the results of the wire contract; `reserved k` is the raw byte 6+k,
-- which encode and decode refuse.
inductive OutputResult where
  | applied | staleSequence | sessionMismatch | expired | invalidMask | notReady
  | reserved (raw : Fin 250)
  deriving DecidableEq, Repr

end CanV1

end RobotControlRuntime
