import Fffb.Force.Arithmetic
import Fffb.Joy.Wheel

/-
The simulator: from one telemetry state to the parameters of the four effects.

Each updater rewrites one effect of the wheel object.  The updater of the
trapezoid also keeps the suspension deflections of the last update.
-/

namespace Fffb

open FloatArith

structure TelemetryState (F : Type) where
  timestamp : U64
  rawRenderingTimestamp : U64
  rawSimulationTimestamp : U64
  rawPausedSimulationTimestamp : U64
  orientationAvailable : Bool
  heading : F
  pitch : F
  roll : F
  steering : F
  throttle : F
  brake : F
  clutch : F
  speed : F
  rpm : F
  gear : U32
  substanceL : U32
  substanceR : U32
  lateralAccel : F
  suspensionDeflectionL : F
  suspensionDeflectionR : F
  deriving DecidableEq

structure Simulator (F : Type) where
  wheel : Wheel
  prevDeflectionL : F
  prevDeflectionR : F
  deriving DecidableEq

variable {F : Type} [FloatArith F]

namespace TelemetryState

/-- The default member initializers. -/
def initial : TelemetryState F :=
  { timestamp := -1
    rawRenderingTimestamp := -1
    rawSimulationTimestamp := -1
    rawPausedSimulationTimestamp := -1
    orientationAvailable := false
    heading := lit (-1.0)
    pitch := lit (-1.0)
    roll := lit (-1.0)
    steering := lit (-1.0)
    throttle := lit (-1.0)
    brake := lit (-1.0)
    clutch := lit (-1.0)
    speed := lit (-1.0)
    rpm := lit (-1.0)
    gear := -1
    substanceL := -1
    substanceR := -1
    lateralAccel := lit 0.0
    suspensionDeflectionL := lit 0.0
    suspensionDeflectionR := lit 0.0 }

def zeroed : TelemetryState F :=
  { timestamp := 0
    rawRenderingTimestamp := 0
    rawSimulationTimestamp := 0
    rawPausedSimulationTimestamp := 0
    orientationAvailable := false
    heading := lit 0.0
    pitch := lit 0.0
    roll := lit 0.0
    steering := lit 0.0
    throttle := lit 0.0
    brake := lit 0.0
    clutch := lit 0.0
    speed := lit 0.0
    rpm := lit 0.0
    gear := 0
    substanceL := 0
    substanceR := 0
    lateralAccel := lit 0.0
    suspensionDeflectionL := lit 0.0
    suspensionDeflectionR := lit 0.0 }

/-- The local `speed` of every updater: the magnitude of the truck's speed. -/
def absSpeed (state : TelemetryState F) : F :=
  if state.speed < lit 0.0 then -state.speed else state.speed

end TelemetryState

namespace Simulator

def constantAmplitude (state : TelemetryState F) : F :=
  let speed := state.absSpeed
  let speedFactor := speed / lit 5.0
  let speedFactor := if lit 1.0 < speedFactor then lit 1.0 else speedFactor
  let speedFactor := if speedFactor < lit 0.0 then lit 0.0 else speedFactor
  let rawForce := state.lateralAccel * lit 32.0 * speedFactor
  let brakeFactor : F := if lit 0.7 < state.brake then lit 0.6 else lit 1.0
  let amplitude := lit 128.0 + rawForce * brakeFactor
  let amplitude := if amplitude < lit 8.0 then lit 8.0 else amplitude
  if lit 248.0 < amplitude then lit 248.0 else amplitude

def updateConstant (state : TelemetryState F) (simulator : Simulator F) : Simulator F :=
  { simulator with
    wheel :=
      { simulator.wheel with
        constant :=
          if state.absSpeed < lit 0.1 then
            { Wheel.defaultConstF with enabled := false }
          else
            { Wheel.defaultConstF with
              enabled := true
              amplitude := toU8 (constantAmplitude state) } } }

def springSlope (speed : F) : U8 :=
  if speed ≤ lit 3.0 then
    2
  else if speed ≤ lit 15.0 then
    toU8 (lit 2.0 + (speed - lit 3.0) / lit 12.0 * lit 3.0)
  else
    let s := lit 5.0 + (speed - lit 15.0) / lit 15.0 * lit 2.0
    let s := if lit 7.0 < s then lit 7.0 else s
    toU8 s

def springAmplitude (speed : F) : F :=
  let amp :=
    if speed ≤ lit 5.0 then
      lit 64.0 + speed * lit 12.0
    else if speed ≤ lit 20.0 then
      lit 124.0 + (speed - lit 5.0) * lit 5.0
    else
      lit 199.0 + (speed - lit 20.0) * lit 2.0
  if lit 240.0 < amp then lit 240.0 else amp

def updateSpring (state : TelemetryState F) (simulator : Simulator F) : Simulator F :=
  { simulator with
    wheel :=
      { simulator.wheel with
        spring :=
          if state.absSpeed < lit 0.10 then
            { Wheel.defaultSpringF with enabled := false }
          else
            { Wheel.defaultSpringF with
              enabled := true
              deadStart := 126
              deadEnd := 130
              slopeLeft := springSlope state.absSpeed
              slopeRight := springSlope state.absSpeed
              amplitude := toU8 (springAmplitude state.absSpeed) } } }

def damperSlope (state : TelemetryState F) : Int :=
  let baseSlope := state.absSpeed / lit 10.0 * lit 5.0
  let baseSlope := if baseSlope < lit 2.0 then lit 2.0 else baseSlope
  let baseSlope := if lit 6.0 < baseSlope then lit 6.0 else baseSlope
  let brakeBonus : Int := if lit 0.3 < state.brake then 1 else 0
  let slope := toInt baseSlope + brakeBonus
  if slope > 7 then 7 else slope

def updateDamper (state : TelemetryState F) (simulator : Simulator F) : Simulator F :=
  { simulator with
    wheel :=
      { simulator.wheel with
        damper :=
          { Wheel.defaultDamperF with
            enabled := true
            slopeLeft := BitVec.ofInt 8 (damperSlope state)
            slopeRight := BitVec.ofInt 8 (damperSlope state) } } }

def offroad (state : TelemetryState F) : Bool :=
  state.substanceL != 0 || state.substanceR != 0

/-- The larger change of the two suspension deflections since the last update.
The differences are taken on floats. -/
def deflectionDelta (state : TelemetryState F) (prevL prevR : F) : F :=
  let deltaL := single (state.suspensionDeflectionL - prevL)
  let deltaR := single (state.suspensionDeflectionR - prevR)
  let deltaL := if deltaL < lit 0.0 then -deltaL else deltaL
  let deltaR := if deltaR < lit 0.0 then -deltaR else deltaR
  if deltaR < deltaL then deltaL else deltaR

def bumpExtra (state : TelemetryState F) (prevL prevR : F) : F :=
  if lit 0.005 < deflectionDelta state prevL prevR then lit 4.0 else lit 0.0

def trapezoidAmpMax (bumpExtra : F) : F :=
  let ampMax := lit 116.0 - bumpExtra
  if ampMax < lit 96.0 then lit 96.0 else ampMax

def trapezoidAmpMin (bumpExtra : F) : F :=
  let ampMin := lit 140.0 + bumpExtra
  if lit 160.0 < ampMin then lit 160.0 else ampMin

def speedScale (speed : F) : F :=
  let speedScale := speed / lit 30.0
  if lit 1.0 < speedScale then lit 1.0 else speedScale

def trapezoidSlope (speed : F) : U8 :=
  let slope := toU8 (lit 2.0 + speedScale speed * lit 6.0)
  if slope > 0x0F then 0x0F else slope

def trapezoidTime (speed : F) : U8 :=
  let tVal := toU8 (lit 48.0 - speedScale speed * lit 32.0)
  if tVal < 8 then 8 else tVal

def updateTrapezoid (state : TelemetryState F) (simulator : Simulator F) : Simulator F :=
  { wheel :=
      { simulator.wheel with
        trapezoid :=
          if !offroad state || decide (state.absSpeed < lit 0.5) then
            { Wheel.defaultTrapF with enabled := false }
          else
            let extra := bumpExtra state simulator.prevDeflectionL simulator.prevDeflectionR
            { Wheel.defaultTrapF with
              enabled := true
              amplitudeMax := toU8 (trapezoidAmpMax extra)
              amplitudeMin := toU8 (trapezoidAmpMin extra)
              slopeStepX := trapezoidSlope state.absSpeed
              slopeStepY := trapezoidSlope state.absSpeed
              tAtMax := trapezoidTime state.absSpeed
              tAtMin := trapezoidTime state.absSpeed } }
    -- both branches end with the same two assignments
    prevDeflectionL := state.suspensionDeflectionL
    prevDeflectionR := state.suspensionDeflectionR }

structure Session (F : Type) where
  simulator : Simulator F
  line : Line Report

def onWheel {α : Type} (operation : WheelM α) : StateM (Session F) α := fun session =>
  let (result, rig) :=
    operation.run { wheel := session.simulator.wheel, line := session.line }
  (result,
    { simulator := { session.simulator with wheel := rig.wheel }
      line := rig.line })

def initializeWheel : StateM (Session F) Bool := do
  if !(← get).simulator.wheel.device.isPresent then return false
  let _ ← onWheel Wheel.disableAutocenter
  let _ ← onWheel Wheel.stopForces
  return true

/-- The four updaters; `_update_autocenter` has an empty body. -/
def updateEffects (state : TelemetryState F) (simulator : Simulator F) : Simulator F :=
  updateTrapezoid state (updateDamper state (updateSpring state (updateConstant state simulator)))

def updateForces (state : TelemetryState F) : StateM (Session F) Unit := do
  modify fun session => { session with simulator := updateEffects state session.simulator }
  let _ ← onWheel Wheel.refreshForces

/-- The constructor; a failed initialization is only logged. -/
def construct (devices : List HidDevice) (line : Line Report) : Session F :=
  let rig := Wheel.construct devices line
  (initializeWheel.run
    { simulator :=
        { wheel := rig.wheel
          prevDeflectionL := lit 0.0
          prevDeflectionR := lit 0.0 }
      line := rig.line }).2

end Simulator

end Fffb
