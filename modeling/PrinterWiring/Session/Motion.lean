import PrinterWiring.Session.Basic

/-!
# What the motors of a session can do

How each axis finds its home, and how the driver of each motor is reached. The review of a session and
the rendering of its configuration both decide by these two definitions, so that they cannot disagree.
-/

namespace PrinterWiring

/-- The pin over which a driver is configured. -/
def Driver.busPin? (d : Driver) : Option PinName :=
  match d.bus with
  | .standalone => none
  | .uart => some .uart
  | .spi => some .cs

/-- How the driver of a motor is set up. -/
inductive DriverProfile where
  /-- There is nothing to set up. -/
  | basic
  /-- The driver is configured over this pin. -/
  | configured (driver : Driver) (busPin : String)
  /-- The driver should be configured over a pin that the port does not wire. -/
  | unreachable (driver : Driver) (missing : PinName)
deriving DecidableEq

/-- How the driver of a motor is set up. -/
def Session.driverProfile (s : Session) (motor : PrinterFunction) : DriverProfile :=
  match s.settings.driver with
  | none => .basic
  | some d =>
    match d.busPin? with
    | none => .basic
    | some name =>
      match s.pin? ⟨motor, .primary⟩ name with
      | some busPin => .configured d busPin
      | none => .unreachable d name

/-- What an axis homes against. -/
inductive HomingSource where
  /-- A switch on this pin. -/
  | switch (pin : String)
  /-- The stall detection of the driver. -/
  | stall (driver : Driver)
  | probe
  | missing
deriving DecidableEq

/-- The first motor of an axis. -/
def HomingAxis.motor : HomingAxis → Axis
  | x => .x
  | y => .y
  | z => .z

/-- Whether an axis can home by stall detection. A Z axis on leadscrews cannot. -/
def HomingAxis.homesByStall : HomingAxis → Bool
  | z => false
  | _ => true

/-- The driver whose stall detection an axis can home against: it reports stalls, its stall line is
wired, and it can be configured. -/
def Session.stallDriver? (s : Session) (a : HomingAxis) : Option Driver :=
  match s.driverProfile (.stepper a.motor) with
  | .configured d _ =>
    if a.homesByStall && d.reportsStalls && (s.pin? ⟨.stepper a.motor, .primary⟩ .diag).isSome then some d else none
  | _ => none

/-- What an axis homes against. -/
def Session.homingSource (s : Session) (a : HomingAxis) : HomingSource :=
  if a = .z ∧ s.settings.zStop = .probe then .probe
  else
    match s.pin? ⟨.endstop a, .primary⟩ .pin with
    | some pin => .switch pin
    | none =>
      match s.stallDriver? a with
      | some d => .stall d
      | none => .missing

end PrinterWiring
