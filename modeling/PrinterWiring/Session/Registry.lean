import PrinterWiring.Session.Basic

/-!
# Who has which port

A registry is read off a list of assignments. A port is identified by its role and by its id up to
letter case. Where several assignments name one port, the last of them owns it and each one after
the first is a conflict.
-/

namespace PrinterWiring

/-- Inserts an address where it belongs, unless it is there already. -/
def insertAddress (a : Address) : List Address → List Address
  | [] => [a]
  | b :: bs => if a.precedes b then a :: b :: bs else if b.precedes a then b :: insertAddress a bs else b :: bs

/-- The addresses of a list, in order and each once. -/
def sortedAddresses (as : List Address) : List Address := as.foldl (fun sorted a => insertAddress a sorted) []

/-- Assignments as the record of which port is used by which slot. -/
structure Registry where
  assignments : List Assignment

namespace Registry

/-- Whether an assignment uses a port. -/
def uses (role : Role) (port : String) (a : Assignment) : Bool :=
  a.port.role == role && Text.sameFolded a.port.port port

/-- The slot that owns a port. -/
def owner? (r : Registry) (role : Role) (port : String) : Option SlotKey :=
  (r.assignments.reverse.find? (uses role port)).map Assignment.key

/-- Whether any slot uses a port. -/
def isUsed (r : Registry) (role : Role) (port : String) : Bool := r.assignments.any (uses role port)

/-- The used ports of a category. -/
def usedIn (r : Registry) (c : Category) : List Address :=
  sortedAddresses ((r.assignments.filter (·.category = c)).map (·.port))

/-- The ports of the assignments that find their port used by one before. -/
def laterClaims : List Assignment → List Assignment → List Address
  | _, [] => []
  | before, a :: as =>
    if before.any (uses a.port.role a.port.port) then a.port :: laterClaims (a :: before) as
    else laterClaims (a :: before) as

/-- The ports, as the later claimants spell them, that more than one assignment uses. -/
def conflicts (r : Registry) : List Address := sortedAddresses (laterClaims [] r.assignments)

end Registry

/-- The registry of a session. -/
def Session.registry (s : Session) : Registry := ⟨s.assignments⟩

end PrinterWiring
