import HostDns.Json

/-!
What sort of interface an adapter is, and the state it is in. Both come as numbers, and a number
without a name of its own is kept.
-/

namespace HostDns

/-- The sort of interface of an adapter. -/
inductive AdapterKind where
  | ethernet
  | wireless
  | loopback
  | virtual
  | other (ifType : UInt32)
  deriving DecidableEq, Repr

namespace AdapterKind

/-- The sort that an interface type stands for. -/
def ofIfType (ifType : UInt32) : AdapterKind :=
  if ifType = 6 then .ethernet
  else if ifType = 71 then .wireless
  else if ifType = 24 then .loopback
  else if ifType = 131 ∨ ifType = 23 then .virtual
  else .other ifType

/-- The name of a sort. -/
def text : AdapterKind → String
  | .ethernet => "Ethernet"
  | .wireless => "Wireless"
  | .loopback => "Loopback"
  | .virtual => "Virtual"
  | .other n => "Other(" ++ toString n.toNat ++ ")"

/-- A sort as a document: its name, or the number under the name `Other`. -/
def json : AdapterKind → Json
  | .other n => .obj [("Other", .nat n.toNat)]
  | kind => .str kind.text

end AdapterKind

/-- The operational state of an adapter. -/
inductive OperStatus where
  | up
  | down
  | testing
  | unknown
  | dormant
  | notPresent
  | lowerLayerDown
  | other (code : UInt32)
  deriving DecidableEq, Repr

namespace OperStatus

/-- The state that a number stands for. -/
def ofCode (code : UInt32) : OperStatus :=
  if code = 1 then .up
  else if code = 2 then .down
  else if code = 3 then .testing
  else if code = 4 then .unknown
  else if code = 5 then .dormant
  else if code = 6 then .notPresent
  else if code = 7 then .lowerLayerDown
  else .other code

/-- The name of a state. -/
def text : OperStatus → String
  | .up => "Up"
  | .down => "Down"
  | .testing => "Testing"
  | .unknown => "Unknown"
  | .dormant => "Dormant"
  | .notPresent => "NotPresent"
  | .lowerLayerDown => "LowerLayerDown"
  | .other n => "Other(" ++ toString n.toNat ++ ")"

/-- A state as a document: its name, or the number under the name `Other`. -/
def json : OperStatus → Json
  | .other n => .obj [("Other", .nat n.toNat)]
  | status => .str status.text

/-- Whether the adapter is up. -/
def isUp (status : OperStatus) : Bool := status = .up

end OperStatus

/-- The address families that are asked for. -/
inductive IpVersion where
  | v4
  | v6
  | both
  deriving DecidableEq, Repr

namespace IpVersion

/-- The short name of a version. -/
def name : IpVersion → String
  | .v4 => "V4"
  | .v6 => "V6"
  | .both => "Both"

/-- The name that readers are shown. -/
def text : IpVersion → String
  | .v4 => "IPv4"
  | .v6 => "IPv6"
  | .both => "Both"

/-- Whether IPv4 addresses belong to the version. -/
def includesV4 (v : IpVersion) : Bool := v ≠ .v6

/-- Whether IPv6 addresses belong to the version. -/
def includesV6 (v : IpVersion) : Bool := v ≠ .v4

end IpVersion

end HostDns
