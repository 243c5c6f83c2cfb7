import NetDiagram.Text.Basic

/-!
# Classification of names

Names of devices and areas are free text. An ordered table of keywords sorts them into kinds: the
first rule whose keyword occurs in the name decides, and a name that no rule matches is unknown.
Kinds only drive the styling of diagrams.
-/

namespace NetDiagram

inductive DeviceKind where
  | router
  | switch
  | firewall
  | server
  | loadBalancer
  | unknown
deriving DecidableEq, Repr

namespace DeviceKind

def name : DeviceKind → String
  | router => "router"
  | switch => "switch"
  | firewall => "firewall"
  | server => "server"
  | loadBalancer => "load_balancer"
  | unknown => "unknown"

def tag : DeviceKind → String
  | router => "Router"
  | switch => "Switch"
  | firewall => "Firewall"
  | server => "Server"
  | loadBalancer => "LoadBalancer"
  | unknown => "Unknown"

def all : List DeviceKind := [router, switch, firewall, server, loadBalancer, unknown]

def ofName? (name : String) : Option DeviceKind := all.find? fun kind => kind.name == name

end DeviceKind

inductive AreaKind where
  | core
  | aggregation
  | access
  | dmz
  | management
  | unknown
deriving DecidableEq, Repr

namespace AreaKind

def name : AreaKind → String
  | core => "core"
  | aggregation => "aggregation"
  | access => "access"
  | dmz => "dmz"
  | management => "management"
  | unknown => "unknown"

def tag : AreaKind → String
  | core => "Core"
  | aggregation => "Aggregation"
  | access => "Access"
  | dmz => "Dmz"
  | management => "Management"
  | unknown => "Unknown"

def all : List AreaKind := [core, aggregation, access, dmz, management, unknown]

def ofName? (name : String) : Option AreaKind := all.find? fun kind => kind.name == name

end AreaKind

namespace Classification

/-- Names with this keyword in them are of this kind. -/
structure Rule (κ : Type) where
  keyword : String
  kind : κ
deriving DecidableEq, Repr

/-- Whether the keyword occurs in a name. The empty keyword occurs in none. -/
def Rule.applies {κ : Type} (rule : Rule κ) (name : String) : Bool :=
  !rule.keyword.isEmpty && Text.occursIn rule.keyword.toList name.toList

/-- Rules in the order in which they are tried. -/
abbrev Table (κ : Type) := List (Rule κ)

def Table.kind? {κ : Type} (table : Table κ) (name : String) : Option κ :=
  (table.find? (·.applies name)).map (·.kind)

def Table.applicable {κ : Type} (table : Table κ) (name : String) : List Nat :=
  (table.zipIdx.filter (·.1.applies name)).map (·.2)

def devices : Table DeviceKind :=
  [⟨"防火墙", .firewall⟩,
    ⟨"负载均衡器", .loadBalancer⟩,
    ⟨"服务器", .server⟩,
    ⟨"核心路由器", .router⟩,
    ⟨"汇聚交换机", .switch⟩,
    ⟨"接入交换机", .switch⟩,
    ⟨"核心交换机", .switch⟩,
    ⟨"路由器", .router⟩,
    ⟨"交换机", .switch⟩]

def areas : Table AreaKind :=
  [⟨"核心网络区", .core⟩,
    ⟨"核心区", .core⟩,
    ⟨"汇聚网络区", .aggregation⟩,
    ⟨"汇聚区", .aggregation⟩,
    ⟨"接入网络区", .access⟩,
    ⟨"接入区", .access⟩,
    ⟨"DMZ区", .dmz⟩,
    ⟨"管理区", .management⟩]

end Classification

structure Classifier where
  devices : Classification.Table DeviceKind := Classification.devices
  areas : Classification.Table AreaKind := Classification.areas
deriving DecidableEq, Repr

namespace Classifier

def device (c : Classifier) (name : String) : DeviceKind := (c.devices.kind? name).getD .unknown

def area (c : Classifier) (name : String) : AreaKind := (c.areas.kind? name).getD .unknown

end Classifier

end NetDiagram
