import GangScheduling.NameMap
import GangScheduling.Quantity

set_option autoImplicit false

namespace GangScheduling

structure Resource where
  amounts : NameMap Int64
deriving DecidableEq

namespace Resource

def empty : Resource := { amounts := .empty }

instance : Inhabited Resource := ⟨empty⟩

def amount? (resource : Resource) (name : String) : Option Int64 :=
  resource.amounts.get? name

def amount (resource : Resource) (name : String) : Int64 :=
  (resource.amount? name).getD 0

def addAmount (resource : Resource) (name : String) (amount : Int64) : Resource :=
  { amounts := resource.amounts.insert name (saturatingAdd (resource.amount name) amount) }

def add (a b : Resource) : Resource :=
  b.amounts.entries.foldl (fun sum entry => sum.addAmount entry.1 entry.2) a

instance : Add Resource := ⟨add⟩

theorem amount?_addAmount (resource : Resource) (name key : String) (amount : Int64) :
    (resource.addAmount name amount).amount? key =
      if key = name then some (saturatingAdd (resource.amount name) amount)
      else resource.amount? key :=
  NameMap.get?_insert _ _ _ _

/-- What the scheduler calls a pod's resource, and the power of ten of its unit: processors are
counted in thousandths and memory in millions of bytes. -/
def dimension : String → String × Int
  | "cpu" => ("vcore", -3)
  | "memory" => ("memory", 6)
  | name => (name, 0)

/-- Each quantity is rounded up for one member before it is multiplied by their number. -/
def ofMembers (perMember : NameMap Quantity) (members : UInt32) : Resource :=
  perMember.entries.foldl
    (fun total entry =>
      let (name, scale) := dimension entry.1
      total.addAmount name
        (saturatingMul (Int64.ofInt members.toNat) (entry.2.scaledValue scale)))
    empty

end Resource

end GangScheduling
