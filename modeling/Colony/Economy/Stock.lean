import Colony.Scalar

/-!
# Stocks and sites

Three resources are kept in stock.  Mines yield mineral, refineries turn
mineral into rapidlum, and sim is produced at a base rate.  Mines and
refineries share one numbering.
-/

namespace Colony.Economy

inductive Resource where
  | sim
  | rapidlum
  | mineral
  deriving DecidableEq, Repr, Inhabited

def Resource.name : Resource → String
  | .sim => "sim"
  | .rapidlum => "rapidlum"
  | .mineral => "mineral"

def Resource.all : List Resource := [.sim, .rapidlum, .mineral]

def Resource.ofName? (name : String) : Option Resource := Resource.all.find? (·.name == name)

structure Stock (α : Type) where
  quantity : α
  production : α
  consumption : α

structure Mine (α : Type) where
  number : Nat
  yieldRate : α

structure Refinery (α : Type) where
  number : Nat
  efficiency : α

variable {α : Type}

def Mine.id (m : Mine α) : String := "mine-" ++ toString m.number

def Refinery.id (r : Refinery α) : String := "refinery-" ++ toString r.number

structure Stocks (α : Type) where
  sim : Stock α
  rapidlum : Stock α
  mineral : Stock α

def Stocks.get (s : Stocks α) : Resource → Stock α
  | .sim => s.sim
  | .rapidlum => s.rapidlum
  | .mineral => s.mineral

def Stocks.set (resource : Resource) (stock : Stock α) (s : Stocks α) : Stocks α :=
  match resource with
  | .sim => { s with sim := stock }
  | .rapidlum => { s with rapidlum := stock }
  | .mineral => { s with mineral := stock }

end Colony.Economy
