import Signpost.Pattern.Reader
import Signpost.Table

/-!
# Partitions

Regions fall into partitions, of which each has names of its own for its endpoints. A region belongs to
the first partition that lists it, otherwise to the first whose pattern matches it, and otherwise to the
one that is named as the fallback.
-/

namespace Signpost

/-- A partition as rules see it. -/
structure Partition where
  name : String
  dnsSuffix : String
  dualStackDnsSuffix : String
  supportsFips : Bool
  supportsDualStack : Bool
  /-- The region of endpoints that have none. -/
  implicitGlobalRegion : String
  deriving DecidableEq, Repr, Inhabited

/-- What a region changes in its partition. -/
structure PartitionChange where
  name : Option String
  dnsSuffix : Option String
  dualStackDnsSuffix : Option String
  supportsFips : Option Bool
  supportsDualStack : Option Bool
  implicitGlobalRegion : Option String
  deriving DecidableEq, Repr, Inhabited

namespace PartitionChange

/-- No change. -/
def none : PartitionChange := ⟨.none, .none, .none, .none, .none, .none⟩

/-- The partition after the change. -/
def apply (c : PartitionChange) (p : Partition) : Partition where
  name := c.name.getD p.name
  dnsSuffix := c.dnsSuffix.getD p.dnsSuffix
  dualStackDnsSuffix := c.dualStackDnsSuffix.getD p.dualStackDnsSuffix
  supportsFips := c.supportsFips.getD p.supportsFips
  supportsDualStack := c.supportsDualStack.getD p.supportsDualStack
  implicitGlobalRegion := c.implicitGlobalRegion.getD p.implicitGlobalRegion

end PartitionChange

/-- A partition and the regions that belong to it. -/
structure PartitionEntry where
  id : String
  pattern : Pattern
  regions : Table String PartitionChange
  outputs : Partition
  deriving Repr

/-- Partitions in order. -/
abbrev PartitionTable := List PartitionEntry

namespace PartitionTable

/-- The partition of regions that belong to no other. -/
def fallbackId : String := "aws"

/-- The partition that lists a region, with what the region changes. -/
def listed? (t : PartitionTable) (region : String) : Option Partition :=
  t.findSome? fun e => (e.regions.get? region).map (·.apply e.outputs)

/-- The partition whose pattern matches a region. -/
def matched? (t : PartitionTable) (region : String) : Option Partition :=
  (t.find? (·.pattern.isMatch region)).map (·.outputs)

/-- The partition of regions that belong to no other. -/
def fallback? (t : PartitionTable) : Option Partition :=
  (t.find? (·.id = fallbackId)).map (·.outputs)

/-- No partition can be told for the region. -/
structure Unknown where
  region : String
  deriving DecidableEq, Repr

/-- The fault in words. -/
def Unknown.message (u : Unknown) : String := "no partition found for `" ++ u.region ++ "`"

/-- The partition of a region. -/
def resolve (t : PartitionTable) (region : String) : Except Unknown Partition :=
  match (t.listed? region).or ((t.matched? region).or t.fallback?) with
  | some p => .ok p
  | none => .error ⟨region⟩

end PartitionTable

end Signpost
