import Signpost.Endpoint.Partition

/-!
# The standard partitions

The partitions that regions fall into when no other table is given. A region is an area, a name and a
number with hyphens between them, and the area tells the partition.
-/

namespace Signpost.PartitionTable

/-- The pattern of one character. -/
def exactly (c : Char) : Pattern := .one (.single c)

/-- The pattern of a text. -/
def literal (s : String) : Pattern := s.toList.foldr (fun c p => .seq (exactly c) p) .empty

/-- The pattern of one of several texts. -/
def oneOf : List String → Pattern
  | [] => .one .none
  | [s] => literal s
  | s :: ss => .alt (literal s) (oneOf ss)

/-- The pattern of one or more characters of a class. -/
def someOf (k : NamedClass) : Pattern := .times (.one (.named k)) 1 none

/-- The pattern of a region in one of the areas. -/
def regionIn (areas : List String) : Pattern :=
  [.assert .textStart, oneOf areas, exactly '-', someOf .word, exactly '-', someOf .digit,
    .assert .textEnd].foldr .seq .empty

/-- Regions that change nothing in their partition. -/
def plain (regions : List String) : Table String PartitionChange := regions.map (·, .none)

/-- The partition of most regions. -/
def commercial : PartitionEntry where
  id := fallbackId
  pattern := regionIn ["us", "eu", "ap", "sa", "ca", "me", "af", "il", "mx"]
  regions := plain ["aws-global", "us-east-1", "us-east-2", "us-west-1", "us-west-2", "eu-west-1",
    "eu-central-1", "ap-southeast-1", "ap-northeast-1"]
  outputs := {
    name := "aws"
    dnsSuffix := "amazonaws.com"
    dualStackDnsSuffix := "api.aws"
    supportsFips := true
    supportsDualStack := true
    implicitGlobalRegion := "us-east-1" }

/-- The partition of regions in China. -/
def china : PartitionEntry where
  id := "aws-cn"
  pattern := regionIn ["cn"]
  regions := plain ["aws-cn-global", "cn-north-1", "cn-northwest-1"]
  outputs := {
    name := "aws-cn"
    dnsSuffix := "amazonaws.com.cn"
    dualStackDnsSuffix := "api.amazonwebservices.com.cn"
    supportsFips := true
    supportsDualStack := true
    implicitGlobalRegion := "cn-northwest-1" }

/-- The partition of regions for authorities. -/
def government : PartitionEntry where
  id := "aws-us-gov"
  pattern := regionIn ["us-gov"]
  regions := plain ["aws-us-gov-global", "us-gov-east-1", "us-gov-west-1"]
  outputs := {
    name := "aws-us-gov"
    dnsSuffix := "amazonaws.com"
    dualStackDnsSuffix := "api.aws"
    supportsFips := true
    supportsDualStack := true
    implicitGlobalRegion := "us-gov-west-1" }

/-- The partition of regions that are kept apart. -/
def isolated : PartitionEntry where
  id := "aws-iso"
  pattern := regionIn ["us-iso"]
  regions := plain ["aws-iso-global", "us-iso-east-1"]
  outputs := {
    name := "aws-iso"
    dnsSuffix := "c2s.ic.gov"
    dualStackDnsSuffix := "c2s.ic.gov"
    supportsFips := true
    supportsDualStack := false
    implicitGlobalRegion := "us-iso-east-1" }

/-- The standard partitions. -/
def standard : PartitionTable := [commercial, china, government, isolated]

end Signpost.PartitionTable
