import Signpost.Resolver.Registry

/-!
# The standard functions of rules

Cutting strings, checking host labels, reading URLs, encoding, and finding the partition of a region.
-/

namespace Signpost.Resolver.Library

/-- What reading a URL gives. -/
def url : Ty := .record "URL" (.ofList [
  ("scheme", "scheme", .string),
  ("authority", "authority", .string),
  ("path", "path", .string),
  ("normalizedPath", "normalized_path", .string),
  ("isIp", "is_ip", .bool)])

/-- A partition of regions. -/
def partition : Ty := .record "partition" (.ofList [
  ("name", "name", .string),
  ("dnsSuffix", "dns_suffix", .string),
  ("dualStackDnsSuffix", "dual_stack_dns_suffix", .string),
  ("supportsFIPS", "supports_fips", .bool),
  ("supportsDualStack", "supports_dual_stack", .bool),
  ("implicitGlobalRegion", "implicit_global_region", .string)])

/-- Cutting a string: `substring(input, start, stop, reverse)`. -/
def substring : Function where
  id := "substring"
  parameters := [.string, .int, .int, .bool]
  returns := .option .string
  returnsOwned := false
  callee := .library ["endpoint_lib", "substring", "substring"]
  reports := true
  state := none

/-- Checking a host label: `isValidHostLabel(label, allowSubDomains)`. -/
def isValidHostLabel : Function where
  id := "isValidHostLabel"
  parameters := [.string, .bool]
  returns := .bool
  returnsOwned := false
  callee := .library ["endpoint_lib", "host", "is_valid_host_label"]
  reports := true
  state := none

/-- Reading a URL: `parseURL(url)`. -/
def parseURL : Function where
  id := "parseURL"
  parameters := [.string]
  returns := .option url
  returnsOwned := false
  callee := .library ["endpoint_lib", "parse_url", "parse_url"]
  reports := true
  state := none

/-- Encoding text: `uriEncode(value)`. -/
def uriEncode : Function where
  id := "uriEncode"
  parameters := [.string]
  returns := .string
  returnsOwned := true
  callee := .library ["endpoint_lib", "uri_encode", "uri_encode"]
  reports := false
  state := none

/-- The field of a resolver that holds its partitions. -/
def partitionField : Code.Ident := ⟨"partition_resolver", false⟩

/-- Finding a partition: `aws.partition(region)`. -/
def partitionOf : Function where
  id := "aws.partition"
  parameters := [.string]
  returns := .option partition
  returnsOwned := false
  callee := .state partitionField "resolve_partition"
  reports := true
  state := some {
    field := partitionField
    type := ["endpoint_lib", "partition", "PartitionResolver"]
    constructor := "default"
    arguments := [] }

/-- The standard functions. -/
def functions : List Function := [substring, isValidHostLabel, parseURL, uriEncode, partitionOf]

end Signpost.Resolver.Library

namespace Signpost.Resolver

/-- The registry of the standard functions. -/
def Registry.standard : Registry := Library.functions.foldl Registry.register .empty

end Signpost.Resolver
