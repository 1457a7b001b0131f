import Signpost.Rules.Ruleset

/-!
# Sample rulesets

Four rulesets to try a resolver on: one without parameters, one that looks at the region, one that falls
back from one label to another, and one in the manner of a cloud service.
-/

namespace Signpost.Samples

open Rules

/-! ### Parts of rules -/

/-- A text without places. -/
def plain (s : String) : Expr := .string (Template.plain s)

/-- A place for a parameter or a result. -/
def place (name : String) : Part := .hole (.ref name)

/-- A place for an attribute. -/
def attr (name path : String) : Part := .hole (.call "getAttr" [.ref name, plain path])

/-- The condition that a name is set. -/
def isSet (name : String) : Condition := ⟨⟨"isSet", [.ref name]⟩, none⟩

/-- The condition that a name is true. -/
def isTrue (name : String) : Condition := ⟨⟨"booleanEquals", [.ref name, .bool true]⟩, none⟩

/-- The first of two values that is set, under a name. -/
def coalesce (a b : Expr) (assign : String) : Condition := ⟨⟨"coalesce", [a, b]⟩, some assign⟩

/-- A rule without documentation. -/
def rule (conditions : List Condition) (outcome : Outcome) : Rule := .mk none conditions outcome

/-- An endpoint of a URL alone. -/
def endpointAt (url : List Part) : Outcome := .endpoint ⟨.string url, [], []⟩

/-- An endpoint with one header. -/
def endpointWith (url : List Part) (header : String) (value : List Part) : Outcome :=
  .endpoint ⟨.string url, [(header, [.string value])], []⟩

/-- An endpoint with one property. -/
def endpointHaving (url : List Part) (property : String) (value : Expr) : Outcome :=
  .endpoint ⟨.string url, [], [(property, value)]⟩

/-- An error. -/
def errorSaying (message : List Part) : Outcome := .error (.string message)

/-- A parameter of strings without anything else. -/
def stringParameter (name documentation : String) : Parameter where
  name := name
  type := .string
  required := false
  default := none
  builtIn := none
  documentation := some documentation
  deprecated := none

/-- A parameter that is false unless said otherwise. -/
def switchParameter (name builtIn documentation : String) : Parameter where
  name := name
  type := .boolean
  required := true
  default := some (.bool false)
  builtIn := some builtIn
  documentation := some documentation
  deprecated := none

/-! ### Rulesets -/

/-- Every request goes to the same place. -/
def basic : Ruleset where
  version := "1.0"
  parameters := []
  rules := [.mk (some "Every request goes to the same place.") [] (endpointAt [.text "https://example.com"])]

/-- One region has a place of its own. -/
def regional : Ruleset where
  version := "1.0"
  parameters := [
    { stringParameter "Region" "The region to send requests to." with
      required := true
      builtIn := some "AWS::Region" }]
  rules := [
    rule [⟨⟨"stringEquals", [.ref "Region", plain "us-east-1"]⟩, none⟩]
      (endpointAt [.text "https://east.example.com"]),
    rule [] (endpointAt [.text "https://default.example.com"])]

/-- One label or another, in a domain that may be given too. -/
def fallback : Ruleset where
  version := "1.0"
  parameters := [
    stringParameter "Primary" "The preferred host label.",
    stringParameter "Secondary" "The host label used when `Primary` is not set.",
    { stringParameter "Domain" "" with
      required := true
      default := some (.string "example.com")
      documentation := none }]
  rules := [
    .mk (some "Either label works, `Primary` first.")
      [coalesce (.ref "Primary") (.ref "Secondary") "Label",
       coalesce (.ref "Secondary") (.string [.text "fallback-", place "Domain"]) "Name",
       coalesce (.ref "Domain") (.ref "Primary") "Zone"]
      (endpointWith [.text "https://", place "Label", .text ".", place "Zone"] "x-name" [place "Name"]),
    rule [] (errorSaying [.text "No label configured for ", place "Domain"])]

/-! ### A cloud service -/

/-- The parameters of the cloud service. -/
def cloudParameters : List Parameter := [
  { stringParameter "Region" "The region to send requests to." with builtIn := some "AWS::Region" },
  switchParameter "UseFIPS" "AWS::UseFIPS" "Send requests to FIPS compliant endpoints.",
  switchParameter "UseDualStack" "AWS::UseDualStack"
    "Send requests to endpoints that support IPv4 and IPv6.",
  { stringParameter "Endpoint" "Overrides the endpoint." with builtIn := some "SDK::Endpoint" },
  stringParameter "Bucket" "Addresses a bucket with a virtual host.",
  stringParameter "Key" "Addresses an object by its key.",
  { stringParameter "Tags" "Routing tags. The first tag is forwarded." with
    type := .stringArray
    deprecated := some ⟨some "use `Labels` instead", some "2024-01-01"⟩ }]

/-- A host of the region in its partition, in the domain that the attribute names. -/
def regionalHost (host suffix : String) : List Part :=
  [.text ("https://" ++ host ++ "."), place "Region", .text ".", attr "PartitionResult" suffix]

/-- The way to sign requests, with further attributes. -/
def signing (further : List (String × Expr)) : Expr :=
  .array [.record ((("name", plain "sigv4") :: further) ++
    [("signingRegion", .string [place "Region"])])]

/-- An endpoint that is given wins. -/
def givenEndpoint : Rule :=
  .mk (some "An explicit endpoint wins.") [isSet "Endpoint"] (.tree [
    rule [⟨⟨"parseURL", [.ref "Endpoint"]⟩, some "Url"⟩]
      (endpointHaving
        [attr "Url" "scheme", .text "://", attr "Url" "authority",
          attr "Url" "normalizedPath"]
        "isIp" (.call "getAttr" [.ref "Url", plain "isIp"])),
    rule [] (errorSaying [.text "Invalid endpoint: ", place "Endpoint"])])

/-- The endpoints of the partition of the region. -/
def partitionRules : List Rule := [
  rule
    [isSet "Bucket",
     ⟨⟨"isValidHostLabel", [.ref "Bucket", .bool false]⟩, none⟩,
     ⟨⟨"substring", [.ref "Bucket", .int 0, .int 3, .bool false]⟩, some "BucketPrefix"⟩]
    (endpointWith
      [.text "https://", place "Bucket", .text ".s3.", place "Region", .text ".",
        attr "PartitionResult" "dnsSuffix"]
      "x-bucket-prefix" [place "BucketPrefix"]),
  rule [isSet "Bucket"] (errorSaying [.text "Invalid bucket name: ", place "Bucket"]),
  rule [isSet "Key", ⟨⟨"uriEncode", [.ref "Key"]⟩, some "EncodedKey"⟩]
    (endpointAt (regionalHost "service" "dnsSuffix" ++ [.text "/", place "EncodedKey"])),
  rule [isSet "Tags", ⟨⟨"getAttr", [.ref "Tags", plain "[0]"]⟩, some "FirstTag"⟩]
    (endpointWith (regionalHost "service" "dnsSuffix") "x-first-tag" [place "FirstTag"]),
  rule [isTrue "UseFIPS", isTrue "UseDualStack"]
    (endpointAt (regionalHost "service-fips" "dualStackDnsSuffix")),
  rule [isTrue "UseFIPS", ⟨⟨"getAttr", [.ref "PartitionResult", plain "supportsFIPS"]⟩, none⟩]
    (endpointHaving (regionalHost "service-fips" "dnsSuffix") "authSchemes" (signing [])),
  rule [isTrue "UseFIPS"]
    (errorSaying [.text "FIPS is not supported in ", attr "PartitionResult" "name"]),
  rule [isTrue "UseDualStack"] (endpointAt (regionalHost "service" "dualStackDnsSuffix")),
  rule []
    (endpointHaving (regionalHost "service" "dnsSuffix") "authSchemes"
      (signing [("signingName", plain "service")]))]

/-- A service with regions in partitions. -/
def cloud : Ruleset where
  version := "1.0"
  parameters := cloudParameters
  rules := [
    givenEndpoint,
    rule [isSet "Region"] (.tree [
      rule [⟨⟨"aws.partition", [.ref "Region"]⟩, some "PartitionResult"⟩] (.tree partitionRules)]),
    rule [] (errorSaying [.text "Invalid Configuration: Missing Region"])]

end Signpost.Samples
