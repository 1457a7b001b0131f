import Signpost.Code.Ident
import Signpost.Endpoint.Diagnostics
import Signpost.Endpoint.HostLabel
import Signpost.Endpoint.Location
import Signpost.Endpoint.Partition
import Signpost.Endpoint.Substring

/-!
# Data of running resolvers

What the locals of emitted code hold while it runs, and what the standard functions do with it. Code
that does not fit the types of its values gets stuck, which is told apart from every result.
-/

namespace Signpost.Resolver

/-- What a local holds. -/
inductive Datum where
  | string (s : String)
  | bool (b : Bool)
  | int (n : Int)
  | strings (ss : List String)
  | location (l : Location)
  | partition (p : Partition)
  /-- An option that holds nothing, or something. -/
  | absent
  | present (d : Datum)
  deriving DecidableEq, Repr, Inhabited

/-- What runs with diagnostics and may get stuck. -/
abbrev Running := StateT Diagnostics Option

/-- No result. -/
def stuck {α : Type} : Running α := fun _ => none

/-- A result, unless there is none. -/
def orStuck {α : Type} (a : Option α) : Running α := fun d => a.map (·, d)

/-- The result of a check, whose failure is reported. -/
def captured {ε α : Type} (message : ε → String) (result : Except ε α) : Running (Option α) :=
  fun d => some (Diagnostics.capture message result d)

namespace Datum

/-- An option. -/
def ofOption : Option Datum → Datum
  | none => absent
  | some d => present d

/-- The datum as it is put into a text. -/
def text? : Datum → Option String
  | string s => some s
  | bool b => some (if b then "true" else "false")
  | int n => some (toString n)
  | _ => none

/-- Whether two strings or two truth values are equal. -/
def equal? : Datum → Datum → Option Bool
  | string s, string t => some (s = t)
  | bool a, bool b => some (a = b)
  | _, _ => none

/-- What a method reads from a location or a partition. -/
def read? (accessor : String) : Datum → Option Datum
  | location l =>
    match accessor with
    | "scheme" => some (string l.scheme)
    | "authority" => some (string l.authority)
    | "path" => some (string l.path)
    | "normalized_path" => some (string l.normalizedPath)
    | "is_ip" => some (bool l.isIp)
    | _ => none
  | partition p =>
    match accessor with
    | "name" => some (string p.name)
    | "dns_suffix" => some (string p.dnsSuffix)
    | "dual_stack_dns_suffix" => some (string p.dualStackDnsSuffix)
    | "supports_fips" => some (bool p.supportsFips)
    | "supports_dual_stack" => some (bool p.supportsDualStack)
    | "implicit_global_region" => some (string p.implicitGlobalRegion)
    | _ => none
  | _ => none

end Datum

/-- What a standard function gives, by its id. -/
def Library.run (partitions : PartitionTable) (id : String) (args : List Datum) : Running Datum :=
  match id, args with
  | "substring", [.string s, .int start, .int stop, .bool reverse] =>
    if start < 0 ∨ stop < 0 then stuck
    else do
      let part ← captured Substring.Fault.message (Substring.cut s start.toNat stop.toNat reverse)
      return .ofOption (part.map .string)
  | "isValidHostLabel", [.string s, .bool allowsSubdomains] => do
    let checked ← captured HostLabel.Fault.message (HostLabel.check s allowsSubdomains)
    return .bool checked.isSome
  | "parseURL", [.string s] => do
    let l ← captured Location.Fault.message (Location.ofText s)
    return .ofOption (l.map .location)
  | "uriEncode", [.string s] => return .string (Web.Percent.encode s)
  | "aws.partition", [.string region] => do
    let p ← captured PartitionTable.Unknown.message (partitions.resolve region)
    return .ofOption (p.map .partition)
  | _, _ => stuck

end Signpost.Resolver
