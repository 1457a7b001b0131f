import Signpost.Web.Url

/-!
# Locations

The parts of a URL that rules look at. Whether a text is a URL is decided by how it reads, but its
authority and its path are kept as they are written.
-/

namespace Signpost

/-- The parts of a URL. -/
structure Location where
  scheme : String
  authority : String
  path : String
  /-- The path with a slash at both ends. -/
  normalizedPath : String
  /-- Whether the host is given by its address. -/
  isIp : Bool
  deriving DecidableEq, Repr, Inhabited

namespace Location

/-- Why a text is not the URL of a service. -/
inductive Fault where
  | url (f : Web.Url.Fault)
  | query
  | scheme (scheme : String)
  deriving DecidableEq, Repr

/-- The fault in words. -/
def Fault.message : Fault → String
  | url f => f.message
  | query => "URL cannot have a query component"
  | scheme s => "unsupported scheme `" ++ s ++ "`"

/-- What follows the first `://`, or nothing. -/
def afterSlashes : List Char → List Char
  | ':' :: '/' :: '/' :: cs => cs
  | _ :: cs => afterSlashes cs
  | [] => []

/-- The authority and the path as they are written. -/
def split (s : String) : List Char × List Char :=
  let rest := (afterSlashes s.toList).takeWhile (· ≠ '#')
  (rest.takeWhile (· ≠ '/'), rest.dropWhile (· ≠ '/'))

/-- The path with a slash at both ends. -/
def normalize (path : List Char) : List Char :=
  let path := if path.head? = some '/' then path else '/' :: path
  if path.getLast? = some '/' then path else path ++ ['/']

/-- The location that a URL names. -/
def ofText (s : String) : Except Fault Location := do
  let url ← (Web.Url.ofText s).mapError .url
  if url.hasQuery then throw .query
  if url.scheme ≠ "http" ∧ url.scheme ≠ "https" then throw (.scheme url.scheme)
  let (authority, path) := split s
  return {
    scheme := url.scheme
    authority := String.ofList authority
    path := String.ofList path
    normalizedPath := String.ofList (normalize path)
    isIp := url.host.any Web.Host.isAddress }

end Location

end Signpost
