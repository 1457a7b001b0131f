import Signpost.Web.HostName
import Signpost.Web.Ipv6
import Signpost.Web.Percent

/-!
# URLs

Reading an absolute URL as far as its host is concerned: the scheme, the host, and whether there is a
query. Schemes of the web need a host and take backslashes for slashes; other schemes may go without.
-/

namespace Signpost.Web

/-- What a URL refers to. -/
inductive Host where
  | name (cs : List Char)
  | ipv4 (address : Nat)
  | ipv6 (pieces : List Nat)
  deriving DecidableEq, Repr

/-- Whether the host is given by its address. -/
def Host.isAddress : Host → Bool
  | name _ => false
  | ipv4 _ | ipv6 _ => true

/-- A URL. -/
structure Url where
  scheme : String
  host : Option Host
  hasQuery : Bool
  deriving DecidableEq, Repr

/-- Why a text is not an absolute URL. -/
inductive Url.Fault where
  | relative
  | emptyHost
  | port
  | ipv4
  | ipv6
  | name
  | hostCharacter
  deriving DecidableEq, Repr

/-- The fault in words. -/
def Url.Fault.message : Url.Fault → String
  | relative => "relative URL without a base"
  | emptyHost => "empty host"
  | port => "invalid port number"
  | ipv4 => "invalid IPv4 address"
  | ipv6 => "invalid IPv6 address"
  | name => "invalid international domain name"
  | hostCharacter => "invalid domain character"

/-- What a scheme asks of the rest of a URL. -/
inductive SchemeKind where
  /-- A scheme of the web. -/
  | web
  /-- The scheme of local files. -/
  | file
  | other
  deriving DecidableEq, Repr

/-- The kind of a scheme. -/
def SchemeKind.of (scheme : String) : SchemeKind :=
  if ["http", "https", "ws", "wss", "ftp"].contains scheme then web
  else if scheme = "file" then file
  else other

namespace Url

/-! ### Schemes -/

/-- A character that a scheme may hold. -/
def isSchemeChar (c : Char) : Bool := c.isAlphanum || c == '+' || c == '-' || c == '.'

/-- The scheme in small letters, and what follows its colon. -/
def splitScheme? (cs : List Char) : Option (String × List Char) :=
  match cs.takeWhile isSchemeChar, cs.dropWhile isSchemeChar with
  | c :: scheme, ':' :: rest =>
    if c.isAlpha then some (String.ofList ((c :: scheme).map Char.toLower), rest) else none
  | _, _ => none

/-! ### Hosts -/

/-- The host that the inside of brackets or any other text writes; `named` reads the latter. -/
def bracketed (named : List Char → Except Fault Host) (cs : List Char) : Except Fault Host :=
  match cs with
  | '[' :: inner =>
    if inner.getLast? = some ']' then
      match Ipv6.ofText? inner.dropLast with
      | some pieces => .ok (.ipv6 pieces)
      | none => .error .ipv6
    else .error .ipv6
  | cs => named cs

/-- A host in a scheme of the web or of files: a name, or an address if it ends in a number. -/
def webHost (cs : List Char) : Except Fault Host :=
  match (Percent.decode? (String.ofList cs)).bind fun s => HostName.ofChars? s.toList with
  | none => .error .name
  | some [] => .error .emptyHost
  | some name =>
    if Ipv4.endsInNumber name then
      match Ipv4.ofHost? name with
      | some address => .ok (.ipv4 address)
      | none => .error .ipv4
    else .ok (.name name)

/-- A host in another scheme, which may be almost anything. -/
def otherHost (cs : List Char) : Except Fault Host :=
  if cs.any "\x00\t\n\r #/:<>?@[\\]^|".toList.contains then .error .hostCharacter else .ok (.name cs)

/-! ### Authorities -/

/-- Whether a character ends the authority. -/
def endsAuthority (isWeb : Bool) (c : Char) : Bool :=
  c == '/' || c == '?' || c == '#' || (isWeb && c == '\\')

/-- The part before the last `@`, if there is one, and the part after it. -/
def splitUser (cs : List Char) : Option (List Char) × List Char :=
  let host := (cs.reverse.takeWhile (· ≠ '@')).reverse
  if host.length < cs.length then (some (cs.take (cs.length - host.length - 1)), host) else (none, cs)

/-- The host and what follows the first colon outside brackets, if there is one. -/
def splitPort (inBrackets : Bool) : List Char → List Char × Option (List Char)
  | [] => ([], none)
  | c :: cs =>
    if c = ':' && !inBrackets then ([], some cs)
    else
      let (host, port) := splitPort (if c = '[' then true else if c = ']' then false else inBrackets) cs
      (c :: host, port)

/-- Whether a text is a port, which may be left out. -/
def isPort (cs : List Char) : Bool :=
  cs.all Char.isDigit && cs.foldl (fun n d => 10 * n + (d.toNat - '0'.toNat)) 0 < 0x10000

/-- Fails unless the text is a port; a backslash ends it. -/
def checkPort (cs : List Char) : Except Fault Unit :=
  if isPort (cs.takeWhile (· ≠ '\\')) then .ok () else .error .port

/-- The host of an authority in a scheme of the web. -/
def webAuthority (host : List Char) (port : Option (List Char)) : Except Fault (Option Host) := do
  if host.isEmpty then throw .emptyHost
  let host ← bracketed webHost host
  port.forM checkPort
  return some host

/-- The host of an authority in another scheme, where there may be none; a port or a user needs one. -/
def otherAuthority (user : Option (List Char)) (host : List Char) (port : Option (List Char)) :
    Except Fault (Option Host) :=
  if host.isEmpty then
    if port.isSome || user.any (fun u => !u.isEmpty && u != [':']) then .error .emptyHost else .ok none
  else do
    let host ← bracketed otherHost host
    port.forM checkPort
    return some host

/-- The host of the authority at the start of a text. -/
def authority (isWeb : Bool) (cs : List Char) : Except Fault (Option Host) :=
  let (user, rest) := splitUser (cs.takeWhile (!endsAuthority isWeb ·))
  let (host, port) := splitPort false rest
  if user = some [] && rest.isEmpty && !(cs.dropWhile (!endsAuthority isWeb ·)).isEmpty then
    .error .emptyHost
  else if isWeb then webAuthority host port
  else otherAuthority user host port

/-- A slash in either direction. -/
def isSlash (c : Char) : Bool := c == '/' || c == '\\'

/-- Whether a text is the letter of a drive. -/
def isDrive : List Char → Bool
  | [c, d] => c.isAlpha && (d == ':' || d == '|')
  | _ => false

/-- The host of a file: after two slashes, unless a drive stands there. -/
def fileHost (cs : List Char) : Except Fault (Option Host) :=
  match cs with
  | a :: b :: rest =>
    let host := rest.takeWhile fun c => !isSlash c && c != '?' && c != '#'
    if !isSlash a || !isSlash b || host.isEmpty || isDrive host then .ok none
    else (bracketed webHost host).map fun h => if h = .name "localhost".toList then none else some h
  | _ => .ok none

/-- The host of a URL, given what follows the colon of its scheme. -/
def hostOf (kind : SchemeKind) (rest : List Char) : Except Fault (Option Host) :=
  match kind with
  | .web => authority true (rest.dropWhile isSlash)
  | .file => fileHost rest
  | .other =>
    match rest with
    | '/' :: '/' :: rest => authority false rest
    | _ => .ok none

/-! ### The whole -/

/-- A control character or a space; these are dropped at both ends. -/
def isOuterBlank (c : Char) : Bool := c.toNat ≤ 0x20

/-- The characters of a URL that count: blanks at its ends, tabs and line ends do not. -/
def significant (cs : List Char) : List Char :=
  let cs := ((cs.dropWhile isOuterBlank).reverse.dropWhile isOuterBlank).reverse
  cs.filter fun c => c != '\t' && c != '\n' && c != '\r'

/-- Whether a query follows: a question mark comes before any number sign. -/
def asksQuery (rest : List Char) : Bool := rest.find? (fun c => c == '?' || c == '#') = some '?'

/-- The URL that a text writes. -/
def ofText (s : String) : Except Fault Url :=
  match splitScheme? (significant s.toList) with
  | none => .error .relative
  | some (scheme, rest) => do
    let host ← hostOf (SchemeKind.of scheme) rest
    return ⟨scheme, host, asksQuery rest⟩

end Url

end Signpost.Web
