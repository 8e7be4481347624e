import RouterKit.Lib.IpAddress
import RouterKit.Lib.PyText

/-!
URLs as the standard library splits, joins and puts them together. `none` stands
for the `ValueError` a call raises. What depends on the Unicode database is a
parameter: lowering and compatibility normalization outside ASCII.
-/

namespace RouterKit.Lib.Url

open RouterKit.Lib.PyText RouterKit.Lib.IpText

/-- The part of the Unicode database that URL handling looks at. -/
structure UnicodeTables where
  lowerNonAscii : Char → List Char
  nfkc : List Char → List Char

/-- `str.lower()`. -/
def lower (tables : UnicodeTables) (text : List Char) : List Char :=
  text.flatMap fun c => if c.toNat < 128 then [asciiLower c] else tables.lowerNonAscii c

/-- `text.partition(separator)`; the second part is `none` when the separator is
absent. -/
def partition (separator : Char) (text : List Char) : List Char × Option (List Char) :=
  (text.takeWhile (· ≠ separator),
    match text.dropWhile (· ≠ separator) with
    | [] => none
    | _ :: rest => some rest)

/-- `text.rpartition(separator)`; the first part is `none` when the separator is
absent. -/
def rpartition (separator : Char) (text : List Char) : Option (List Char) × List Char :=
  (match text.reverse.dropWhile (· ≠ separator) with
    | [] => none
    | _ :: rest => some rest.reverse,
    (text.reverse.takeWhile (· ≠ separator)).reverse)

def startsWith (initial text : List Char) : Bool := initial.isPrefixOf text

structure SplitResult where
  scheme : List Char
  netloc : List Char
  path : List Char
  query : List Char
  fragment : List Char
deriving DecidableEq

def isAsciiLetter (c : Char) : Bool :=
  (0x41 ≤ c.toNat && c.toNat ≤ 0x5a) || (0x61 ≤ c.toNat && c.toNat ≤ 0x7a)

def isSchemeChar (c : Char) : Bool :=
  isAsciiLetter c || isAsciiDigit c || c = '+' || c = '-' || c = '.'

/-- The scheme before the first colon, when there is one. -/
def splitScheme (url : List Char) : Option (List Char × List Char) :=
  match partition ':' url with
  | (scheme, some rest) =>
      if scheme.head?.any isAsciiLetter && scheme.all isSchemeChar then
        some (scheme.map asciiLower, rest)
      else none
  | (_, none) => none

/-- `_check_bracketed_host`: an IPv6 address or an address of a future version. -/
def isBracketedHost (host : List Char) : Bool :=
  match host with
  | 'v' :: rest =>
      match partition '.' rest with
      | (digits, some tail) =>
          digits ≠ [] && digits.all isHexDigit && tail ≠ [] && tail.all (· ≠ '\n')
      | (_, none) => false
  | _ =>
      match ipAddress host with
      | some (.v6 _ _) => true
      | _ => false

/-- `_check_bracketed_netloc`. -/
def isBracketedNetloc (netloc : List Char) : Bool :=
  match partition '[' (rpartition '@' netloc).2 with
  | (before, some bracketed) =>
      let (host, port) := partition ']' bracketed
      before = [] && (port.getD [] = [] || startsWith [':'] (port.getD [])) && isBracketedHost host
  | (_, none) => isBracketedHost (partition ':' (rpartition '@' netloc).2).1

/-- `_checknetloc`: compatibility normalization must not bring out a delimiter. -/
def isSafeNetloc (tables : UnicodeTables) (netloc : List Char) : Bool :=
  if netloc.all (·.toNat < 128) then true
  else
    let bare := netloc.filter fun c => !(['@', ':', '#', '?'].contains c)
    let normalized := tables.nfkc bare
    normalized = bare || ['/', '?', '#', '@', ':'].all fun c => !normalized.contains c

/-- The location part of a text that starts with two slashes, and the rest. -/
def splitNetloc (url : List Char) : List Char × List Char :=
  match url with
  | '/' :: '/' :: rest =>
      let isDelimiter := fun c => c = '/' || c = '?' || c = '#'
      (rest.takeWhile (!isDelimiter ·), rest.dropWhile (!isDelimiter ·))
  | _ => ([], url)

/-- `urllib.parse.urlsplit`. -/
def urlsplit (tables : UnicodeTables) (url scheme : List Char) : Option SplitResult :=
  let cleaned := (url.dropWhile (·.toNat ≤ 0x20)).filter fun c => !(['\t', '\r', '\n'].contains c)
  let (scheme, rest) := (splitScheme cleaned).getD (scheme, cleaned)
  let (netloc, rest) := splitNetloc rest
  let opens := netloc.contains '['
  let closes := netloc.contains ']'
  if opens ≠ closes || (opens && closes && !isBracketedNetloc netloc) then none
  else
    let (rest, fragment) := partition '#' rest
    let (path, query) := partition '?' rest
    if isSafeNetloc tables netloc then
      some ⟨scheme, netloc, path, query.getD [], fragment.getD []⟩
    else none

namespace SplitResult

variable (split : SplitResult)

/-- `_hostinfo`: the host, and the text of the port when it is not empty. -/
def hostInfo : List Char × Option (List Char) :=
  let info := (rpartition '@' split.netloc).2
  let (host, port) :=
    match partition '[' info with
    | (_, some bracketed) =>
        let (host, rest) := partition ']' bracketed
        (host, (partition ':' (rest.getD [])).2)
    | (_, none) => partition ':' info
  (host, port.filter (· ≠ []))

/-- `hostname`; a zone identifier keeps its case. -/
def hostname (tables : UnicodeTables) : Option (List Char) :=
  match split.hostInfo.1 with
  | [] => none
  | host =>
      let (address, zone) := partition '%' host
      some (lower tables address ++ zone.elim [] fun zone => '%' :: zone)

/-- `port`: `none` for a `ValueError`, `some none` where no port is given. -/
def port : Option (Option Nat) :=
  match split.hostInfo.2 with
  | none => some none
  | some digits =>
      let number := fromDigits 10 (digits.map hexValue)
      if digits.all isAsciiDigit && digits.length ≤ maxIntDigits && number ≤ 65535 then
        some (some number)
      else none

/-- `username` and `password`. -/
def userInfo : Option (List Char) × Option (List Char) :=
  match (rpartition '@' split.netloc).1 with
  | none => (none, none)
  | some info =>
      let (user, password) := partition ':' info
      (some user, password)

end SplitResult

def usesRelative : List String :=
  ["", "ftp", "http", "gopher", "nntp", "imap", "wais", "file", "https", "shttp", "mms",
    "prospero", "rtsp", "rtsps", "rtspu", "sftp", "svn", "svn+ssh", "ws", "wss"]

def usesNetloc : List String :=
  ["", "ftp", "http", "gopher", "nntp", "telnet", "imap", "wais", "file", "mms", "https", "shttp",
    "snews", "prospero", "rtsp", "rtsps", "rtspu", "rsync", "svn", "svn+ssh", "sftp", "nfs", "git",
    "git+ssh", "ws", "wss", "itms-services"]

def usesParams : List String :=
  ["", "ftp", "hdl", "prospero", "http", "imap", "https", "shttp", "rtsp", "rtsps", "rtspu", "sip",
    "sips", "mms", "sftp", "tel"]

/-- `urllib.parse.urlunsplit`. -/
def urlunsplit (split : SplitResult) : List Char :=
  let rooted := fun path : List Char =>
    if path ≠ [] && !startsWith ['/'] path then '/' :: path else path
  let location :=
    if split.netloc ≠ [] then '/' :: '/' :: split.netloc ++ rooted split.path
    else if startsWith ['/', '/'] split.path then '/' :: '/' :: split.path
    else if split.scheme ≠ [] && usesNetloc.contains (String.ofList split.scheme) &&
        (split.path = [] || startsWith ['/'] split.path) then '/' :: '/' :: split.path
    else split.path
  (if split.scheme = [] then [] else split.scheme ++ [':']) ++ location ++
    (if split.query = [] then [] else '?' :: split.query) ++
    (if split.fragment = [] then [] else '#' :: split.fragment)

/-- `_splitparams`: the parameters behind the first semicolon of the last
segment. -/
def splitParams (path : List Char) : List Char × List Char :=
  match rpartition '/' path with
  | (none, segment) =>
      match partition ';' segment with
      | (bare, some params) => (bare, params)
      | (_, none) => (path, [])
  | (some before, segment) =>
      match partition ';' segment with
      | (bare, some params) => (before ++ '/' :: bare, params)
      | (_, none) => (path, [])

/-- `urlparse`: the split, with the parameters apart from the path. -/
def urlparse (tables : UnicodeTables) (url scheme : List Char) :
    Option (SplitResult × List Char) := do
  let split ← urlsplit tables url scheme
  if usesParams.contains (String.ofList split.scheme) && split.path.contains ';' then
    let (path, params) := splitParams split.path
    return ({ split with path }, params)
  else return (split, [])

def urlunparse (split : SplitResult) (params : List Char) : List Char :=
  urlunsplit { split with path := if params = [] then split.path else split.path ++ ';' :: params }

/-- Empty segments between the first and the last are dropped. -/
def dropInnerEmpty (segments : List (List Char)) : List (List Char) :=
  match segments with
  | [] => []
  | [only] => [only]
  | first :: rest => first :: (rest.dropLast.filter (· ≠ []) ++ rest.getLast?.toList)

/-- Segments after the dots are resolved. -/
def resolveDots (segments : List (List Char)) : List (List Char) :=
  let resolved := segments.foldl (fun done segment =>
    if segment = ['.', '.'] then done.dropLast
    else if segment = ['.'] then done
    else done ++ [segment]) []
  match segments.getLast? with
  | some last => if last = ['.'] ∨ last = ['.', '.'] then resolved ++ [[]] else resolved
  | none => resolved

/-- `urllib.parse.urljoin`. -/
def urljoin (tables : UnicodeTables) (base url : List Char) : Option (List Char) :=
  if base = [] then some url
  else if url = [] then some base
  else do
    let (baseSplit, baseParams) ← urlparse tables base []
    let (split, params) ← urlparse tables url baseSplit.scheme
    let scheme := String.ofList split.scheme
    if split.scheme ≠ baseSplit.scheme ∨ !usesRelative.contains scheme then return url
    if usesNetloc.contains scheme && split.netloc ≠ [] then return urlunparse split params
    let netloc := if usesNetloc.contains scheme then baseSplit.netloc else split.netloc
    if split.path = [] ∧ params = [] then
      let query := if split.query = [] then baseSplit.query else split.query
      return urlunparse { split with netloc, path := baseSplit.path, query } baseParams
    let baseParts := baseSplit.path.splitOn '/'
    let directory := if baseParts.getLast? = some [] then baseParts else baseParts.dropLast
    let segments :=
      if startsWith ['/'] split.path then split.path.splitOn '/'
      else dropInnerEmpty (directory ++ split.path.splitOn '/')
    let path := ['/'].intercalate (resolveDots segments)
    return urlunparse { split with netloc, path := if path = [] then ['/'] else path } params

end RouterKit.Lib.Url
