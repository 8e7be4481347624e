import RouterKit.Lib.Checked
import RouterKit.Lib.Lines

/-!
The strict verification of the running Xray process. It reads the PID file, the
process behind it and the kernel's listener tables, and it stands for a process
that alone serves the three loopback ports.
-/

namespace RouterKit.Autostart

open RouterKit.Lib.Checked RouterKit.Lib.PyText

def expectedPorts : List Int := [1082, 1083, 1084]

def expectedHost : String := "127.0.0.1"

def maxPidFileBytes : Nat := 32

inductive FileKind where
  | regular
  | symlink
  | directory
  | other
  deriving DecidableEq

structure FileMeta where
  kind : FileKind
  mode : Nat
  links : Nat
  deriving DecidableEq

/-- What `lstat` says of a path. -/
inductive FileStatus where
  | missing
  | unreadable (reason : String)
  | found (file : FileMeta)
  deriving DecidableEq

/-- A file behind `os.open`: its type and size, and what reading it gives. -/
structure OpenedFile (α : Type) where
  regular : Bool
  size : Nat
  content : α

/-- `_read_file_no_symlink`; the error of an open that fails is its text. -/
def readFileNoSymlink {α : Type} (maximum : Option Nat) (opened : Except String (OpenedFile α)) :
    Except String α := do
  let file ← opened
  raiseIf (file.regular = false) "expected a regular file"
  raiseIf (∃ bound ∈ maximum, bound < file.size) "file is too large"
  pure file.content

/-- `_require_regular_nonsymlink`. -/
def requireRegularNonsymlink (description : String) : FileStatus → Except String FileMeta
  | .missing => .error (description ++ " is missing; rerun the normal install stage.")
  | .unreadable reason => .error (description ++ " could not be inspected: " ++ reason)
  | .found file => do
      raiseIf (file.kind = .symlink) (description ++ " is a symlink and was rejected.")
      raiseIf (file.kind ≠ .regular) (description ++ " is not a regular file and was rejected.")
      raiseIf (1 < file.links) (description ++ " has unexpected hardlinks and was rejected.")
      pure file

theorem requireRegularNonsymlink_ok {description : String} {status : FileStatus} {file : FileMeta} :
    requireRegularNonsymlink description status = .ok file ↔
      status = .found file ∧ file.kind = .regular ∧ file.links ≤ 1 := by
  cases status with
  | missing => simp [requireRegularNonsymlink]
  | unreadable reason => simp [requireRegularNonsymlink]
  | found found =>
      simp only [requireRegularNonsymlink, bind_eq_ok, exists_unit, raiseIf_eq_ok, pure_eq_ok,
        FileStatus.found.injEq]
      constructor
      · rintro ⟨-, hkind, hlinks, rfl⟩
        exact ⟨rfl, not_not.mp hkind, by omega⟩
      · rintro ⟨rfl, hkind, hlinks⟩
        exact ⟨by simp [hkind], by simp [hkind], by omega, rfl⟩

structure ProcessIdentity where
  pid : Nat
  startTime : List Char
  executableDevice : Nat
  executableInode : Nat
  cmdline : List String
  deriving DecidableEq

/-- `ProcessIdentity.same_epoch`. -/
def ProcessIdentity.sameEpoch (identity other : ProcessIdentity) : Bool :=
  identity.pid = other.pid && identity.startTime = other.startTime &&
    identity.executableDevice = other.executableDevice &&
    identity.executableInode = other.executableInode && identity.cmdline = other.cmdline

/-- The PID file: its `lstat`, and its text or the error of its decoding. -/
structure PidFile where
  status : FileStatus
  opened : Except String (OpenedFile (Except String String))

/-- What one verification reads under `/proc/<pid>`. The start time is read three
times; a device and an inode are those of an executable. Items of the command
line are those between its NULs that are not empty. -/
structure ProcessReads where
  statBefore : Option String
  expectedExe : Option (Nat × Nat)
  actualExe : Option (Nat × Nat)
  cmdline : Option (List (Option String))
  statAfter : Option String
  descriptors : Option (List (Option String))
  statLater : Option String

/-- What one verification can read. -/
structure RuntimeReads where
  pidFile : PidFile
  process : Nat → ProcessReads
  tcp : Option String
  tcp6 : Option String

/-- Where Xray and its configuration are installed. -/
structure XrayPaths where
  xray : String
  confDir : String

def isDecimal (text : List Char) : Bool := text ≠ [] && text.all isAsciiDigit

def decimalValue (digits : List Char) : Nat := digits.foldl (fun n c => 10 * n + hexValue c) 0

/-- `_read_pid`, with the text of the error it raises. -/
def readPid (file : PidFile) : Except String Nat := do
  let _ ← requireRegularNonsymlink "PID file" file.status
  let decoded ← readFileNoSymlink (some maxPidFileBytes) file.opened
  let text ← decoded
  let digits := strip text.toList
  raiseIf (isDecimal digits = false) "PID file does not contain an ASCII decimal PID."
  let pid := decimalValue digits
  raiseIf (pid ≤ 1 ∨ 4194304 < pid) "PID file contains an out-of-range PID."
  pure pid

/-- The text behind the last `") "`. -/
def afterLastMarker : List Char → Option (List Char)
  | ')' :: ' ' :: rest =>
      match afterLastMarker (' ' :: rest) with
      | some later => some later
      | none => some rest
  | _ :: rest => afterLastMarker rest
  | [] => none

/-- `_read_start_time`. -/
def readStartTime (stat : Option String) : Except String (List Char) :=
  match stat with
  | none => .error "PID start time could not be read from /proc."
  | some text =>
      match afterLastMarker text.toList with
      | none => .error "PID stat record is malformed."
      | some record =>
          match (words record)[19]? with
          | none => .error "PID stat record is incomplete."
          | some startTime => do
              raiseIf (isDecimal startTime = false) "PID start time is not decimal."
              pure startTime

/-- `_read_cmdline`. -/
def readCmdline (items : Option (List (Option String))) : Except String (List String) :=
  match items with
  | none => .error "PID command line could not be read from /proc."
  | some items =>
      mapEach (fun item => match item with
        | some text => .ok text
        | none => .error "PID command line is not valid UTF-8.") items

/-- `_read_process_identity`. -/
def readProcessIdentity (paths : XrayPaths) (reads : ProcessReads) (pid : Nat) :
    Except String ProcessIdentity := do
  let startBefore ← readStartTime reads.statBefore
  match reads.expectedExe, reads.actualExe with
  | some expected, some actual =>
      raiseIf (actual ≠ expected) "PID does not belong to the expected /opt/sbin/xray executable."
      let cmdline ← readCmdline reads.cmdline
      raiseIf (cmdline ≠ [paths.xray, "run", "-confdir", paths.confDir])
        "PID command line does not match run -confdir /opt/etc/xray/configs."
      let startAfter ← readStartTime reads.statAfter
      raiseIf (startBefore ≠ startAfter) "PID identity changed during verification."
      pure {
        pid
        startTime := startAfter
        executableDevice := actual.1
        executableInode := actual.2
        cmdline }
  | _, _ => .error "PID executable identity could not be read from /proc."

structure SocketRow where
  address : String
  port : Int
  inode : List Char
  family : String
  deriving DecidableEq

/-- `bytes.fromhex`, on a word. -/
def fromHex : List Char → Option (List Nat)
  | [] => some []
  | high :: low :: rest =>
      if isHexDigit high && isHexDigit low then
        (fromHex rest).map fun bytes => (16 * hexValue high + hexValue low) :: bytes
      else none
  | [_] => none

/-- `_decode_tcp4`. -/
def decodeTcp4 (hexAddr : List Char) : Option String :=
  (fromHex hexAddr).map fun raw => ".".intercalate (raw.reverse.map toString)

/-- `_decode_tcp6`; what is no loopback and no wildcard has one text. -/
def decodeTcp6 (hexAddr : List Char) : String :=
  if hexAddr = "00000000000000000000000001000000".toList then "::1"
  else if hexAddr = "00000000000000000000000000000000".toList then "::"
  else "non-loopback"

/-- Hexadecimal digits with single underscores between them, behind the value read
so far. -/
def hexDigitsFrom (value : Nat) : List Char → Option Nat
  | [] => some value
  | '_' :: c :: rest =>
      if isHexDigit c then hexDigitsFrom (16 * value + hexValue c) rest else none
  | c :: rest => if isHexDigit c then hexDigitsFrom (16 * value + hexValue c) rest else none

def unsignedHex : List Char → Option Nat
  | [] => none
  | '_' :: _ => none
  | digits => hexDigitsFrom 0 digits

/-- Digits behind an optional `0x`, which an underscore may follow. -/
def prefixedHex : List Char → Option Nat
  | '0' :: 'x' :: '_' :: rest | '0' :: 'X' :: '_' :: rest => unsignedHex rest
  | '0' :: 'x' :: rest | '0' :: 'X' :: rest => unsignedHex rest
  | digits => unsignedHex digits

/-- `int(text, 16)`, on an ASCII word. -/
def hexInt : List Char → Option Int
  | '-' :: rest => (prefixedHex rest).map fun n => -(n : Int)
  | '+' :: rest => (prefixedHex rest).map Int.ofNat
  | digits => (prefixedHex digits).map Int.ofNat

/-- `text.split(":", 1)`, in two parts. -/
def splitColon : List Char → Option (List Char × List Char)
  | [] => none
  | ':' :: rest => some ([], rest)
  | c :: rest => (splitColon rest).map fun parts => (c :: parts.1, parts.2)

/-- One line of a listener table; a line that is no listener or does not read as one
is passed over. -/
def parseNetLine (ipv6 : Bool) (line : List Char) : Option SocketRow := do
  let parts := words line
  let localAddr ← parts[1]?
  let state ← parts[3]?
  let inode ← parts[9]?
  if state ≠ "0A".toList then none
  else
    let (addrHex, portHex) ← splitColon localAddr
    let address ← if ipv6 then some (decodeTcp6 addrHex) else decodeTcp4 addrHex
    let port ← hexInt portHex
    some { address, port, inode, family := if ipv6 then "tcp6" else "tcp" }

/-- `_parse_proc_net`. -/
def parseProcNet (ipv6 : Bool) (table : Option String) : Option (List SocketRow) :=
  table.map fun text => ((splitLines text.toList).drop 1).filterMap (parseNetLine ipv6)

def socketInode (target : List Char) : Option (List Char) :=
  if "socket:[".toList.isPrefixOf target && target.getLast? = some ']' then
    some (target.drop "socket:[".toList.length).dropLast
  else none

/-- `_socket_inodes_for_pid`, with its bound on the entries it scans. -/
def socketInodesForPid (maxEntries : Nat) (descriptors : Option (List (Option String))) :
    Option (List (List Char)) := do
  let entries ← descriptors
  if maxEntries < entries.length then none
  else
    let targets ← entries.mapM id
    some (targets.filterMap fun target => socketInode target.toList)

structure RuntimeVerification where
  ok : Bool
  pid : Option Nat
  identity : Option ProcessIdentity
  messages : List String
  listeners : List (Int × String)
  deriving DecidableEq

/-- `inode in owned_inodes`. -/
def ownsInode (owned : List (List Char)) (inode : List Char) : Bool :=
  owned.any (· = inode)

@[simp] theorem ownsInode_eq_true {owned : List (List Char)} {inode : List Char} :
    ownsInode owned inode = true ↔ inode ∈ owned := by
  simp [ownsInode]

@[simp] theorem ownsInode_eq_false {owned : List (List Char)} {inode : List Char} :
    ownsInode owned inode = false ↔ inode ∉ owned := by
  rw [← ownsInode_eq_true, Bool.not_eq_true]

/-- One round over the expected ports: what is wrong with the port, or its listener. -/
def checkPort (rows : List SocketRow) (owned : List (List Char)) (port : Int) :
    List String × List (Int × String) :=
  let portRows := rows.filter (·.port = port)
  if portRows = [] then
    (["Missing listener on " ++ expectedHost ++ ":" ++ toString port ++ "."], [])
  else
    let matching := portRows.filter fun row =>
        row.address = expectedHost && ownsInode owned row.inode
    let exposed := portRows.filter (·.address ≠ expectedHost)
    let wrongOwner := portRows.filter fun row =>
        row.address = expectedHost && !ownsInode owned row.inode
    let found := (if exposed = [] then []
        else ["Port " ++ toString port ++ " is exposed outside 127.0.0.1."]) ++
      if wrongOwner = [] then []
        else ["Port " ++ toString port ++ " is owned by another process."]
    if matching.length ≠ 1 then
      (found ++ ["Port " ++ toString port ++ " does not have exactly one expected listener."], [])
    else (found, [(port, expectedHost ++ ":" ++ toString port)])

/-- The error of a reading, as a message. -/
def messageOf {α : Type} : Except String α → List String
  | .ok _ => []
  | .error message => [message]

/-- `verify_runtime`. -/
def verifyRuntime (paths : XrayPaths) (maxEntries : Nat) (reads : RuntimeReads) :
    RuntimeVerification :=
  match readPid reads.pidFile with
  | .error message =>
      { ok := false, pid := none, identity := none, messages := [message], listeners := [] }
  | .ok pid =>
      let process := reads.process pid
      let identity := readProcessIdentity paths process pid
      let owned := socketInodesForPid maxEntries process.descriptors
      let rows := match parseProcNet false reads.tcp, parseProcNet true reads.tcp6 with
        | some rows4, some rows6 => some (rows4 ++ rows6)
        | _, _ => none
      let ports := expectedPorts.map (checkPort (rows.getD []) (owned.getD []))
      let later := match identity with
        | .error _ => []
        | .ok identity =>
            match readStartTime process.statLater with
            | .error message => [message]
            | .ok startTime =>
                if startTime ≠ identity.startTime then
                  ["PID identity changed during listener verification."]
                else []
      let messages := messageOf identity ++
        (if owned.isNone then ["PID socket ownership could not be established from /proc."]
          else []) ++
        (if rows.isNone then ["Kernel listener table could not be read from /proc."] else []) ++
        ports.flatMap Prod.fst ++ later
      { ok := messages.isEmpty
        pid := some pid
        identity := identity.toOption
        messages
        listeners := ports.flatMap Prod.snd }

end RouterKit.Autostart
